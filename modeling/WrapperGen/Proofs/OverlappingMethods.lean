import WrapperGen.Proofs.References
import WrapperGen.Proofs.RunLogic

/-!
# Methods that come in more than once

An interface may embed others that share methods.  That is accepted as long as each of these has
the same signature wherever it comes from.  Signatures are compared as they are spelled, though,
and some predeclared types have two spellings; so identical signatures count as different where one
of them has the one spelling and the other one the other.  Nothing else goes wrong: the methods of
all elements are put together, and a method is reported only if its signatures are not the same.

## Main definitions

* `DeclaredType.canonical`, `Signature.Identical`: types up to their spelling.
* `DeclaredType.respells`, `Signature.Respelled`: one type is spelled in two ways at one place.
* `Comes`, `FailsAlone`, `Contributes`: what the elements of an interface come to, each for itself.

## Main results

* `DeclaredType.eq_of_canonical`: identical types differ in their spelling only.
* `Comes.run_interfaceKind`: one element.
* `Contributes.run_interfaceKind`, `contributes_of_failure`: all elements, one after the other.
* `overlapping_accepted`: what an interface is accepted with, and what it is rejected for.
* `respelled_rejected`: an interface that is rejected wrongly.
-/

namespace WrapperGen

open Source

/-! ### Identical types -/

/-- The predeclared names that are other spellings, and of what. -/
def spellings : List (DeclaredName × DeclaredType) :=
  [(.declared "any" none, .emptyInterface),
    (.declared "byte" none, .named (.declared "uint8" none)),
    (.declared "rune" none, .named (.declared "int32" none))]

/-- The type that a name is another spelling of. -/
def DeclaredName.aliasOf? (name : DeclaredName) : Option DeclaredType := spellings.lookup name

namespace DeclaredType

mutual

/-- The type in a single spelling: two types are identical if they agree in that. -/
def canonical : DeclaredType → DeclaredType
  | .named name => name.aliasOf?.getD (.named name)
  | .pointer element => .pointer (canonical element)
  | .slice element => .slice (canonical element)
  | .array length element => .array length (canonical element)
  | .map key value => .map (canonical key) (canonical value)
  | .channel direction element => .channel direction (canonical element)
  | .function params results variadic =>
      .function (canonicalAll params) (canonicalAll results) variadic
  | .applied base arguments => .applied (canonical base) (canonicalAll arguments)
  | .emptyInterface => .emptyInterface
  | .emptyStruct => .emptyStruct

/-- The types, each in a single spelling. -/
def canonicalAll : List DeclaredType → List DeclaredType
  | [] => []
  | type :: rest => canonical type :: canonicalAll rest

end

mutual

/-- Whether there is a place at which one of two types has a predeclared name, and the other one has
what that is another spelling of.  The places of two types are compared only as long as both have
one shape, since below different shapes there is nothing to compare. -/
def respells : DeclaredType → DeclaredType → Bool
  | .named a, .named b => a.aliasOf? == some (.named b) || b.aliasOf? == some (.named a)
  | .named a, type => a.aliasOf? == some type
  | type, .named b => b.aliasOf? == some type
  | .pointer a, .pointer b => respells a b
  | .slice a, .slice b => respells a b
  | .array _ a, .array _ b => respells a b
  | .map k v, .map k' v' => respells k k' || respells v v'
  | .channel _ a, .channel _ b => respells a b
  | .function p r _, .function p' r' _ => respellsAny p p' || respellsAny r r'
  | .applied b as, .applied b' as' => respells b b' || respellsAny as as'
  | _, _ => false

/-- Whether there is such a place in types at the same position. -/
def respellsAny : List DeclaredType → List DeclaredType → Bool
  | a :: as, b :: bs => respells a b || respellsAny as bs
  | _, _ => false

end

/-- Whether nothing is inside of a type that has another spelling. -/
def isLeaf : DeclaredType → Bool
  | .named _ | .emptyInterface => true
  | _ => false

/-- What a name is a spelling of stands in the table. -/
theorem mem_of_aliasOf? {name : DeclaredName} {type : DeclaredType}
    (h : name.aliasOf? = some type) : (name, type) ∈ spellings := by
  obtain ⟨front, behind, e, -⟩ := List.lookup_eq_some_iff.1 h
  rw [e]
  exact List.mem_append_right _ List.mem_cons_self

/-- Names are spellings only of types that have no others inside. -/
theorem isLeaf_of_mem : ∀ entry ∈ spellings, isLeaf entry.2 = true := by decide

/-- No two names are spellings of one type. -/
theorem eq_of_mem : ∀ entry ∈ spellings, ∀ other ∈ spellings, entry.2 = other.2 →
    entry.1 = other.1 := by
  decide

/-- And so a name in its single spelling has none inside. -/
theorem isLeaf_canonical_named (name : DeclaredName) : isLeaf (canonical (.named name)) = true := by
  rw [canonical]
  cases spelling : name.aliasOf? with
  | none => rfl
  | some type => exact isLeaf_of_mem _ (mem_of_aliasOf? spelling)

/-- Names of one type are the same, unless one of them is a spelling of the other one.  No type has
more than two spellings, so two names are never both spellings of a third one. -/
theorem eq_of_canonical_named {a b : DeclaredName}
    (h : canonical (.named a) = canonical (.named b))
    (alike : respells (.named a) (.named b) = false) : a = b := by
  simp only [respells, Bool.or_eq_false_iff, beq_eq_false_iff_ne] at alike
  rw [canonical, canonical] at h
  -- each name is its own single spelling or has one in the table, where no two names have the same
  cases ha : a.aliasOf? with
  | none =>
    cases hb : b.aliasOf? with
    | none =>
      rw [ha, hb] at h
      exact TypeForm.named.inj h
    | some type =>
      rw [ha, hb] at h
      exact absurd (hb.trans (congrArg some h.symm)) alike.2
  | some type =>
    cases hb : b.aliasOf? with
    | none =>
      rw [ha, hb] at h
      exact absurd (ha.trans (congrArg some h)) alike.1
    | some other =>
      rw [ha, hb] at h
      obtain rfl : type = other := h
      exact eq_of_mem _ (mem_of_aliasOf? ha) _ (mem_of_aliasOf? hb) rfl

/-- A name whose single spelling is no name is a spelling. -/
theorem aliasOf?_of_canonical {name : DeclaredName} {type : DeclaredType}
    (h : canonical (.named name) = type) (other : ∀ n, type ≠ .named n) :
    name.aliasOf? = some type := by
  rw [canonical] at h
  cases spelling : name.aliasOf? with
  | none =>
    rw [spelling] at h
    exact absurd h.symm (other name)
  | some found =>
    rw [spelling] at h
    exact congrArg some h

/-- A type inside of which there are others is no other spelling of a name. -/
theorem canonical_named_ne {name : DeclaredName} {type : DeclaredType}
    (deep : isLeaf type = false) : canonical (.named name) ≠ type := by
  rintro rfl
  rw [isLeaf_canonical_named] at deep
  cases deep

mutual

/-- Identical types differ in their spelling only.  The induction is on the first type; the second
one has the same shape, or else one of the two is a name that is a spelling of the other. -/
theorem eq_of_canonical : (a b : DeclaredType) → canonical a = canonical b →
    respells a b = false → a = b
  -- a name meets a name, or the one type without an inside that names are spellings of
  | .named a, b => fun h alike => by
    cases b with
    | named b => exact congrArg _ (eq_of_canonical_named h alike)
    | emptyInterface =>
      have spelling : a.aliasOf? = some .emptyInterface := aliasOf?_of_canonical h nofun
      simp [respells, spelling] at alike
    | _ => exact absurd h (canonical_named_ne rfl)
  | .emptyInterface, b => fun h alike => by
    cases b with
    | named b =>
      have spelling : b.aliasOf? = some .emptyInterface := aliasOf?_of_canonical h.symm nofun
      simp [respells, spelling] at alike
    | emptyInterface => rfl
    | _ => simp [canonical] at h
  | .emptyStruct, b => fun h _ => by
    cases b with
    | named b => exact absurd h.symm (canonical_named_ne rfl)
    | emptyStruct => rfl
    | _ => simp [canonical] at h
  -- from here on the type has others inside of it: the other one has the same shape, since no name
  -- stands for such a type, and the parts agree by recursion
  | .pointer a, b => fun h alike => by
    cases b with
    | named b => exact absurd h.symm (canonical_named_ne rfl)
    | pointer b =>
      rw [canonical, canonical, TypeForm.pointer.injEq] at h
      rw [eq_of_canonical a b h alike]
    | _ => simp [canonical] at h
  | .slice a, b => fun h alike => by
    cases b with
    | named b => exact absurd h.symm (canonical_named_ne rfl)
    | slice b =>
      rw [canonical, canonical, TypeForm.slice.injEq] at h
      rw [eq_of_canonical a b h alike]
    | _ => simp [canonical] at h
  | .array m a, b => fun h alike => by
    cases b with
    | named b => exact absurd h.symm (canonical_named_ne rfl)
    | array n b =>
      rw [canonical, canonical, TypeForm.array.injEq] at h
      rw [h.1, eq_of_canonical a b h.2 alike]
    | _ => simp [canonical] at h
  | .map k v, b => fun h alike => by
    cases b with
    | named b => exact absurd h.symm (canonical_named_ne rfl)
    | map k' v' =>
      rw [canonical, canonical, TypeForm.map.injEq] at h
      rw [respells, Bool.or_eq_false_iff] at alike
      rw [eq_of_canonical k k' h.1 alike.1, eq_of_canonical v v' h.2 alike.2]
    | _ => simp [canonical] at h
  | .channel d a, b => fun h alike => by
    cases b with
    | named b => exact absurd h.symm (canonical_named_ne rfl)
    | channel e b =>
      rw [canonical, canonical, TypeForm.channel.injEq] at h
      rw [h.1, eq_of_canonical a b h.2 alike]
    | _ => simp [canonical] at h
  | .function p r v, b => fun h alike => by
    cases b with
    | named b => exact absurd h.symm (canonical_named_ne rfl)
    | function p' r' v' =>
      rw [canonical, canonical, TypeForm.function.injEq] at h
      rw [respells, Bool.or_eq_false_iff] at alike
      rw [eq_of_canonicalAll p p' h.1 alike.1, eq_of_canonicalAll r r' h.2.1 alike.2, h.2.2]
    | _ => simp [canonical] at h
  | .applied c as, b => fun h alike => by
    cases b with
    | named b => exact absurd h.symm (canonical_named_ne rfl)
    | applied c' as' =>
      rw [canonical, canonical, TypeForm.applied.injEq] at h
      rw [respells, Bool.or_eq_false_iff] at alike
      rw [eq_of_canonical c c' h.1 alike.1, eq_of_canonicalAll as as' h.2 alike.2]
    | _ => simp [canonical] at h

/-- The same for types at the same positions. -/
theorem eq_of_canonicalAll : (as bs : List DeclaredType) → canonicalAll as = canonicalAll bs →
    respellsAny as bs = false → as = bs
  | [], bs => fun h _ => by
    cases bs with
    | nil => rfl
    | cons b bs => simp [canonicalAll] at h
  | a :: as, bs => fun h alike => by
    cases bs with
    | nil => simp [canonicalAll] at h
    | cons b bs =>
      rw [canonicalAll, canonicalAll, List.cons.injEq] at h
      rw [respellsAny, Bool.or_eq_false_iff] at alike
      rw [eq_of_canonical a b h.1 alike.1, eq_of_canonicalAll as bs h.2 alike.2]

end

end DeclaredType

/-- Two signatures are identical. -/
def Signature.Identical (s s' : Signature DeclaredName) : Prop :=
  DeclaredType.canonicalAll s.params = DeclaredType.canonicalAll s'.params
    ∧ DeclaredType.canonicalAll s.results = DeclaredType.canonicalAll s'.results
    ∧ s.variadic = s'.variadic

/-- At one place, one of two signatures has a predeclared name and the other one what that is
another spelling of. -/
def Signature.Respelled (s s' : Signature DeclaredName) : Prop :=
  DeclaredType.respellsAny s.params s'.params = true
    ∨ DeclaredType.respellsAny s.results s'.results = true

instance (s s' : Signature DeclaredName) : Decidable (s.Identical s') :=
  inferInstanceAs (Decidable (_ ∧ _ ∧ _))

instance (s s' : Signature DeclaredName) : Decidable (s.Respelled s') :=
  inferInstanceAs (Decidable (_ ∨ _))

/-- Identical signatures differ in their spelling only. -/
theorem Signature.Identical.eq {s s' : Signature DeclaredName} (h : s.Identical s')
    (alike : ¬ s.Respelled s') : s = s' := by
  obtain ⟨params, results, variadic⟩ := h
  rw [Respelled, not_or, Bool.not_eq_true, Bool.not_eq_true] at alike
  cases s
  cases s'
  rw [Signature.mk.injEq]
  exact ⟨DeclaredType.eq_of_canonicalAll _ _ params alike.1,
    DeclaredType.eq_of_canonicalAll _ _ results alike.2, variadic⟩

/-! ### Method sets -/

/-- Some methods have one name, and two signatures.  Signatures are compared as a check compares
them, which is by their spelling. -/
def Differ (methods : List (Method DeclaredName)) (name : String) : Prop :=
  ∃ m ∈ methods, ∃ m' ∈ methods, m.name = name ∧ m'.name = name ∧ m.signature ≠ m'.signature

theorem Differ.mono {methods more : List (Method DeclaredName)} {name : String}
    (h : Differ methods name) (sub : methods ⊆ more) : Differ more name := by
  obtain ⟨m, hm, m', hm', rest⟩ := h
  exact ⟨m, sub hm, m', sub hm', rest⟩

/-- Methods are added to those of before, unless two of them differ.  All methods that have come so
far are counted, also those that were there already: of each name the first one is kept. -/
theorem run_addMethods (file : SourceFile) (span : Span) (s : Session)
    (methods more : List (Method DeclaredName)) :
    (addMethods file span (keepFirst (·.name) methods) more).run.run s
        = (.ok (keepFirst (·.name) (methods ++ more)), s)
      ∨ ∃ name, Differ (methods ++ more) name
        ∧ (addMethods file span (keepFirst (·.name) methods) more).run.run s
          = (.error (.fault file.shortName span.place (.duplicateMethod name)), s) := by
  -- the methods of before grow by each step, and `keepFirst` says what is kept of them
  induction more generalizing methods with
  | nil =>
    rw [List.append_nil]
    exact .inl rfl
  | cons m rest ih =>
    have all : methods ++ m :: rest = (methods ++ [m]) ++ rest := by simp
    unfold addMethods addMethod?
    -- the name is a new one and is put last, or it is known, where only the signatures count
    cases found : (keepFirst (·.name) methods).find? (·.name == m.name) with
    | none =>
      have grown : keepFirst (·.name) (methods ++ [m]) = keepFirst (·.name) methods ++ [m] := by
        rw [keepFirst_concat, if_neg]
        rw [List.find?_eq_none] at found
        simpa using found
      dsimp only
      rw [← grown, all]
      exact ih _
    | some known =>
      have same : known.name = m.name := by simpa using List.find?_some found
      have mem := List.mem_of_find?_eq_some found
      have kept : keepFirst (·.name) (methods ++ [m]) = keepFirst (·.name) methods := by
        rw [keepFirst_concat, if_pos]
        exact List.any_eq_true.2 ⟨known, mem, beq_iff_eq.2 same⟩
      dsimp only
      by_cases agree : known.signature = m.signature
      · rw [if_pos agree, ← kept, all]
        exact ih _
      · rw [if_neg agree]
        refine .inr ⟨m.name, ⟨known, ?_, m, ?_, same, rfl, agree⟩, rfl⟩
        · exact List.mem_append_left _ (mem_of_mem_keepFirst mem)
        · exact List.mem_append_right _ List.mem_cons_self

/-! ### The elements of an interface -/

/-- An element comes to methods, with the sessions before and after: a method to itself, and what is
embedded to the methods that it has. -/
inductive Comes (source : KindSource) (file : SourceFile) :
    Session → Element → List (Method DeclaredName) → Session → Prop
  /-- A method. -/
  | method {s after : Session} {span : Span} {name : String} {params results : List Param}
      {signature : Signature DeclaredName} :
      (declaredSignature source.scope source.importer file params results).run.run s
        = (.ok signature, after) →
      Comes source file s (.method span name params results) [⟨name, signature⟩] after
  /-- An interface that is embedded. -/
  | embedded {s after : Session} {span : Span} {term : TypeExpr}
      {methods : List (Method DeclaredName)} :
      isEmbeddable term = true →
      (kindOf source file true term).run.run s = (.ok (.interface methods), after) →
      Comes source file s (.types (.mk span [term])) methods after

/-- An element fails by itself: its signature does, or what it embeds. -/
inductive FailsAlone (source : KindSource) (file : SourceFile) :
    Session → Element → CheckError → Session → Prop
  /-- A method. -/
  | method {s after : Session} {span : Span} {name : String} {params results : List Param}
      {cause : CheckError} :
      (declaredSignature source.scope source.importer file params results).run.run s
        = (.error cause, after) →
      FailsAlone source file s (.method span name params results) cause after
  /-- An interface that is embedded. -/
  | embedded {s after : Session} {span : Span} {term : TypeExpr} {cause : CheckError} :
      isEmbeddable term = true →
      (kindOf source file true term).run.run s = (.error cause, after) →
      FailsAlone source file s (.types (.mk span [term])) cause after

/-- Each of some elements comes to methods, one after the other.  Whether these go together is not
asked. -/
inductive Contributes (source : KindSource) (file : SourceFile) :
    Session → List Element → List (Method DeclaredName) → Session → Prop
  /-- There are no more. -/
  | nil {s : Session} : Contributes source file s [] [] s
  /-- The first one, and then the others. -/
  | cons {s after last : Session} {e : Element} {rest : List Element}
      {methods more : List (Method DeclaredName)} :
      Comes source file s e methods after → Contributes source file after rest more last →
      Contributes source file s (e :: rest) (methods ++ more) last

section

variable {source : KindSource} {file : SourceFile} {s after last : Session} {e : Element}
  {rest : List Element} {methods more : List (Method DeclaredName)}

/-- An element that comes to methods is passed, unless these make two methods differ. -/
theorem Comes.run_interfaceKind (h : Comes source file s e more after)
    (methods : List (Method DeclaredName)) (rest : List Element) :
    (interfaceKind source file (keepFirst (·.name) methods) (e :: rest)).run.run s
        = (interfaceKind source file (keepFirst (·.name) (methods ++ more)) rest).run.run after
      ∨ ∃ span name, Differ (methods ++ more) name
        ∧ (interfaceKind source file (keepFirst (·.name) methods) (e :: rest)).run.run s
          = (.error (.fault file.shortName span (.duplicateMethod name)), after) := by
  -- a method adds itself, and an embedded interface what it has; both end in `addMethods`
  cases h with
  | @method _ span name params results signature came =>
    rw [interfaceKind, run_bind_of_ok came, run_bind]
    rcases run_addMethods file span after methods [⟨name, signature⟩] with grown | ⟨n, differ, ran⟩
    · rw [grown]
      exact .inl rfl
    · rw [ran]
      exact .inr ⟨span.place, n, differ, rfl⟩
  | @embedded _ span term _ embeddable came =>
    rw [interfaceKind, if_pos embeddable, run_bind_of_ok came]
    dsimp only
    rw [run_bind]
    rcases run_addMethods file span after methods more with grown | ⟨n, differ, ran⟩
    · rw [grown]
      exact .inl rfl
    · rw [ran]
      exact .inr ⟨span.place, n, differ, rfl⟩

/-- Elements that come to methods are passed, unless two of these differ.  Of those with one name
it is enough to keep the first one, as they are all the same then. -/
theorem Contributes.run_interfaceKind {elements : List Element}
    (h : Contributes source file s elements more last) (methods : List (Method DeclaredName)) :
    (interfaceKind source file (keepFirst (·.name) methods) elements).run.run s
        = (.ok (.interface (keepFirst (·.name) (methods ++ more))), last)
      ∨ ∃ name, Differ (methods ++ more) name := by
  induction h generalizing methods with
  | nil =>
    rw [List.append_nil, interfaceKind]
    exact .inl rfl
  | @cons s after last e rest first behind comes _ ih =>
    rw [← List.append_assoc]
    -- an error at a first element ends the whole, and the methods that differ are among all of them
    rcases comes.run_interfaceKind methods rest with passed | ⟨span, name, differ, -⟩
    · rw [passed]
      exact ih _
    · exact .inr ⟨name, differ.mono (List.subset_append_left _ _)⟩

/-- An element comes to methods, or it fails by itself, or it ends the interface: it limits it to
some types. -/
theorem comes_or_fails (source : KindSource) (file : SourceFile) (s : Session) (e : Element) :
    (∃ more after, Comes source file s e more after)
      ∨ (∃ cause after, FailsAlone source file s e cause after
        ∧ ∀ methods rest, (interfaceKind source file methods (e :: rest)).run.run s
          = (.error cause, after))
      ∨ ∃ after, ∀ methods rest, (interfaceKind source file methods (e :: rest)).run.run s
          = (.ok .constraint, after) := by
  match e with
  | .method span name params results =>
    rcases ran : (declaredSignature source.scope source.importer file params results).run.run s
      with ⟨cause | signature, after⟩
    · refine .inr (.inl ⟨cause, after, .method ran, fun methods rest => ?_⟩)
      rw [interfaceKind, run_bind, ran]
    · exact .inl ⟨_, after, .method ran⟩
  | .types (.mk span [term]) =>
    by_cases embeddable : isEmbeddable term = true
    · rcases ran : (kindOf source file true term).run.run s with ⟨cause | kind, after⟩
      · refine .inr (.inl ⟨cause, after, .embedded embeddable ran, fun methods rest => ?_⟩)
        rw [interfaceKind, if_pos embeddable, run_bind, ran]
      -- what is embedded and is no interface makes the whole a constraint, whatever comes behind
      · cases kind with
        | interface embedded => exact .inl ⟨_, after, .embedded embeddable ran⟩
        | _ =>
          refine .inr (.inr ⟨after, fun methods rest => ?_⟩)
          rw [interfaceKind, if_pos embeddable, run_bind_of_ok ran]
          rfl
    · refine .inr (.inr ⟨s, fun methods rest => ?_⟩)
      rw [interfaceKind, if_neg embeddable]
      rfl
  | .types (.mk span []) =>
    refine .inr (.inr ⟨s, fun methods rest => ?_⟩)
    rw [interfaceKind]
    · rfl
    · simp
  | .types (.mk span (_ :: _ :: _)) =>
    refine .inr (.inr ⟨s, fun methods rest => ?_⟩)
    rw [interfaceKind]
    · rfl
    · simp

/-- If an interface fails, then one of its elements fails by itself, or two methods differ of those
that the elements up to there come to.  Nothing else can go wrong: an element that limits the
interface to some types ends it without a failure. -/
theorem contributes_of_failure {elements : List Element} {cause : CheckError}
    (methods : List (Method DeclaredName))
    (h : (interfaceKind source file (keepFirst (·.name) methods) elements).run.run s
      = (.error cause, last)) :
    (∃ front e rest more middle, elements = front ++ e :: rest
        ∧ Contributes source file s front more middle ∧ FailsAlone source file middle e cause last)
      ∨ ∃ front rest more span name, elements = front ++ rest
        ∧ Contributes source file s front more last
        ∧ cause = .fault file.shortName span (.duplicateMethod name)
        ∧ Differ (methods ++ more) name := by
  -- the methods of before are those of the elements that were passed
  induction elements generalizing s methods with
  | nil =>
    rw [interfaceKind] at h
    cases h
  | cons e rest ih =>
    rcases comes_or_fails source file s e with ⟨more, after, comes⟩ | ⟨other, after, fails, ran⟩ |
      ⟨after, ran⟩
    -- the first element was passed, so the failure is behind it, or its methods differ from others
    · rcases comes.run_interfaceKind methods rest with passed | ⟨span, name, differ, ran⟩
      · rw [passed] at h
        rcases ih _ h with ⟨front, e', behind, all, middle, rfl, contributes, fails⟩ |
          ⟨front, behind, all, span, name, rfl, contributes, rfl, differ⟩
        · exact .inl ⟨e :: front, e', behind, more ++ all, middle, rfl, .cons comes contributes,
            fails⟩
        · rw [List.append_assoc] at differ
          exact .inr ⟨e :: front, behind, more ++ all, span, name, rfl, .cons comes contributes,
            rfl, differ⟩
      · rw [ran] at h
        obtain ⟨same, rfl⟩ := Prod.mk.inj h
        obtain rfl := Except.error.inj same
        have alone := Contributes.cons comes .nil
        rw [List.append_nil] at alone
        exact .inr ⟨[e], rest, more, span, name, rfl, alone, rfl, differ⟩
    · rw [ran] at h
      obtain ⟨same, rfl⟩ := Prod.mk.inj h
      obtain rfl := Except.error.inj same
      exact .inl ⟨[], e, rest, [], s, rfl, .nil, fails⟩
    · rw [ran] at h
      cases h

/-- An interface whose elements come to methods of which those of one name are identical, and not
spelled in two ways, is accepted with all of these methods.  And if it fails, then one of its
elements fails by itself, or a method is reported that has come in with two signatures: unless these
are spelled in two ways, they are not identical. -/
theorem overlapping_accepted (source : KindSource) (file : SourceFile) (s : Session)
    (elements : List Element) :
    (∀ more last, Contributes source file s elements more last →
      (∀ m ∈ more, ∀ m' ∈ more, m.name = m'.name →
        m.signature.Identical m'.signature ∧ ¬ m.signature.Respelled m'.signature) →
      ∃ methods,
        (interfaceKind source file [] elements).run.run s = (.ok (.interface methods), last)
        ∧ (methods.map (·.name)).Nodup ∧ ∀ m, m ∈ methods ↔ m ∈ more)
    ∧ ∀ cause last, (interfaceKind source file [] elements).run.run s = (.error cause, last) →
      (∃ front e rest more middle, elements = front ++ e :: rest
        ∧ Contributes source file s front more middle ∧ FailsAlone source file middle e cause last)
      ∨ ∃ front rest more span name, elements = front ++ rest
        ∧ Contributes source file s front more last
        ∧ cause = .fault file.shortName span (.duplicateMethod name)
        ∧ ∃ m ∈ more, ∃ m' ∈ more, m.name = name ∧ m'.name = name
          ∧ (¬ m.signature.Respelled m'.signature → ¬ m.signature.Identical m'.signature) := by
  constructor
  · intro more last contributes identical
    -- what is identical and not respelled is equal, so that one name stands for one method
    have agree : ∀ m ∈ more, ∀ m' ∈ more, m.name = m'.name → m = m' := by
      intro m hm m' hm' same
      obtain ⟨alike, spelled⟩ := identical m hm m' hm' same
      cases m
      cases m'
      rw [Method.mk.injEq]
      exact ⟨same, alike.eq spelled⟩
    -- two methods that differ would be equal by `agree`
    rcases contributes.run_interfaceKind [] with ran | ⟨name, m, hm, m', hm', here, there, differ⟩
    · refine ⟨keepFirst (·.name) more, ran, nodup_keepFirst, fun m => ⟨mem_of_mem_keepFirst, ?_⟩⟩
      intro hm
      obtain ⟨kept, hk, same⟩ : ∃ kept ∈ keepFirst (·.name) more, kept.name = m.name :=
        exists_mem_keepFirst hm
      rwa [agree m hm kept (mem_of_mem_keepFirst hk) same.symm]
    · exact absurd (congrArg Method.signature (agree m hm m' hm' (here.trans there.symm))) differ
  · intro cause last failed
    -- a reported method has two signatures, and these cannot both be identical and spelled alike
    rcases contributes_of_failure [] failed with inside |
      ⟨front, rest, more, span, name, split, contributes, reported, m, hm, m', hm', here, there,
        differ⟩
    · exact .inl inside
    · refine .inr ⟨front, rest, more, span, name, split, contributes, reported, m, hm, m', hm',
        here, there, fun spelled identical => differ (identical.eq spelled)⟩

end

/-! ### Two interfaces in a third one -/

/-- An importer for a package that imports nothing. -/
def noImports : Importer := ⟨fun path => throw (.importCycle path), fun _ => pure none⟩

/-- An interface with a method that takes a slice. -/
def writer (element : String) : TypeExpr :=
  .interface default
    [.method default "Write" [.mk 1 (.slice default (.name default element)) false] []]

/-- A package with two such interfaces. -/
def writers (first second : String) : PackageScope :=
  ⟨"p", [⟨default, ⟨"A", false, writer first⟩⟩, ⟨default, ⟨"B", false, writer second⟩⟩], []⟩

/-- What the kinds of types of that package depend on. -/
def writersSource (first second : String) : KindSource :=
  ⟨writers first second, noImports, namedKind (writers first second) noImports 2 []⟩

/-- The elements of an interface that embeds both. -/
def bothWriters : List Element :=
  [.types (.mk default [.name default "A"]), .types (.mk default [.name default "B"])]

/-- The method of such an interface. -/
def writeMethod (element : String) : Method DeclaredName :=
  ⟨"Write", ⟨[.slice (.named (.declared element none))], [], false⟩⟩

/-- Each of the two elements comes to its method, with its own spelling of the parameter. -/
theorem contributes_bothWriters (first second : String)
    (ha : (kindOf (writersSource first second) default true (.name default "A")).run.run .empty
      = (.ok (.interface [writeMethod first]), .empty))
    (hb : (kindOf (writersSource first second) default true (.name default "B")).run.run .empty
      = (.ok (.interface [writeMethod second]), .empty)) :
    Contributes (writersSource first second) default .empty bothWriters
      [writeMethod first, writeMethod second] .empty :=
  .cons (.embedded rfl ha) (.cons (.embedded rfl hb) .nil)

/-- Where both are spelled alike, the method is there once. -/
theorem overlapping_accepted_byte :
    ∃ methods, (interfaceKind (writersSource "byte" "byte") default [] bothWriters).run.run .empty
        = (.ok (.interface methods), .empty)
      ∧ (methods.map (·.name)).Nodup ∧ ∀ m, m ∈ methods ↔ m ∈ [writeMethod "byte"] := by
  have contributes := contributes_bothWriters "byte" "byte" rfl rfl
  obtain ⟨methods, ran, nodup, all⟩ :=
    (overlapping_accepted (writersSource "byte" "byte") default .empty bothWriters).1 _ _
      contributes (by decide)
  exact ⟨methods, ran, nodup, fun m => (all m).trans (by simp)⟩

/-- Where they are spelled in two ways, the method is reported although the types are identical. -/
theorem respelled_rejected :
    ¬ ∀ (source : KindSource) (file : SourceFile) (s last : Session) (elements : List Element)
      (more : List (Method DeclaredName)), Contributes source file s elements more last →
      (∀ m ∈ more, ∀ m' ∈ more, m.name = m'.name → m.signature.Identical m'.signature) →
      ∃ methods, (interfaceKind source file [] elements).run.run s
        = (.ok (.interface methods), last) := by
  intro accepted
  -- both interfaces come to their methods; only to put these together fails
  have contributes := contributes_bothWriters "byte" "uint8" rfl rfl
  obtain ⟨methods, ran⟩ := accepted _ _ _ _ _ _ contributes (by decide)
  have failed : (interfaceKind (writersSource "byte" "uint8") default [] bothWriters).run.run .empty
      = (.error (.fault (SourceFile.shortName default) (Span.place default)
        (.duplicateMethod "Write")), .empty) := rfl
  rw [failed] at ran
  cases ran

end WrapperGen
