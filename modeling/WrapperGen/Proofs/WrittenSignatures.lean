import WrapperGen.Check.Types
import WrapperGen.Output.Declaration
import WrapperGen.Proofs.SessionLogic
import WrapperGen.Proofs.TypeRendering

/-!
# Signatures as they are written

A signature is read off the parameters and results that are written, entry by entry.  Dots in front
of a type make a slice of it, wherever they stand, and dots at any parameter make the signature
variadic.  What is printed of it has dots at the last parameter only.  So what is printed is what
was written exactly if dots were written there only.

## Main definitions

* `SignatureExpr`, `TypeExpr.signatures`: signatures as they are written, also inside of types.
* `ParamForm`: a type that is declared with dots, or without.
* `FormOf`: a type has the form in which it is written.
* `SignatureExpr.ReadAs`: a signature has the form in which it is written.
* `SignatureExpr.DotsLast`: dots stand at the last parameter only.
* `KeepsDots`: the parameters that are printed are those that are written, dots included.

## Main results

* `comesTo_declaredType`, `comesTo_declaredSignature`: what types and signatures are read as.
* `readFrom_of_mem_parts`: function types inside of a type were written inside of it.
* `SignatureExpr.ReadAs.keepsDots_iff`: the signatures whose dots are kept.
-/

namespace WrapperGen

open Source

/-! ### What is written -/

/-- Parameters and results as they are written. -/
structure SignatureExpr where
  /-- The parameters. -/
  params : List Param
  /-- The results. -/
  results : List Param
  deriving Inhabited

mutual

/-- The signatures of function types that are written in a type. -/
def Source.TypeExpr.signatures : TypeExpr → List SignatureExpr
  | .generic _ base arguments => base.signatures ++ argumentSignatures arguments
  | .pointer _ element => element.signatures
  | .array _ _ element => element.signatures
  | .slice _ element => element.signatures
  | .map _ key value => key.signatures ++ value.signatures
  | .channel _ _ element => element.signatures
  | .function _ params results =>
      ⟨params, results⟩ :: (paramSignatures params ++ paramSignatures results)
  | .paren _ inner => inner.signatures
  | _ => []

/-- The signatures of function types that are written in type arguments. -/
def argumentSignatures : List TypeElem → List SignatureExpr
  | [] => []
  | .mk _ [term] :: rest => term.signatures ++ argumentSignatures rest
  | _ :: rest => argumentSignatures rest

/-- The signatures of function types that are written in parameters. -/
def paramSignatures : List Param → List SignatureExpr
  | [] => []
  | .mk _ type _ :: rest => type.signatures ++ paramSignatures rest

end

/-- Whether parameters are declared with dots. -/
def Source.Param.hasDots : Param → Bool
  | .mk _ _ repeated => repeated

namespace SignatureExpr

/-- The signatures of function types in a signature. -/
def inside (s : SignatureExpr) : List SignatureExpr :=
  paramSignatures s.params ++ paramSignatures s.results

/-- Dots stand at the last parameter, or nowhere. -/
structure DotsLast (s : SignatureExpr) : Prop where
  /-- None stand in front. -/
  params : ∀ p ∈ s.params.dropLast, p.hasDots = false
  /-- None stand among the results. -/
  results : ∀ r ∈ s.results, r.hasDots = false

end SignatureExpr

/-! ### What it is read as -/

/-- A parameter: its type, or what it repeats if it is declared with dots. -/
structure ParamForm (ν : Type) where
  /-- The type, behind the dots. -/
  type : TypeForm ν
  /-- Whether there are dots. -/
  dots : Bool

namespace ParamForm

variable {ν μ : Type}

/-- The type that a parameter has inside the function. -/
def whole (p : ParamForm ν) : TypeForm ν := if p.dots then .slice p.type else p.type

/-- The parameter with every name replaced. -/
def mapNames (f : ν → μ) (p : ParamForm ν) : ParamForm μ := ⟨p.type.mapNames f, p.dots⟩

theorem whole_mapNames (f : ν → μ) (p : ParamForm ν) :
    (p.mapNames f).whole = p.whole.mapNames f := by
  obtain ⟨type, dots⟩ := p
  cases dots with
  | false => rfl
  | true => rfl

/-- What is no slice was declared without dots. -/
theorem dots_of_whole_ne {p : ParamForm ν} (h : ∀ element, p.whole ≠ .slice element) :
    p.dots = false := by
  obtain ⟨type, dots⟩ := p
  cases dots with
  | false => rfl
  | true => exact absurd rfl (h type)

theorem mem_parts_whole {p : ParamForm ν} {part : TypeForm ν} (h : part ∈ p.whole.parts)
    (function : ∀ element, part ≠ .slice element) : part ∈ p.type.parts := by
  obtain ⟨type, dots⟩ := p
  cases dots with
  | false => exact h
  | true =>
    rcases List.mem_cons.1 h with rfl | h
    · exact absurd rfl (function type)
    · exact h

end ParamForm

mutual

/-- A type has the form in which it is written.  The lengths of arrays may be written in any way,
and in which package a name is looked up is left open. -/
inductive FormOf : TypeExpr → DeclaredType → Prop
  /-- A bare name. -/
  | name {span : Span} {text : String} (package? : Option String) :
      FormOf (.name span text) (.named (.declared text package?))
  /-- A name of another package. -/
  | qualified {span : Span} {qualifier name : String} (path : String) :
      FormOf (.qualified span qualifier name) (.named (.declared name (some path)))
  /-- A name of foreign code. -/
  | foreign {span : Span} {qualifier name : String} :
      FormOf (.qualified span qualifier name) (.named (.foreign name))
  /-- A generic type with arguments. -/
  | generic {span : Span} {base : TypeExpr} {b : DeclaredType} {arguments : List TypeElem}
      {as : List DeclaredType} : FormOf base b → ArgumentFormsOf arguments as →
      FormOf (.generic span base arguments) (.applied b as)
  /-- A pointer. -/
  | pointer {span : Span} {element : TypeExpr} {t : DeclaredType} : FormOf element t →
      FormOf (.pointer span element) (.pointer t)
  /-- An array. -/
  | array {span : Span} {length : Expr} {element : TypeExpr} {t : DeclaredType} (n : UInt64) :
      FormOf element t → FormOf (.array span length element) (.array n t)
  /-- A slice. -/
  | slice {span : Span} {element : TypeExpr} {t : DeclaredType} : FormOf element t →
      FormOf (.slice span element) (.slice t)
  /-- A map. -/
  | map {span : Span} {key value : TypeExpr} {k v : DeclaredType} : FormOf key k →
      FormOf value v → FormOf (.map span key value) (.map k v)
  /-- A channel. -/
  | channel {span : Span} {direction : Direction} {element : TypeExpr} {t : DeclaredType} :
      FormOf element t → FormOf (.channel span direction element) (.channel direction t)
  /-- A function type, which is variadic if dots stand at any parameter. -/
  | function {span : Span} {params results : List Param} {ps rs : List (ParamForm DeclaredName)} :
      ParamFormsOf params ps → ParamFormsOf results rs →
      FormOf (.function span params results)
        (.function (ps.map ParamForm.whole) (rs.map ParamForm.whole) (ps.any ParamForm.dots))
  /-- The structure without fields. -/
  | struct {span : Span} : FormOf (.struct span false) .emptyStruct
  /-- The interface without elements. -/
  | interface {span : Span} : FormOf (.interface span []) .emptyInterface
  /-- A type in parentheses. -/
  | paren {span : Span} {inner : TypeExpr} {t : DeclaredType} : FormOf inner t →
      FormOf (.paren span inner) t

/-- Type arguments have the form in which they are written. -/
inductive ArgumentFormsOf : List TypeElem → List DeclaredType → Prop
  /-- None. -/
  | nil : ArgumentFormsOf [] []
  /-- A union of one term, and then the others. -/
  | cons {span : Span} {term : TypeExpr} {t : DeclaredType} {rest : List TypeElem}
      {ts : List DeclaredType} : FormOf term t → ArgumentFormsOf rest ts →
      ArgumentFormsOf (.mk span [term] :: rest) (t :: ts)

/-- Parameters have the form in which they are written, those with dots in one entry each. -/
inductive ParamFormsOf : List Param → List (ParamForm DeclaredName) → Prop
  /-- None. -/
  | nil : ParamFormsOf [] []
  /-- One parameter with dots, and then the others. -/
  | dots {names : Nat} {type : TypeExpr} {t : DeclaredType} {rest : List Param}
      {ps : List (ParamForm DeclaredName)} : FormOf type t → ParamFormsOf rest ps →
      ParamFormsOf (.mk names type true :: rest) (⟨t, true⟩ :: ps)
  /-- Parameters without dots, and then the others. -/
  | plain {names : Nat} {type : TypeExpr} {t : DeclaredType} {rest : List Param}
      {ps : List (ParamForm DeclaredName)} : FormOf type t → ParamFormsOf rest ps →
      ParamFormsOf (.mk names type false :: rest)
        (List.replicate (max 1 names) ⟨t, false⟩ ++ ps)

end

/-- A signature has the form in which it is written. -/
def SignatureExpr.ReadAs (s : SignatureExpr) (d : Signature DeclaredName) : Prop :=
  ∃ ps rs, ParamFormsOf s.params ps ∧ ParamFormsOf s.results rs
    ∧ d = ⟨ps.map ParamForm.whole, rs.map ParamForm.whole, ps.any ParamForm.dots⟩

/-! ### Reading -/

section Reading

variable {α β : Type} {good : α → Prop} {scope : PackageScope} {importer : Importer}
  {file : SourceFile}

/-- From any session, a value that comes out is `good`. -/
abbrev ComesTo (good : α → Prop) (m : Check α) : Prop := AlikeOn Eq good (fun _ => True) m m

theorem ComesTo.bind_any {good' : β → Prop} {m : Check α} {f : α → Check β}
    (h : ∀ value, ComesTo good' (f value)) : ComesTo good' (m >>= f) :=
  Alike.bind (AlikeOn.refl m) h

theorem comesTo_fail {span : Span} {what : Fault} : ComesTo good (file.fail span what : Check α) :=
  AlikeOn.throw trivial

theorem comesTo_nothing {span : Span} {what : Fault} :
    ComesTo (fun _ => False) (file.fail span what : Check α) :=
  comesTo_fail

theorem comesTo_bareName (span : Span) (name : String) :
    ComesTo (FormOf (.name span name)) (bareName scope file span name) := by
  unfold bareName
  split
  · exact AlikeOn.pure (.name _)
  · split
    · exact AlikeOn.pure (.name none)
    · exact comesTo_fail

theorem comesTo_qualifiedTypeName (span : Span) (qualifier name : String) :
    ComesTo (FormOf (.qualified span qualifier name))
      (qualifiedTypeName importer file span qualifier name) := by
  unfold qualifiedTypeName
  split
  · exact AlikeOn.pure .foreign
  · refine ComesTo.bind_any fun path? => ?_
    cases path? with
    | none => exact comesTo_fail
    | some path => exact AlikeOn.pure (.qualified path)

mutual

/-- The type that an expression stands for has the form in which it is written. -/
theorem comesTo_declaredType : (e : TypeExpr) →
    ComesTo (FormOf e) (declaredType scope importer file e)
  | .name span text => by
    unfold declaredType
    exact comesTo_bareName span text
  | .qualified span qualifier name => by
    unfold declaredType
    exact comesTo_qualifiedTypeName span qualifier name
  | .generic _ base arguments => by
    unfold declaredType
    exact (comesTo_declaredType base).bind fun _ hb =>
      (comesTo_declaredArguments arguments).bind fun _ ha => AlikeOn.pure (.generic hb ha)
  | .pointer _ element => by
    unfold declaredType
    exact (comesTo_declaredType element).bind fun _ h => AlikeOn.pure (.pointer h)
  | .array _ length element => by
    unfold declaredType
    exact ComesTo.bind_any fun n =>
      (comesTo_declaredType element).bind fun _ h => AlikeOn.pure (.array n h)
  | .slice _ element => by
    unfold declaredType
    exact (comesTo_declaredType element).bind fun _ h => AlikeOn.pure (.slice h)
  | .map _ key value => by
    unfold declaredType
    exact (comesTo_declaredType key).bind fun _ hk =>
      (comesTo_declaredType value).bind fun _ hv => AlikeOn.pure (.map hk hv)
  | .channel _ direction element => by
    unfold declaredType
    exact (comesTo_declaredType element).bind fun _ h => AlikeOn.pure (.channel h)
  | .function _ params results => by
    unfold declaredType
    refine (comesTo_declaredParams params).bind ?_
    rintro _ ⟨ps, hp, rfl⟩
    refine (comesTo_declaredParams results).bind ?_
    rintro _ ⟨rs, hr, rfl⟩
    exact AlikeOn.pure (.function hp hr)
  | .struct span hasFields => by
    unfold declaredType
    cases hasFields with
    | true => exact comesTo_fail
    | false => exact AlikeOn.pure .struct
  | .interface span elements => by
    unfold declaredType
    cases elements with
    | cons _ _ => exact comesTo_fail
    | nil => exact AlikeOn.pure .interface
  | .paren _ inner => by
    unfold declaredType
    exact (comesTo_declaredType inner).mono (fun _ h => .paren h) fun _ => id
  | .approximation span _ => by
    unfold declaredType
    exact comesTo_fail

theorem comesTo_declaredArguments : (arguments : List TypeElem) →
    ComesTo (ArgumentFormsOf arguments) (declaredArguments scope importer file arguments)
  | [] => by
    unfold declaredArguments
    exact AlikeOn.pure .nil
  | .mk _ [term] :: rest => by
    unfold declaredArguments declaredArgument
    exact (comesTo_declaredType term).bind fun _ h =>
      (comesTo_declaredArguments rest).bind fun _ hs => AlikeOn.pure (.cons h hs)
  | .mk _ [] :: _ => by
    unfold declaredArguments declaredArgument
    exact comesTo_nothing.bind fun _ => False.elim
  | .mk _ (_ :: _ :: _) :: _ => by
    unfold declaredArguments declaredArgument
    exact comesTo_nothing.bind fun _ => False.elim

theorem comesTo_declaredParams : (params : List Param) →
    ComesTo (fun value => ∃ ps, ParamFormsOf params ps
        ∧ value = (ps.map ParamForm.whole, ps.any ParamForm.dots))
      (declaredParams scope importer file params)
  | [] => by
    unfold declaredParams
    exact AlikeOn.pure ⟨[], .nil, rfl⟩
  | .mk names type repeated :: rest => by
    unfold declaredParams
    refine (comesTo_declaredType type).bind fun t h => (comesTo_declaredParams rest).bind ?_
    rintro _ ⟨ps, hs, rfl⟩
    cases repeated with
    | true => exact AlikeOn.pure ⟨_, .dots h hs, rfl⟩
    | false =>
      refine AlikeOn.pure ⟨_, .plain h hs, ?_⟩
      simp [ParamForm.whole]

end

/-- A signature has the form in which it is written. -/
theorem comesTo_declaredSignature (params results : List Param) :
    ComesTo (SignatureExpr.ReadAs ⟨params, results⟩)
      (declaredSignature scope importer file params results) := by
  unfold declaredSignature
  refine (comesTo_declaredParams params).bind ?_
  rintro _ ⟨ps, hp, rfl⟩
  refine (comesTo_declaredParams results).bind ?_
  rintro _ ⟨rs, hr, rfl⟩
  exact AlikeOn.pure ⟨ps, rs, hp, hr, rfl⟩

end Reading

/-! ### Function types inside of types -/

/-- A signature that is read from one of some that are written. -/
def ReadFrom (written : List SignatureExpr) (d : Signature DeclaredName) : Prop :=
  ∃ s ∈ written, s.ReadAs d

theorem ReadFrom.mono {few more : List SignatureExpr} {d : Signature DeclaredName}
    (h : ReadFrom few d) (sub : few ⊆ more) : ReadFrom more d := by
  obtain ⟨s, hs, read⟩ := h
  exact ⟨s, sub hs, read⟩

mutual

/-- A function type inside of a type was written inside of it. -/
theorem readFrom_of_mem_parts {d : Signature DeclaredName} :
    {e : TypeExpr} → {t : DeclaredType} → FormOf e t →
      .function d.params d.results d.variadic ∈ t.parts → ReadFrom e.signatures d
  | _, _, .name _ => by simp [TypeForm.parts]
  | _, _, .qualified _ => by simp [TypeForm.parts]
  | _, _, .foreign => by simp [TypeForm.parts]
  | _, _, .generic hb ha => fun h => by
    unfold TypeExpr.signatures
    rcases List.mem_cons.1 h with e | h
    · cases e
    · rcases List.mem_append.1 h with h | h
      · exact (readFrom_of_mem_parts hb h).mono (List.subset_append_left _ _)
      · exact (readFrom_of_mem_arguments ha h).mono (List.subset_append_right _ _)
  | _, _, .pointer he => fun h => by
    unfold TypeExpr.signatures
    rcases List.mem_cons.1 h with e | h
    · cases e
    · exact readFrom_of_mem_parts he h
  | _, _, .array _ he => fun h => by
    unfold TypeExpr.signatures
    rcases List.mem_cons.1 h with e | h
    · cases e
    · exact readFrom_of_mem_parts he h
  | _, _, .slice he => fun h => by
    unfold TypeExpr.signatures
    rcases List.mem_cons.1 h with e | h
    · cases e
    · exact readFrom_of_mem_parts he h
  | _, _, .map hk hv => fun h => by
    unfold TypeExpr.signatures
    rcases List.mem_cons.1 h with e | h
    · cases e
    · rcases List.mem_append.1 h with h | h
      · exact (readFrom_of_mem_parts hk h).mono (List.subset_append_left _ _)
      · exact (readFrom_of_mem_parts hv h).mono (List.subset_append_right _ _)
  | _, _, .channel he => fun h => by
    unfold TypeExpr.signatures
    rcases List.mem_cons.1 h with e | h
    · cases e
    · exact readFrom_of_mem_parts he h
  | _, _, .function hp hr => fun h => by
    unfold TypeExpr.signatures
    rcases List.mem_cons.1 h with e | h
    · obtain ⟨params, results, variadic⟩ := d
      cases e
      exact ⟨_, List.mem_cons_self, _, _, hp, hr, rfl⟩
    · refine ReadFrom.mono ?_ (List.subset_cons_self _ _)
      rcases List.mem_append.1 h with h | h
      · exact (readFrom_of_mem_params hp h).mono (List.subset_append_left _ _)
      · exact (readFrom_of_mem_params hr h).mono (List.subset_append_right _ _)
  | _, _, .struct => by simp [TypeForm.parts]
  | _, _, .interface => by simp [TypeForm.parts]
  | _, _, .paren he => fun h => by
    unfold TypeExpr.signatures
    exact readFrom_of_mem_parts he h

theorem readFrom_of_mem_arguments {d : Signature DeclaredName} :
    {arguments : List TypeElem} → {ts : List DeclaredType} → ArgumentFormsOf arguments ts →
      .function d.params d.results d.variadic ∈ TypeForm.partsOfAll ts →
      ReadFrom (argumentSignatures arguments) d
  | _, _, .nil => fun h => by cases h
  | _, _, .cons ht hs => fun h => by
    unfold argumentSignatures
    rcases List.mem_append.1 h with h | h
    · exact (readFrom_of_mem_parts ht h).mono (List.subset_append_left _ _)
    · exact (readFrom_of_mem_arguments hs h).mono (List.subset_append_right _ _)

theorem readFrom_of_mem_params {d : Signature DeclaredName} :
    {params : List Param} → {ps : List (ParamForm DeclaredName)} → ParamFormsOf params ps →
      .function d.params d.results d.variadic ∈ TypeForm.partsOfAll (ps.map ParamForm.whole) →
      ReadFrom (paramSignatures params) d
  | _, _, .nil => fun h => by cases h
  | _, _, .dots ht hs => fun h => by
    unfold paramSignatures
    rcases List.mem_append.1 h with h | h
    · have inside := ParamForm.mem_parts_whole h nofun
      exact (readFrom_of_mem_parts ht inside).mono (List.subset_append_left _ _)
    · exact (readFrom_of_mem_params hs h).mono (List.subset_append_right _ _)
  | _, _, .plain ht hs => fun h => by
    unfold paramSignatures
    rw [List.map_append, TypeForm.partsOfAll_eq_flatMap, List.flatMap_append] at h
    rcases List.mem_append.1 h with h | h
    · obtain ⟨t, here, inside⟩ := List.mem_flatMap.1 h
      rw [List.map_replicate] at here
      rw [List.eq_of_mem_replicate here] at inside
      exact (readFrom_of_mem_parts ht inside).mono (List.subset_append_left _ _)
    · rw [← TypeForm.partsOfAll_eq_flatMap] at h
      exact (readFrom_of_mem_params hs h).mono (List.subset_append_right _ _)

end

/-- A function type inside of a signature was written inside of it. -/
theorem SignatureExpr.ReadAs.readFrom {s : SignatureExpr} {d inner : Signature DeclaredName}
    (h : s.ReadAs d) (mem : .function inner.params inner.results inner.variadic
      ∈ TypeForm.partsOfAll (d.params ++ d.results)) : ReadFrom s.inside inner := by
  obtain ⟨ps, rs, params, results, rfl⟩ := h
  obtain ⟨t, ht, part⟩ := TypeForm.mem_partsOfAll.1 mem
  rcases List.mem_append.1 ht with ht | ht
  · have here := readFrom_of_mem_params params (TypeForm.mem_partsOfAll.2 ⟨t, ht, part⟩)
    exact here.mono (List.subset_append_left _ _)
  · have here := readFrom_of_mem_params results (TypeForm.mem_partsOfAll.2 ⟨t, ht, part⟩)
    exact here.mono (List.subset_append_right _ _)

/-! ### Printing -/

/-- The texts of parameters, with dots where they are declared with dots. -/
def dottedTexts (home : String) :
    List (ParamForm WrittenName) → StateM ImportTable (List String)
  | [] => pure []
  | p :: rest => do
      let text ← typeText home p.type
      let texts ← dottedTexts home rest
      pure ((if p.dots then "..." ++ text else text) :: texts)

/-- Where no dots stand in front, all dots are printed. -/
theorem paramTexts_whole (home : String) {ps : List (ParamForm WrittenName)}
    (front : ∀ p ∈ ps.dropLast, p.dots = false) :
    paramTexts home (ps.any ParamForm.dots) (ps.map ParamForm.whole) = dottedTexts home ps := by
  induction ps with
  | nil =>
    unfold paramTexts dottedTexts
    rfl
  -- dots may only be at the last parameter, so the cases are those of one and of more
  | cons p rest ih =>
    cases rest with
    | nil =>
      obtain ⟨type, dots⟩ := p
      unfold dottedTexts dottedTexts
      simp only [List.map_cons, List.map_nil, List.any_cons, List.any_nil, Bool.or_false]
      unfold paramTexts
      cases dots with
      | false =>
        show (do let text ← lastParamText home false type; pure [text]) = _
        rw [lastParamText_false]
        rfl
      | true =>
        show (do let text ← lastParamText home true (.slice type); pure [text]) = _
        unfold lastParamText
        rfl
    | cons next more =>
      have plain : p.dots = false := front p (by simp)
      have behind := ih fun q hq => front q (by simp [hq])
      have same : (p :: next :: more).any ParamForm.dots
          = (next :: more).any ParamForm.dots := by
        rw [List.any_cons, plain, Bool.false_or]
      rw [same, dottedTexts, ← behind, List.map_cons, List.map_cons, paramTexts]
      simp only [ParamForm.whole, plain, Bool.false_eq_true, if_false]

/-! ### Where dots are written -/

theorem ParamFormsOf.eq_nil_iff {params : List Param} {ps : List (ParamForm DeclaredName)}
    (h : ParamFormsOf params ps) : ps = [] ↔ params = [] := by
  cases h with
  | nil => simp
  | dots => simp
  | plain => simp

theorem ParamFormsOf.dots_iff {params : List Param} {ps : List (ParamForm DeclaredName)}
    (h : ParamFormsOf params ps) :
    (∀ p ∈ ps, p.dots = false) ↔ ∀ param ∈ params, param.hasDots = false := by
  induction params generalizing ps with
  | nil =>
    cases h
    simp
  | cons param rest ih =>
    cases h with
    | dots _ hs => simp [Param.hasDots]
    | plain _ hs =>
      rw [List.forall_mem_append, List.forall_mem_cons, ih hs]
      simp [Param.hasDots]

/-- No dots stand in front of the last parameter exactly if none were written in front of it. -/
theorem ParamFormsOf.dots_dropLast_iff {params : List Param} {ps : List (ParamForm DeclaredName)}
    (h : ParamFormsOf params ps) :
    (∀ p ∈ ps.dropLast, p.dots = false) ↔ ∀ param ∈ params.dropLast, param.hasDots = false := by
  induction params generalizing ps with
  | nil =>
    cases h
    simp
  | cons param rest ih =>
    cases h with
    | dots _ hs =>
      -- a parameter with dots is the last one only if nothing is written behind it
      by_cases last : rest = []
      · rw [last, hs.eq_nil_iff.2 last]
        simp
      · rw [List.dropLast_cons_of_ne_nil last,
          List.dropLast_cons_of_ne_nil (mt hs.eq_nil_iff.1 last)]
        simp [Param.hasDots]
    | plain _ hs =>
      by_cases last : rest = []
      · rw [last, hs.eq_nil_iff.2 last, List.append_nil]
        constructor
        · intro _ param hp
          cases hp
        · intro _ p hp
          rw [List.eq_of_mem_replicate (List.dropLast_subset _ hp)]
      · rw [List.dropLast_cons_of_ne_nil last,
          List.dropLast_append_of_ne_nil (mt hs.eq_nil_iff.1 last), List.forall_mem_append,
          List.forall_mem_cons, ih hs]
        simp [Param.hasDots]

/-- What is read and printed of a signature has the parameters that were written, dots included. -/
structure KeepsDots (s : SignatureExpr) (d : Signature DeclaredName)
    (ps rs : List (ParamForm DeclaredName)) : Prop where
  /-- The parameters as they are written. -/
  params : ParamFormsOf s.params ps ∧ d.params = ps.map ParamForm.whole
  /-- The results as they are written. -/
  results : ParamFormsOf s.results rs ∧ d.results = rs.map ParamForm.whole
  /-- If it is variadic, then it has a last parameter, which is the slice of the type that is
  written behind dots, and no other is written with dots. -/
  variadic : d.variadic = true → ∃ front type, ps = front ++ [⟨type, true⟩]
    ∧ d.params.getLast? = some (.slice type) ∧ ∀ p ∈ front, p.dots = false
  /-- If it is not, then none is written with dots. -/
  plain : d.variadic = false → ∀ p ∈ ps, p.dots = false
  /-- No result is written with dots. -/
  plainResults : ∀ r ∈ rs, r.dots = false
  /-- As a method it is printed with the same parameters. -/
  printed : ∀ home own name,
    methodParamTexts home false ⟨name, d.mapNames (DeclaredName.seenFrom own)⟩
      = dottedTexts home (ps.map (ParamForm.mapNames (DeclaredName.seenFrom own)))
  /-- And so it is as a type. -/
  printedType : ∀ home own,
    typeText home (DeclaredType.seenFrom own (.function d.params d.results d.variadic))
      = do
        let params ← dottedTexts home (ps.map (ParamForm.mapNames (DeclaredName.seenFrom own)))
        let results ← typeTexts home (d.results.map (DeclaredType.seenFrom own))
        pure ("func(" ++ commaText params ++ ")" ++ resultsText results)

section

variable {ps : List (ParamForm DeclaredName)}

theorem eq_concat_of_any_dots (front : ∀ p ∈ ps.dropLast, p.dots = false)
    (some' : ps.any ParamForm.dots = true) : ∃ type, ps = ps.dropLast ++ [⟨type, true⟩] := by
  obtain ⟨p, hp, dots⟩ := List.any_eq_true.1 some'
  have split := List.dropLast_concat_getLast (List.ne_nil_of_mem hp)
  -- the one with dots does not stand in front, so it is the last
  have last : (ps.getLast (List.ne_nil_of_mem hp)).dots = true := by
    rw [← split] at hp
    rcases List.mem_append.1 hp with hp | hp
    · rw [front p hp] at dots
      cases dots
    · rwa [List.mem_singleton.1 hp] at dots
  refine ⟨(ps.getLast (List.ne_nil_of_mem hp)).type, ?_⟩
  rw [← last]
  exact split.symm

/-- Parameters with dots at the last one only are printed as they are written. -/
theorem paramTexts_seenFrom (front : ∀ p ∈ ps.dropLast, p.dots = false) (home own : String) :
    paramTexts home (ps.any ParamForm.dots)
        ((ps.map ParamForm.whole).map (TypeForm.mapNames (DeclaredName.seenFrom own)))
      = dottedTexts home (ps.map (ParamForm.mapNames (DeclaredName.seenFrom own))) := by
  have dots : ps.any ParamForm.dots
      = (ps.map (ParamForm.mapNames (DeclaredName.seenFrom own))).any ParamForm.dots := by
    rw [List.any_map]
    rfl
  have wholes : (ps.map ParamForm.whole).map (TypeForm.mapNames (DeclaredName.seenFrom own))
      = (ps.map (ParamForm.mapNames (DeclaredName.seenFrom own))).map ParamForm.whole := by
    rw [List.map_map, List.map_map]
    exact List.map_congr_left fun p _ => (ParamForm.whole_mapNames _ p).symm
  rw [dots, wholes]
  refine paramTexts_whole home fun p hp => ?_
  rw [← List.map_dropLast] at hp
  obtain ⟨q, hq, rfl⟩ := List.mem_map.1 hp
  exact front q hq

end

/-- Where dots stand in front of no parameter but the last, all of them are kept. -/
theorem keepsDots_of_dropLast {s : SignatureExpr} {ps rs : List (ParamForm DeclaredName)}
    (params : ParamFormsOf s.params ps) (results : ParamFormsOf s.results rs)
    (front : ∀ p ∈ ps.dropLast, p.dots = false) (plain : ∀ r ∈ rs, r.dots = false) :
    KeepsDots s ⟨ps.map ParamForm.whole, rs.map ParamForm.whole, ps.any ParamForm.dots⟩ ps rs := by
  refine ⟨⟨params, rfl⟩, ⟨results, rfl⟩, fun variadic => ?_, fun none' => ?_, plain,
    fun home own name => ?_, fun home own => ?_⟩
  · obtain ⟨type, split⟩ := eq_concat_of_any_dots front variadic
    refine ⟨ps.dropLast, type, split, ?_, front⟩
    dsimp only
    rw [split, List.map_append, List.map_singleton, List.getLast?_concat]
    rfl
  · intro p hp
    exact Bool.eq_false_iff.2 fun dots => by simp [List.any_eq_true.2 ⟨p, hp, dots⟩] at none'
  · have flag : (ps.any ParamForm.dots && !false) = ps.any ParamForm.dots := Bool.and_true _
    rw [methodParamTexts, Signature.mapNames, flag, paramTexts_seenFrom front home own]
  · rw [← paramTexts_seenFrom front home own, DeclaredType.seenFrom, TypeForm.mapNames, typeText,
      TypeForm.mapNamesAll_eq_map, TypeForm.mapNamesAll_eq_map]
    rfl

/-- The dots of a signature are kept exactly if they are written at the last parameter only. -/
theorem SignatureExpr.ReadAs.keepsDots_iff {s : SignatureExpr} {d : Signature DeclaredName}
    (h : s.ReadAs d) : (∃ ps rs, KeepsDots s d ps rs) ↔ s.DotsLast := by
  constructor
  · rintro ⟨ps, rs, kept⟩
    refine ⟨kept.params.1.dots_dropLast_iff.1 fun p hp => ?_,
      kept.results.1.dots_iff.1 kept.plainResults⟩
    cases variadic : d.variadic with
    | false => exact kept.plain variadic p (List.dropLast_subset _ hp)
    | true =>
      obtain ⟨front, type, rfl, -, plain⟩ := kept.variadic variadic
      rw [List.dropLast_concat] at hp
      exact plain p hp
  · rintro ⟨front, plain⟩
    obtain ⟨ps, rs, params, results, rfl⟩ := h
    exact ⟨ps, rs, keepsDots_of_dropLast params results (params.dots_dropLast_iff.2 front)
      (results.dots_iff.2 plain)⟩

end WrapperGen
