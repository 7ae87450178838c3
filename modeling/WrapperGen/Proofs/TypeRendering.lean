import WrapperGen.Proofs.TypePieces

/-!
# What the text of a type consists of

Writing a type imports the packages that it names.  An alias that was given once stays, with the
one exception of foreign code, which is imported under its own name whatever its alias was.  So
the text of a type can be described by the imports that the file has in the end.

## Main definitions

* `ImportTable.Extends`: imports that were reached from others.
* `writtenName`: how a name is written in a file with the given imports.
* `DeclaredName.Known`: the imports that a name needs.
* `Writes`: what holds of the answer of a computation that imports packages.

## Main results

* `writes_typeText`: the text of a type consists of its pieces, and all packages that the type
  names are imported.
-/

namespace WrapperGen

open Source

/-! ### Imports -/

/-- Imports that were reached from others: aliases are kept, save that of foreign code, which may
be imported again. -/
structure ImportTable.Extends (a b : ImportTable) : Prop where
  /-- The alias of every other package is kept. -/
  keeps : ∀ path name, path ≠ foreignQualifier → a.alias? path = some name →
    b.alias? path = some name
  /-- Foreign code stays imported. -/
  foreign : (a.alias? foreignQualifier).isSome = true → (b.alias? foreignQualifier).isSome = true

namespace ImportTable.Extends

theorem refl (a : ImportTable) : Extends a a := ⟨fun _ _ _ h => h, fun h => h⟩

theorem trans {a b c : ImportTable} (hab : Extends a b) (hbc : Extends b c) : Extends a c :=
  ⟨fun path name hp h => hbc.keeps path name hp (hab.keeps path name hp h),
    fun h => hbc.foreign (hab.foreign h)⟩

theorem bind_of_none {a : ImportTable} {path : String} (h : a.alias? path = none) (name : String) :
    Extends a (a.bind path name) := by
  constructor
  · intro other known _ ho
    have ne : other ≠ path := by
      rintro rfl
      rw [h] at ho
      cases ho
    rw [alias?_bind_of_ne a name ne]
    exact ho
  · intro hf
    have ne : foreignQualifier ≠ path := by
      rintro rfl
      rw [h] at hf
      cases hf
    rw [alias?_bind_of_ne a name ne]
    exact hf

theorem bind_foreign (a : ImportTable) (name : String) :
    Extends a (a.bind foreignQualifier name) := by
  constructor
  · intro other known ne ho
    rw [alias?_bind_of_ne a name ne]
    exact ho
  · intro _
    rw [alias?_bind_self]
    rfl

end ImportTable.Extends

open ImportTable (Extends)

/-- How a name is written in a file with the given imports. -/
def writtenName (table : ImportTable) : DeclaredName → NameForm
  | .declared name none => .bare name
  | .declared name (some path) => .behind ((table.alias? path).getD "") name
  | .foreign name => .behind foreignQualifier name

/-- The package of a name is imported. -/
def DeclaredName.Known (table : ImportTable) : DeclaredName → Prop
  | .declared _ none => True
  | .declared _ (some path) => (table.alias? path).isSome = true
  | .foreign _ => (table.alias? foreignQualifier).isSome = true

/-! ### Computations that import packages -/

/-- A computation keeps the imports, and its answer is good for all imports that are reached from
those that it leaves. -/
def Writes {α : Type} (m : StateM ImportTable α) (good : ImportTable → α → Prop) : Prop :=
  ∀ before, Extends before (m.run before).2
    ∧ ∀ final, Extends (m.run before).2 final → good final (m.run before).1

namespace Writes

variable {α β : Type}

theorem pure {a : α} {good : ImportTable → α → Prop} (h : ∀ final, good final a) :
    Writes (Pure.pure a) good :=
  fun before => ⟨Extends.refl before, fun final _ => h final⟩

theorem bind {m : StateM ImportTable α} {f : α → StateM ImportTable β}
    {first : ImportTable → α → Prop} {good : ImportTable → β → Prop} (hm : Writes m first)
    (hf : ∀ a, Writes (f a) fun final b => first final a → good final b) :
    Writes (m >>= f) good := by
  intro before
  obtain ⟨hm1, hm2⟩ := hm before
  obtain ⟨hf1, hf2⟩ := hf (m.run before).1 (m.run before).2
  exact ⟨hm1.trans hf1, fun final h => hf2 final h (hm2 final (hf1.trans h))⟩

theorem mono {m : StateM ImportTable α} {first good : ImportTable → α → Prop}
    (hm : Writes m first) (h : ∀ final a, first final a → good final a) : Writes m good :=
  fun before => ⟨(hm before).1, fun final hf => h final _ ((hm before).2 final hf)⟩

/-- The alias of a package is the one that it has in the end. -/
theorem add {path : String} (hp : path ≠ foreignQualifier) :
    Writes (ImportTable.add path) fun final name => final.alias? path = some name := by
  intro before
  show Extends before (ImportTable.add path before).2 ∧ ∀ final,
    Extends (ImportTable.add path before).2 final →
      final.alias? path = some (ImportTable.add path before).1
  rw [ImportTable.add]
  cases h : before.alias? path with
  -- the package is imported already, or it is now; either way the alias is kept
  | some name => exact ⟨Extends.refl before, fun final hf => hf.keeps path name hp h⟩
  | none =>
      refine ⟨Extends.bind_of_none h _, fun final hf => hf.keeps path _ hp ?_⟩
      exact ImportTable.alias?_bind_self before path _

end Writes

/-! ### Types that can be written -/

/-- A name can be written in a file that wraps an interface of package `own`. -/
def DeclaredName.Writable (own : String) : DeclaredName → Prop
  | .declared name none => isPredeclared name = true
  | .declared name (some path) =>
      isFreeName name = true ∧ path ≠ "" ∧ path ≠ foreignQualifier
        ∧ (path = own → isPredeclared name = false)
  | .foreign name => isFreeName name = true

instance (own : String) : (name : DeclaredName) → Decidable (name.Writable own)
  | .declared name none => inferInstanceAs (Decidable (isPredeclared name = true))
  | .declared name (some path) =>
      inferInstanceAs (Decidable (isFreeName name = true ∧ path ≠ "" ∧ path ≠ foreignQualifier
        ∧ (path = own → isPredeclared name = false)))
  | .foreign name => inferInstanceAs (Decidable (isFreeName name = true))

/-- What a type needs in order to be written, its parts apart: names can be written, a variadic
function ends with a slice, and only names are applied, to one type at least. -/
def WritablePart (own : String) : DeclaredType → Prop
  | .named name => name.Writable own
  | .function params _ variadic =>
      variadic = true → params.getLast?.any TypeForm.isSlice = true
  | .applied base arguments => base.isNamed = true ∧ arguments.isEmpty = false
  | _ => True

instance (own : String) : (p : DeclaredType) → Decidable (WritablePart own p)
  | .named name => inferInstanceAs (Decidable (name.Writable own))
  | .function params _ variadic =>
      inferInstanceAs (Decidable (variadic = true → params.getLast?.any TypeForm.isSlice = true))
  | .applied base arguments =>
      inferInstanceAs (Decidable (base.isNamed = true ∧ arguments.isEmpty = false))
  | .pointer _ | .slice _ | .array _ _ | .map _ _ | .channel _ _ | .emptyInterface
  | .emptyStruct => inferInstanceAs (Decidable True)

/-- A type can be written in a file that wraps an interface of package `own`. -/
def Writable (own : String) (type : DeclaredType) : Prop :=
  ∀ p ∈ type.parts, WritablePart own p

instance (own : String) (type : DeclaredType) : Decidable (Writable own type) :=
  inferInstanceAs (Decidable (∀ p ∈ type.parts, WritablePart own p))

/-! ### Names -/

/-- A text consists of the pieces that the final imports give, and these know all that is
named. -/
def Good (form : ImportTable → List Piece) (known : ImportTable → Prop) (final : ImportTable)
    (text : String) : Prop := text.toList = textOf (form final) ∧ known final

theorem writes_qualify {path name : String} (he : path ≠ "") (hp : path ≠ foreignQualifier) :
    Writes (qualify path name)
      (Good (fun final => (writtenName final (.declared name (some path))).pieces)
        fun final => (DeclaredName.declared name (some path)).Known final) := by
  rw [qualify, if_neg (by simpa using he)]
  refine Writes.bind (Writes.add hp) fun qualifier => Writes.pure fun final h => ?_
  simp [Good, writtenName, DeclaredName.Known, h, NameForm.pieces, Piece.chars]

theorem writes_nameText {own : String} {name : DeclaredName} (h : name.Writable own) :
    Writes (nameText own (name.seenFrom own))
      (Good (fun final => (writtenName final name).pieces) fun final => name.Known final) := by
  cases name with
  | declared name package? =>
      cases package? with
      | none =>
          have predeclared : isPredeclared name = true := h
          rw [DeclaredName.seenFrom, if_neg (by simp), nameText, if_pos predeclared]
          refine Writes.pure fun final => ?_
          simp [Good, writtenName, DeclaredName.Known, NameForm.pieces, Piece.chars]
      | some path =>
          obtain ⟨-, he, hp, hown⟩ := h
          rw [DeclaredName.seenFrom]
          -- names of the package itself have lost their path, and it is given back here, as long as
          -- they are not predeclared
          by_cases same : path = own
          · rw [if_pos (by rw [same]), nameText, if_neg (by simp [hown same]), ← same]
            exact writes_qualify he hp
          · rw [if_neg (by simpa using same), nameText]
            exact writes_qualify he hp
  | foreign name =>
      -- foreign code is imported under its own name, whatever alias it had
      intro before
      show Extends before (before.bind foreignQualifier foreignQualifier) ∧ ∀ final,
        Extends (before.bind foreignQualifier foreignQualifier) final → _
      refine ⟨Extends.bind_foreign before _, fun final hf => ⟨?_, hf.foreign ?_⟩⟩
      · show (foreignQualifier ++ "." ++ name).toList = _
        simp [writtenName, NameForm.pieces, Piece.chars]
      · rw [ImportTable.alias?_bind_self]
        rfl

/-! ### Texts -/

theorem toList_commaText {texts : List String} {pss : List (List Piece)}
    (h : texts.map String.toList = pss.map textOf) :
    (commaText texts).toList = textOf (commaPieces pss) := by
  induction pss generalizing texts with
  | nil =>
      rw [List.map_eq_nil_iff.1 h]
      rfl
  | cons ps pss ih =>
      obtain ⟨text, texts, rfl⟩ : ∃ text rest, texts = text :: rest := by
        cases texts with
        | nil => cases h
        | cons text rest => exact ⟨text, rest, rfl⟩
      obtain ⟨here, there⟩ := List.cons.inj h
      cases pss with
      | nil =>
          rw [List.map_eq_nil_iff.1 there, commaText, String.intercalate_singleton]
          exact here
      | cons qs pss =>
          have rest := ih there
          obtain ⟨next, more, rfl⟩ : ∃ next more, texts = next :: more := by
            cases texts with
            | nil => cases there
            | cons next more => exact ⟨next, more, rfl⟩
          rw [commaText] at rest
          rw [commaText, String.intercalate_cons_cons, String.toList_append, String.toList_append,
            rest, here]
          simp [commaPieces, Piece.chars]

theorem toList_parenText {text : String} {ps : List Piece} (h : text.toList = textOf ps) :
    (" (" ++ text ++ ")").toList = ' ' :: textOf (parenPieces ps) := by
  simp [h, parenPieces, Piece.chars]

theorem toList_resultsText {texts : List String} {pss : List (List Piece)}
    (h : texts.map String.toList = pss.map textOf) :
    (resultsText texts).toList = textOf (resultsPieces pss) := by
  match texts, pss, h with
  | [], [], _ => rfl
  | [_], _ :: _ :: _, h => cases (List.cons.inj h).2
  | _ :: _ :: _, [_], h => cases (List.cons.inj h).2
  | [single], [ps], h =>
      have text : single.toList = textOf ps := (List.cons.inj h).1
      -- both sides look at how the text of a single result begins, so it has to be the same text
      have same : spelledText ps = single := by
        rw [spelledText, ← text, String.ofList_toList]
      rw [resultsText, resultsPieces, same]
      split
      · exact toList_parenText text
      · simp [text, Piece.chars]
  | first :: second :: texts, ps :: qs :: pss, h => exact toList_parenText (toList_commaText h)

theorem channelText_of_ne {element : WrittenType}
    (h : ∀ inner, element ≠ .channel .receive inner) (text : String) :
    channelText .both element text = "chan " ++ text := by
  rw [channelText]
  exact h

/-- The pieces of a channel may be those of a form of its element that has other names. -/
theorem toList_channelText {element : WrittenType} {form : TypeForm NameForm}
    (same : form.isReceiver = element.isReceiver) (direction : Direction) {text : String}
    {ps : List Piece} (h : text.toList = textOf ps) :
    (channelText direction element text).toList
      = textOf (TypeForm.channelPieces direction form ps) := by
  cases direction with
  | both =>
      by_cases hr : element.isReceiver = true
      · obtain ⟨inner, rfl⟩ := TypeForm.exists_receive_of_isReceiver hr
        obtain ⟨other, rfl⟩ := TypeForm.exists_receive_of_isReceiver same
        show ("chan (" ++ text ++ ")").toList = textOf (.word "chan" :: .blank :: parenPieces ps)
        simp [h, parenPieces, Piece.chars]
      · have apart : ∀ inner, element ≠ .channel .receive inner := by
          rintro inner rfl
          exact hr rfl
        have apartToo : ∀ inner, form ≠ .channel .receive inner := by
          rintro inner rfl
          exact hr same.symm
        rw [channelText_of_ne apart, TypeForm.channelPieces_of_ne apartToo]
        simp [h, Piece.chars]
  | send =>
      show ("chan<- " ++ text).toList = textOf (.word "chan" :: .operator '<' ['-'] :: .blank :: ps)
      simp [h, Piece.chars]
  | receive =>
      show ("<-chan " ++ text).toList = textOf (.operator '<' ['-'] :: .word "chan" :: .blank :: ps)
      simp [h, Piece.chars]

/-! ### Types -/

/-- All names of a type are known. -/
def AllKnown (t : DeclaredType) (final : ImportTable) : Prop :=
  ∀ name, .named name ∈ t.parts → name.Known final

/-- Some texts consist of the pieces that the final imports give, and these know all that is
named. -/
def GoodAll (form : ImportTable → List (List Piece)) (known : ImportTable → Prop)
    (final : ImportTable) (texts : List String) : Prop :=
  texts.map String.toList = (form final).map textOf ∧ known final

/-- A type is written as its pieces. -/
def WritesType (own : String) (t : DeclaredType) : Prop :=
  Writes (typeText own (t.seenFrom own))
    (Good (fun final => (t.mapNames (writtenName final)).pieces) (AllKnown t))

theorem writes_typeTexts {own : String} {types : List DeclaredType}
    (h : ∀ t ∈ types, WritesType own t) :
    Writes (typeTexts own (types.map (DeclaredType.seenFrom own)))
      (GoodAll (fun final => TypeForm.piecesOfAll (types.map (·.mapNames (writtenName final))))
        fun final => ∀ t ∈ types, AllKnown t final) := by
  induction types with
  | nil =>
      rw [List.map_nil, typeTexts]
      exact Writes.pure fun final => ⟨by simp [TypeForm.piecesOfAll], by simp⟩
  | cons t rest ih =>
      rw [List.map_cons, typeTexts]
      refine Writes.bind (h t List.mem_cons_self) fun text => ?_
      refine Writes.bind (ih fun u hu => h u (List.mem_cons_of_mem t hu)) fun texts => ?_
      refine Writes.pure fun final there here => ⟨?_, ?_⟩
      · simp only [List.map_cons, TypeForm.piecesOfAll, here.1, there.1]
      · exact List.forall_mem_cons.2 ⟨here.2, there.2⟩

theorem allKnown_of_subset {t u : DeclaredType} {final : ImportTable} (h : AllKnown t final)
    (hu : ∀ name, .named name ∈ u.parts → .named name ∈ t.parts) : AllKnown u final :=
  fun name hm => h name (hu name hm)

/-- A last parameter that is not written with dots is written like any type. -/
theorem lastParamText_false (home : String) (type : WrittenType) :
    lastParamText home false type = typeText home type := by
  cases type with
  | slice element =>
    rw [lastParamText, typeText]
    rfl
  | _ =>
    unfold lastParamText
    rfl

theorem writes_lastParamText {own : String} (dots : Bool) {t : DeclaredType}
    (h : WritesType own t) (hs : ∀ element, t = .slice element → WritesType own element) :
    Writes (lastParamText own dots (DeclaredType.seenFrom own t))
      (Good (fun final => TypeForm.lastPieces dots (t.mapNames (writtenName final)))
        (AllKnown t)) := by
  by_cases slice : ∃ element, t = .slice element
  · obtain ⟨element, rfl⟩ := slice
    show Writes (lastParamText own dots (.slice (DeclaredType.seenFrom own element))) _
    rw [lastParamText]
    refine Writes.bind (hs element rfl) fun text => Writes.pure fun final good => ⟨?_, ?_⟩
    · show _ = textOf (TypeForm.lastPieces dots (.slice (element.mapNames (writtenName final))))
      rw [TypeForm.lastPieces]
      cases dots <;> simp [good.1, Piece.chars]
    · exact allKnown_of_subset good.2 (by simp [TypeForm.parts])
  · rw [lastParamText]
    · refine h.mono fun final text good => ⟨?_, good.2⟩
      show _ = textOf (TypeForm.lastPieces dots (t.mapNames (writtenName final)))
      rw [TypeForm.lastPieces]
      · exact good.1
      · exact fun element e => slice (TypeForm.exists_slice_of_mapNames e)
    · exact fun element e => slice (TypeForm.exists_slice_of_mapNames e)

theorem writes_paramTexts {own : String} (dots : Bool) {params : List DeclaredType}
    (hp : ∀ p ∈ params, WritesType own p)
    (hs : ∀ element, .slice element ∈ params → WritesType own element) :
    Writes (paramTexts own dots (params.map (DeclaredType.seenFrom own)))
      (GoodAll
        (fun final => TypeForm.paramPieces dots (params.map (·.mapNames (writtenName final))))
        fun final => ∀ p ∈ params, AllKnown p final) := by
  induction params with
  | nil =>
      rw [List.map_nil, paramTexts]
      exact Writes.pure fun final => ⟨by simp [TypeForm.paramPieces], by simp⟩
  | cons t rest ih =>
      have here := hp t List.mem_cons_self
      have there := ih (fun u hu => hp u (List.mem_cons_of_mem t hu))
        fun element he => hs element (List.mem_cons_of_mem t he)
      cases rest with
      | nil =>
          rw [List.map_cons, List.map_nil, paramTexts]
          -- only the last parameter may have dots, so the cases follow the ones of `paramTexts`
          have last := writes_lastParamText dots here fun element e => hs element (by simp [e])
          refine Writes.bind last fun text => Writes.pure fun final good => ⟨?_, ?_⟩
          · simp only [List.map_cons, List.map_nil, TypeForm.paramPieces, good.1]
          · exact List.forall_mem_singleton.2 good.2
      | cons next rest =>
          rw [List.map_cons, List.map_cons, paramTexts]
          refine Writes.bind here fun text => Writes.bind there fun texts => ?_
          refine Writes.pure fun final goods good => ⟨?_, ?_⟩
          · have tail := goods.1
            simp only [List.map_cons] at tail
            simp only [List.map_cons, TypeForm.paramPieces, good.1, tail]
          · exact List.forall_mem_cons.2 ⟨good.2, goods.2⟩

/-- A type whose text is put around that of one other, and whose pieces are put around those of
the other.  The imports matter to channels only, whose parentheses depend on their elements. -/
theorem writes_around {own : String} {t element : DeclaredType} (wrap : String → String)
    (form : ImportTable → List Piece → List Piece) (inside : WritesType own element)
    (text : typeText own (t.seenFrom own) = (do
      let text ← typeText own (element.seenFrom own)
      pure (wrap text)))
    (pieces : ∀ final, (t.mapNames (writtenName final)).pieces
      = form final (element.mapNames (writtenName final)).pieces)
    (shape : ∀ final text ps, text.toList = textOf ps →
      (wrap text).toList = textOf (form final ps))
    (names : ∀ name, .named name ∈ t.parts → .named name ∈ element.parts) :
    WritesType own t := by
  unfold WritesType
  rw [text]
  refine Writes.bind inside fun text => Writes.pure fun final good => ⟨?_, ?_⟩
  · dsimp only
    rw [pieces]
    exact shape final text _ good.1
  · exact allKnown_of_subset good.2 names

theorem writes_named {own : String} {name : DeclaredName} (h : name.Writable own) :
    WritesType own (.named name) := by
  show Writes (typeText own (.named (name.seenFrom own))) _
  rw [typeText]
  refine (writes_nameText h).mono fun final text good => ⟨?_, ?_⟩
  · rw [good.1]
    show _ = textOf (TypeForm.pieces (.named (writtenName final name)))
    rw [TypeForm.pieces]
  · intro other hm
    rw [TypeForm.parts, List.mem_singleton, TypeForm.named.injEq] at hm
    rw [hm]
    exact good.2

theorem writes_map {own : String} {key value : DeclaredType} (insideKey : WritesType own key)
    (insideValue : WritesType own value) : WritesType own (.map key value) := by
  show Writes (typeText own
    (.map (DeclaredType.seenFrom own key) (DeclaredType.seenFrom own value))) _
  rw [typeText]
  refine Writes.bind insideKey fun keyText => Writes.bind insideValue fun valueText => ?_
  refine Writes.pure fun final goodValue goodKey => ⟨?_, ?_⟩
  · show _ = textOf (TypeForm.pieces
      (.map (key.mapNames (writtenName final)) (value.mapNames (writtenName final))))
    rw [TypeForm.pieces]
    simp [goodKey.1, goodValue.1, Piece.chars]
  · intro name hm
    simp only [TypeForm.parts, List.mem_cons, reduceCtorEq, false_or, List.mem_append] at hm
    exact hm.elim (goodKey.2 name) (goodValue.2 name)

/-- The last parameter of a function may be written by its element, so the elements of parameters
are needed as well. -/
theorem writes_function {own : String} {params results : List DeclaredType} (variadic : Bool)
    (insideParams : ∀ p ∈ params, WritesType own p)
    (insideElements : ∀ element, .slice element ∈ params → WritesType own element)
    (insideResults : ∀ r ∈ results, WritesType own r) :
    WritesType own (.function params results variadic) := by
  show Writes (typeText own (.function (TypeForm.mapNamesAll (DeclaredName.seenFrom own) params)
    (TypeForm.mapNamesAll (DeclaredName.seenFrom own) results) variadic)) _
  rw [typeText, TypeForm.mapNamesAll_eq_map, TypeForm.mapNamesAll_eq_map]
  refine Writes.bind (writes_paramTexts variadic insideParams insideElements) fun paramTexts => ?_
  refine Writes.bind (writes_typeTexts insideResults) fun resultTexts => ?_
  refine Writes.pure fun final goodResults goodParams => ⟨?_, ?_⟩
  · show _ = textOf (TypeForm.pieces (.function
      (TypeForm.mapNamesAll (writtenName final) params)
      (TypeForm.mapNamesAll (writtenName final) results) variadic))
    rw [TypeForm.pieces, TypeForm.mapNamesAll_eq_map, TypeForm.mapNamesAll_eq_map]
    have params := toList_commaText goodParams.1
    have results := toList_resultsText goodResults.1
    simp [params, results, parenPieces, Piece.chars]
  · intro name hm
    simp only [TypeForm.parts, List.mem_cons, reduceCtorEq, false_or, List.mem_append,
      TypeForm.mem_partsOfAll] at hm
    rcases hm with ⟨p, hp, hm⟩ | ⟨r, hr, hm⟩
    · exact goodParams.2 p hp name hm
    · exact goodResults.2 r hr name hm

theorem writes_applied {own : String} {base : DeclaredType} {arguments : List DeclaredType}
    (insideBase : WritesType own base) (insideArguments : ∀ a ∈ arguments, WritesType own a) :
    WritesType own (.applied base arguments) := by
  show Writes (typeText own (.applied (DeclaredType.seenFrom own base)
    (TypeForm.mapNamesAll (DeclaredName.seenFrom own) arguments))) _
  rw [typeText, TypeForm.mapNamesAll_eq_map]
  refine Writes.bind insideBase fun baseText => ?_
  refine Writes.bind (writes_typeTexts insideArguments) fun argumentTexts => ?_
  refine Writes.pure fun final goodArguments goodBase => ⟨?_, ?_⟩
  · show _ = textOf (TypeForm.pieces (.applied (base.mapNames (writtenName final))
      (TypeForm.mapNamesAll (writtenName final) arguments)))
    rw [TypeForm.pieces, TypeForm.mapNamesAll_eq_map]
    have arguments := toList_commaText goodArguments.1
    simp [goodBase.1, arguments, Piece.chars]
  · intro name hm
    simp only [TypeForm.parts, List.mem_cons, reduceCtorEq, false_or, List.mem_append,
      TypeForm.mem_partsOfAll] at hm
    rcases hm with hm | ⟨a, ha, hm⟩
    · exact goodBase.2 name hm
    · exact goodArguments.2 a ha name hm

/-- The text of a type consists of its pieces, and all packages that the type names are
imported. -/
theorem writes_typeText {own : String} (t : DeclaredType) (h : Writable own t) :
    WritesType own t := by
  induction t using TypeForm.induction with
  | named name => exact writes_named (h _ (TypeForm.mem_parts_self _))
  | pointer element ih =>
      have inside := ih fun p hp => h p (by simp [TypeForm.parts, hp])
      refine writes_around (fun text => "*" ++ text) (fun _ ps => .operator '*' [] :: ps) inside
        ?_ (fun final => ?_) (fun final text ps e => ?_) (by simp [TypeForm.parts])
      · show typeText own (.pointer (DeclaredType.seenFrom own element)) = _
        rw [typeText]
      · show TypeForm.pieces (.pointer (element.mapNames (writtenName final))) = _
        rw [TypeForm.pieces]
      · simp [e, Piece.chars]
  | slice element ih =>
      have inside := ih fun p hp => h p (by simp [TypeForm.parts, hp])
      refine writes_around (fun text => "[]" ++ text) (fun _ ps => .operator '[' [']'] :: ps) inside
        ?_ (fun final => ?_) (fun final text ps e => ?_) (by simp [TypeForm.parts])
      · show typeText own (.slice (DeclaredType.seenFrom own element)) = _
        rw [typeText]
      · show TypeForm.pieces (.slice (element.mapNames (writtenName final))) = _
        rw [TypeForm.pieces]
      · simp [e, Piece.chars]
  | array length element ih =>
      have inside := ih fun p hp => h p (by simp [TypeForm.parts, hp])
      refine writes_around (fun text => "[" ++ toString length.toNat ++ "]" ++ text)
        (fun _ ps => .operator '[' [] :: .integer length.toNat :: .operator ']' [] :: ps) inside
        ?_ (fun final => ?_) (fun final text ps e => ?_) (by simp [TypeForm.parts])
      · show typeText own (.array length (DeclaredType.seenFrom own element)) = _
        rw [typeText]
      · show TypeForm.pieces (.array length (element.mapNames (writtenName final))) = _
        rw [TypeForm.pieces]
      · simp [e, Piece.chars]
  | map key value ihk ihv =>
      refine writes_map (ihk fun p hp => h p ?_) (ihv fun p hp => h p ?_) <;>
        simp [TypeForm.parts, hp]
  | channel direction element ih =>
      have inside := ih fun p hp => h p (by simp [TypeForm.parts, hp])
      refine writes_around (channelText direction (DeclaredType.seenFrom own element))
        (fun final => TypeForm.channelPieces direction (element.mapNames (writtenName final)))
        inside ?_ (fun final => ?_) (fun final text ps e => ?_) (by simp [TypeForm.parts])
      · show typeText own (.channel direction (DeclaredType.seenFrom own element)) = _
        rw [typeText]
      · show TypeForm.pieces (.channel direction (element.mapNames (writtenName final))) = _
        rw [TypeForm.pieces]
      · refine toList_channelText ?_ direction e
        rw [DeclaredType.seenFrom, TypeForm.isReceiver_mapNames, TypeForm.isReceiver_mapNames]
  | function params results variadic ihp ihs ihr =>
      refine writes_function variadic ?_ ?_ ?_
      · exact fun p hp => ihp p hp fun q hq => h q (TypeForm.mem_parts_of_param hp hq)
      · exact fun element he =>
          ihs element he fun q hq => h q (TypeForm.mem_parts_of_slice_param he hq)
      · exact fun r hr => ihr r hr fun q hq => h q (TypeForm.mem_parts_of_result hr hq)
  | applied base arguments ihb iha =>
      refine writes_applied (ihb fun p hp => h p (TypeForm.mem_parts_of_base hp)) ?_
      exact fun a ha => iha a ha fun q hq => h q (TypeForm.mem_parts_of_argument ha hq)
  | emptyInterface =>
      show Writes (typeText own .emptyInterface) _
      rw [typeText]
      refine Writes.pure fun final => ⟨?_, by simp [AllKnown, TypeForm.parts]⟩
      show _ = textOf (TypeForm.pieces .emptyInterface)
      rw [TypeForm.pieces]
      rfl
  | emptyStruct =>
      show Writes (typeText own .emptyStruct) _
      rw [typeText]
      refine Writes.pure fun final => ⟨?_, by simp [AllKnown, TypeForm.parts]⟩
      show _ = textOf (TypeForm.pieces .emptyStruct)
      rw [TypeForm.pieces]
      rfl

end WrapperGen
