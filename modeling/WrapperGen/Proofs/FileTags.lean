import WrapperGen.Proofs.FileNames
import WrapperGen.Proofs.PathPieces
import WrapperGen.SourceFiles

/-!
# Tags in the names of generated files

Generated code is read back as part of its package if the name of its file allows that.  What stands
behind the last underscore of such a name may mark a test, or restrict the file to a system or a
processor, and the name comes from that of an interface.  So the file is read on every platform
exactly if what stands there is, in lower case, not one of these tags.

## Main definitions

* `IsVisible`: a file of that name is read on every platform.
* `reservedTags`, `lastTag?`: the tags, and what stands in their place in a name.
* `LowerFormOf`: a text in lower case, wherever it stands.

## Main results

* `isVisible_iff_base`: what a file name means, told by its base.
* `isVisible_outputFileName_iff`: the files that are read on every platform.
* `not_isVisible_mock_test`: there are others.
-/

namespace WrapperGen

open Source

/-! ### Names and tags -/

/-- A file of that name is part of its package on every platform. -/
def IsVisible (name : String) : Prop :=
  isSourceFile name = true ∧ ∀ platform, matchesPlatform name platform = true

/-- What marks a file as a test, or restricts it to a system or a processor. -/
def reservedTags : List String := "test" :: (knownSystems ++ knownProcessors)

/-- What stands behind the last underscore, if there is one. -/
def lastPiece? (s : List Char) : Option (List Char) := ((List.splitOn '_' s).drop 1).getLast?

/-- What stands behind the last underscore of a name, if it has one. -/
def lastTag? (name : String) : Option String := (lastPiece? name.toList).map String.ofList

/-- The name of the file for an interface, before it is made lower case, and without its end. -/
def fileStem (namePrefix name : String) : String :=
  if namePrefix.isEmpty then name else namePrefix ++ "_" ++ name

theorem exists_last_of_mem {c : Char} {s : List Char} (h : c ∈ s) :
    ∃ front behind, s = front ++ c :: behind ∧ c ∉ behind := by
  obtain ⟨behind, front, e, new⟩ := List.eq_append_cons_of_mem (List.mem_reverse.2 h)
  refine ⟨front.reverse, behind.reverse, ?_, fun hm => new (List.mem_reverse.1 hm)⟩
  have := congrArg List.reverse e
  simpa using this

theorem splitOn_drop_one (front : List Char) {tag : List Char} (bare : '_' ∉ tag) :
    ∃ pieces, (List.splitOn '_' (front ++ '_' :: tag)).drop 1 = pieces ++ [tag] := by
  rw [List.splitOn_append_cons_self, List.splitOn_eq_singleton bare]
  cases cut : List.splitOn '_' front with
  | nil => exact absurd cut (List.splitOn_ne_nil _ _)
  | cons first rest => exact ⟨rest, rfl⟩

theorem lastPiece?_eq_some_iff {s tag : List Char} :
    lastPiece? s = some tag ↔ '_' ∉ tag ∧ ∃ front, s = front ++ '_' :: tag := by
  have last : ∀ {front tag : List Char}, '_' ∉ tag →
      lastPiece? (front ++ '_' :: tag) = some tag := by
    intro front tag bare
    obtain ⟨pieces, cut⟩ := splitOn_drop_one front bare
    rw [lastPiece?, cut, List.getLast?_concat]
  constructor
  · intro h
    by_cases some' : '_' ∈ s
    · obtain ⟨front, behind, rfl, bare⟩ := exists_last_of_mem some'
      obtain rfl := Option.some.inj ((last bare).symm.trans h)
      exact ⟨bare, front, rfl⟩
    · rw [lastPiece?, List.splitOn_eq_singleton some'] at h
      cases h
  · rintro ⟨bare, front, rfl⟩
    exact last bare

/-! ### What a file name means -/

/-- Tags allow every platform if the last one is no restriction. -/
theorem tagsAllow_iff {tag : String} {tags : List String} :
    (∀ platform, tagsAllow platform (tag :: tags) = true)
      ↔ tag ∉ knownSystems ∧ tag ∉ knownProcessors := by
  constructor
  · intro all
    -- no platform has the empty text for its system or its processor
    have never := all ⟨"", ""⟩
    have named : ∀ t ∈ knownSystems ++ knownProcessors, (t == "") = false := by decide
    constructor
    · intro system
      have other := named tag (List.mem_append_left _ system)
      cases tags with
      | nil => simp [tagsAllow, tagAllows, system, other] at never
      | cons next more =>
        by_cases both : next ∈ knownSystems ∧ tag ∈ knownProcessors
        · simp [tagsAllow, both.1, both.2, other] at never
        · simp [tagsAllow, tagAllows, both, system, other] at never
    · intro processor
      have other := named tag (List.mem_append_right _ processor)
      cases tags with
      | nil => simp [tagsAllow, tagAllows, processor, other] at never
      | cons next more =>
        by_cases system : next ∈ knownSystems
        · simp [tagsAllow, system, processor, other] at never
        · simp [tagsAllow, tagAllows, system, processor, other] at never
  · rintro ⟨noSystem, noProcessor⟩ platform
    have alone : tagAllows platform tag = true := by
      simp [tagAllows, noSystem, noProcessor]
    cases tags with
    | nil => exact alone
    | cons next more => simp [tagsAllow, noProcessor, alone]

theorem isSourceFile_iff_base {name : String} {base : List Char} (some' : base ≠ [])
    (h : name.toList = base ++ sourceSuffix) :
    isSourceFile name = true ↔ ∀ front, base ≠ front ++ testSuffix := by
  have suffix : sourceSuffix.isSuffixOf? name.toList = some base :=
    List.isSuffixOf?_eq_some_iff_append_eq.2 h.symm
  have plain : testSuffix.isSuffixOf? base = none ↔ ∀ front, base ≠ front ++ testSuffix := by
    simp only [Option.eq_none_iff_forall_ne_some, ne_eq, List.isSuffixOf?_eq_some_iff_append_eq,
      eq_comm]
  rw [isSourceFile, suffix, ← plain]
  simp [some']

/-- The tags of a file with no test in it are what stands behind the underscores of its base. -/
theorem nameTags_of_base {name : String} {base : List Char}
    (h : name.toList = base ++ sourceSuffix) (apart : ∀ front, base ≠ front ++ testSuffix) :
    nameTags name = (((List.splitOn '_' base).drop 1).map String.ofList).reverse := by
  have plain : testSuffix.isSuffixOf? base = none := by
    refine Option.eq_none_iff_forall_ne_some.2 fun front found => apart front ?_
    exact (List.append_eq_of_isSuffixOf?_eq_some found).symm
  rw [nameTags, List.isSuffixOf?_eq_some_iff_append_eq.2 h.symm]
  dsimp only [Option.getD]
  rw [plain]

/-- The last tag is what stands behind the last underscore. -/
theorem nameTags_of_lastPiece? {name : String} {base tag : List Char}
    (h : name.toList = base ++ sourceSuffix) (apart : ∀ front, base ≠ front ++ testSuffix)
    (found : lastPiece? base = some tag) :
    ∃ before, nameTags name = String.ofList tag :: before := by
  obtain ⟨bare, front, rfl⟩ := lastPiece?_eq_some_iff.1 found
  obtain ⟨pieces, cut⟩ := splitOn_drop_one front bare
  refine ⟨(pieces.map String.ofList).reverse, ?_⟩
  rw [nameTags_of_base h apart, cut, List.map_append, List.reverse_append]
  rfl

/-- A file is read on every platform if what stands behind the last underscore of its base is no
tag. -/
theorem isVisible_iff_base {name : String} {base : List Char} (some' : base ≠ [])
    (h : name.toList = base ++ sourceSuffix) :
    IsVisible name ↔ ∀ tag ∈ lastPiece? base, String.ofList tag ∉ reservedTags := by
  have test : testSuffix = '_' :: "test".toList := rfl
  constructor
  · rintro ⟨isSource, all⟩ tag found reserved
    have apart := (isSourceFile_iff_base some' h).1 isSource
    rcases List.mem_cons.1 reserved with isTest | other
    · obtain ⟨-, front, cut⟩ := lastPiece?_eq_some_iff.1 found
      refine apart front ?_
      rw [cut, test, ← isTest, String.toList_ofList]
    · obtain ⟨before, last⟩ := nameTags_of_lastPiece? h apart found
      have free := tagsAllow_iff.1 fun platform => by
        have := all platform
        rwa [matchesPlatform, last] at this
      rcases List.mem_append.1 other with system | processor
      · exact free.1 system
      · exact free.2 processor
  · intro free
    have apart : ∀ front, base ≠ front ++ testSuffix := by
      rintro front rfl
      refine free "test".toList (lastPiece?_eq_some_iff.2 ⟨by decide, front, rfl⟩) ?_
      exact List.mem_cons_self
    refine ⟨(isSourceFile_iff_base some' h).2 apart, fun platform => ?_⟩
    by_cases cut : '_' ∈ base
    · obtain ⟨front, tag, same, bare⟩ := exists_last_of_mem cut
      have found : lastPiece? base = some tag := lastPiece?_eq_some_iff.2 ⟨bare, front, same⟩
      obtain ⟨before, last⟩ := nameTags_of_lastPiece? h apart found
      rw [matchesPlatform, last]
      refine tagsAllow_iff.2 ⟨fun hm => ?_, fun hm => ?_⟩ platform
      · exact free tag found (List.mem_cons_of_mem _ (List.mem_append_left _ hm))
      · exact free tag found (List.mem_cons_of_mem _ (List.mem_append_right _ hm))
    · rw [matchesPlatform, nameTags_of_base h apart, List.splitOn_eq_singleton cut]
      rfl

/-! ### Lower case -/

/-- One text is another in lower case.  A capital sigma may have either form, whichever that is
where the text stands. -/
inductive LowerFormOf : List Char → List Char → Prop
  /-- Nothing is left. -/
  | nil : LowerFormOf [] []
  /-- The form of the first character comes first. -/
  | cons {c : Char} {form s t : List Char} :
      form = lowercaseChar c ∨ c = 'Σ' ∧ form = ['ς'] → LowerFormOf s t →
      LowerFormOf (c :: s) (form ++ t)

/-- Part of a text that is made lower case becomes its lower-case form. -/
theorem exists_lowercaseAfter_append (before s behind : List Char) :
    ∃ t, LowerFormOf s t
      ∧ lowercaseAfter before (s ++ behind) = t ++ lowercaseAfter (s.reverse ++ before) behind := by
  induction s generalizing before with
  | nil => exact ⟨[], .nil, rfl⟩
  | cons c s ih =>
    obtain ⟨t, lower, e⟩ := ih (c :: before)
    have rest : s.reverse ++ c :: before = (c :: s).reverse ++ before := by simp
    rw [List.cons_append, lowercaseAfter, e, rest]
    by_cases sigma : (c == 'Σ') = true
    · obtain rfl := beq_iff_eq.1 sigma
      rw [if_pos sigma]
      split
      · exact ⟨_, .cons (.inr ⟨rfl, rfl⟩) lower, (List.append_assoc _ _ _).symm⟩
      · exact ⟨_, .cons (.inl (by decide)) lower, (List.append_assoc _ _ _).symm⟩
    · rw [if_neg sigma]
      exact ⟨_, .cons (.inl rfl) lower, (List.append_assoc _ _ _).symm⟩

namespace LowerFormOf

variable {s t front tag : List Char} {d : Char}

theorem not_mem (h : LowerFormOf s t) (inFront : isInFront d = true) (new : d ∉ s) : d ∉ t := by
  induction h with
  | nil => exact new
  | @cons c form s t one _ ih =>
    rw [List.mem_append]
    rintro (here | behind)
    · rcases one with rfl | ⟨-, rfl⟩
      · exact not_mem_lowercaseChar inFront (fun e => new (e ▸ List.mem_cons_self)) here
      · obtain rfl := List.mem_singleton.1 here
        exact absurd inFront (by decide)
    · exact ih (fun hm => new (List.mem_cons_of_mem c hm)) behind

theorem ne_nil (h : LowerFormOf s t) (some' : s ≠ []) : t ≠ [] := by
  cases h with
  | nil => exact absurd rfl some'
  | cons one _ =>
    rcases one with rfl | ⟨-, rfl⟩
    · simp [lowercaseChar_ne_nil]
    · simp

/-- Underscores stay where they are, and none come in. -/
theorem exists_of_append (h : LowerFormOf s (front ++ '_' :: tag)) :
    ∃ l r, s = l ++ '_' :: r ∧ LowerFormOf l front ∧ LowerFormOf r tag := by
  generalize e : front ++ '_' :: tag = whole at h
  induction h generalizing front with
  | nil => cases front <;> cases e
  | @cons c form s t one lower ih =>
    by_cases mark : c = '_'
    · subst mark
      obtain rfl : form = ['_'] := by
        rcases one with rfl | ⟨never, -⟩
        · decide
        · exact absurd never (by decide)
      cases front with
      | nil =>
        obtain ⟨-, rfl⟩ := List.cons.inj e
        exact ⟨[], s, rfl, .nil, lower⟩
      | cons first more =>
        obtain ⟨rfl, behind⟩ := List.cons.inj e
        obtain ⟨l, r, rfl, lowerL, lowerR⟩ := ih behind
        exact ⟨'_' :: l, r, rfl, .cons one lowerL, lowerR⟩
    · have new : '_' ∉ form := by
        have alone : LowerFormOf [c] (form ++ []) := .cons one .nil
        rw [List.append_nil] at alone
        exact alone.not_mem (by decide) fun hm => mark (List.mem_singleton.1 hm).symm
      rcases List.append_eq_append_iff.1 e with ⟨more, rfl, behind⟩ | ⟨more, rfl, behind⟩
      · cases more with
        | nil =>
          obtain ⟨l, r, rfl, lowerL, lowerR⟩ := ih (show [] ++ '_' :: tag = t from behind)
          rw [List.append_nil] at one
          have first := LowerFormOf.cons one lowerL
          rw [List.append_nil] at first
          exact ⟨c :: l, r, rfl, first, lowerR⟩
        | cons first more =>
          obtain ⟨rfl, -⟩ := List.cons.inj behind
          exact absurd (List.mem_append_right _ List.mem_cons_self) new
      · obtain ⟨l, r, rfl, lowerL, lowerR⟩ := ih behind.symm
        exact ⟨c :: l, r, rfl, .cons one lowerL, lowerR⟩

theorem exists_append {l r : List Char} (h : LowerFormOf (l ++ r) t) :
    ∃ front behind, t = front ++ behind ∧ LowerFormOf l front ∧ LowerFormOf r behind := by
  induction l generalizing t with
  | nil => exact ⟨[], t, rfl, .nil, h⟩
  | cons c l ih =>
    cases h with
    | cons one lower =>
      obtain ⟨front, behind, rfl, lowerL, lowerR⟩ := ih lower
      exact ⟨_, behind, (List.append_assoc _ _ _).symm, .cons one lowerL, lowerR⟩

/-- A text without a sigma is in lower case in only one way. -/
theorem eq_of_plain {w : List Char} (h : LowerFormOf s t) (h' : LowerFormOf s w)
    (plain : 'σ' ∉ w ∧ 'ς' ∉ w) : t = w := by
  induction h generalizing w with
  | nil => cases h' with | nil => rfl
  | @cons c form s t one lower ih =>
    cases h' with
    | @cons _ form' _ w' one' lower' =>
      obtain ⟨noSigma, noFinal⟩ := plain
      rw [List.mem_append, not_or] at noSigma noFinal
      rw [ih lower' ⟨noSigma.2, noFinal.2⟩]
      have other : c ≠ 'Σ' := by
        rintro rfl
        rcases one' with rfl | ⟨-, rfl⟩
        · exact noSigma.1 (by decide)
        · exact noFinal.1 (by decide)
      rcases one with rfl | ⟨never, -⟩
      · rcases one' with rfl | ⟨never, -⟩
        · rfl
        · exact absurd never other
      · exact absurd never other

theorem exists_of_mark (h : LowerFormOf ('_' :: s) t) : ∃ w, t = '_' :: w ∧ LowerFormOf s w := by
  cases h with
  | cons one lower =>
    rcases one with rfl | ⟨never, -⟩
    · exact ⟨_, rfl, lower⟩
    · exact absurd never (by decide)

end LowerFormOf

theorem lowerFormOf_lowercaseAfter (s : List Char) : LowerFormOf s (lowercaseAfter [] s) := by
  obtain ⟨t, lower, e⟩ := exists_lowercaseAfter_append [] s []
  rw [List.append_nil, lowercaseAfter, List.append_nil] at e
  rw [e]
  exact lower

/-! ### Files of interfaces -/

theorem noSigma_of_mem_reservedTags :
    ∀ tag ∈ reservedTags, 'σ' ∉ tag.toList ∧ 'ς' ∉ tag.toList := by
  decide

/-- A tag comes from what stands in its place before the text is made lower case. -/
theorem lastPiece?_lower_iff {s t : List Char} (h : LowerFormOf s t) :
    (∀ tag ∈ lastPiece? t, String.ofList tag ∉ reservedTags)
      ↔ ∀ tag ∈ lastPiece? s, lowercaseText (String.ofList tag) ∉ reservedTags := by
  -- reserved tags have no sigma, so there is only one way in which a text becomes one of them
  have same : ∀ {tag w : List Char}, LowerFormOf tag w →
      (String.ofList w ∈ reservedTags ↔ lowercaseText (String.ofList tag) ∈ reservedTags) := by
    intro tag w lower
    have other := lowerFormOf_lowercaseAfter tag
    rw [lowercaseText, String.toList_ofList]
    constructor
    · intro reserved
      have plain := noSigma_of_mem_reservedTags _ reserved
      rw [String.toList_ofList] at plain
      rwa [other.eq_of_plain lower plain]
    · intro reserved
      have plain := noSigma_of_mem_reservedTags _ reserved
      rw [String.toList_ofList] at plain
      rwa [lower.eq_of_plain other plain]
  constructor
  · intro free tag found
    obtain ⟨bare, front, rfl⟩ := lastPiece?_eq_some_iff.1 found
    obtain ⟨a, b, rfl, -, lower⟩ := h.exists_append
    obtain ⟨w, rfl, behind⟩ := lower.exists_of_mark
    rw [← same behind]
    exact free w (lastPiece?_eq_some_iff.2 ⟨behind.not_mem (by decide) bare, a, rfl⟩)
  · intro free tag found
    obtain ⟨bare, front, rfl⟩ := lastPiece?_eq_some_iff.1 found
    obtain ⟨l, r, rfl, -, lower⟩ := h.exists_of_append
    have bare' : '_' ∉ r := by
      intro hm
      obtain ⟨a, b, rfl⟩ := List.append_of_mem hm
      obtain ⟨x, y, rfl, -, behind⟩ := lower.exists_append
      obtain ⟨w, rfl, -⟩ := behind.exists_of_mark
      exact bare (List.mem_append_right _ List.mem_cons_self)
    rw [same lower]
    exact free r (lastPiece?_eq_some_iff.2 ⟨bare', l, rfl⟩)

/-- The name of the file for an interface is its stem in lower case, with the end of the name of a
source file. -/
theorem exists_base_outputFileName {namePrefix name : String} (hp : '-' ∉ namePrefix.toList)
    (hn : '-' ∉ name.toList) :
    ∃ base, LowerFormOf (fileStem namePrefix name).toList base
      ∧ (outputFileName wrapperFileName namePrefix name).toList = base ++ sourceSuffix := by
  have stem : '-' ∉ (fileStem namePrefix name).toList := by
    unfold fileStem
    split
    · exact hn
    · simp [hp, hn]
  have full : (if namePrefix.isEmpty then wrapperFileName name
      else namePrefix ++ "_" ++ wrapperFileName name).toList
        = (fileStem namePrefix name).toList ++ sourceSuffix := by
    unfold fileStem wrapperFileName
    split <;> simp [sourceSuffix]
  obtain ⟨base, lower, e⟩ :=
    exists_lowercaseAfter_append [] (fileStem namePrefix name).toList sourceSuffix
  refine ⟨base, lower, ?_⟩
  have ending : ∀ before, lowercaseAfter before sourceSuffix = sourceSuffix := fun before => by
    have forms : lowercaseChar '.' = ['.'] ∧ lowercaseChar 'g' = ['g']
        ∧ lowercaseChar 'o' = ['o'] := by
      decide
    simp [sourceSuffix, lowercaseAfter, forms]
  -- there is no dash to be replaced
  have whole : ∀ c ∈ base ++ sourceSuffix, (if c == '-' then '_' else c) = c := by
    intro c hc
    have other : c ≠ '-' := by
      rintro rfl
      rcases List.mem_append.1 hc with hc | hc
      · exact lower.not_mem (by decide) stem hc
      · exact absurd hc (by decide)
    rw [if_neg (by simpa using other)]
  rw [outputFileName, String.toList_ofList, lowercaseText, String.toList_ofList, full, e, ending]
  exact (List.map_congr_left whole).trans (List.map_id' _)

/-- Whatever name an interface has, and whatever name may stand in front, the file for it is read on
every platform exactly if what stands behind the last underscore of the two is, in lower case, no
tag. -/
theorem isVisible_outputFileName_iff {o : Options} {cwd : Path} {settings : EmitSettings}
    (accepted : o.settings cwd = .ok settings) {name : String} (h : isIdentifier name = true) :
    IsVisible (outputFileName wrapperFileName settings.namePrefix name)
      ↔ ∀ tag ∈ lastTag? (fileStem settings.namePrefix name),
        lowercaseText tag ∉ reservedTags := by
  have front : '-' ∉ settings.namePrefix.toList :=
    Options.not_mem_namePrefix (by decide) (Options.settings_ok accepted).2.2
  have bare : '-' ∉ name.toList := not_mem_of_isIdentifier (by decide) h
  obtain ⟨base, lower, file⟩ := exists_base_outputFileName front bare
  have some' : base ≠ [] := by
    refine lower.ne_nil ?_
    obtain ⟨c, letters, text, -⟩ := cons_of_isIdentifier h
    unfold fileStem
    split <;> simp [text]
  rw [isVisible_iff_base some' file, lastPiece?_lower_iff lower]
  simp [lastTag?]

/-- The options of a run with a prefix. -/
def prefixed (text : String) : Options :=
  ⟨[], none, none, false, [], some "mocks", some text, false⟩

/-- Most interfaces have such a file. -/
theorem isVisible_mock_store :
    (∃ settings, (prefixed "Mock").settings ⟨"/work"⟩ = .ok settings
      ∧ IsVisible (outputFileName wrapperFileName settings.namePrefix "Store"))
      ∧ isIdentifier "Store" = true := by
  have accepted : (prefixed "Mock").settings ⟨"/work"⟩
      = .ok ⟨.directory ⟨"/work"⟩, false, "mocks", some "Mock"⟩ := by decide +kernel
  have name : isIdentifier "Store" = true := by decide
  refine ⟨⟨_, accepted, (isVisible_outputFileName_iff accepted name).2 ?_⟩, name⟩
  decide +kernel

/-- With that prefix, the file for an interface `Test` is one of tests. -/
theorem not_isVisible_mock_test :
    ¬ ∀ (o : Options) (cwd : Path) (settings : EmitSettings), o.settings cwd = .ok settings →
      ∀ name, isIdentifier name = true → isExported name = true →
        IsVisible (outputFileName wrapperFileName settings.namePrefix name) := by
  intro all
  have accepted : (prefixed "Mock").settings ⟨"/work"⟩
      = .ok ⟨.directory ⟨"/work"⟩, false, "mocks", some "Mock"⟩ := by decide +kernel
  have visible := (all _ _ _ accepted "Test" (by decide) (by decide +kernel)).1
  exact absurd visible (by decide +kernel)

end WrapperGen
