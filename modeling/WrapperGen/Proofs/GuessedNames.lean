import Mathlib.Data.List.Chain
import Mathlib.Data.List.TakeWhile
import WrapperGen.Output.Draft
import WrapperGen.Proofs.AliasStability

/-!
# Guessed names

The alias of a package is made of the name that its path suggests, so it is an identifier whenever
the path consists of the usual characters.  A path suggests its last segment, unless that is a
major version or holds more than a name.

## Main definitions

* `isPathChar`: the usual characters of import paths.
* `IsGuessable`: texts that a path may suggest.

## Main results

* `isIdentifier_candidate`: aliases are identifiers.
* `guessPackageName_of_lastSegment`: a path suggests its last segment.
* `candidate_of_lastSegment`: an alias that is the last segment, and not what the path suggests, is
  numbered.
-/

namespace WrapperGen

open Source

/-! ### Characters of identifiers -/

theorem exists_range_of_inRanges {n : Nat} {ranges : List (Nat × Nat)}
    (h : inRanges n ranges = true) : ∃ range ∈ ranges, range.1 ≤ n ∧ n ≤ range.2 := by
  induction ranges with
  | nil => cases h
  | cons range ranges ih =>
    rw [inRanges] at h
    split at h
    · cases h
    · next low =>
      rw [Bool.or_eq_true, decide_eq_true_eq] at h
      rcases h with here | there
      · exact ⟨range, List.mem_cons_self, Nat.not_lt.1 low, here⟩
      · obtain ⟨other, mem, inside⟩ := ih there
        exact ⟨other, List.mem_cons_of_mem range mem, inside⟩

theorem inRanges_of_mem {n : Nat} {range : Nat × Nat} {ranges : List (Nat × Nat)}
    (sorted : ranges.Pairwise fun a b => a.1 ≤ b.1) (h : range ∈ ranges) (low : range.1 ≤ n)
    (high : n ≤ range.2) : inRanges n ranges = true := by
  induction ranges with
  | nil => cases h
  | cons first ranges ih =>
    obtain ⟨least, sorted⟩ := List.pairwise_cons.1 sorted
    rw [inRanges]
    rcases List.mem_cons.1 h with rfl | there
    · rw [if_neg (Nat.not_lt.2 low), decide_eq_true high, Bool.true_or]
    · have above : ¬ n < first.1 := Nat.not_lt.2 (Nat.le_trans (least range there) low)
      rw [if_neg above, ih sorted there, Bool.or_true]

theorem isChain_wordRestRanges :
    List.IsChain (fun a b : Nat × Nat => a.1 ≤ b.1) wordRestRanges := by
  decide +kernel

theorem pairwise_wordRestRanges : wordRestRanges.Pairwise fun a b => a.1 ≤ b.1 := by
  have order : IsTrans (Nat × Nat) fun a b => a.1 ≤ b.1 := ⟨fun _ _ _ => Nat.le_trans⟩
  exact List.isChain_iff_pairwise.1 isChain_wordRestRanges

/-- Whether a range lies in another one. -/
def isWithin (outer inner : Nat × Nat) : Bool := outer.1.ble inner.1 && inner.2.ble outer.2

/-- What is left of some ranges without those that lie in one of the others.  Both lists are in
increasing order, so it is enough to go through them once. -/
def uncovered (inner outer : List (Nat × Nat)) : List (Nat × Nat) :=
  outer.foldl (fun left range => left.dropWhile (isWithin range)) inner

theorem exists_isWithin {inner outer : List (Nat × Nat)} (h : uncovered inner outer = [])
    {range : Nat × Nat} (hr : range ∈ inner) : ∃ other ∈ outer, isWithin other range = true := by
  induction outer generalizing inner with
  | nil =>
    rw [show inner = [] from h] at hr
    cases hr
  | cons other outer ih =>
    rw [← List.takeWhile_append_dropWhile (p := isWithin other) (l := inner)] at hr
    rcases List.mem_append.1 hr with hr | hr
    · exact ⟨other, List.mem_cons_self, List.mem_takeWhile_imp hr⟩
    · obtain ⟨later, mem, within⟩ := ih h hr
      exact ⟨later, List.mem_cons_of_mem other mem, within⟩

theorem uncovered_wordStartRanges : uncovered wordStartRanges wordRestRanges = [] := by
  decide +kernel

theorem isIdentRest_underscore : isIdentRest '_' = true := by decide

/-- What may begin an identifier may stand inside of it. -/
theorem isIdentRest_of_isIdentStart {c : Char} (h : isIdentStart c = true) :
    isIdentRest c = true := by
  rw [isIdentStart, Bool.or_eq_true, beq_iff_eq] at h
  rcases h with rfl | h
  · exact isIdentRest_underscore
  · obtain ⟨range, mem, low, high⟩ := exists_range_of_inRanges h
    obtain ⟨other, mem', within⟩ := exists_isWithin uncovered_wordStartRanges mem
    rw [isWithin, Bool.and_eq_true, Nat.ble_eq, Nat.ble_eq] at within
    obtain ⟨low', high'⟩ := within
    exact inRanges_of_mem pairwise_wordRestRanges mem' (Nat.le_trans low' low)
      (Nat.le_trans high high')

/-- All characters of an identifier may stand inside of one. -/
theorem isIdentRest_of_isIdentifier {name : String} (h : isIdentifier name = true) :
    ∀ c ∈ name.toList, isIdentRest c = true := by
  obtain ⟨c, letters, text, start, rest⟩ := cons_of_isIdentifier h
  rw [text, List.forall_mem_cons]
  exact ⟨isIdentRest_of_isIdentStart start, rest⟩

theorem isIdentRest_of_isDigit {c : Char} (h : c.isDigit = true) : isIdentRest c = true := by
  have all : ∀ n ∈ List.range' 48 10, inRanges n wordRestRanges = true := by decide
  exact all c.toNat (mem_digitCodes h)

theorem isIdentRest_pkg : ∀ c ∈ ['p', 'k', 'g'], isIdentRest c = true :=
  List.forall_iff_forall_mem.1 (by decide)

theorem isPackageNameChar_of_isDigit {c : Char} (h : c.isDigit = true) :
    isPackageNameChar c = true := by
  have all : ∀ n ∈ List.range' 48 10, inRanges n alphanumericRanges = true := by decide
  rw [isPackageNameChar, isAlphanumeric, all c.toNat (mem_digitCodes h), Bool.true_or]

/-! ### What a path suggests -/

/-- Letters, digits and underscores, with no digit in front. -/
def IsGuessable (s : List Char) : Prop :=
  (∀ c ∈ s, isPackageNameChar c = true) ∧ ∀ c ∈ s.head?, c.isDigit = false

theorem IsGuessable.append {s t : List Char} (h : IsGuessable s) (some' : s ≠ [])
    (ht : ∀ c ∈ t, isPackageNameChar c = true) : IsGuessable (s ++ t) := by
  refine ⟨fun c hc => ?_, ?_⟩
  · rcases List.mem_append.1 hc with hc | hc
    · exact h.1 c hc
    · exact ht c hc
  · rw [List.head?_append_of_ne_nil s some']
    exact h.2

theorem isGuessable_guessedLetters (path : String) : IsGuessable (guessedLetters path) := by
  constructor
  · intro c hc
    exact List.mem_takeWhile_imp ((List.dropWhile_sublist _).subset hc)
  · intro c hc
    rw [guessedLetters] at hc
    generalize (dropDecorations _).takeWhile _ = name at hc
    have stopped := List.head?_dropWhile_not Char.isDigit name
    rw [hc] at stopped
    simpa using stopped

theorem isPackageNameChar_pkg : ∀ c ∈ ['p', 'k', 'g'], isPackageNameChar c = true :=
  List.forall_iff_forall_mem.1 (by decide)

theorem isGuessable_guess (path : String) : IsGuessable (guessPackageName path).toList := by
  have letters := isGuessable_guessedLetters path
  unfold guessPackageName
  split
  · refine ⟨isPackageNameChar_pkg, fun c hc => ?_⟩
    obtain rfl := Option.some.inj hc
    rfl
  · rwa [String.toList_ofList]

theorem toList_ne_nil {text : String} (h : text ≠ "") : text.toList ≠ [] :=
  fun nil => h (String.toList_injective nil)

theorem isGuessable_candidate (path : String) (n : Nat) :
    IsGuessable (aliasCandidate (aliasBase path) n).toList := by
  have base : IsGuessable (aliasBase path).toList := by
    have guess := isGuessable_guess path
    unfold aliasBase
    dsimp only
    split
    · rw [String.toList_append]
      exact guess.append (toList_ne_nil (guessPackageName_ne_empty path)) isPackageNameChar_pkg
    · exact guess
  cases n with
  | zero => exact base
  | succ n =>
    rw [aliasCandidate, String.toList_append, Nat.toString_eq_ofList_toDigits, String.toList_ofList]
    refine base.append (toList_ne_nil (aliasBase_ne_empty path)) fun c hc => ?_
    exact isPackageNameChar_of_isDigit (isDigit_of_mem_toDigits c hc)

/-! ### Plain paths -/

/-- The usual characters of import paths: letters, digits, some punctuation, and the slash between
segments. -/
def isPathChar (c : Char) : Bool :=
  (isIdentStart c && isAlphanumeric c) || c.isDigit || ['-', '.', '_', '~', '/'].contains c

theorem mem_of_mem_splitOn {sep c : Char} {s piece : List Char}
    (h : piece ∈ List.splitOn sep s) (hc : c ∈ piece) : c ∈ s := by
  have joined : [sep].intercalate (List.splitOn sep s) = s := List.intercalate_splitOn sep
  rw [← joined]
  generalize List.splitOn sep s = pieces at h
  induction pieces with
  | nil => cases h
  | cons first rest ih =>
    cases rest with
    | nil => rwa [List.intercalate_singleton, ← List.mem_singleton.1 h]
    | cons next more =>
      rw [List.intercalate_cons_cons, List.append_assoc]
      rcases List.mem_cons.1 h with rfl | h
      · exact List.mem_append_left _ hc
      · exact List.mem_append_right _ (List.mem_append_right _ (ih h))

theorem mem_of_mem_namingSegment {c : Char} {path : String} (h : c ∈ namingSegment path) :
    c ∈ path.toList := by
  have segment : ∀ s ∈ (slashSegments path).reverse.map String.toList, ∀ d ∈ s,
      d ∈ path.toList := by
    intro s hs d hd
    obtain ⟨text, ht, rfl⟩ := List.mem_map.1 hs
    obtain ⟨piece, hp, rfl⟩ := List.mem_map.1 (List.mem_reverse.1 ht)
    rw [String.toList_ofList] at hd
    exact mem_of_mem_splitOn (List.mem_filter.1 hp).1 hd
  unfold namingSegment at h
  split at h
  · cases h
  · next only e => exact segment only (e ▸ List.mem_cons_self) c h
  · next last above rest e =>
    split at h
    · exact segment above (e ▸ List.mem_cons_of_mem last List.mem_cons_self) c h
    · exact segment last (e ▸ List.mem_cons_self) c h

theorem mem_of_mem_dropDotVersion {c : Char} {s : List Char} (h : c ∈ dropDotVersion s) :
    c ∈ s := by
  unfold dropDotVersion at h
  dsimp only at h
  split at h
  · next rest version =>
    have behind : c ∈ s.reverse.dropWhile Char.isDigit := by
      rw [version]
      exact List.mem_cons_of_mem _ (List.mem_cons_of_mem _ (List.mem_reverse.1 h))
    exact List.mem_reverse.1 ((List.dropWhile_sublist _).subset behind)
  · exact h

theorem mem_of_mem_isPrefixOf? {c : Char} {start s : List Char}
    (h : c ∈ (start.isPrefixOf? s).getD s) : c ∈ s := by
  cases found : start.isPrefixOf? s with
  | none => rwa [found] at h
  | some rest =>
    rw [found] at h
    rw [← List.append_eq_of_isPrefixOf?_eq_some found]
    exact List.mem_append_right start h

theorem mem_of_mem_isSuffixOf? {c : Char} {finish s : List Char}
    (h : c ∈ (finish.isSuffixOf? s).getD s) : c ∈ s := by
  cases found : finish.isSuffixOf? s with
  | none => rwa [found] at h
  | some rest =>
    rw [found] at h
    rw [← List.append_eq_of_isSuffixOf?_eq_some found]
    exact List.mem_append_left finish h

/-- A path holds all letters of the name that it suggests. -/
theorem mem_of_mem_guessedLetters {c : Char} {path : String} (h : c ∈ guessedLetters path) :
    c ∈ path.toList := by
  unfold guessedLetters at h
  have taken := (List.takeWhile_sublist _).subset ((List.dropWhile_sublist _).subset h)
  unfold dropDecorations at taken
  have front := mem_of_mem_isSuffixOf? taken
  exact mem_of_mem_namingSegment (mem_of_mem_dropDotVersion (mem_of_mem_isPrefixOf? front))

theorem isIdentifier_append {name : String} {tail : List Char} (h : isIdentifier name = true)
    (ht : ∀ c ∈ tail, isIdentRest c = true) : isIdentifier (name ++ String.ofList tail) = true := by
  obtain ⟨c, letters, e, hc, hl⟩ := cons_of_isIdentifier h
  rw [isIdentifier, String.toList_append, String.toList_ofList, e, List.cons_append]
  dsimp only
  rw [hc, Bool.true_and, List.all_eq_true]
  intro d hd
  rcases List.mem_append.1 hd with hd | hd
  · exact hl d hd
  · exact ht d hd

/-- A path of the usual characters suggests an identifier. -/
theorem isIdentifier_guess {path : String} (h : path.toList.all isPathChar = true) :
    isIdentifier (guessPackageName path) = true := by
  rw [List.all_eq_true] at h
  have letter : ∀ c ∈ guessedLetters path, (isIdentStart c = true ∨ c.isDigit = true) := by
    intro c hc
    have usual := h c (mem_of_mem_guessedLetters hc)
    have word := (isGuessable_guessedLetters path).1 c hc
    rw [isPathChar, Bool.or_eq_true, Bool.or_eq_true, Bool.and_eq_true] at usual
    rcases usual with (⟨start, -⟩ | digit) | mark
    · exact .inl start
    · exact .inr digit
    · -- of the punctuation, only the underscore may stand in a name
      have marks : ∀ d ∈ ['-', '.', '_', '~', '/'], isPackageNameChar d = true →
          isIdentStart d = true := List.forall_iff_forall_mem.1 (by decide)
      exact .inl (marks c (by simpa using mark) word)
  unfold guessPackageName
  split
  · decide
  · next some' =>
    obtain ⟨c, rest, e⟩ := List.exists_cons_of_ne_nil some'
    have first : c.isDigit = false :=
      (isGuessable_guessedLetters path).2 c (by rw [e]; rfl)
    have start := (letter c (by rw [e]; exact List.mem_cons_self)).resolve_right (by simp [first])
    rw [isIdentifier, String.toList_ofList, e]
    dsimp only
    rw [start, Bool.true_and, List.all_eq_true]
    intro d hd
    rcases letter d (by rw [e]; exact List.mem_cons_of_mem c hd) with start | digit
    · exact isIdentRest_of_isIdentStart start
    · exact isIdentRest_of_isDigit digit

/-- The aliases that a path of the usual characters may get are identifiers. -/
theorem isIdentifier_candidate {path : String} (h : path.toList.all isPathChar = true) (n : Nat) :
    isIdentifier (aliasCandidate (aliasBase path) n) = true := by
  have base : isIdentifier (aliasBase path) = true := by
    unfold aliasBase
    dsimp only
    split
    · exact isIdentifier_append (isIdentifier_guess h) isIdentRest_pkg
    · exact isIdentifier_guess h
  cases n with
  | zero => exact base
  | succ n =>
    rw [aliasCandidate, Nat.toString_eq_ofList_toDigits]
    exact isIdentifier_append base fun c hc => isIdentRest_of_isDigit (isDigit_of_mem_toDigits c hc)

/-- An alias is not the underscore, unless a path suggests that. -/
theorem candidate_ne_blank {path : String} (h : guessPackageName path ≠ "_") (n : Nat) :
    aliasCandidate (aliasBase path) n ≠ "_" := by
  have base : aliasBase path ≠ "_" := by
    unfold aliasBase
    dsimp only
    split
    · intro e
      have lengths := congrArg (fun s => s.toList.length) e
      rw [String.toList_append, List.length_append] at lengths
      have pkg : "pkg".toList.length = 3 := rfl
      have one : "_".toList.length = 1 := rfl
      omega
    · exact h
  exact aliasCandidate_ne_of_length (aliasBase_ne_empty path) base rfl n

/-! ### The last segment -/

theorem dropDotVersion_of_not_mem {s : List Char} (h : '.' ∉ s) : dropDotVersion s = s := by
  unfold dropDotVersion
  dsimp only
  split
  · next rest version =>
    -- the point in front of the version would be in the segment
    have point : '.' ∈ s.reverse :=
      (List.dropWhile_sublist _).subset (version ▸ List.mem_cons_of_mem _ List.mem_cons_self)
    exact absurd (List.mem_reverse.1 point) h
  · rfl

theorem isPrefixOf?_of_not_mem {c : Char} {start s : List Char} (mem : c ∈ start) (h : c ∉ s) :
    start.isPrefixOf? s = none := by
  cases found : start.isPrefixOf? s with
  | none => rfl
  | some rest =>
    rw [← List.append_eq_of_isPrefixOf?_eq_some found] at h
    exact absurd (List.mem_append_left rest mem) h

theorem dropDecorations_of_not_mem {s : List Char} (h : '-' ∉ s) : dropDecorations s = s := by
  have front : ['g', 'o', '-'].isPrefixOf? s = none :=
    isPrefixOf?_of_not_mem (c := '-') (by decide) h
  have back : ['-', 'g', 'o'].isSuffixOf? s = none := by
    rw [List.isSuffixOf?, isPrefixOf?_of_not_mem (c := '-') (by decide) (by simpa using h)]
    rfl
  rw [dropDecorations, front]
  dsimp only [Option.getD]
  rw [back]

/-- Nothing is cut off a text that is a name already. -/
theorem guess_of_namingSegment {path : String} (h : IsGuessable (namingSegment path))
    (some' : namingSegment path ≠ []) :
    guessPackageName path = String.ofList (namingSegment path) := by
  have point : '.' ∉ namingSegment path := fun mem =>
    absurd (h.1 _ mem) (by decide)
  have dash : '-' ∉ namingSegment path := fun mem =>
    absurd (h.1 _ mem) (by decide)
  have letters : guessedLetters path = namingSegment path := by
    rw [guessedLetters, dropDotVersion_of_not_mem point, dropDecorations_of_not_mem dash,
      List.takeWhile_eq_self_iff.2 h.1]
    cases e : namingSegment path with
    | nil => rfl
    | cons c rest =>
      have first := h.2 c (by rw [e]; rfl)
      exact List.dropWhile_cons_of_neg (by simp [first])
  unfold guessPackageName
  rw [letters]
  split
  · next nil => exact absurd nil some'
  · rfl

/-- The last segment names the package, unless it is a major version. -/
theorem namingSegment_of_getLast? {path : String} {last : List Char}
    (h : (List.splitOn '/' path.toList).getLast? = some last) (some' : last ≠ []) :
    namingSegment path = last ∨ isMajorVersion last = true := by
  obtain ⟨front, e⟩ := List.getLast?_eq_some_iff.1 h
  have backwards : (slashSegments path).reverse.map String.toList
      = last :: (front.filter (!·.isEmpty)).reverse := by
    have full : [last].filter (!·.isEmpty) = [last] := by simpa using some'
    rw [slashSegments, e, List.filter_append, full, List.map_append, List.reverse_append,
      List.map_append]
    simp [← List.map_reverse]
  unfold namingSegment
  rw [backwards]
  cases (front.filter (!·.isEmpty)).reverse with
  | nil => exact .inl rfl
  | cons above rest =>
    by_cases version : isMajorVersion last = true
    · exact .inr version
    · exact .inl (if_neg version)

/-- A path suggests its last segment if that is a name, but not a major version. -/
theorem guessPackageName_of_lastSegment {path : String}
    (h : IsGuessable (Draft.lastSegment path).toList) (some' : Draft.lastSegment path ≠ "") :
    guessPackageName path = Draft.lastSegment path
      ∨ isMajorVersion (Draft.lastSegment path).toList = true := by
  obtain ⟨last, found⟩ : ∃ last, (List.splitOn '/' path.toList).getLast? = some last :=
    Option.isSome_iff_exists.1 (by simp)
  have segment : Draft.lastSegment path = String.ofList last := by
    rw [Draft.lastSegment, found]
    rfl
  rw [segment, String.toList_ofList] at h
  rw [segment, String.toList_ofList]
  have full : last ≠ [] := by
    rintro rfl
    exact some' (segment.trans rfl)
  rcases namingSegment_of_getLast? found full with naming | version
  · left
    rw [guess_of_namingSegment (naming ▸ h) (naming ▸ full), naming]
  · exact .inr version

theorem eq_or_isDigit_of_isMajorVersion {s : List Char} (h : isMajorVersion s = true) :
    ∀ c ∈ s, c = 'v' ∨ c.isDigit = true := by
  unfold isMajorVersion at h
  split at h
  · next digits =>
    rw [Bool.and_eq_true, List.all_eq_true] at h
    intro c hc
    exact (List.mem_cons.1 hc).imp_right (h.2 c)
  · cases h

/-- An alias that is the last segment of its path, while the path suggests another name, has a
number behind that other name, and so the last segment is a major version. -/
theorem candidate_of_lastSegment {path : String} {n : Nat}
    (h : Draft.lastSegment path = aliasCandidate (aliasBase path) n)
    (other : guessPackageName path ≠ Draft.lastSegment path) :
    isMajorVersion (Draft.lastSegment path).toList = true
      ∧ ∃ n, Draft.lastSegment path = aliasCandidate (guessPackageName path) (n + 1) := by
  have guessable : IsGuessable (Draft.lastSegment path).toList := by
    rw [h]
    exact isGuessable_candidate path n
  have some' : Draft.lastSegment path ≠ "" := by
    rw [h]
    exact aliasCandidate_ne_empty path n
  have version := (guessPackageName_of_lastSegment guessable some').resolve_left other
  have base : aliasBase path = guessPackageName path := by
    unfold aliasBase
    dsimp only
    split
    · next reserved =>
      -- a major version holds no `p`
      have letter : 'p' ∈ (Draft.lastSegment path).toList := by
        have inside : 'p' ∈ (aliasBase path).toList := by
          unfold aliasBase
          dsimp only
          rw [if_pos reserved, String.toList_append]
          exact List.mem_append_right _ (by decide)
        rw [h]
        cases n with
        | zero => exact inside
        | succ n =>
          rw [aliasCandidate, String.toList_append]
          exact List.mem_append_left _ inside
      exact absurd (eq_or_isDigit_of_isMajorVersion version 'p' letter) (by decide)
    · rfl
  rw [base] at h
  refine ⟨version, ?_⟩
  cases n with
  | zero => exact absurd (h.trans (aliasCandidate_zero _)).symm other
  | succ n => exact ⟨n, h⟩

end WrapperGen
