import WrapperGen.Options
import WrapperGen.Output.Wrapper
import WrapperGen.Proofs.GuessedNames

/-!
# Names of generated files

The name of a file is made from the name of an interface: something is put in front and behind, and
the letters are made lower case.  None of that makes a slash, so the file stands in the directory
that it is meant for.

## Main results

* `not_mem_lowercaseAfter`: no letter has a slash, a dot, a dash, a digit or an underscore for its
  lower-case form.
* `slash_not_mem_outputFileName`: the name of the file for an interface has no slash.
-/

namespace WrapperGen

open Source

/-! ### Lower case -/

/-- A code comes from no step all of whose forms lie behind it. -/
theorem lowercaseCode_ne {steps : List (Nat × Nat × Nat × Int)} {n m : Nat}
    (h : ∀ step ∈ steps, (m : Int) < step.1 + step.2.2.2) (hn : n ≠ m) :
    lowercaseCode n steps ≠ m := by
  induction steps with
  | nil => exact hn
  | cons step rest ih =>
    obtain ⟨first, last, width, distance⟩ := step
    have far := h _ List.mem_cons_self
    have behind := ih fun other ho => h other (List.mem_cons_of_mem _ ho)
    unfold lowercaseCode
    by_cases before : n < first
    · rw [if_pos before]
      exact hn
    · rw [if_neg before]
      by_cases here : (n ≤ last && (n - first) % width == 0) = true
      · rw [if_pos here]
        dsimp only at far
        omega
      · rw [if_neg here]
        exact behind

theorem far_lowercaseSteps : ∀ step ∈ lowercaseSteps, (96 : Int) < step.1 + step.2.2.2 := by
  decide +kernel

/-- Whether a character stands in front of all lower-case letters, and is not the null
character. -/
def isInFront (c : Char) : Bool := decide (0 < c.toNat) && decide (c.toNat ≤ 96)

/-- No other character has such a one in its lower-case form. -/
theorem not_mem_lowercaseChar {c d : Char} (front : isInFront d = true) (h : c ≠ d) :
    d ∉ lowercaseChar c := by
  simp only [isInFront, Bool.and_eq_true, decide_eq_true_eq] at front
  unfold lowercaseChar
  by_cases dotted : (c == 'İ') = true
  · rw [if_pos dotted]
    intro hm
    simp only [List.mem_cons, List.not_mem_nil, or_false] at hm
    rcases hm with rfl | rfl
    · exact absurd front.2 (by decide)
    · exact absurd front.2 (by decide)
  · rw [if_neg dotted, List.mem_singleton]
    intro e
    have hn : c.toNat ≠ d.toNat := fun e => h (Char.toNat_inj.1 e)
    -- what is made lower case becomes no such character, since all lower-case forms are far from it
    have ne : lowercaseCode c.toNat lowercaseSteps ≠ d.toNat := by
      refine lowercaseCode_ne (fun step hs => ?_) hn
      have far := far_lowercaseSteps step hs
      omega
    have code : d.toNat = (Char.ofNat (lowercaseCode c.toNat lowercaseSteps)).toNat :=
      congrArg Char.toNat e
    -- a code that is no character stands for the null character
    by_cases valid : (lowercaseCode c.toNat lowercaseSteps).isValidChar
    · have made : Char.ofNat (lowercaseCode c.toNat lowercaseSteps) = Char.ofNatAux _ valid :=
        dif_pos valid
      rw [made] at code
      exact ne code.symm
    · have made : Char.ofNat (lowercaseCode c.toNat lowercaseSteps) = '\x00' := dif_neg valid
      rw [made] at code
      exact absurd code (Nat.ne_of_gt front.1)

theorem not_mem_lowercaseAfter {d : Char} (front : isInFront d = true) {before s : List Char}
    (h : d ∉ s) : d ∉ lowercaseAfter before s := by
  have sigma : d ≠ 'σ' ∧ d ≠ 'ς' := by
    refine ⟨?_, ?_⟩
    · rintro rfl
      exact absurd front (by decide)
    · rintro rfl
      exact absurd front (by decide)
  induction s generalizing before with
  | nil => exact h
  | cons c rest ih =>
    have first : c ≠ d := fun e => h (e ▸ List.mem_cons_self)
    have behind : d ∉ lowercaseAfter (c :: before) rest :=
      ih fun hm => h (List.mem_cons_of_mem c hm)
    rw [lowercaseAfter, List.mem_append]
    rintro (hm | hm)
    · split at hm
      · split at hm
        · exact sigma.2 (List.mem_singleton.1 hm)
        · exact sigma.1 (List.mem_singleton.1 hm)
      · exact not_mem_lowercaseChar front first hm
    · exact behind hm

theorem lowercaseChar_ne_nil (c : Char) : lowercaseChar c ≠ [] := by
  unfold lowercaseChar
  split <;> simp

theorem lowercaseAfter_ne_nil {before s : List Char} (h : s ≠ []) :
    lowercaseAfter before s ≠ [] := by
  cases s with
  | nil => exact absurd rfl h
  | cons c rest =>
    rw [lowercaseAfter]
    split
    · split <;> simp
    · simp [lowercaseChar_ne_nil]

/-! ### File names -/

theorem not_mem_of_isIdentifier {name : String} {c : Char} (other : isIdentRest c = false)
    (h : isIdentifier name = true) : c ∉ name.toList := by
  intro hm
  have inside := isIdentRest_of_isIdentifier h c hm
  rw [other] at inside
  cases inside

theorem slash_not_mem_of_isIdentifier {name : String} (h : isIdentifier name = true) :
    '/' ∉ name.toList :=
  not_mem_of_isIdentifier (by decide) h

theorem not_mem_of_isPlainName {name : String} {c : Char} (never : isPlainNameChar c = false)
    (h : isPlainName name = true) : c ∉ name.toList := by
  simp only [isPlainName, Bool.and_eq_true] at h
  intro hm
  have := List.all_eq_true.1 h.1.2 c hm
  rw [never] at this
  cases this

/-- Each part of the settings comes from the options. -/
theorem Options.parts_of_settings {o : Options} {cwd : Path} {settings : EmitSettings}
    (h : o.settings cwd = .ok settings) :
    o.target cwd = .ok settings.target ∧ settings.force = o.force
      ∧ o.packageName settings.target = .ok settings.packageName
      ∧ o.namePrefix = .ok settings.namePrefix? := by
  unfold Options.settings at h
  cases target : o.target cwd with
  | error cause =>
    rw [target] at h
    cases h
  | ok found =>
    rw [target] at h
    cases name : o.packageName found with
    | error cause =>
      simp only [bind, Except.bind, name] at h
      cases h
    | ok packageName =>
      cases front : o.namePrefix with
      | error cause =>
        simp only [bind, Except.bind, name, front] at h
        cases h
      | ok namePrefix =>
        simp only [bind, Except.bind, name, front] at h
        obtain rfl := Except.ok.inj h
        exact ⟨rfl, rfl, name, rfl⟩

theorem Options.settings_ok {o : Options} {cwd : Path} {settings : EmitSettings}
    (h : o.settings cwd = .ok settings) :
    o.target cwd = .ok settings.target ∧ settings.force = o.force
      ∧ o.namePrefix = .ok settings.namePrefix? := by
  obtain ⟨target, force, -, namePrefix⟩ := Options.parts_of_settings h
  exact ⟨target, force, namePrefix⟩

/-- The name of the package is the one that was asked for, or else that of the directory, and it is
a plain name. -/
theorem Options.packageName_eq_ok_iff {o : Options} {target : OutputTarget} {name : String} :
    o.packageName target = .ok name
      ↔ (o.packageName?.orElse fun _ => target.packageName?) = some name
        ∧ isPlainName name = true := by
  unfold packageName
  cases o.packageName?.orElse fun _ => target.packageName? with
  | none => simp
  | some found =>
    dsimp only
    by_cases plain : isPlainName found = true
    · rw [if_pos plain, Except.ok.injEq, Option.some.injEq]
      exact ⟨fun e => ⟨e, e ▸ plain⟩, fun h => h.1⟩
    · rw [if_neg plain, Option.some.injEq]
      constructor
      · intro h
        cases h
      · rintro ⟨rfl, h⟩
        exact absurd h plain

/-- What stands in front of the names of types is a plain name. -/
theorem Options.isPlainName_of_namePrefix {o : Options} {namePrefix? : Option String}
    (h : o.namePrefix = .ok namePrefix?) : ∀ text ∈ namePrefix?, isPlainName text = true := by
  unfold namePrefix at h
  split at h
  · obtain rfl := Except.ok.inj h
    exact nofun
  · split at h
    · obtain rfl := Except.ok.inj h
      exact nofun
    · split at h
      · next plain =>
        obtain rfl := Except.ok.inj h
        rintro _ ⟨⟩
        exact plain
      · cases h

theorem Options.not_mem_namePrefix {o : Options} {namePrefix? : Option String} {c : Char}
    (never : isPlainNameChar c = false) (h : o.namePrefix = .ok namePrefix?) :
    c ∉ (namePrefix?.getD "").toList := by
  cases namePrefix? with
  | none => exact List.not_mem_nil
  | some text => exact not_mem_of_isPlainName never (isPlainName_of_namePrefix h text rfl)

/-- The name of a file is full and has no slash, as long as what it is made from has none. -/
theorem slash_not_mem_outputFileName {fileName : String → String}
    {namePrefix interfaceName : String}
    (hf : '/' ∉ (fileName interfaceName).toList) (some' : (fileName interfaceName).toList ≠ [])
    (hp : '/' ∉ namePrefix.toList) :
    '/' ∉ (outputFileName fileName namePrefix interfaceName).toList
      ∧ (outputFileName fileName namePrefix interfaceName).toList ≠ [] := by
  -- the prefix is put in front before the text is made lower case, so both names are of one form
  have full : ∀ text : String, '/' ∉ text.toList → text.toList ≠ [] →
      '/' ∉ ((lowercaseText text).toList.map fun c => if c == '-' then '_' else c)
        ∧ ((lowercaseText text).toList.map fun c => if c == '-' then '_' else c) ≠ [] := by
    intro text slash filled
    rw [lowercaseText, String.toList_ofList]
    constructor
    · intro hm
      obtain ⟨c, hc, e⟩ := List.mem_map.1 hm
      by_cases dash : (c == '-') = true
      · rw [if_pos dash] at e
        exact absurd e (by decide)
      · rw [if_neg dash] at e
        exact not_mem_lowercaseAfter (by decide) slash (e ▸ hc)
    · simpa using lowercaseAfter_ne_nil filled
  unfold outputFileName
  rw [String.toList_ofList]
  by_cases bare : namePrefix.isEmpty = true
  · rw [if_pos bare]
    exact full _ hf some'
  · rw [if_neg bare]
    refine full _ ?_ ?_
    · simpa [hf] using hp
    · simp

theorem slash_not_mem_wrapperFileName {interfaceName : String}
    (h : isIdentifier interfaceName = true) :
    '/' ∉ (wrapperFileName interfaceName).toList ∧ (wrapperFileName interfaceName).toList ≠ [] := by
  have bare := slash_not_mem_of_isIdentifier h
  constructor
  · simpa [wrapperFileName] using bare
  · simp [wrapperFileName]

end WrapperGen
