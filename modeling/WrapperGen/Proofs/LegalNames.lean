import WrapperGen.Proofs.DeclaredNames
import WrapperGen.Proofs.HeaderComments
import WrapperGen.Proofs.TypePieces

/-!
# Names that the source language allows

A name may be declared if it is an identifier and no reserved word.  The names of a wrapper and of
the function that makes one are such names: they are put together from a plain prefix, the name of
an interface and the word `Wrapper`, whose capital no reserved word has.  The name of the package is
checked to be plain, and so it is an identifier.  But each reserved word is a plain name too, and
nothing else is checked.

## Main results

* `isIdentifier_of_isPlainName`: plain names are identifiers.
* `isFreeName_wrapperName`, `isFreeName_constructor`: the names of a wrapper.
* `Emitter.legal_names_iff`: when all names in a file may be declared.
* `Options.settings_reserved`: a package whose name is reserved.
-/

namespace WrapperGen

open Source

/-! ### Names -/

theorem isIdentStart_of_isAlpha {c : Char} (h : c.isAlpha = true) : isIdentStart c = true := by
  have all : ∀ n ∈ List.range' 65 26 ++ List.range' 97 26,
      (n == 95 || inRanges n wordStartRanges) = true := by
    decide
  rw [isIdentStart_eq]
  exact all c.toNat (mem_alphaCodes h)

/-- A plain name is an identifier. -/
theorem isIdentifier_of_isPlainName {name : String} (h : isPlainName name = true) :
    isIdentifier name = true := by
  have rest := isIdentRest_of_isPlainName h
  simp only [isPlainName, Bool.and_eq_true] at h
  unfold isIdentifier
  cases text : name.toList with
  | nil =>
    rw [text] at h
    simp at h
  | cons c letters =>
    rw [text] at h rest
    have first : c.isAlpha = true := by simpa using h.1.1
    dsimp only
    rw [isIdentStart_of_isAlpha first, Bool.true_and, List.all_eq_true]
    exact fun d hd => rest d (List.mem_cons_of_mem c hd)

/-- No reserved word has that capital in it. -/
theorem isKeyword_of_capital {name : String} (h : 'W' ∈ name.toList) : isKeyword name = false := by
  have none' : ∀ word ∈ keywords, 'W' ∉ word.toList := by decide +kernel
  rw [isKeyword, Bool.eq_false_iff]
  intro reserved
  exact none' name (List.contains_iff_mem.1 reserved) h

/-! ### Wrappers -/

section Wrapper

variable {o : Options} {namePrefix? : Option String} {i : Interface}

/-- With an accepted prefix in front, an identifier is one still. -/
theorem isIdentifier_prefixed (accepted : o.namePrefix = .ok namePrefix?) {name : String}
    (h : isIdentifier name = true) : isIdentifier (namePrefix?.getD "" ++ name) = true := by
  cases given : namePrefix? with
  | none => simpa using h
  | some front =>
    have plain : isPlainName front = true :=
      Options.isPlainName_of_namePrefix accepted front given
    have more := isIdentifier_append (isIdentifier_of_isPlainName plain)
      (isIdentRest_of_isIdentifier h)
    rwa [String.ofList_toList] at more

/-- The name of a wrapper may be declared. -/
theorem isFreeName_wrapperName (accepted : o.namePrefix = .ok namePrefix?)
    (named : isIdentifier i.name = true) :
    isFreeName (wrapperName (namePrefix?.getD "") i) = true := by
  have letters := List.all_eq_true.1 (show "Wrapper".toList.all isIdentRest = true by decide)
  have name := isIdentifier_append (isIdentifier_prefixed accepted named) letters
  rw [String.ofList_toList] at name
  have capital : 'W' ∈ (wrapperName (namePrefix?.getD "") i).toList := by simp [wrapperName]
  rw [isFreeName, isKeyword_of_capital capital]
  simpa [wrapperName] using name

/-- The name of the function that makes a wrapper may be declared. -/
theorem isFreeName_constructor (accepted : o.namePrefix = .ok namePrefix?)
    (named : isIdentifier i.name = true) :
    isFreeName ("New" ++ wrapperName (namePrefix?.getD "") i) = true := by
  obtain ⟨-, letters⟩ := isLetters_wrapperName (isIdentRest_of_namePrefix accepted) named
  have name := isIdentifier_append (show isIdentifier "New" = true by decide) letters
  rw [String.ofList_toList] at name
  have capital : 'W' ∈ ("New" ++ wrapperName (namePrefix?.getD "") i).toList := by
    simp [wrapperName]
  rw [isFreeName, isKeyword_of_capital capital, name]
  rfl

end Wrapper

/-! ### Files -/

namespace Emitter

variable {e : Emitter} {interfaces : List Interface}

/-- A file of wrappers has the package name that was asked for, or else that of its directory, and
declares the names of the wrappers and of the functions that make them.  All of these are
identifiers, and all of them may be declared exactly if the name of the package is not reserved. -/
theorem legal_names_iff {o : Options} {cwd : Path} (accepted : o.settings cwd = .ok e.settings)
    (wrappers : e.generate = writeWrapper)
    (named : ∀ i ∈ interfaces, isIdentifier i.name = true) (look : Nat) :
    (e.draft look interfaces).packageName = e.settings.packageName
      ∧ (o.packageName?.orElse fun _ => e.settings.target.packageName?)
        = some e.settings.packageName
      ∧ (e.draft look interfaces).declaredNames = interfaces.flatMap e.namesFor
      ∧ (∀ name ∈ (e.draft look interfaces).declaredNames, isFreeName name = true)
      ∧ isIdentifier e.settings.packageName = true
      ∧ ((∀ name ∈ (e.draft look interfaces).packageName :: (e.draft look interfaces).declaredNames,
          isFreeName name = true)
        ↔ isKeyword e.settings.packageName = false) := by
  obtain ⟨-, -, given, front⟩ := Options.parts_of_settings accepted
  obtain ⟨asked, plain⟩ := Options.packageName_eq_ok_iff.1 given
  have package : isIdentifier e.settings.packageName = true := isIdentifier_of_isPlainName plain
  have clause : (e.draft look interfaces).packageName = e.settings.packageName :=
    (top_draft (wrappers ▸ keepsTop_writeWrapper) interfaces).1
  have declared : (e.draft look interfaces).declaredNames = interfaces.flatMap e.namesFor :=
    declaredNames_draft wrappers fun i hi =>
      isLetters_wrapperName (isIdentRest_of_namePrefix front) (named i hi)
  -- both declared names hold a capital letter, which no keyword does
  have free : ∀ name ∈ (e.draft look interfaces).declaredNames, isFreeName name = true := by
    intro name hn
    rw [declared] at hn
    obtain ⟨i, hi, hn⟩ := List.mem_flatMap.1 hn
    rcases List.mem_cons.1 hn with rfl | hn
    · exact isFreeName_wrapperName front (named i hi)
    · rw [List.mem_singleton.1 hn]
      exact isFreeName_constructor front (named i hi)
  refine ⟨clause, asked, declared, free, package, ?_⟩
  rw [List.forall_mem_cons, and_iff_left free, clause, isFreeName, package, Bool.true_and,
    Bool.not_eq_true']

/-- The package is named after its directory, and the wrapper has a prefix. -/
theorem legal_names_mocks :
    ({ Options.printing with
        file? := none, dir? := some ⟨"../mocks/."⟩, packageName? := none,
        namePrefix? := some "Mock" } : Options).settings ⟨"/work/api"⟩
        = .ok ⟨.directory ⟨"/work/mocks"⟩, false, "mocks", some "Mock"⟩
      ∧ isIdentifier "Store" = true
      ∧ ∀ name ∈ ["mocks", "MockStoreWrapper", "NewMockStoreWrapper"], isFreeName name = true := by
  have accepted : ({ Options.printing with
        file? := none, dir? := some ⟨"../mocks/."⟩, packageName? := none,
        namePrefix? := some "Mock" } : Options).settings ⟨"/work/api"⟩
      = .ok ⟨.directory ⟨"/work/mocks"⟩, false, "mocks", some "Mock"⟩ := by decide +kernel
  have named : ∀ i ∈ [(⟨"Store", "a", []⟩ : Interface)], isIdentifier i.name = true := by decide
  have legal := legal_names_iff
    (e := { runBy ⟨"wrap", "1", []⟩ with
      settings := ⟨.directory ⟨"/work/mocks"⟩, false, "mocks", some "Mock"⟩ })
    accepted rfl named 0
  refine ⟨accepted, by decide, ?_⟩
  have all := legal.2.2.2.2.2.2 (by decide)
  rwa [legal.1, legal.2.2.1] at all

end Emitter

/-- A reserved word passes all checks, whether it is asked for or the name of the directory. -/
theorem Options.settings_reserved :
    isKeyword "func" = true
      ∧ ({ Options.printing with packageName? := some "func" } : Options).settings ⟨"/work"⟩
        = .ok ⟨.stream, false, "func", none⟩
      ∧ ({ Options.printing with file? := none, packageName? := none } : Options).settings
          ⟨"/work/go"⟩
        = .ok ⟨.directory ⟨"/work/go"⟩, false, "go", none⟩
      ∧ isKeyword "go" = true := by
  decide +kernel

end WrapperGen
