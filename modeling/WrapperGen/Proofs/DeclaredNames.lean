import WrapperGen.Proofs.GuessedNames
import WrapperGen.Proofs.ListedNames

/-!
# Names that generated code declares

A wrapper declares two names for an interface: that of the structure, and that of the function that
makes one, which has `New` in front.  All names of one run stand in one package.  They are distinct
exactly if the interfaces have distinct names and none of these is another one with `New` in front.
Two interfaces of one name are noticed where each has its own file, and nowhere else.

## Main definitions

* `declaredName?`: the name that a declaration declares.
* `Draft.declaredNames`: the names that a file declares.
* `Emitter.drafts`: the files that are written, or the one that is printed.
* `Declares`: the names that a computation adds to those of a file.

## Main results

* `declares_writeWrapper`: the names that a wrapper declares.
* `Emitter.declaredNames_drafts`: the names that are declared in all files.
* `Emitter.nodup_declaredNames_iff`: when they are distinct.
* `Emitter.not_nodup_declaredNames_twinStores`: two interfaces of one name, printed.
-/

namespace WrapperGen

open Source

/-! ### Declarations -/

/-- The identifier at the start of a text. -/
def identifierAt? (text : List Char) : Option String :=
  match text.takeWhile isIdentRest with
  | [] => none
  | letters => some (String.ofList letters)

/-- The name of the type or function that a declaration declares.  A method, whose receiver comes
first, declares no name. -/
def declaredName? (declaration : String) : Option String :=
  match List.isPrefixOf? "type ".toList declaration.toList with
  | some rest => identifierAt? rest
  | none => (List.isPrefixOf? "func ".toList declaration.toList).bind identifierAt?

/-- The names that a file declares, in order. -/
def Draft.declaredNames (d : Draft) : List String := d.declarations.filterMap declaredName?

/-- Texts that may be the rest of an identifier, with nothing missing. -/
def IsLetters (name : String) : Prop := name ≠ "" ∧ ∀ c ∈ name.toList, isIdentRest c = true

theorem identifierAt?_of_isLetters {name : String} (h : IsLetters name) {c : Char}
    (hc : isIdentRest c = false) (rest : List Char) :
    identifierAt? (name.toList ++ c :: rest) = some name := by
  have letters : (name.toList ++ c :: rest).takeWhile isIdentRest = name.toList := by
    rw [List.takeWhile_append_of_pos h.2, List.takeWhile_cons_of_neg (by simp [hc]),
      List.append_nil]
  unfold identifierAt?
  rw [letters]
  split
  · next empty => exact absurd (String.toList_eq_nil_iff.1 empty) h.1
  · rw [String.ofList_toList]

theorem isIdentRest_paren : isIdentRest '(' = false := by decide

/-- A structure declares its name. -/
theorem declaredName?_struct (s : StructDecl) (h : IsLetters s.name) :
    declaredName? s.text = some s.name := by
  have start : "type ".toList ++ (s.name.toList ++ [' ']) <+: s.text.toList := by
    unfold StructDecl.text
    split
    · simp
    · simp
  obtain ⟨rest, text⟩ := start
  rw [declaredName?, List.isPrefixOf?_eq_some_iff_append_eq.2 (by rw [← text, List.append_assoc])]
  simpa using identifierAt?_of_isLetters h isIdentRest_blank rest

/-- A function without receiver declares its name, and a method declares none. -/
theorem declaredName?_function (f : FunctionDecl) (h : f.receiver = none → IsLetters f.name) :
    declaredName? f.text = if f.receiver = none then some f.name else none := by
  have start : "func ".toList ++ ((FunctionDecl.receiverText f.receiver).toList
      ++ (f.name.toList ++ ['('])) <+: f.text.toList := by
    simp [FunctionDecl.text]
  obtain ⟨rest, text⟩ := start
  have other : List.isPrefixOf? "type ".toList f.text.toList = none := by
    rw [← text]
    rfl
  rw [declaredName?, other,
    List.isPrefixOf?_eq_some_iff_append_eq.2 (by rw [← text, List.append_assoc])]
  -- a method begins with its receiver, whose bracket is no name
  cases receiver : f.receiver with
  | none =>
    rw [if_pos rfl]
    simpa [FunctionDecl.receiverText] using
      identifierAt?_of_isLetters (h receiver) isIdentRest_paren rest
  | some given =>
    have paren : (FunctionDecl.receiverText (some given)).toList
        = '(' :: (given.1 ++ " " ++ given.2 ++ ") ").toList := by
      simp [FunctionDecl.receiverText]
    rw [if_neg (by simp), paren, Option.bind_some, List.append_assoc, List.cons_append,
      identifierAt?, List.takeWhile_cons_of_neg (by simp [isIdentRest_paren])]

/-! ### Names -/

theorem mem_alphaCodes {c : Char} (h : c.isAlpha = true) :
    c.toNat ∈ List.range' 65 26 ++ List.range' 97 26 := by
  rcases Bool.or_eq_true_iff.1 (show (c.isUpper || c.isLower) = true from h) with upper | lower
  · have bounds : c.val ≥ 'A'.val ∧ c.val ≤ 'Z'.val := of_decide_eq_true upper
    have least : 65 ≤ c.toNat := UInt32.le_iff_toNat_le.1 bounds.1
    have most : c.toNat ≤ 90 := UInt32.le_iff_toNat_le.1 bounds.2
    refine List.mem_append_left _ (List.mem_range'_1.2 ?_)
    omega
  · have bounds : decide (c.val ≥ 'a'.val) = true ∧ decide (c.val ≤ 'z'.val) = true :=
      Bool.and_eq_true_iff.1 lower
    have least : 97 ≤ c.toNat := UInt32.le_iff_toNat_le.1 (of_decide_eq_true bounds.1)
    have most : c.toNat ≤ 122 := UInt32.le_iff_toNat_le.1 (of_decide_eq_true bounds.2)
    refine List.mem_append_right _ (List.mem_range'_1.2 ?_)
    omega

theorem isIdentRest_of_isAlpha {c : Char} (h : c.isAlpha = true) : isIdentRest c = true := by
  have all : ∀ n ∈ List.range' 65 26 ++ List.range' 97 26, inRanges n wordRestRanges = true := by
    decide
  exact all c.toNat (mem_alphaCodes h)

theorem isIdentRest_of_isPlainName {name : String} (h : isPlainName name = true) :
    ∀ c ∈ name.toList, isIdentRest c = true := by
  simp only [isPlainName, Bool.and_eq_true] at h
  intro c hc
  have plain := List.all_eq_true.1 h.1.2 c hc
  simp only [isPlainNameChar, Bool.or_eq_true, beq_iff_eq] at plain
  rcases plain with (alpha | digit) | rfl
  · exact isIdentRest_of_isAlpha alpha
  · exact isIdentRest_of_isDigit digit
  · exact isIdentRest_underscore

theorem isIdentRest_of_namePrefix {o : Options} {namePrefix? : Option String}
    (h : o.namePrefix = .ok namePrefix?) :
    ∀ c ∈ (namePrefix?.getD "").toList, isIdentRest c = true := by
  cases namePrefix? with
  | none => exact nofun
  | some text => exact isIdentRest_of_isPlainName (Options.isPlainName_of_namePrefix h text rfl)

/-- The name of a wrapper consists of letters. -/
theorem isLetters_wrapperName {namePrefix : String} {i : Interface}
    (front : ∀ c ∈ namePrefix.toList, isIdentRest c = true) (name : isIdentifier i.name = true) :
    IsLetters (wrapperName namePrefix i) := by
  have behind := List.all_eq_true.1 (show "Wrapper".toList.all isIdentRest = true by decide)
  refine ⟨by simp [wrapperName], fun d hd => ?_⟩
  rw [wrapperName, String.toList_append, String.toList_append, List.mem_append,
    List.mem_append] at hd
  rcases hd with (hd | hd) | hd
  · exact front d hd
  · exact isIdentRest_of_isIdentifier name d hd
  · exact behind d hd

theorem IsLetters.new {name : String} (h : IsLetters name) : IsLetters ("New" ++ name) := by
  have front := List.all_eq_true.1 (show "New".toList.all isIdentRest = true by decide)
  refine ⟨by simp, fun d hd => ?_⟩
  rw [String.toList_append, List.mem_append] at hd
  exact hd.elim (front d) (h.2 d)

/-! ### Computations -/

/-- A computation adds declarations of the given names to a file. -/
def Declares (m : StateM Draft Unit) (names : List String) : Prop :=
  ∀ d : Draft, (m.run d).2.declaredNames = d.declaredNames ++ names

namespace Declares

variable {m k : StateM Draft Unit} {first second : List String}

theorem pure : Declares (Pure.pure ()) [] := fun d => (List.append_nil d.declaredNames).symm

theorem declaration (text : String) :
    Declares (modify (Draft.addDeclaration text)) (declaredName? text).toList := by
  intro d
  show (d.declarations ++ [text]).filterMap declaredName?
    = d.declarations.filterMap declaredName? ++ (declaredName? text).toList
  rw [List.filterMap_append]
  cases named : declaredName? text with
  | none => simp [named]
  | some name => simp [named]

theorem andThen (hm : Declares m first) (hk : Declares k second) :
    Declares (do m; k) (first ++ second) := by
  intro d
  show (k.run (m.run d).2).2.declaredNames = _
  rw [hk, hm, List.append_assoc]

theorem naming {α : Type} {step : StateM ImportTable α} {rest : α → StateM Draft Unit}
    (h : ∀ imports, Declares (rest (step.run imports).1) first) :
    Declares (Draft.naming step >>= rest) first :=
  fun d => h d.imports { d with imports := (step.run d.imports).2 }

end Declares

theorem declares_writeMethods (name home : String) (methods : List (Method WrittenName)) :
    Declares (writeMethods name home methods) [] := by
  induction methods with
  | nil => exact Declares.pure
  | cons m rest ih =>
    refine Declares.naming fun imports => ?_
    have method := Declares.declaration ((overridingMethod wrapperReceiver name home m
      (forwardingBody m)).run imports).1.text
    have receiver : ((overridingMethod wrapperReceiver name home m
        (forwardingBody m)).run imports).1.receiver ≠ none := Option.some_ne_none _
    rw [declaredName?_function _ fun absent => absurd absent receiver, if_neg receiver] at method
    exact method.andThen ih

/-- A wrapper declares its structure and the function that makes one. -/
theorem declares_writeWrapper {namePrefix : String} {i : Interface}
    (letters : IsLetters (wrapperName namePrefix i)) :
    Declares (writeWrapper namePrefix i)
      [wrapperName namePrefix i, "New" ++ wrapperName namePrefix i] := by
  refine Declares.naming fun imports => ?_
  have struct := Declares.declaration (wrapperStruct (wrapperName namePrefix i)
    ((qualify i.importPath i.name).run imports).1).text
  have constructor' := Declares.declaration (wrapperConstructor (wrapperName namePrefix i)
    ((qualify i.importPath i.name).run imports).1).text
  rw [declaredName?_struct _ letters] at struct
  rw [declaredName?_function _ fun _ => letters.new] at constructor'
  exact struct.andThen (constructor'.andThen (declares_writeMethods _ _ _))

/-! ### Emitting -/

namespace Emitter

/-- The files that a call writes, or the one that it prints. -/
def drafts (e : Emitter) (interfaces : List Interface) : List Draft :=
  match e.settings.target with
  | .directory dir =>
      match plan e.shown (e.destination dir) interfaces with
      | .ok planned => planned.zipIdx.map fun entry => e.draft entry.2 [entry.1.1]
      | .error _ => []
  | .file _ | .stream => [e.draft 0 interfaces]

/-- The names of the wrapper of an interface: those of the structure and of the function that makes
one. -/
def namesFor (e : Emitter) (i : Interface) : List String :=
  [wrapperName e.settings.namePrefix i, "New" ++ wrapperName e.settings.namePrefix i]

variable {e : Emitter} {look : Nat} {interfaces : List Interface}

theorem declares_generateAll (wrappers : e.generate = writeWrapper)
    (letters : ∀ i ∈ interfaces, IsLetters (wrapperName e.settings.namePrefix i)) :
    Declares (e.generateAll interfaces) (interfaces.flatMap e.namesFor) := by
  induction interfaces with
  | nil => exact Declares.pure
  | cons i rest ih =>
    have first : Declares (e.generate e.settings.namePrefix i) (e.namesFor i) := by
      rw [wrappers]
      exact declares_writeWrapper (letters i List.mem_cons_self)
    exact first.andThen (ih fun j hj => letters j (List.mem_cons_of_mem i hj))

theorem declaredNames_draft (wrappers : e.generate = writeWrapper)
    (letters : ∀ i ∈ interfaces, IsLetters (wrapperName e.settings.namePrefix i)) :
    (e.draft look interfaces).declaredNames = interfaces.flatMap e.namesFor :=
  declares_generateAll wrappers letters _

/-- What a call writes declares the names of all wrappers, in order; in a directory it is known that
the interfaces have distinct names. -/
theorem declaredNames_drafts {site last : Site} {files : List Path}
    (wrappers : e.generate = writeWrapper)
    (letters : ∀ i ∈ interfaces, IsLetters (wrapperName e.settings.namePrefix i))
    (distinct : (interfaces.map Interface.key).Nodup)
    (emitted : (e.emit interfaces).run.run site = (.ok files, last)) :
    (e.drafts interfaces).flatMap Draft.declaredNames = interfaces.flatMap e.namesFor
      ∧ ∀ dir, e.settings.target = .directory dir → (interfaces.map Interface.name).Nodup := by
  cases target : e.settings.target with
  | stream =>
    refine ⟨?_, fun dir other => by cases other⟩
    rw [drafts, target]
    simp [declaredNames_draft wrappers letters]
  | file path =>
    refine ⟨?_, fun dir other => by cases other⟩
    rw [drafts, target]
    simp [declaredNames_draft wrappers letters]
  | directory dir =>
    -- a run that has succeeded has made a plan, and the declarations are distinct
    have planned : ∃ planned, plan e.shown (e.destination dir) interfaces = .ok planned := by
      have whole : Run.Triple (fun _ => True) (e.emit interfaces)
          (fun _ _ => ∃ planned, plan e.shown (e.destination dir) interfaces = .ok planned)
          fun _ _ => True := by
        unfold emit
        rw [target]
        exact triple_emitDirectory _ _ _ (fun _ _ _ _ => trivial) (fun _ _ _ => trivial)
          (fun _ _ _ => trivial) (fun _ _ _ _ _ => trivial) fun planned _ came _ =>
            Run.Triple.trivial.mono (fun _ h => h) (fun _ _ _ => ⟨planned, came⟩) fun _ _ h => h
      exact whole.of_ok trivial (congrArg Prod.fst emitted)
    obtain ⟨planned, came⟩ := planned
    obtain ⟨rfl, apart⟩ := plan_of_nodup distinct came
    constructor
    · rw [drafts, target]
      dsimp only
      rw [came]
      dsimp only
      rw [List.zipIdx_map, List.map_map, List.flatMap_map]
      -- at whatever look at the clock a file is made, it declares the same names
      have one : ∀ entry ∈ interfaces.zipIdx,
          (e.draft entry.2 [entry.1]).declaredNames = e.namesFor entry.1 := by
        intro entry he
        have letters' : ∀ j ∈ [entry.1], IsLetters (wrapperName e.settings.namePrefix j) := by
          intro j hj
          rw [List.mem_singleton.1 hj]
          exact letters entry.1 (List.fst_mem_of_mem_zipIdx he)
        simpa using declaredNames_draft wrappers letters'
      calc
        _ = interfaces.zipIdx.flatMap fun entry => e.namesFor entry.1 := List.flatMap_congr one
        _ = (interfaces.zipIdx.map Prod.fst).flatMap e.namesFor :=
          (List.flatMap_map ..).symm
        _ = interfaces.flatMap e.namesFor := by rw [List.zipIdx_map_fst]
    · intro _ _
      rw [List.pairwise_map] at apart
      rw [List.Nodup, List.pairwise_map]
      -- interfaces of one name would go to one path
      refine apart.imp fun {i j} other same => ?_
      have path : e.destination dir i = e.destination dir j := by
        rw [destination, destination, same]
      rw [path, Path.sameSteps, beq_self_eq_true] at other
      cases other

/-- The names of two wrappers are different exactly if the names of the interfaces are, and neither
is the other one with `New` in front. -/
theorem disjoint_namesFor_iff {i j : Interface} :
    (e.namesFor i).Disjoint (e.namesFor j) ↔ i.name ≠ j.name
      ∧ e.settings.namePrefix ++ j.name ≠ "New" ++ (e.settings.namePrefix ++ i.name)
      ∧ e.settings.namePrefix ++ i.name ≠ "New" ++ (e.settings.namePrefix ++ j.name) := by
  have new : ∀ k : Interface, "New" ++ wrapperName e.settings.namePrefix k
      = "New" ++ (e.settings.namePrefix ++ k.name) ++ "Wrapper" := by
    intro k
    rw [wrapperName, String.append_assoc, String.append_assoc, String.append_assoc]
  have structs : wrapperName e.settings.namePrefix i = wrapperName e.settings.namePrefix j
      ↔ i.name = j.name := by
    rw [wrapperName, wrapperName, String.append_left_inj, String.append_right_inj]
  -- a structure may be called as the constructor of another one, in either direction
  have crossing : ∀ k l : Interface, wrapperName e.settings.namePrefix k
      = "New" ++ wrapperName e.settings.namePrefix l
        ↔ e.settings.namePrefix ++ k.name = "New" ++ (e.settings.namePrefix ++ l.name) := by
    intro k l
    rw [new, wrapperName, String.append_left_inj]
  simp only [namesFor, List.disjoint_cons_left, List.mem_cons, List.not_mem_nil, or_false, not_or,
    List.disjoint_nil_left, and_true, structs, crossing, String.append_right_inj]
  rw [eq_comm (a := "New" ++ _), crossing]
  tauto

theorem ne_new_append (text : String) : text ≠ "New" ++ text := by
  intro same
  have length := congrArg String.length same
  simp at length

/-- The names that are declared are distinct exactly if the names of the interfaces are, and none of
them is another one with `New` in front, the prefix included. -/
theorem nodup_declaredNames_iff (e : Emitter) (interfaces : List Interface) {site last : Site}
    {files : List Path} (wrappers : e.generate = writeWrapper)
    (accepted : ∃ o : Options, o.namePrefix = .ok e.settings.namePrefix?)
    (named : ∀ i ∈ interfaces, isIdentifier i.name = true)
    (distinct : (interfaces.map Interface.key).Nodup)
    (emitted : (e.emit interfaces).run.run site = (.ok files, last)) :
    (((e.drafts interfaces).flatMap Draft.declaredNames).Nodup
      ↔ (interfaces.map Interface.name).Nodup ∧ ∀ i ∈ interfaces, ∀ j ∈ interfaces,
        e.settings.namePrefix ++ j.name ≠ "New" ++ (e.settings.namePrefix ++ i.name))
      ∧ ∀ dir, e.settings.target = .directory dir → (interfaces.map Interface.name).Nodup := by
  obtain ⟨o, accepted⟩ := accepted
  have letters : ∀ i ∈ interfaces, IsLetters (wrapperName e.settings.namePrefix i) :=
    fun i hi => isLetters_wrapperName (isIdentRest_of_namePrefix accepted) (named i hi)
  obtain ⟨names, directory⟩ := declaredNames_drafts wrappers letters distinct emitted
  refine ⟨?_, directory⟩
  have own : ∀ i ∈ interfaces, (e.namesFor i).Nodup := by
    intro i _
    simpa [namesFor] using ne_new_append (wrapperName e.settings.namePrefix i)
  rw [names, List.nodup_flatMap]
  constructor
  -- that the names differ says of two interfaces that they differ, and do not cross
  · rintro ⟨-, apart⟩
    have pairs := apart.imp fun {i j} h => disjoint_namesFor_iff.1 h
    constructor
    · rw [List.Nodup, List.pairwise_map]
      exact pairs.imp fun {i j} h => h.1
    · -- what is known of two places of the list is known of the same place twice as well
      let apartBoth : Interface → Interface → Prop := fun i j =>
        e.settings.namePrefix ++ j.name ≠ "New" ++ (e.settings.namePrefix ++ i.name)
          ∧ e.settings.namePrefix ++ i.name ≠ "New" ++ (e.settings.namePrefix ++ j.name)
      have symmetric : Std.Symm apartBoth := ⟨fun _ _ h => ⟨h.2, h.1⟩⟩
      have self : ∀ i ∈ interfaces, apartBoth i i := fun i _ => ⟨ne_new_append _, ne_new_append _⟩
      have both : interfaces.Pairwise apartBoth := pairs.imp fun {i j} h => h.2
      intro i hi j hj
      exact (both.forall_of_forall self hi hj).1
  · rintro ⟨unique, crossing⟩
    refine ⟨own, ?_⟩
    rw [List.Nodup, List.pairwise_map] at unique
    refine unique.imp_of_mem fun {i j} hi hj other => ?_
    exact disjoint_namesFor_iff.2 ⟨other, crossing i hi j hj, crossing j hj i hi⟩

/-- An emitter that prints wrappers. -/
def printer (namePrefix? : Option String) : Emitter where
  tool := ⟨"wrap", "1", []⟩
  clock := .still "now"
  cwd := ⟨"/work"⟩
  settings := ⟨.stream, false, "mocks", namePrefix?⟩
  fileName := wrapperFileName
  generate := writeWrapper

/-- The lines at the top of what is printed. -/
def printerLines : List String :=
  ["// Code generated by wrap 1; DO NOT EDIT.", "// This file was generated by robots at",
    "// now", "// using the command", "// $ ", "", "package mocks"]

/-- Printing succeeds with the given lines. -/
theorem emit_printer (namePrefix? : Option String) (interfaces : List Interface)
    (lines : List String)
    (text : ((printer namePrefix?).draft 0 interfaces).assemble = textOfLines lines)
    (wellFormed :
      (File.ofTokens (tokens (lines.flatMap fun line => line.toList ++ ['\n']))).complete = true) :
    ((printer namePrefix?).emit interfaces).run.run ⟨⟨[]⟩, [], true⟩
      = (.ok [], ⟨⟨[]⟩, [textOfLines lines], true⟩) := by
  have given := fileText_of_lines text wellFormed
  show ((printer namePrefix?).emitStream interfaces).run.run _ = _
  rw [emitStream, run_bind, given]
  rfl

/-- Two interfaces of one package. -/
def storeAndIndex : List Interface := [⟨"Store", "a", []⟩, ⟨"Index", "a", []⟩]

/-- The wrappers of two interfaces declare four names. -/
theorem nodup_declaredNames_storeAndIndex :
    ((printer (some "Mock")).emit storeAndIndex).run.run ⟨⟨[]⟩, [], true⟩
        = (.ok [], ⟨⟨[]⟩, [textOfLines (printerLines ++ ["", "import (", "\t\"a\"", ")"]
          ++ wrapperLines "MockStoreWrapper" "a.Store"
          ++ wrapperLines "MockIndexWrapper" "a.Index")], true⟩)
      ∧ (((printer (some "Mock")).drafts storeAndIndex).flatMap Draft.declaredNames).Nodup := by
  have emitted := emit_printer (some "Mock") storeAndIndex
    (printerLines ++ ["", "import (", "\t\"a\"", ")"]
      ++ wrapperLines "MockStoreWrapper" "a.Store"
      ++ wrapperLines "MockIndexWrapper" "a.Index")
    (by decide +kernel) (by decide +kernel)
  have accepted : ∃ o : Options, o.namePrefix = .ok (some "Mock") :=
    ⟨{ Request.sample.options with namePrefix? := some "Mock" }, by decide +kernel⟩
  refine ⟨emitted, (nodup_declaredNames_iff (printer (some "Mock")) storeAndIndex rfl accepted
    (by decide) (by decide) emitted).1.2 ?_⟩
  decide

/-- Two interfaces of one name, from two packages. -/
def twinStores : List Interface := [⟨"Store", "a", []⟩, ⟨"Store", "b", []⟩]

/-- The wrappers of both are printed, and declare two names twice. -/
theorem not_nodup_declaredNames_twinStores :
    (twinStores.map Interface.key).Nodup
      ∧ ((printer none).emit twinStores).run.run ⟨⟨[]⟩, [], true⟩
        = (.ok [], ⟨⟨[]⟩, [textOfLines (printerLines
          ++ ["", "import (", "\t\"a\"", "\t\"b\"", ")"]
          ++ wrapperLines "StoreWrapper" "a.Store" ++ wrapperLines "StoreWrapper" "b.Store")],
          true⟩)
      ∧ ¬ (((printer none).drafts twinStores).flatMap Draft.declaredNames).Nodup := by
  have emitted := emit_printer none twinStores
    (printerLines ++ ["", "import (", "\t\"a\"", "\t\"b\"", ")"]
      ++ wrapperLines "StoreWrapper" "a.Store" ++ wrapperLines "StoreWrapper" "b.Store")
    (by decide +kernel) (by decide +kernel)
  have letters : ∀ i ∈ twinStores, IsLetters (wrapperName (printer none).settings.namePrefix i) :=
    fun i hi => isLetters_wrapperName (fun c hc => by cases hc) (by revert i; decide)
  have distinct : (twinStores.map Interface.key).Nodup := by decide
  refine ⟨distinct, emitted, ?_⟩
  rw [(declaredNames_drafts rfl letters distinct emitted).1]
  decide

end Emitter

end WrapperGen
