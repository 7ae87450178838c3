import WrapperGen.Proofs.FileNames
import WrapperGen.Proofs.Forwarding
import WrapperGen.Proofs.PathPieces
import WrapperGen.Proofs.Stamps
import WrapperGen.Proofs.WrapperTexts

/-!
# Lines above the package clause

The comment at the top of a generated file has an entry for the program, and one for the command
that it was started with.  The slashes that make a comment of an entry are written once, in front of
its first line.  So no code comes before the package clause exactly if each further line of an entry
is empty or has slashes of its own; and then the package clause is the first code of the file.  A
name or an argument with a newline in it may leave the comment.

## Main definitions

* `isCodeless`: a line with no code in it.
* `StaysCommented`: a text whose lines behind the first have no code in them.
* `linesAbove`: the lines above the package clause.
* `KeepsTop`: what is written without a look at the top of a file.

## Main results

* `Draft.lines_assemble`: the lines of a file.
* `Emitter.header_commented_iff`: when the comment at the top holds no code.
* `Emitter.header_leaks_declaration`: an argument that leaves the comment.
-/

namespace WrapperGen

/-! ### Lines -/

/-- Whether a line has no code in it: it is empty, or a comment. -/
def isCodeless (line : List Char) : Bool := line.isEmpty || ['/', '/'].isPrefixOf line

/-- A text that stays in a comment in whose line it begins: its lines behind the first have no code
in them. -/
def StaysCommented (text : String) : Prop :=
  ∀ line ∈ (List.splitOn '\n' text.toList).tail, isCodeless line = true

instance (text : String) : Decidable (StaysCommented text) :=
  inferInstanceAs
    (Decidable (∀ line ∈ (List.splitOn '\n' text.toList).tail, isCodeless line = true))

/-- What has no separator in it stands in front of the first piece. -/
theorem splitOn_append_of_not_mem {sep : Char} {front s first : List Char}
    {rest : List (List Char)} (h : sep ∉ front) (hs : List.splitOn sep s = first :: rest) :
    List.splitOn sep (front ++ s) = (front ++ first) :: rest := by
  induction front with
  | nil => exact hs
  | cons c front ih =>
    have behind := ih fun hm => h (List.mem_cons_of_mem c hm)
    exact splitOn_cons_of_ne (fun e => h (e ▸ List.mem_cons_self)) behind

theorem staysCommented_append_iff {front text : String} (h : StaysInLine front) :
    StaysCommented (front ++ text) ↔ StaysCommented text := by
  obtain ⟨first, rest, pieces⟩ :=
    List.exists_cons_of_ne_nil (List.splitOn_ne_nil '\n' text.toList)
  unfold StaysCommented
  rw [String.toList_append, splitOn_append_of_not_mem h pieces, pieces]
  rfl

/-- A text of one line stays in its comment. -/
theorem staysCommented_of_staysInLine {text : String} (h : StaysInLine text) :
    StaysCommented text := by
  intro line hl
  rw [List.splitOn_eq_singleton h] at hl
  cases hl

/-! ### The comment at the top -/

/-- The lines of an entry of the comment at the top. -/
def entryLines (entry : String) : List (List Char) := List.splitOn '\n' ("// " ++ entry).toList

/-- The lines above the package clause of a file with the given entries at the top. -/
def linesAbove (entries : List String) : List (List Char) :=
  if entries.isEmpty then [] else entries.flatMap entryLines ++ [[]]

theorem isCodeless_entryLines_iff {entry : String} :
    (∀ line ∈ entryLines entry, isCodeless line = true) ↔ StaysCommented entry := by
  obtain ⟨first, rest, pieces⟩ :=
    List.exists_cons_of_ne_nil (List.splitOn_ne_nil '\n' entry.toList)
  have slashes : isCodeless ("// ".toList ++ first) = true := by simp [isCodeless]
  unfold entryLines StaysCommented
  rw [String.toList_append, splitOn_append_of_not_mem (by decide) pieces, pieces,
    List.forall_mem_cons]
  exact and_iff_right slashes

/-- No code stands above the package clause exactly if all entries stay in their comments. -/
theorem isCodeless_linesAbove_iff {entries : List String} :
    (∀ line ∈ linesAbove entries, isCodeless line = true)
      ↔ ∀ entry ∈ entries, StaysCommented entry := by
  cases entries with
  | nil => exact ⟨fun _ => nofun, fun _ => nofun⟩
  | cons entry rest =>
    unfold linesAbove
    rw [if_neg (by simp), List.forall_mem_append, List.forall_mem_flatMap]
    have blank : ∀ line ∈ [[]], isCodeless line = true := by
      intro line hl
      rw [List.mem_singleton.1 hl]
      rfl
    rw [and_iff_left blank]
    exact forall₂_congr fun _ _ => isCodeless_entryLines_iff

namespace Draft

theorem splitOn_headerText (entries : List String) (rest : List Char) :
    List.splitOn '\n' ((headerText entries).toList ++ rest)
      = linesAbove entries ++ List.splitOn '\n' rest := by
  -- each entry ends its line, so the text is cut behind it
  have block : ∀ (entries : List String) (rest : List Char),
      List.splitOn '\n'
          ((String.join (entries.map fun line => "// " ++ line ++ "\n")).toList ++ rest)
        = entries.flatMap entryLines ++ List.splitOn '\n' rest := by
    intro entries rest
    induction entries with
    | nil => rfl
    | cons entry others ih =>
      have line : ("// " ++ entry ++ "\n").toList = ("// " ++ entry).toList ++ ['\n'] := by simp
      rw [List.map_cons, String.join_cons, String.toList_append, line, List.append_assoc,
        List.append_assoc, List.singleton_append, List.splitOn_append_cons_self, ih,
        List.flatMap_cons, List.append_assoc]
      rfl
  unfold headerText linesAbove
  by_cases none' : entries.isEmpty = true
  · rw [if_pos none', if_pos none']
    rfl
  · rw [if_neg none', if_neg none', String.toList_append, List.append_assoc, block,
      List.append_assoc]
    rfl

/-- The lines of a file: those of the comment at the top, the package clause, and what comes
behind. -/
theorem lines_assemble (d : Draft) (h : StaysInLine d.packageName) :
    ∃ behind, List.splitOn '\n' d.assemble.toList
      = linesAbove d.header ++ ("package " ++ d.packageName).toList :: behind := by
  have clause : StaysInLine ("package " ++ d.packageName) :=
    StaysInLine.append (by decide) h
  refine ⟨List.splitOn '\n' (importsText d.imports
    ++ String.join (d.declarations.map fun text => "\n" ++ text ++ "\n")).toList, ?_⟩
  have text : d.assemble.toList = (headerText d.header).toList
      ++ (("package " ++ d.packageName).toList ++ '\n' :: (importsText d.imports
        ++ String.join (d.declarations.map fun text => "\n" ++ text ++ "\n")).toList) := by
    simp [assemble]
  rw [text, splitOn_headerText, List.splitOn_append_cons_self, List.splitOn_eq_singleton clause]
  rfl

end Draft

/-! ### Writing below the top -/

/-- A computation that changes neither the package clause of a file nor the comment above it. -/
def KeepsTop (m : StateM Draft Unit) : Prop :=
  ∀ d : Draft, (m.run d).2.packageName = d.packageName ∧ (m.run d).2.header = d.header

theorem KeepsTop.pure : KeepsTop (Pure.pure ()) := fun _ => ⟨rfl, rfl⟩

theorem KeepsTop.andThen {m k : StateM Draft Unit} (hm : KeepsTop m) (hk : KeepsTop k) :
    KeepsTop (do m; k) := by
  intro d
  obtain ⟨name, header⟩ := hk (m.run d).2
  exact ⟨name.trans (hm d).1, header.trans (hm d).2⟩

theorem keepsTop_writeWrapper (namePrefix : String) (i : Interface) :
    KeepsTop (writeWrapper namePrefix i) := by
  intro d
  obtain ⟨more, after, -⟩ := adds_writeWrapper namePrefix i d
  rw [after]
  exact ⟨rfl, rfl⟩

/-- What the comment at the top says of a program, behind `Code generated by`. -/
def Tool.credit (tool : Tool) : String := tool.name ++ " " ++ tool.version ++ "; DO NOT EDIT."

/-- The command as the comment at the top names it. -/
def Tool.commandText (tool : Tool) : String := " ".intercalate tool.command

/-- Of the entries at the top, only those for the program and for the command may have more than one
line. -/
theorem staysCommented_headerLines_iff {tool : Tool} {timestamp : String}
    (stamp : StaysInLine timestamp) :
    (∀ entry ∈ headerLines tool timestamp, StaysCommented entry)
      ↔ StaysCommented tool.credit ∧ StaysCommented tool.commandText := by
  have credit : "Code generated by " ++ tool.name ++ " " ++ tool.version ++ "; DO NOT EDIT."
      = "Code generated by " ++ tool.credit := by
    simp only [Tool.credit, String.append_assoc]
  have generated : StaysInLine "Code generated by " := by decide
  have prompt : StaysInLine "$ " := by decide
  have robots : StaysCommented "This file was generated by robots at" := by decide
  have using' : StaysCommented "using the command" := by decide
  unfold headerLines
  rw [credit]
  simp only [List.forall_mem_cons, staysCommented_append_iff generated, robots,
    staysCommented_of_staysInLine stamp, using', staysCommented_append_iff prompt, true_and,
    List.not_mem_nil, false_imp_iff, implies_true, and_true]
  rfl

/-- A program whose name, version and arguments have no newlines in them stays in the comment. -/
theorem Tool.staysCommented {tool : Tool} (name : StaysInLine tool.name)
    (version : StaysInLine tool.version) (command : ∀ text ∈ tool.command, StaysInLine text) :
    StaysCommented tool.credit ∧ StaysCommented tool.commandText := by
  have blank : StaysInLine " " := by decide
  have ending : StaysInLine "; DO NOT EDIT." := by decide
  constructor
  · exact staysCommented_of_staysInLine (((name.append blank).append version).append ending)
  · exact staysCommented_of_staysInLine (staysInLine_intercalate blank command)

/-- Options for a file of package `mocks` that is printed. -/
def Options.printing : Options where
  specifiers := ["a"]
  dir? := none
  file? := some ⟨"-"⟩
  force := false
  interfaces := []
  packageName? := some "mocks"
  namePrefix? := none
  listOnly := false

namespace Emitter

variable {e : Emitter}

theorem keepsTop_generateAll (top : ∀ namePrefix i, KeepsTop (e.generate namePrefix i))
    (interfaces : List Interface) : KeepsTop (e.generateAll interfaces) := by
  induction interfaces with
  | nil => exact KeepsTop.pure
  | cons i rest ih => exact (top _ i).andThen ih

/-- The top of a file says what was settled before. -/
theorem top_draft (top : ∀ namePrefix i, KeepsTop (e.generate namePrefix i))
    (interfaces : List Interface) :
    (e.draft look interfaces).packageName = e.settings.packageName
      ∧ (e.draft look interfaces).header = headerLines e.tool (e.clock.shows look) :=
  keepsTop_generateAll top interfaces _

/-- Above the package clause of a file stand the lines of the comment, and none of them has code in
it exactly if what is said of the program and of the command stays in the comment.  If so, the
package clause is the first line with code in it. -/
theorem header_commented_iff {o : Options} {cwd : Path} {seconds : Nat}
    (accepted : o.settings cwd = .ok e.settings) 
    (stamp : e.clock.shows look = timestampText seconds)
    (top : ∀ namePrefix i, KeepsTop (e.generate namePrefix i)) (interfaces : List Interface) :
    (∃ behind, List.splitOn '\n' (e.draft look interfaces).assemble.toList
        = linesAbove (headerLines e.tool (e.clock.shows look))
          ++ ("package " ++ e.settings.packageName).toList :: behind)
      ∧ ((∀ line ∈ linesAbove (headerLines e.tool (e.clock.shows look)), isCodeless line = true)
        ↔ StaysCommented e.tool.credit ∧ StaysCommented e.tool.commandText)
      ∧ (StaysCommented e.tool.credit → StaysCommented e.tool.commandText →
        (List.splitOn '\n' (e.draft look interfaces).assemble.toList).find? (!isCodeless ·)
          = some ("package " ++ e.settings.packageName).toList) := by
  obtain ⟨-, -, named, -⟩ := Options.parts_of_settings accepted
  have plain : StaysInLine e.settings.packageName :=
    not_mem_of_isPlainName (by decide) (Options.packageName_eq_ok_iff.1 named).2
  -- a time is written with digits and marks that fit into a line
  have moment : StaysInLine (e.clock.shows look) := by
    intro hm
    rw [stamp] at hm
    exact absurd (fitsLine_timestampText seconds _ hm) (by decide)
  obtain ⟨name, header⟩ := top_draft top interfaces
  obtain ⟨behind, lines⟩ := (e.draft look interfaces).lines_assemble (by rwa [name])
  rw [name, header] at lines
  -- the time has no line end, so it is the credit and the command that decide
  have codeless : (∀ line ∈ linesAbove (headerLines e.tool (e.clock.shows look)),
        isCodeless line = true)
      ↔ StaysCommented e.tool.credit ∧ StaysCommented e.tool.commandText := by
    rw [isCodeless_linesAbove_iff, staysCommented_headerLines_iff moment]
  refine ⟨⟨behind, lines⟩, codeless, fun credit command => ?_⟩
  have none' : (linesAbove (headerLines e.tool (e.clock.shows look))).find? (!isCodeless ·)
      = none := by
    rw [List.find?_eq_none]
    intro line hl
    simp [codeless.2 ⟨credit, command⟩ line hl]
  have clause : isCodeless ("package " ++ e.settings.packageName).toList = false := by
    simp [isCodeless, List.isPrefixOf]
  rw [lines, List.find?_append, none', Option.none_or, List.find?_cons_of_pos (by rw [clause]; rfl)]

/-- Such a file, for a program. -/
def runBy (tool : Tool) : Emitter where
  tool := tool
  clock := .still (timestampText 0)
  cwd := ⟨"/work"⟩
  settings := ⟨.stream, false, "mocks", none⟩
  fileName := wrapperFileName
  generate := writeWrapper

/-- Arguments with blanks and slashes in them stay in the comment. -/
theorem header_commented_quotes :
    Options.printing.settings ⟨"/work"⟩
        = .ok (runBy ⟨"wrap", "1", ["wrap", "a b", "// c"]⟩).settings
      ∧ StaysCommented (Tool.credit ⟨"wrap", "1", ["wrap", "a b", "// c"]⟩)
      ∧ ((List.splitOn '\n' ((runBy ⟨"wrap", "1", ["wrap", "a b", "// c"]⟩).draft
          0 [⟨"Store", "a", []⟩]).assemble.toList).find? (!isCodeless ·))
        = some "package mocks".toList := by
  have accepted : Options.printing.settings ⟨"/work"⟩
      = .ok (runBy ⟨"wrap", "1", ["wrap", "a b", "// c"]⟩).settings := by decide +kernel
  obtain ⟨credit, command⟩ : StaysCommented (Tool.credit ⟨"wrap", "1", ["wrap", "a b", "// c"]⟩)
      ∧ StaysCommented (Tool.commandText ⟨"wrap", "1", ["wrap", "a b", "// c"]⟩) :=
    Tool.staysCommented (by decide) (by decide) (by decide)
  exact ⟨accepted, credit, (header_commented_iff accepted rfl keepsTop_writeWrapper
    [⟨"Store", "a", []⟩]).2.2 credit command⟩

/-- An argument with a newline in it: its second line is a declaration above the package clause, and
the file is given away. -/
theorem header_leaks_declaration :
    (List.splitOn '\n' ((runBy ⟨"wrap", "1", ["wrap", "a\nvar leak int"]⟩).draft
        0 []).assemble.toList).find? (!isCodeless ·) = some "var leak int".toList
      ∧ (runBy ⟨"wrap", "1", ["wrap", "a\nvar leak int"]⟩).fileText 0 []
        = .ok ("// Code generated by wrap 1; DO NOT EDIT.\n"
          ++ "// This file was generated by robots at\n// 1970-01-01T00:00:00Z\n"
          ++ "// using the command\n// $ wrap a\nvar leak int\n\n"
          ++ "package mocks\n") := by
  decide +kernel

end Emitter

end WrapperGen
