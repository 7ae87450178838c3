import Mathlib.Data.String.Basic
import WrapperGen.Proofs.GuessedNames
import WrapperGen.Proofs.ImportLines
import WrapperGen.Proofs.ImportNames

/-!
# The scope of a generated file

A generated file is to have its aliases for names.  Where an alias is the last segment of its path
it is not written, for the path suggests it; but a path that ends in a major version suggests the
segment above.  So an alias is missing from the scope where it is numbered, and reads like a major
version that the path ends in.

## Main definitions

* `isPlainPath`: import paths of the usual characters.
* `ImportTable.Plain`: what holds of the imports of plain paths.
* `ImportTable.Hides`: the alias of a path is not written, though the path suggests another.

## Main results

* `ImportTable.plain_noteAll`: the imports of plain paths, after any number of mentions.
* `ImportTable.Plain.lookup_names_iff`: the aliases stand for their paths if none is hidden.
* `scope_importsText`: what is read from the imports of a file.
* `numbered_version_not_in_scope`: an alias that is missing.
-/

namespace WrapperGen

open Source

/-! ### Tables in order -/

namespace ImportTable

variable {path name : String} {entries : List (String × String)}

theorem eq_or_mem_of_mem_putEntry {entry : String × String}
    (h : entry ∈ putEntry path name entries) : entry = (path, name) ∨ entry ∈ entries := by
  induction entries with
  | nil => exact .inl (List.mem_singleton.1 h)
  | cons first rest ih =>
    obtain ⟨q, b⟩ := first
    rw [putEntry] at h
    split at h
    · exact (List.mem_cons.1 h).imp_right (List.mem_cons_of_mem _)
    · split at h
      · exact List.mem_cons.1 h
      · rcases List.mem_cons.1 h with rfl | h
        · exact .inr List.mem_cons_self
        · exact (ih h).imp_right (List.mem_cons_of_mem _)

/-- The entries are in the order of their paths, and no path comes twice. -/
def Ordered (entries : List (String × String)) : Prop := entries.Pairwise fun a b => a.1 < b.1

theorem Ordered.putEntry (h : Ordered entries) : Ordered (putEntry path name entries) := by
  -- the entries stay in the order of their paths, wherever the new one is put
  induction entries with
  | nil => exact List.pairwise_singleton _ _
  | cons first rest ih =>
    obtain ⟨q, b⟩ := first
    obtain ⟨least, tail⟩ := List.pairwise_cons.1 h
    rw [ImportTable.putEntry]
    split
    · next same =>
      refine List.pairwise_cons.2 ⟨?_, tail⟩
      rwa [same]
    · next other =>
      split
      · next before =>
        refine List.pairwise_cons.2 ⟨fun entry he => ?_, h⟩
        rcases List.mem_cons.1 he with rfl | he
        · exact before
        · exact before.trans (least entry he)
      · next behind =>
        refine List.pairwise_cons.2 ⟨fun entry he => ?_, ih tail⟩
        rcases eq_or_mem_of_mem_putEntry he with rfl | he
        · exact lt_of_le_of_ne (not_lt.1 behind) (Ne.symm other)
        · exact least entry he

theorem Ordered.lookup_eq_some_iff (h : Ordered entries) :
    entries.lookup path = some name ↔ (path, name) ∈ entries := by
  constructor
  · intro found
    obtain ⟨front, back, e, -⟩ := List.lookup_eq_some_iff.1 found
    rw [e]
    simp
  · intro mem
    obtain ⟨front, back, rfl⟩ := List.mem_iff_append.1 mem
    refine List.lookup_eq_some_iff.2 ⟨front, back, rfl, fun entry he => ?_⟩
    have before := (List.pairwise_append.1 h).2.2 entry he (path, name) List.mem_cons_self
    simpa using ne_of_gt before

end ImportTable

/-! ### Imports of plain paths -/

theorem isPathChar_of_not_isQuotable : ∀ c ∈ ['"', '\\', '\n', '\x00'], isPathChar c = false :=
  List.forall_iff_forall_mem.1 (by decide)

theorem isQuotable_of_isPathChar {c : Char} (h : isPathChar c = true) : isQuotable c = true := by
  have other : ∀ d ∈ ['"', '\\', '\n', '\x00'], c ≠ d := by
    rintro d hd rfl
    rw [isPathChar_of_not_isQuotable c hd] at h
    cases h
  simpa [isQuotable, and_assoc] using other

/-- Whether an import path consists of the usual characters, is not that of foreign code, and
suggests a name that can be written. -/
def isPlainPath (path : String) : Bool :=
  path.toList.all isPathChar && path != foreignPath && guessPackageName path != "_"

namespace ImportTable

variable {t : ImportTable} {path name : String}

/-- What holds of the imports of plain paths: they are in order, no two of them have one alias, and
each has one of its own candidates. -/
structure Plain (t : ImportTable) : Prop where
  /-- The paths are in order. -/
  ordered : Ordered t.entries
  /-- All paths are plain. -/
  plain : ∀ entry ∈ t.entries, isPlainPath entry.1 = true
  /-- Every alias is one that its path may get. -/
  candidate : ∀ entry ∈ t.entries, ∃ n, entry.2 = aliasCandidate (aliasBase entry.1) n
  /-- No two paths have one alias. -/
  unique : t.Unique

theorem plain_empty : ImportTable.empty.Plain where
  ordered := List.Pairwise.nil
  plain := fun _ h => by cases h
  candidate := fun _ h => by cases h
  unique := unique_empty

theorem Plain.alias?_eq_some_iff (h : t.Plain) :
    t.alias? path = some name ↔ (path, name) ∈ t.entries := h.ordered.lookup_eq_some_iff

/-- A plain path that is mentioned keeps the imports as they should be. -/
theorem Plain.note (h : t.Plain) (hp : isPlainPath path = true) :
    (t.note (.package path)).Plain := by
  refine note_package_induction (fun _ _ => h) fun free => ?_
  have unique := unique_note_package h.unique path
  rw [note_package_of_none free] at unique
  refine ⟨h.ordered.putEntry, fun entry he => ?_, fun entry he => ?_, unique⟩
  · rcases eq_or_mem_of_mem_putEntry he with rfl | he
    · exact hp
    · exact h.plain entry he
  · rcases eq_or_mem_of_mem_putEntry he with rfl | he
    · exact exists_freshAlias_eq _ _
    · exact h.candidate entry he

/-- Any number of plain paths may be mentioned. -/
theorem plain_noteAll {ms : List Mention} (h : t.Plain)
    (hm : ∀ m ∈ ms, ∃ path, m = .package path ∧ isPlainPath path = true) :
    (t.noteAll ms).Plain := by
  induction ms generalizing t with
  | nil => exact h
  | cons m ms ih =>
    obtain ⟨path, rfl, hp⟩ := hm m List.mem_cons_self
    exact ih (h.note hp) fun n hn => hm n (List.mem_cons_of_mem _ hn)

theorem Plain.readable (h : t.Plain) : Draft.Readable t.entries := by
  intro entry he
  obtain ⟨path, name⟩ := entry
  have plain := h.plain _ he
  obtain ⟨n, e⟩ := h.candidate _ he
  rw [isPlainPath, Bool.and_eq_true, Bool.and_eq_true, bne_iff_ne, bne_iff_ne] at plain
  obtain ⟨⟨usual, -⟩, word⟩ := plain
  dsimp only at e usual word ⊢
  rw [e]
  refine ⟨fun c hc => isQuotable_of_isPathChar (List.all_eq_true.1 usual c hc), ?_, ?_⟩
  · exact isIdentifier_candidate usual n
  · exact candidate_ne_blank word n

/-! ### What is hidden -/

/-- The alias of a path is left out in its line, though the path suggests another one. -/
def Hides (t : ImportTable) (path : String) : Prop :=
  ∃ name, t.alias? path = some name ∧ Draft.lastSegment path = name ∧ guessPackageName path ≠ name

/-- The path of an alias that is left out ends in a major version, and reads like the name that it
suggests with a number behind. -/
theorem Plain.numbered_of_hides (h : t.Plain) (hidden : t.Hides path) :
    isMajorVersion (Draft.lastSegment path).toList = true
      ∧ ∃ n, Draft.lastSegment path = aliasCandidate (guessPackageName path) (n + 1) := by
  obtain ⟨name, known, rfl, other⟩ := hidden
  obtain ⟨n, e⟩ := h.candidate _ (h.alias?_eq_some_iff.1 known)
  exact candidate_of_lastSegment e other

theorem Plain.writtenName? (h : t.Plain) {entry : String × String} (he : entry ∈ t.entries) :
    (Draft.importSpec entry).writtenName? = some
      (if Draft.lastSegment entry.1 == entry.2 then guessPackageName entry.1 else entry.2) := by
  have plain := h.plain entry he
  rw [isPlainPath, Bool.and_eq_true, Bool.and_eq_true, bne_iff_ne, bne_iff_ne] at plain
  by_cases own : (Draft.lastSegment entry.1 == entry.2) = true
  · rw [Draft.importSpec, if_pos own, if_pos own]
    exact if_neg plain.1.2
  · rw [Draft.importSpec, if_neg own, if_neg own]
    rfl

/-- An import that is not hidden is looked up by its alias. -/
theorem Plain.writtenName?_of_not_hides (h : t.Plain) {entry : String × String}
    (he : entry ∈ t.entries) (shown : ¬ t.Hides entry.1) :
    (Draft.importSpec entry).writtenName? = some entry.2 := by
  rw [h.writtenName? he]
  split
  · next own =>
    have known : t.alias? entry.1 = some entry.2 := h.alias?_eq_some_iff.2 he
    by_contra other
    exact shown ⟨entry.2, known, by simpa using own, fun e => other (congrArg some e)⟩
  · rfl

/-- The names that a file with these imports has for packages. -/
def scope (t : ImportTable) : FileScope := FileScope.ofImports (t.entries.map Draft.importSpec)

theorem Plain.lookup_names_of_not_hides (h : t.Plain) (shown : ∀ path, ¬ t.Hides path)
    (known : t.alias? path = some name) : t.scope.names.lookup name = some path := by
  have mem := h.alias?_eq_some_iff.1 known
  rcases FileScope.exists_isLastOf_or (fun spec => spec.writtenName? = some name)
      (t.entries.map Draft.importSpec) with ⟨spec, last⟩ | none'
  · rw [scope, FileScope.lookup_names_of_isLastOf last]
    obtain ⟨front, back, e, written, -⟩ := last
    obtain ⟨entry, he, rfl⟩ := List.mem_map.1 (e ▸ List.mem_append_right front List.mem_cons_self)
    rw [h.writtenName?_of_not_hides he (shown entry.1)] at written
    have same : t.alias? entry.1 = some name := written ▸ h.alias?_eq_some_iff.2 he
    exact congrArg some (h.unique _ _ _ same known)
  · exact absurd (h.writtenName?_of_not_hides mem (shown path))
      (none' _ (List.mem_map_of_mem mem))

/-- The alias of a hidden path does not stand for that path. -/
theorem Plain.lookup_names_of_hides (h : t.Plain) (hidden : t.Hides path)
    (known : t.alias? path = some name) : t.scope.names.lookup name ≠ some path := by
  obtain ⟨other, knownToo, own, ne⟩ := hidden
  obtain rfl : other = name := Option.some.inj (knownToo.symm.trans known)
  rcases FileScope.exists_isLastOf_or (fun spec => spec.writtenName? = some other)
      (t.entries.map Draft.importSpec) with ⟨spec, last⟩ | none'
  · rw [scope, FileScope.lookup_names_of_isLastOf last]
    obtain ⟨front, back, e, written, -⟩ := last
    obtain ⟨⟨q, b⟩, he, rfl⟩ := List.mem_map.1 (e ▸ List.mem_append_right front List.mem_cons_self)
    intro same
    obtain rfl : q = path := Option.some.inj same
    obtain rfl : b = other := Option.some.inj ((h.alias?_eq_some_iff.2 he).symm.trans known)
    rw [h.writtenName? he, if_pos (by simpa using own)] at written
    exact ne (Option.some.inj written)
  · rw [scope, FileScope.lookup_names_eq_none none']
    nofun

/-- All aliases are names of their paths exactly if no path is hidden. -/
theorem Plain.lookup_names_iff (h : t.Plain) :
    (∀ path name, t.alias? path = some name → t.scope.names.lookup name = some path)
      ↔ ∀ path, ¬ t.Hides path := by
  constructor
  · rintro found path ⟨name, known, hidden⟩
    exact h.lookup_names_of_hides ⟨name, known, hidden⟩ known (found path name known)
  · intro shown path name known
    exact h.lookup_names_of_not_hides shown known

end ImportTable

/-! ### The imports of a file -/

theorem imports_importItems (entries : List (String × String)) (front : List Item) (complete : Bool)
    (h : ∀ item ∈ front, ∃ name, item = .package name) :
    (Source.File.mk (front ++ Draft.importItems entries) complete).imports
      = entries.map Draft.importSpec := by
  have clauses : (Source.File.mk front complete).imports = [] := by
    refine List.flatMap_eq_nil_iff.2 fun item hi => ?_
    obtain ⟨name, rfl⟩ := h item hi
    rfl
  have block : (Source.File.mk (Draft.importItems entries) complete).imports
      = entries.map Draft.importSpec := by
    unfold Draft.importItems
    cases entries with
    | nil => rfl
    | cons entry entries => simp [Source.File.imports]
  unfold Source.File.imports at clauses block ⊢
  rw [List.flatMap_append, clauses, block, List.nil_append]

theorem scope_ofText (file : Path) (text : String) :
    (SourceFile.ofText file text).scope = FileScope.ofImports (Source.File.ofText text).imports :=
  rfl

theorem ofText_importsText_of_plain {t : ImportTable} (h : t.Plain) (file : Path) :
    (SourceFile.ofText file (Draft.importsText t)).content.complete = true
      ∧ (SourceFile.ofText file (Draft.importsText t)).scope = t.scope := by
  have read := Draft.ofText_importsText h.readable
  constructor
  · show (Source.File.ofText (Draft.importsText t)).complete = true
    rw [read]
  · rw [scope_ofText, read]
    exact congrArg FileScope.ofImports (imports_importItems t.entries [] true fun _ h => by cases h)

theorem exists_text_of_plain {t : ImportTable} (h : t.Plain) (file : Path) {packageName : String}
    (named : isIdentifier packageName = true) :
    ∃ text, (Draft.mk packageName [] t []).text? = some text
      ∧ (SourceFile.ofText file text).scope = t.scope := by
  have read := Draft.ofText_assemble named h.readable
  refine ⟨(Draft.mk packageName [] t []).assemble, if_pos ?_, ?_⟩
  · rw [isWellFormed, read]
  · rw [scope_ofText, read]
    exact congrArg FileScope.ofImports
      (imports_importItems t.entries [.package packageName] true fun item hi =>
        ⟨packageName, List.mem_singleton.1 hi⟩)

theorem plain_importsAfter {calls : List ImportCall}
    (h : ∀ m ∈ callMentions calls, ∃ path, m = .package path ∧ isPlainPath path = true) :
    (importsAfter calls).Plain := by
  rw [importsAfter_eq]
  exact ImportTable.plain_noteAll ImportTable.plain_empty h

/-- What is read from the imports of a file that has plain paths.  All lines are well formed; and
all aliases stand for their paths exactly if no path is hidden.  A path that is hidden ends in a
major version that looks like the name that it suggests with a number behind.  The imports read the
same in a file of a package. -/
theorem scope_importsText (calls : List ImportCall)
    (h : ∀ m ∈ callMentions calls, ∃ path, m = .package path ∧ isPlainPath path = true)
    (file : Path) :
    let table := importsAfter calls
    let block := SourceFile.ofText file (Draft.importsText table)
    block.content.complete = true
      ∧ ((∀ path name, table.alias? path = some name →
          block.scope.names.lookup name = some path) ↔ ∀ path, ¬ table.Hides path)
      ∧ (∀ path, table.Hides path → isMajorVersion (Draft.lastSegment path).toList = true
        ∧ ∃ n, Draft.lastSegment path = aliasCandidate (guessPackageName path) (n + 1))
      ∧ ∀ packageName, isIdentifier packageName = true →
        ∃ text, (Draft.mk packageName [] table []).text? = some text
          ∧ (SourceFile.ofText file text).scope = block.scope := by
  intro table block
  have plain : table.Plain := plain_importsAfter h
  -- the block is read back line by line, so its scope is that of the table
  obtain ⟨complete, scope⟩ := ofText_importsText_of_plain plain file
  refine ⟨complete, ?_, fun path => plain.numbered_of_hides, fun packageName named => ?_⟩
  · rw [scope]
    exact plain.lookup_names_iff
  · rw [scope]
    exact exists_text_of_plain plain file named

/-! ### Versions -/

/-- The imports of two packages with one name, one of them of a later version. -/
def twinCalls : List ImportCall :=
  [.importing "example.com/go-mux/v2", .qualifying "other.com/mux" "Router"]

theorem isPlainPath_twinCalls :
    ∀ m ∈ callMentions twinCalls, ∃ path, m = .package path ∧ isPlainPath path = true := by
  have mentions : callMentions twinCalls
      = [.package "example.com/go-mux/v2", .package "other.com/mux"] := by
    simp [callMentions, twinCalls, ImportCall.mentions]
  rw [mentions]
  exact List.forall_mem_cons.2 ⟨⟨_, rfl, by decide⟩,
    List.forall_mem_singleton.2 ⟨_, rfl, by decide⟩⟩

theorem entries_twinCalls : (importsAfter twinCalls).entries
    = [("example.com/go-mux/v2", "mux"), ("other.com/mux", "mux1")] := by
  decide

/-- Both aliases are written, and stand for their paths. -/
theorem scope_importsText_twins :
    (∀ m ∈ callMentions twinCalls, ∃ path, m = .package path ∧ isPlainPath path = true)
      ∧ ∀ path name, (importsAfter twinCalls).alias? path = some name →
        (SourceFile.ofText ⟨"/mocks/mux.go"⟩
          (Draft.importsText (importsAfter twinCalls))).scope.names.lookup name = some path := by
  have h := isPlainPath_twinCalls
  refine ⟨h, (scope_importsText twinCalls h _).2.1.2 ?_⟩
  rintro path ⟨name, known, own, other⟩
  have mem := (plain_importsAfter h).alias?_eq_some_iff.1 known
  rw [entries_twinCalls] at mem
  have shown : ∀ entry ∈ [("example.com/go-mux/v2", "mux"), ("other.com/mux", "mux1")],
      Draft.lastSegment entry.1 ≠ entry.2 := List.forall_iff_forall_mem.1 (by decide)
  exact shown _ mem own

/-- The imports of two packages, of which one has the other's first alias for its name, and looks
like its first version. -/
def versionCalls : List ImportCall := [.importing "a.com/v", .importing "b.com/v/v1"]

/-- The alias of the second package is not written, and in the scope there is no such name; for its
path suggests the alias of the first package. -/
theorem numbered_version_not_in_scope :
    (∀ m ∈ callMentions versionCalls, ∃ path, m = .package path ∧ isPlainPath path = true)
      ∧ (importsAfter versionCalls).alias? "b.com/v/v1" = some "v1"
      ∧ ∀ file, (SourceFile.ofText file
          (Draft.importsText (importsAfter versionCalls))).scope.names.lookup "v1" = none
        ∧ (SourceFile.ofText file
          (Draft.importsText (importsAfter versionCalls))).scope.names.lookup "v"
            = some "b.com/v/v1" := by
  have mentions : callMentions versionCalls = [.package "a.com/v", .package "b.com/v/v1"] := by
    simp [callMentions, versionCalls, ImportCall.mentions]
  have h : ∀ m ∈ callMentions versionCalls,
      ∃ path, m = .package path ∧ isPlainPath path = true := by
    rw [mentions]
    exact List.forall_mem_cons.2 ⟨⟨_, rfl, by decide⟩,
      List.forall_mem_singleton.2 ⟨_, rfl, by decide⟩⟩
  refine ⟨h, by decide, fun file => ?_⟩
  rw [(ofText_importsText_of_plain (plain_importsAfter h) file).2]
  exact ⟨by decide, by decide⟩

end WrapperGen
