import WrapperGen.Proofs.ConstantValues
import WrapperGen.Proofs.PackageFacts

/-!
# Groups of constants

A name that is declared as a constant stands in a file, in a line of a group, and in a column of
that line.  The line is what the counter comes to; the values are those of the nearest line, there
or above, that has any.  Where a name stands in several places, the first one counts, and an
underscore is never declared.

The column should pick the value.  But the commas between the names are counted as well, so that
behind the first name of a line the values in the odd columns are passed over, and the last names
of a line get none.

## Main definitions

* `valuesInForce`: the values of the last declaration that has any.
* `ConstSite`: a place where a name is declared.
* `firstSite?`: the first one for a name.
* `ConstSite.Gives`: what a name stands for.

## Main results

* `groupEntries_eq_filterMap`: what a group declares, place by place.
* `constant?_ofFiles`: what a package declares.
* `const_groups_repeat`: which names get a value, and which one.
* `second_name_missing`: a name whose value is passed over.
-/

namespace WrapperGen

open Source

/-- The values in force behind some declarations of a group: those of the last one that has any. -/
def valuesInForce (specs : List ConstSpec) : List Expr :=
  ((specs.filterMap ConstSpec.values?).getLast?).getD []

theorem valuesInForce_concat (front : List ConstSpec) (spec : ConstSpec) :
    valuesInForce (front ++ [spec]) = spec.values?.getD (valuesInForce front) := by
  rw [valuesInForce, List.filterMap_append]
  cases given : spec.values? with
  | none =>
    rw [List.filterMap_cons_none given, List.filterMap_nil, List.append_nil]
    rfl
  | some values =>
    rw [List.filterMap_cons_some given, List.filterMap_nil, List.getLast?_concat]
    rfl

/-! ### Places -/

/-- A place where a name is declared as a constant. -/
structure ConstSite where
  /-- The file. -/
  file : SourceFile
  /-- The group. -/
  group : List ConstSpec
  /-- How many declarations of the group stand in front. -/
  line : Nat
  /-- How many names of the declaration stand in front. -/
  column : Nat
  /-- The name. -/
  name : String

namespace ConstSite

/-- The values in force at the place. -/
def values (site : ConstSite) : List Expr := valuesInForce (site.group.take (site.line + 1))

/-- The constant that is declared there, with a value. -/
def entry (site : ConstSite) (value? : Option Expr) : ConstEntry :=
  ⟨site.name, site.file, value?, site.line⟩

/-- The constant that comes of the place, with the value that is picked for it. -/
def bound? (site : ConstSite) : Option ConstEntry :=
  if site.name == "_" then none else some (site.entry site.values[2 * site.column]?)

end ConstSite

/-- The places of the names in the lines `rest` of a group, which stand behind others. -/
def sitesFrom (file : SourceFile) (group : List ConstSpec) (line : Nat) (rest : List ConstSpec) :
    List ConstSite :=
  (rest.zipIdx line).flatMap fun (spec, line) =>
    spec.names.zipIdx.map fun (name, column) => ⟨file, group, line, column, name⟩

/-- The places of the names in some files, one behind the other. -/
def sitesOf (files : List SourceFile) : List ConstSite :=
  files.flatMap fun file =>
    file.content.constGroups.flatMap fun group => sitesFrom file group 0 group

/-- The first place of a name. -/
def firstSite? (files : List SourceFile) (name : String) : Option ConstSite :=
  (sitesOf files).find? (·.name == name)

theorem sitesFrom_cons (file : SourceFile) (group : List ConstSpec) (line : Nat)
    (spec : ConstSpec) (rest : List ConstSpec) :
    sitesFrom file group line (spec :: rest)
      = (spec.names.zipIdx.map fun (name, column) => ⟨file, group, line, column, name⟩)
        ++ sitesFrom file group (line + 1) rest := rfl

theorem mem_sitesFrom {file : SourceFile} {group : List ConstSpec} {site : ConstSite} :
    site ∈ sitesFrom file group 0 group ↔ site.file = file ∧ site.group = group
      ∧ ∃ spec, group[site.line]? = some spec ∧ spec.names[site.column]? = some site.name := by
  simp only [sitesFrom, List.mem_flatMap, List.mem_map, List.mem_zipIdx_iff_getElem?, Prod.exists]
  constructor
  · rintro ⟨spec, line, here, name, column, there, rfl⟩
    exact ⟨rfl, rfl, spec, here, there⟩
  · rintro ⟨rfl, rfl, spec, here, there⟩
    exact ⟨spec, site.line, here, site.name, site.column, there, rfl⟩

/-! ### What is declared -/

/-- The declarations of a group behind others: the values in force are carried along, and the lines
are counted. -/
theorem groupEntries_eq (file : SourceFile) (front rest : List ConstSpec) :
    groupEntries file front.length (valuesInForce front) rest
      = (sitesFrom file (front ++ rest) front.length rest).filterMap ConstSite.bound? := by
  induction rest generalizing front with
  | nil => rfl
  | cons spec rest ih =>
    have behind := ih (front ++ [spec])
    rw [List.length_append, List.length_singleton, valuesInForce_concat, List.append_assoc,
      List.singleton_append] at behind
    rw [groupEntries, sitesFrom_cons, List.filterMap_append, List.filterMap_map, ← behind]
    congr 1
    refine List.filterMap_congr fun (name, column) _ => ?_
    have here : (front ++ spec :: rest).take (front.length + 1) = front ++ [spec] := by
      rw [List.take_append, List.take_of_length_le (Nat.le_succ _), Nat.add_sub_cancel_left]
      rfl
    simp only [Function.comp_apply, ConstSite.bound?, ConstSite.entry, ConstSite.values, here,
      valuesInForce_concat]

/-- What a group declares, place by place. -/
theorem groupEntries_eq_filterMap (file : SourceFile) (group : List ConstSpec) :
    groupEntries file 0 [] group = (sitesFrom file group 0 group).filterMap ConstSite.bound? :=
  groupEntries_eq file [] group

section Package

variable {importPath name : String} {files : List SourceFile}

/-- A name stands for what comes of its first place. -/
theorem constant?_ofFiles (named : name ≠ "_") :
    (PackageScope.ofFiles importPath files).constant? name
      = (firstSite? files name).map fun site => site.entry site.values[2 * site.column]? := by
  -- the entries of the files are those of the places at which a name is bound
  have entries :
      files.flatMap (fun file => file.content.constGroups.flatMap (groupEntries file 0 []))
        = (sitesOf files).filterMap ConstSite.bound? := by
    simp only [sitesOf, List.filterMap_flatMap, ← groupEntries_eq_filterMap]
  rw [PackageScope.constant?, PackageScope.ofFiles]
  dsimp only
  rw [find?_keepFirst, entries, List.find?_filterMap, firstSite?]
  -- no other name is blank, so the blank places do not matter to the search
  have same : (fun site : ConstSite => site.bound?.any (·.name == name)) = (·.name == name) := by
    funext site
    unfold ConstSite.bound?
    split
    · next blank =>
      rw [beq_iff_eq.1 blank]
      exact (beq_false_of_ne named.symm).symm
    · rfl
  rw [same]
  cases found : (sitesOf files).find? (·.name == name) with
  | none => rfl
  | some site =>
    have theirs : site.name = name := by simpa using List.find?_some found
    have visible : ¬ (site.name == "_") = true := by simpa [theirs] using named
    exact if_neg visible

/-- An underscore stands for nothing. -/
theorem constant?_blank : (PackageScope.ofFiles importPath files).constant? "_" = none := by
  rw [PackageScope.constant?, List.find?_eq_none]
  intro entry mem blank
  obtain ⟨file, -, mem⟩ := List.mem_flatMap.1 (mem_of_mem_keepFirst mem)
  obtain ⟨group, -, mem⟩ := List.mem_flatMap.1 mem
  rw [groupEntries_eq_filterMap] at mem
  obtain ⟨site, -, bound⟩ := List.mem_filterMap.1 mem
  unfold ConstSite.bound? at bound
  split at bound
  · cases bound
  · next visible =>
    obtain rfl := Option.some.inj bound
    exact visible blank

/-- All names that are declared stand for something, but for the underscore, and no other ones. -/
theorem constant?_eq_none_iff :
    (PackageScope.ofFiles importPath files).constant? name = none
      ↔ name = "_" ∨ ∀ file ∈ files, ∀ group ∈ file.content.constGroups, ∀ spec ∈ group,
          name ∉ spec.names := by
  by_cases blank : name = "_"
  · rw [blank]
    exact iff_of_true constant?_blank (.inl rfl)
  rw [constant?_ofFiles blank, Option.map_eq_none_iff, firstSite?, List.find?_eq_none,
    or_iff_right blank]
  -- a place tells its line and column, and a name in a group has both
  constructor
  · intro never file hf group hg spec hs mem
    obtain ⟨line, here⟩ := List.getElem?_of_mem hs
    obtain ⟨column, there⟩ := List.getElem?_of_mem mem
    refine never ⟨file, group, line, column, name⟩ ?_ (beq_self_eq_true name)
    exact List.mem_flatMap.2 ⟨file, hf, List.mem_flatMap.2
      ⟨group, hg, mem_sitesFrom.2 ⟨rfl, rfl, spec, here, there⟩⟩⟩
  · intro never site mem same
    obtain ⟨file, hf, mem⟩ := List.mem_flatMap.1 mem
    obtain ⟨group, hg, mem⟩ := List.mem_flatMap.1 mem
    obtain ⟨-, -, spec, here, there⟩ := mem_sitesFrom.1 mem
    exact never file hf group hg spec (List.mem_of_getElem? here)
      (beq_iff_eq.1 same ▸ List.mem_of_getElem? there)

end Package

/-! ### What names stand for -/

/-- The name that is declared at the place stands for a value, as it is seen in that file and behind
as many declarations, or for none. -/
structure ConstSite.Gives (site : ConstSite) (scope : PackageScope) (value? : Option Expr) :
    Prop where
  /-- The name is bound. -/
  bound : scope.constant? site.name = some (site.entry value?)
  /-- Without a value there is an error. -/
  missing : value? = none →
    ∀ (imported? : Option (SourceFile → Span → Expr → String → Check Int)) (s : Session),
      ((scope.constantSource imported?).named (site.entry value?)).run.run s
        = (.error (.missingValue site.name), s)
  /-- A value is computed in the file, with the line for the counter. -/
  value : ∀ value, value? = some value →
    ∀ (imported? : Option (SourceFile → Span → Expr → String → Check Int)) (n : Int)
      (s last : Session),
      ((scope.constantSource imported?).named (site.entry value?)).run.run s = (.ok n, last)
        ↔ (constantValue scope (scope.constantSource imported?) site.file (some site.line)
            value).run.run s = (.ok n, last)

theorem ConstSite.gives_of_bound {site : ConstSite} {scope : PackageScope} {value? : Option Expr}
    (bound : scope.constant? site.name = some (site.entry value?)) : site.Gives scope value? where
  bound := bound
  missing := fun none' _ s => run_named_missing none' s
  value := by
    rintro value rfl imported? n s last
    exact run_named_eq_ok_iff bound

/-- The files of a package are read in the order of their names. -/
theorem exists_names_of_filesIn {w : Workspace} {dir : Path} {files : List SourceFile}
    (read : w.filesIn dir = .ok files) :
    ∃ names : List String, names.Pairwise (· ≤ ·)
      ∧ files.map SourceFile.path = names.map fun name => dir.join ⟨name⟩ := by
  -- the files of a directory are read in the order in which they are listed
  have listed : ∃ paths, sourceFiles w.tree dir w.context.platform = .ok paths
      ∧ w.readFiles paths = .ok files := by
    unfold Workspace.filesIn at read
    split at read
    · cases read
    · cases read
    · next paths _ found => exact ⟨paths, found, read⟩
  obtain ⟨paths, found, read⟩ := listed
  rw [Workspace.map_path_of_readFiles read]
  unfold sourceFiles at found
  split at found
  · cases found
  · next names present =>
    refine ⟨_, ?_, (Except.ok.inj found).symm⟩
    refine List.Pairwise.filter _ ?_
    unfold FileTree.fileNames at present
    split at present
    · cases present
    · obtain rfl := Except.ok.inj present
      exact pairwise_mergeSort id _
    · obtain rfl := Except.ok.inj present
      exact List.Pairwise.nil

/-- The constants of a package, whose files are read in the order of their names.  All names in its
groups are bound but the underscore.  A name is bound at its first place, to the value in twice its
column; so it is bound to the value in its own column if it is the first name of its declaration, or
if there is no value for it. -/
theorem const_groups_repeat {w : Workspace} {dir : Path} {files : List SourceFile}
    (read : w.filesIn dir = .ok files) (importPath name : String) :
    (∃ names : List String, names.Pairwise (· ≤ ·)
        ∧ files.map SourceFile.path = names.map fun name => dir.join ⟨name⟩)
      ∧ ((PackageScope.ofFiles importPath files).constant? name = none
        ↔ name = "_" ∨ ∀ file ∈ files, ∀ group ∈ file.content.constGroups, ∀ spec ∈ group,
            name ∉ spec.names)
      ∧ (name ≠ "_" → ∀ site, firstSite? files name = some site →
        site.Gives (.ofFiles importPath files) site.values[2 * site.column]?
        ∧ (site.column = 0 ∨ site.values.length ≤ site.column →
          site.Gives (.ofFiles importPath files) site.values[site.column]?)) := by
  refine ⟨exists_names_of_filesIn read, constant?_eq_none_iff, fun named site first => ?_⟩
  have theirs : site.name = name := by simpa using List.find?_some first
  have gives : site.Gives (.ofFiles importPath files) site.values[2 * site.column]? := by
    refine ConstSite.gives_of_bound ?_
    rw [theirs, constant?_ofFiles named, first, Option.map_some]
  refine ⟨gives, fun settled => ?_⟩
  -- the first name has position zero, and beyond the end there is nothing at either position
  have same : site.values[2 * site.column]? = site.values[site.column]? := by
    rcases settled with top | short
    · rw [top]
    · rw [List.getElem?_eq_none short, List.getElem?_eq_none (by omega)]
  rwa [← same]

/-- A group whose last line repeats the first one that has values. -/
def tallyText : String :=
  "package p\nconst (\n\t_ = iota\n\tA, B = 10 + iota, 7\n\t_, _\n\tC, _\n)\n"

/-- The file of that group. -/
def tallyFile : SourceFile := .ofText ⟨"/src/p/p.go"⟩ tallyText

theorem filesIn_tallyText : (requestFor tallyText).workspace.filesIn ⟨"/src/p"⟩ = .ok [tallyFile] :=
  Workspace.filesIn_of_single (by decide +kernel) (by decide +kernel) (by decide +kernel)

/-- The name in the last line is computed from the values two lines above, with its own line for the
counter. -/
theorem const_groups_repeat_tally :
    ∃ site, firstSite? [tallyFile] "C" = some site ∧ site.line = 3 ∧ site.column = 0
      ∧ site.Gives (.ofFiles "p" [tallyFile]) site.values[0]?
      ∧ ((((PackageScope.ofFiles "p" [tallyFile]).constantSource none).named
          (site.entry site.values[0]?)).run.run .empty).1.toOption = some 13 := by
  have place : (firstSite? [tallyFile] "C").map (fun site => (site.line, site.column))
      = some (3, 0) := by
    decide +kernel
  obtain ⟨site, first, e⟩ := Option.map_eq_some_iff.1 place
  obtain ⟨line, column⟩ := Prod.mk.inj e
  have gives := ((const_groups_repeat filesIn_tallyText "p" "C").2.2 (by decide) site first).2
    (.inl column)
  have value : (((PackageScope.ofFiles "p" [tallyFile]).constant? "C").map fun entry =>
      ((((PackageScope.ofFiles "p" [tallyFile]).constantSource none).named entry).run.run
        .empty).1.toOption) = some (some 13) := by
    decide +kernel
  have theirs : site.name = "C" := by simpa using List.find?_some first
  rw [column] at gives
  rw [← theirs, gives.bound, Option.map_some] at value
  exact ⟨site, first, line, column, gives, Option.some.inj value⟩

/-- The text of a file with two constants in one line. -/
def pairText : String := "package p\nconst A, B = 1, 2\n"

/-- The second name has no value, although there is one for it. -/
theorem second_name_missing :
    ¬ ∀ (w : Workspace) (dir : Path) (files : List SourceFile), w.filesIn dir = .ok files →
      ∀ (name : String) (site : ConstSite), name ≠ "_" → firstSite? files name = some site →
        site.Gives (.ofFiles "p" files) site.values[site.column]? := by
  intro picks
  have read : (requestFor pairText).workspace.filesIn ⟨"/src/p"⟩
      = .ok [.ofText ⟨"/src/p/p.go"⟩ pairText] :=
    Workspace.filesIn_of_single (by decide +kernel) (by decide +kernel) (by decide +kernel)
  have value : ((firstSite? [.ofText ⟨"/src/p/p.go"⟩ pairText] "B").map fun site =>
      site.values[site.column]?.isSome) = some true := by
    decide +kernel
  have missing : (((PackageScope.ofFiles "p" [.ofText ⟨"/src/p/p.go"⟩ pairText]).constant? "B").map
      fun entry => entry.value?.isSome) = some false := by
    decide +kernel
  obtain ⟨site, first, there⟩ := Option.map_eq_some_iff.1 value
  have theirs : site.name = "B" := by simpa using List.find?_some first
  -- the claim would give the second value to `B`, but what is bound there has none
  have gives := picks _ _ _ read "B" site (by decide) first
  rw [← theirs, gives.bound, Option.map_some] at missing
  rw [ConstSite.entry, there] at missing
  cases missing

end WrapperGen
