import WrapperGen.Proofs.References
import WrapperGen.Proofs.TreeGrowth

/-!
# What a directory lists

The files of a directory are listed in the order of their names, whatever the order is in which the
tree has come to hold them.  So to compare two listings it is enough to compare which files there
are, and that can be followed from one change of the tree to the next: a directory that is made is
no file, and a file that is written is listed in its own directory and nowhere else.

Which of the files have been written is not known to the directory.  Therefore the places that have
been written to are left out on both sides, and all other files are listed as they were.

## Main definitions

* `FileTree.namesBut`: the files that stand directly in a directory, some places left out.

## Main results

* `FileTree.namesBut_put_file`, `FileTree.namesBut_of_furnished`: what changes leave in place.
* `FileTree.filter_fileNames`: listings of directories that hold the same, written files apart.
-/

namespace WrapperGen
namespace FileTree

variable {tree later : FileTree} {places more : List Location} {place goal : Location}

/-- A file that is listed stands directly in the directory, under its name. -/
theorem fileNameIn?_eq_some {e : Location × Entry} {name : String}
    (h : fileNameIn? goal e = some name) : e.1 = goal ++ [name] := by
  rcases e with ⟨there, entry⟩
  cases entry with
  | file content mode =>
    unfold fileNameIn? at h
    dsimp only at h
    cases last : there.getLast? with
    | none =>
      rw [last] at h
      cases h
    | some found =>
      rw [last] at h
      dsimp only at h
      by_cases stands : there = goal ++ [found]
      · rw [if_pos stands] at h
        rw [← Option.some.inj h]
        exact stands
      · rw [if_neg stands] at h
        cases h
  | directory bits => cases h
  | link target => cases h

/-- The names of the regular files that stand directly at `goal`, those at some places left out, in
the order in which the tree holds them. -/
def namesBut (tree : FileTree) (places : List Location) (goal : Location) : List String :=
  (tree.entries.filterMap (fileNameIn? goal)).filter fun name => !places.contains (goal ++ [name])

/-- Trees that list the same, some places left out, do so when more places are left out. -/
theorem namesBut_mono (same : later.namesBut places goal = tree.namesBut places goal)
    (sub : places ⊆ more) : later.namesBut more goal = tree.namesBut more goal := by
  have again : ∀ tree : FileTree, tree.namesBut more goal
      = (tree.namesBut places goal).filter fun name => !more.contains (goal ++ [name]) := by
    intro tree
    unfold namesBut
    rw [List.filter_filter]
    refine List.filter_congr fun name _ => ?_
    by_cases left : (goal ++ [name]) ∈ more
    · rw [show more.contains (goal ++ [name]) = true by simpa using left]
      rfl
    · rw [show places.contains (goal ++ [name]) = false by simpa using fun mem => left (sub mem)]
      exact (Bool.and_true _).symm
  rw [again, again, same]

/-- An entry that is put at a place that is left out makes no difference. -/
theorem namesBut_put_file (mem : place ∈ places) (entry : Entry) :
    (tree.put place entry).namesBut places goal = tree.namesBut places goal := by
  -- whatever stands at the place is left out, be it the new entry or an old one
  have out : ∀ e : Location × Entry, e.1 = place →
      (fileNameIn? goal e).filter (fun name => !places.contains (goal ++ [name])) = none := by
    intro e here
    cases listed : fileNameIn? goal e with
    | none => rfl
    | some name =>
      have left : places.contains (goal ++ [name]) = true := by
        rw [← fileNameIn?_eq_some listed, here]
        simpa using mem
      rw [Option.filter_some, left]
      rfl
  unfold namesBut put
  rw [List.filter_filterMap, List.filter_filterMap, List.filterMap_cons, out _ rfl,
    List.filterMap_filter]
  refine congrArg (fun listed => List.filterMap listed tree.entries) (funext fun e => ?_)
  by_cases same : e.1 = place
  · rw [if_neg (by simpa using same), out e same]
  · rw [if_pos (by simpa using same)]

/-- A directory that is made at a free place is listed nowhere. -/
theorem namesBut_put_directory (free : tree.entryAt place = none) (bits : Nat) :
    (tree.put place (.directory bits)).namesBut places goal = tree.namesBut places goal := by
  -- nothing has been at the place, so nothing is removed
  have absent : ∀ e ∈ tree.entries, e.1 ≠ place := by
    rintro e mem rfl
    have below : e.1 ≠ [] := by
      intro top
      rw [top, entryAt_nil] at free
      cases free
    rw [entryAt, if_neg below, List.lookup_eq_none_iff] at free
    exact absurd rfl (bne_iff_ne.1 (free e mem))
  have same : tree.entries.filter (fun e => e.1 != place) = tree.entries :=
    List.filter_eq_self.2 fun e mem => by simpa using absent e mem
  unfold namesBut put
  rw [same]
  rfl

/-- Directories that are made are no files. -/
theorem namesBut_of_furnished (h : Furnished tree later) :
    later.namesBut places goal = tree.namesBut places goal := by
  induction h with
  | refl => rfl
  | put before free ih => exact (namesBut_put_directory free _).trans ih

/-- Two lists that hold the same names where some condition is met list them in the same order, once
both are sorted. -/
theorem filter_mergeSort {names others : List String} {keep : String → Bool}
    (same : names.filter keep = others.filter keep) :
    (names.mergeSort fun a b => !decide (b < a)).filter keep
      = (others.mergeSort fun a b => !decide (b < a)).filter keep := by
  have sorted (names : List String) :
      ((names.mergeSort fun a b => !decide (b < a)).filter keep).Pairwise (· ≤ ·) :=
    (pairwise_mergeSort id names).filter keep
  have perm (names : List String) :
      ((names.mergeSort fun a b => !decide (b < a)).filter keep).Perm (names.filter keep) :=
    (List.mergeSort_perm names _).filter keep
  refine List.Perm.eq_of_pairwise (fun a b _ _ => String.le_antisymm) (sorted names) (sorted others)
    ?_
  exact (perm names).trans (same ▸ (perm others).symm)

/-- The listings of a directory in two trees that hold the same files there, those at some places
left out: they agree on all names under which nothing has been left out. -/
theorem filter_fileNames {p : Path} {bits bits' : Nat}
    (found : tree.find p = .ok (goal, .directory bits))
    (found' : later.find p = .ok (goal, .directory bits'))
    (same : later.namesBut places goal = tree.namesBut places goal) :
    ∃ names names', tree.fileNames p = .ok names ∧ later.fileNames p = .ok names'
      ∧ ∀ keep : String → Bool, (∀ name, keep name = true → goal ++ [name] ∉ places) →
        names'.filter keep = names.filter keep := by
  refine ⟨_, _, by rw [fileNames, found], by rw [fileNames, found'], fun keep apart => ?_⟩
  refine filter_mergeSort ?_
  have again (names : List String) : names.filter keep
      = (names.filter fun name => !places.contains (goal ++ [name])).filter keep := by
    rw [List.filter_filter]
    refine List.filter_congr fun name _ => ?_
    cases kept : keep name with
    | false => rfl
    | true => simpa using apart name kept
  rw [again, again (tree.entries.filterMap _)]
  exact congrArg (List.filter keep) same

end FileTree
end WrapperGen
