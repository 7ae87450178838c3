import Mathlib.Data.List.Perm.Subperm
import WrapperGen.Check.Loading

/-!
# How many imports there are

A check may enter so many packages, one inside of the other, as `Workspace.importBound` says.  That
number is taken from the lengths of the texts alone, and here it is compared with the imports that
the reader finds in them: of import paths that stand in texts of the tree, no more than that many
are different.

## Main definitions

* `Reading.Gives`: what is known of a value that a reader comes to.
* `FileScope.paths`, `Workspace.pathsIn`: the import paths that a file, and a text, has a name for.
* `FileTree.Holds`: a text stands in some entries.

## Main results

* `Source.File.length_imports_ofText_le`: the imports of one text.
* `Workspace.length_le_boundOfTexts`: different import paths in the texts of some entries.
-/

namespace WrapperGen

/-! ### Values of readers -/

namespace Reading

variable {τ α β : Type} {good : α → Prop} {good' : β → Prop}

/-- A value that a reader comes to is `good`. -/
def Gives (good : α → Prop) (p : Reading τ α) : Prop :=
  ∀ s value rest, p s = some (value, rest) → good value

theorem gives_pure {value : α} (h : good value) : Gives good (pure value : Reading τ α) := by
  intro s other rest e
  obtain ⟨rfl, -⟩ := Prod.mk.inj (Option.some.inj e)
  exact h

theorem Gives.bind {p : Reading τ α} {f : α → Reading τ β} (hp : Gives good p)
    (hf : ∀ value, good value → Gives good' (f value)) : Gives good' (p >>= f) := by
  intro s last rest e
  have parts : (p s).bind (fun found => f found.1 found.2) = some (last, rest) := e
  obtain ⟨⟨value, behind⟩, first, second⟩ := Option.bind_eq_some_iff.1 parts
  exact hf value (hp s value behind first) behind last rest second

/-- What comes first may be anything. -/
theorem gives_behind {p : Reading τ α} {f : α → Reading τ β} (hf : ∀ value, Gives good' (f value)) :
    Gives good' (p >>= f) := by
  have anything : Gives (fun _ => True) p := fun _ _ _ _ => trivial
  exact anything.bind fun value _ => hf value

theorem Gives.orElse {p q : Reading τ α} (hp : Gives good p) (hq : Gives good q) :
    Gives good (p <|> q) := by
  intro s value rest e
  have parts : ((p s).orElse fun _ => q s) = some (value, rest) := e
  cases first : p s with
  | none =>
    rw [first] at parts
    exact hq s value rest parts
  | some found =>
    rw [first] at parts
    obtain rfl := Option.some.inj parts
    exact hp s value rest first

theorem gives_repeatStep {step : List α → Reading τ (List α)} {limit bound : Nat}
    {values : List α} (h : ∀ values, Gives (fun next => next.length ≤ values.length + 1)
      (step values)) (enough : values.length + limit ≤ bound) :
    Gives (fun last => last.length ≤ bound) (repeatStep step limit values) := by
  -- each step adds one value at most, and there are no more steps than the limit
  induction limit generalizing values with
  | zero => exact gives_pure enough
  | succ limit ih =>
    intro s last rest e
    unfold repeatStep at e
    cases one : step values s with
    | none =>
      rw [one] at e
      obtain ⟨rfl, -⟩ := Prod.mk.inj (Option.some.inj e)
      omega
    | some found =>
      obtain ⟨next, behind⟩ := found
      rw [one] at e
      have more := h values s next behind one
      have left : next.length + limit ≤ bound := by omega
      exact ih left behind last rest e

theorem gives_many (limit : Nat) (p : Reading τ α) :
    Gives (fun values => values.length ≤ limit) (many limit p) := by
  unfold many
  refine (gives_repeatStep (fun values => ?_) (Nat.le_of_eq (Nat.zero_add limit))).bind ?_
  · exact gives_behind fun value => gives_pure (Nat.le_of_eq List.length_cons)
  · intro values few
    exact gives_pure (by rwa [List.length_reverse])

end Reading

/-! ### Imports of one text -/

namespace Source

open Reading

theorem length_tokensFrom_le (offset : Nat) (place : Place) (onNewLine joined : Bool)
    (text : List Char) :
    (tokensFrom offset place onNewLine joined text).length ≤ text.length := by
  fun_induction tokensFrom offset place onNewLine joined text with
  | case1 => exact Nat.le_refl 0
  | case2 offset place onNewLine joined c rest n blank ih =>
    rw [List.length_drop] at ih
    rw [List.length_cons]
    omega
  | case3 offset place onNewLine joined c rest blank found ih =>
    rw [List.length_drop] at ih
    rw [List.length_cons, List.length_cons]
    omega

theorem length_tokens_le (text : List Char) : (tokens text).length ≤ text.length := by
  unfold tokens
  split
  · have behind := length_tokensFrom_le 1 (Place.start.step '\ufeff') false false ‹List Char›
    rw [List.length_cons]
    omega
  · exact length_tokensFrom_le _ _ _ _ _

theorem gives_oneOrGroup {α : Type} (limit : Nat) (p : Reader α) :
    Gives (fun values => values.length ≤ limit + 1) (oneOrGroup limit p) := by
  have list : Gives (fun values => values.length ≤ limit + 1) (terminatedList limit p) := by
    refine gives_behind fun first => ?_
    cases first with
    | none => exact gives_pure (Nat.zero_le _)
    | some value =>
      refine (gives_many limit _).bind fun more few => gives_behind fun _ => gives_pure ?_
      rw [List.length_cons]
      omega
  refine Gives.orElse (gives_behind fun _ => list.bind fun values few => ?_) ?_
  · exact gives_behind fun _ => gives_pure few
  · refine gives_behind fun value => gives_pure ?_
    rw [List.length_singleton]
    omega

/-- A part of a file has no more imports than that. -/
def Item.HasAtMost (n : Nat) (item : Item) : Prop :=
  ∀ specs, item = .imports specs → specs.length ≤ n

theorem gives_readItem (g : Grammar) : Gives (Item.HasAtMost (g.limit + 1)) (readItem g) := by
  have other : ∀ {item : Item}, (∀ specs, item ≠ .imports specs) →
      Gives (Item.HasAtMost (g.limit + 1)) (pure item : Reader Item) := fun never =>
    gives_pure fun specs e => absurd e (never specs)
  refine gives_behind fun first => ?_
  split
  · exact gives_behind fun _ => gives_behind fun _ => other fun _ => by simp
  · refine gives_behind fun _ => (gives_oneOrGroup _ _).bind fun specs few => gives_pure ?_
    intro same e
    obtain rfl := Item.imports.inj e
    exact few
  -- what begins with `func` is a function, a method or a statement, and no import
  · refine Gives.orElse ?_ (Gives.orElse ?_ ?_)
    · exact gives_behind fun _ => gives_behind fun _ => gives_behind fun _ =>
        gives_behind fun _ => other fun _ => by simp
    · exact gives_behind fun _ => gives_behind fun _ => gives_behind fun _ =>
        gives_behind fun _ => other fun _ => by simp
    · exact gives_behind fun _ => other fun _ => by simp
  · exact gives_behind fun _ => other fun _ => by simp
  · exact gives_behind fun _ => other fun _ => by simp
  · exact gives_behind fun _ => other fun _ => by simp

theorem length_readItems_le (g : Grammar) (steps : Nat) (ts : List Token) :
    (readItems g steps ts).1.length ≤ steps := by
  induction steps generalizing ts with
  | zero => exact Nat.le_refl 0
  | succ steps ih =>
    cases ts with
    | nil => exact Nat.zero_le _
    | cons t rest =>
      unfold readItems
      cases readItem g (t :: rest) with
      | none => exact Nat.zero_le _
      | some part =>
        dsimp only
        cases terminator part.2 with
        | none => exact Nat.le_add_left 1 steps
        | some next => exact Nat.succ_le_succ (ih next.2)

/-- What is true of each part that may come next is true of all parts. -/
theorem forall_mem_readItems {good : Item → Prop} {g : Grammar} (each : Gives good (readItem g))
    (steps : Nat) (ts : List Token) : ∀ item ∈ (readItems g steps ts).1, good item := by
  induction steps generalizing ts with
  | zero => exact nofun
  | succ steps ih =>
    cases ts with
    | nil => exact nofun
    | cons t rest =>
      unfold readItems
      cases found : readItem g (t :: rest) with
      | none => exact nofun
      | some part =>
        have first := each _ _ _ found
        dsimp only
        cases terminator part.2 with
        | none => exact List.forall_mem_singleton.2 first
        | some next => exact List.forall_mem_cons.2 ⟨first, ih next.2⟩

theorem File.length_imports_le {f : File} {n m : Nat} (few : f.items.length ≤ n)
    (each : ∀ item ∈ f.items, item.HasAtMost m) : f.imports.length ≤ n * m := by
  have all : f.imports.length ≤ f.items.length * m := by
    -- by the items: only those that are imports add any
    unfold File.imports
    generalize f.items = items at each
    induction items with
    | nil => exact Nat.zero_le _
    | cons item rest ih =>
      obtain ⟨first, others⟩ := List.forall_mem_cons.1 each
      rw [List.flatMap_cons, List.length_append, List.length_cons, Nat.succ_mul]
      have behind := ih others
      cases item with
      | imports specs =>
        have here := first specs rfl
        dsimp only
        omega
      | _ =>
        dsimp only
        rw [List.length_nil]
        omega
  exact Nat.le_trans all (Nat.mul_le_mul_right m few)

/-- A text of `n` characters has no more than so many imports. -/
theorem File.length_imports_ofText_le (text : String) :
    (File.ofText text).imports.length ≤ (text.length + 1) * (text.length + 2) := by
  have short : (tokens text.toList).length ≤ text.length := by
    rw [← String.length_toList]
    exact length_tokens_le text.toList
  have few := length_readItems_le (grammarFor (tokens text.toList))
    ((tokens text.toList).length + 1) (tokens text.toList)
  have each := forall_mem_readItems (gives_readItem (grammarFor (tokens text.toList)))
    ((tokens text.toList).length + 1) (tokens text.toList)
  refine Nat.le_trans (length_imports_le few each) ?_
  exact Nat.mul_le_mul (by omega) (Nat.add_le_add_right (Nat.add_le_add_right short 1) 1)

end Source

/-! ### Import paths of all texts -/

open Source (File ImportSpec)

/-- The import paths that a file has a name for, or that it may turn out to have one for. -/
def FileScope.paths (s : FileScope) : List String := s.names.map Prod.snd ++ s.unnamed

theorem mem_paths_addImport {s : FileScope} {spec : ImportSpec} {path : String}
    (h : path ∈ (s.addImport spec).paths) : path ∈ s.paths ∨ path = spec.path := by
  unfold FileScope.addImport at h
  split at h
  · exact Or.inl h
  · exact Or.inl h
  · rcases List.mem_cons.1 h with here | h
    · exact Or.inr here
    · exact Or.inl h
  · split at h
    · exact Or.inl h
    · simp only [FileScope.paths, List.map_cons, List.cons_append, List.mem_cons, List.mem_append,
        List.not_mem_nil, or_false] at h ⊢
      tauto

theorem mem_paths_ofImports {specs : List ImportSpec} {path : String}
    (h : path ∈ (FileScope.ofImports specs).paths) : path ∈ specs.map ImportSpec.path := by
  -- from any scope to start with, since each import changes it
  have all : ∀ s : FileScope, path ∈ (specs.foldl FileScope.addImport s).paths →
      path ∈ s.paths ∨ path ∈ specs.map ImportSpec.path := by
    clear h
    induction specs with
    | nil => exact fun s h => Or.inl h
    | cons spec rest ih =>
      intro s h
      rw [List.map_cons, List.mem_cons]
      rcases ih (s.addImport spec) h with h | behind
      · rcases mem_paths_addImport h with before | here
        · exact Or.inl before
        · exact Or.inr (Or.inl here)
      · exact Or.inr (Or.inr behind)
  rcases all .empty h with never | mem
  · cases never
  · exact mem

/-- A text stands somewhere in some entries. -/
def FileTree.Holds (entries : List (Location × Entry)) (text : String) : Prop :=
  ∃ place mode, (place, Entry.file (.text text) mode) ∈ entries

namespace Workspace

/-- The import paths that a text has a name for, whatever file it is the text of. -/
def pathsIn (text : String) : List String := (FileScope.ofImports (File.ofText text).imports).paths

/-- The import paths that stand in texts among some entries, with repetitions. -/
def importedIn : List (Location × Entry) → List String
  | [] => []
  | (_, .file (.text value) _) :: rest =>
      (File.ofText value).imports.map ImportSpec.path ++ importedIn rest
  | _ :: rest => importedIn rest

theorem length_importedIn_le (entries : List (Location × Entry)) :
    (importedIn entries).length ≤ boundOfTexts entries := by
  fun_induction importedIn entries with
  | case1 => exact Nat.le_refl 0
  | case2 place value mode rest ih =>
    rw [List.length_append, List.length_map]
    exact Nat.add_le_add (File.length_imports_ofText_le value) ih
  | case3 first rest noText ih =>
    rw [boundOfTexts]
    · exact ih
    · exact noText

theorem mem_importedIn {entries : List (Location × Entry)} {text path : String}
    (held : FileTree.Holds entries text) (mem : path ∈ pathsIn text) :
    path ∈ importedIn entries := by
  obtain ⟨place, mode, held⟩ := held
  have spec := mem_paths_ofImports mem
  fun_induction importedIn entries with
  | case1 => cases held
  | case2 first value bits rest ih =>
    rcases List.mem_cons.1 held with here | held
    · cases here
      exact List.mem_append_left _ spec
    · exact List.mem_append_right _ (ih held)
  | case3 first rest noText ih =>
    rcases List.mem_cons.1 held with here | held
    · exact (noText _ _ _ here.symm).elim
    · exact ih held

/-- Different import paths that stand in texts of some entries are no more than the bound says. -/
theorem length_le_boundOfTexts {entries : List (Location × Entry)} {paths : List String}
    (nodup : paths.Nodup)
    (stands : ∀ path ∈ paths, ∃ text, FileTree.Holds entries text ∧ path ∈ pathsIn text) :
    paths.length ≤ boundOfTexts entries := by
  have all : paths ⊆ importedIn entries := fun path hp => by
    obtain ⟨text, held, mem⟩ := stands path hp
    exact mem_importedIn held mem
  exact Nat.le_trans (nodup.subperm all).length_le (length_importedIn_le entries)

end Workspace

end WrapperGen
