import WrapperGen.Name

/-!
# The imports of a generated file

A file that is being written refers to other packages by aliases.  The table gives each import
path one alias, in the order of the paths, and a new path gets the first alias that no other
path has.

## Main definitions

* `ImportTable`: import paths with their aliases.
* `aliasBase`, `freshAlias`: the alias that a path would like to have, and the one it gets.
* `ImportTable.add`: the alias of a path, which is imported if it was not.

## Main results

* `ImportTable.alias?_bind_self`, `ImportTable.alias?_bind_of_ne`: look-up after a binding.
-/

namespace WrapperGen

/-! ### Aliases -/

/-- The alias that a path would like to have: the package name that it suggests, with `pkg`
behind it where that is a reserved word. -/
def aliasBase (importPath : String) : String :=
  let guess := guessPackageName importPath
  if isKeyword guess then guess ++ "pkg" else guess

/-- The `n`-th alias to try: the base itself, then the base with 1, 2, … behind it. -/
def aliasCandidate (base : String) : Nat → String
  | 0 => base
  | n + 1 => base ++ toString (n + 1)

@[simp] theorem aliasCandidate_zero (base : String) : aliasCandidate base 0 = base := rfl

/-- The first candidate that is not in use.  Among one more candidates than there are aliases
in use, one is free. -/
def freshAlias (used : List String) (base : String) : String :=
  match (List.range (used.length + 1)).find? (fun n => !used.contains (aliasCandidate base n)) with
  | some n => aliasCandidate base n
  -- never reached, as the candidates differ and are more than the aliases
  | none => aliasCandidate base (used.length + 1)

/-! ### The table -/

/-- Import paths with their aliases, ordered by path. -/
structure ImportTable where
  /-- The paths and their aliases. -/
  entries : List (String × String)
  deriving DecidableEq, Inhabited

namespace ImportTable

/-- No imports. -/
def empty : ImportTable := ⟨[]⟩

/-- The alias of a path. -/
def alias? (t : ImportTable) (importPath : String) : Option String :=
  t.entries.lookup importPath

/-- The aliases in use. -/
def aliases (t : ImportTable) : List String := t.entries.map Prod.snd

/-- Put a path with its alias into a list that is ordered by path. -/
def putEntry (importPath name : String) : List (String × String) → List (String × String)
  | [] => [(importPath, name)]
  | (q, b) :: rest =>
      -- a path has one alias, so a new one takes the place of the old one
      if importPath = q then (importPath, name) :: rest
      else if importPath < q then (importPath, name) :: (q, b) :: rest
      else (q, b) :: putEntry importPath name rest

/-- The table with an alias for a path, in place of one that it had. -/
def bind (t : ImportTable) (importPath name : String) : ImportTable :=
  ⟨putEntry importPath name t.entries⟩

/-- The alias of a path, and the table in which it has that alias. -/
def add (importPath : String) (t : ImportTable) : String × ImportTable :=
  match t.alias? importPath with
  | some name => (name, t)
  | none =>
      let name := freshAlias t.aliases (aliasBase importPath)
      (name, t.bind importPath name)

private theorem lookup_putEntry_self (p a : String) :
    (entries : List (String × String)) → (putEntry p a entries).lookup p = some a
  | [] => by simp [putEntry]
  | (q, b) :: rest => by
      simp only [putEntry]
      split
      · simp
      · rename_i h
        split
        · simp
        · have : (p == q) = false := by simp [h]
          simp [List.lookup_cons, this, lookup_putEntry_self p a rest]

private theorem lookup_putEntry_of_ne (p a : String) {q : String} (h : q ≠ p) :
    (entries : List (String × String)) → (putEntry p a entries).lookup q = entries.lookup q
  | [] => by
      have : (q == p) = false := by simp [h]
      simp [putEntry, List.lookup_cons, this]
  | (r, b) :: rest => by
      have hq : (q == p) = false := by simp [h]
      simp only [putEntry]
      split
      · rename_i hr
        subst hr
        simp [List.lookup_cons, hq]
      · split
        · simp [List.lookup_cons, hq]
        · simp only [List.lookup_cons]
          split
          · rfl
          · exact lookup_putEntry_of_ne p a h rest

/-- A path has the alias that it was bound to. -/
theorem alias?_bind_self (t : ImportTable) (importPath name : String) :
    (t.bind importPath name).alias? importPath = some name :=
  lookup_putEntry_self importPath name t.entries

/-- Binding a path leaves the aliases of the others. -/
theorem alias?_bind_of_ne (t : ImportTable) {importPath other : String} (name : String)
    (h : other ≠ importPath) :
    (t.bind importPath name).alias? other = t.alias? other :=
  lookup_putEntry_of_ne importPath name h t.entries

end ImportTable

end WrapperGen
