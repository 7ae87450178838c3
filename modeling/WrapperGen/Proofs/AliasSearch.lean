import WrapperGen.Proofs.BareNames

/-!
# The search for an alias

A package that is imported anew wants the name that its path suggests.  Where that is taken, it
tries the name with 1 behind it, then with 2, and so on, until an alias is free.  The search has no
bound of its own, but it comes to an end: the candidates differ from each other, so in each round
that fails another import is met, and there is one round more than there are imports at most.

What is found is made of letters, digits and underscores, with no digit in front, and it is never a
reserved word: none of them ends in a digit, and none is another one with `pkg` behind it.

## Main definitions

* `AliasSearch`: the rounds of a search, and the alias that ends it.

## Main results

* `aliasSearch_iff`: a search ends with the first candidate that is free.
* `isKeyword_aliasCandidate`: no candidate is a reserved word.
* `ImportTable.add_of_none`: what a package gets that is imported anew.
-/

namespace WrapperGen

/-! ### The search -/

/-- The search that tries the alias `current` first, and then those with `number`, the next number
and so on behind the base, ends after some rounds with an alias that is not in use. -/
inductive AliasSearch (used : List String) (base : String) : String → Nat → Nat → String → Prop
  /-- The alias to try is free. -/
  | free {current number} : current ∉ used → AliasSearch used base current number 1 current
  /-- The alias to try is in use, and the search goes on behind it. -/
  | taken {current number rounds name} : current ∈ used →
      AliasSearch used base (base ++ toString number) (number + 1) rounds name →
      AliasSearch used base current number (rounds + 1) name

section Search

variable {used : List String} {base name : String} {rounds : Nat}

/-- A search that tries the `n`-th candidate first ends with the first one from there on that is
free. -/
theorem AliasSearch.exists_first {current : String} {number : Nat}
    (h : AliasSearch used base current number rounds name) {n : Nat}
    (here : current = aliasCandidate base n) (next : number = n + 1) :
    ∃ k, rounds = k + 1 ∧ name = aliasCandidate base (n + k) ∧ name ∉ used
      ∧ ∀ m < k, aliasCandidate base (n + m) ∈ used := by
  induction h generalizing n with
  | free free => exact ⟨0, rfl, here, free, nofun⟩
  | taken taken _ ih =>
    subst next
    obtain ⟨k, count, found, free, before⟩ := ih (n := n + 1) rfl rfl
    refine ⟨k + 1, by rw [count], by rw [found, Nat.add_right_comm, Nat.add_assoc], free, ?_⟩
    intro m hm
    cases m with
    | zero => exact here ▸ taken
    | succ m =>
      rw [← Nat.add_assoc, Nat.add_right_comm]
      exact before m (Nat.lt_of_succ_lt_succ hm)

/-- A search passes the candidates that are in use, and stops behind them. -/
theorem aliasSearch_of_first {n k : Nat} (free : aliasCandidate base (n + k) ∉ used)
    (before : ∀ m < k, aliasCandidate base (n + m) ∈ used) :
    AliasSearch used base (aliasCandidate base n) (n + 1) (k + 1)
      (aliasCandidate base (n + k)) := by
  induction k generalizing n with
  | zero => exact .free free
  | succ k ih =>
    rw [show n + (k + 1) = n + 1 + k by omega] at free ⊢
    refine .taken (before 0 k.succ_pos) (ih free ?_)
    intro m hm
    rw [show n + 1 + m = n + (m + 1) by omega]
    exact before (m + 1) (Nat.succ_lt_succ hm)

/-- A search ends with the first candidate that is free, in one round for each up to that one. -/
theorem aliasSearch_iff :
    AliasSearch used base base 1 rounds name ↔
      ∃ n, rounds = n + 1 ∧ name = aliasCandidate base n ∧ aliasCandidate base n ∉ used
        ∧ ∀ m < n, aliasCandidate base m ∈ used := by
  constructor
  · intro h
    obtain ⟨n, count, found, free, before⟩ := h.exists_first (n := 0) rfl rfl
    rw [Nat.zero_add] at found
    refine ⟨n, count, found, found ▸ free, fun m hm => ?_⟩
    simpa using before m hm
  · rintro ⟨n, rfl, rfl, free, before⟩
    rw [← Nat.zero_add n] at free
    have found := aliasSearch_of_first free fun m hm => by
      rw [Nat.zero_add]
      exact before m hm
    simpa only [Nat.zero_add, aliasCandidate_zero] using found

/-- There is one alias only that a search can end with. -/
theorem aliasSearch_unique {n : Nat} (free : aliasCandidate base n ∉ used)
    (before : ∀ m < n, aliasCandidate base m ∈ used) :
    AliasSearch used base base 1 rounds name ↔ rounds = n + 1 ∧ name = aliasCandidate base n := by
  rw [aliasSearch_iff]
  constructor
  · rintro ⟨m, count, found, free', before'⟩
    -- of two candidates that come first, none comes before the other
    have same : m = n := by
      rcases Nat.lt_trichotomy m n with less | same | more
      · exact absurd (before m less) free'
      · exact same
      · exact absurd (before' n more) free
    rw [← same]
    exact ⟨count, found⟩
  · rintro ⟨count, found⟩
    exact ⟨n, count, found, free, before⟩

end Search

/-! ### Reserved words -/

theorem not_endsInDigit_of_isKeyword {name : String} (h : isKeyword name = true) :
    endsInDigit name = false := by
  have all : ∀ word ∈ keywords, endsInDigit word = false := by decide +kernel
  exact all name (List.contains_iff_mem.1 h)

theorem isKeyword_append_pkg {name : String} (h : isKeyword name = true) :
    isKeyword (name ++ "pkg") = false := by
  have all : ∀ word ∈ keywords, isKeyword (word ++ "pkg") = false := by decide +kernel
  exact all name (List.contains_iff_mem.1 h)

theorem isKeyword_aliasBase (path : String) : isKeyword (aliasBase path) = false := by
  unfold aliasBase
  dsimp only
  split
  · next reserved => exact isKeyword_append_pkg reserved
  · next free => exact Bool.eq_false_iff.2 free

/-- No candidate is a reserved word. -/
theorem isKeyword_aliasCandidate (path : String) (n : Nat) :
    isKeyword (aliasCandidate (aliasBase path) n) = false := by
  cases n with
  | zero => exact isKeyword_aliasBase path
  | succ n =>
    rw [Bool.eq_false_iff]
    intro reserved
    have digit := endsInDigit_aliasCandidate (aliasBase path) n
    rw [not_endsInDigit_of_isKeyword reserved] at digit
    cases digit

/-! ### Imports -/

namespace ImportTable

variable {t : ImportTable} {path : String}

/-- The aliases in use are those that some path has. -/
theorem mem_aliases_iff (ordered : Ordered t.entries) {name : String} :
    name ∈ t.aliases ↔ ∃ other, t.alias? other = some name := by
  constructor
  · intro used
    obtain ⟨entry, mem, rfl⟩ := List.mem_map.1 used
    exact ⟨entry.1, ordered.lookup_eq_some_iff.2 mem⟩
  · rintro ⟨other, known⟩
    exact mem_aliases_of_alias? known

theorem add_eq_of_none (new : t.alias? path = none) :
    add path t = (freshAlias t.aliases (aliasBase path),
      t.bind path (freshAlias t.aliases (aliasBase path))) := by
  rw [add, new]

/-- A package that is imported anew gets the first of its candidates that no other path has.  The
search for it ends after one round more than there are imports at most, and can end with nothing
else.  What is found is made of letters, digits and underscores, with no digit in front, and is no
reserved word.  The other paths keep their aliases. -/
theorem add_of_none (ordered : Ordered t.entries) (new : t.alias? path = none) :
    ∃ n ≤ t.entries.length,
      (add path t).1 = aliasCandidate (aliasBase path) n
        ∧ (∀ rounds name, AliasSearch t.aliases (aliasBase path) (aliasBase path) 1 rounds name ↔
          rounds = n + 1 ∧ name = (add path t).1)
        ∧ (∀ other, t.alias? other ≠ some (add path t).1)
        ∧ (∀ m < n, ∃ other ≠ path,
          t.alias? other = some (aliasCandidate (aliasBase path) m))
        ∧ (add path t).1 ≠ "" ∧ IsGuessable (add path t).1.toList
        ∧ isKeyword (add path t).1 = false
        ∧ (add path t).2.alias? path = some (add path t).1
        ∧ (∀ other ≠ path, (add path t).2.alias? other = t.alias? other)
        ∧ Ordered (add path t).2.entries := by
  obtain ⟨n, bound, found, free, before⟩ := exists_freshAlias_first t.aliases (aliasBase path)
  rw [aliases, List.length_map] at bound
  rw [add_eq_of_none new]
  dsimp only
  rw [found]
  refine ⟨n, bound, rfl, fun _ _ => aliasSearch_unique free before, ?_, ?_,
    aliasCandidate_ne_empty path n, isGuessable_candidate path n, isKeyword_aliasCandidate path n,
    alias?_bind_self t path _, fun other ne => alias?_bind_of_ne t _ ne, ordered.putEntry⟩
  · intro other taken
    exact free (mem_aliases_of_alias? taken)
  · intro m hm
    obtain ⟨other, known⟩ := (mem_aliases_iff ordered).1 (before m hm)
    refine ⟨other, ?_, known⟩
    rintro rfl
    rw [new] at known
    cases known

/-- Two packages that suggest the reserved word `type`. -/
def typeImports : ImportTable := ⟨[("a.com/type", "typepkg"), ("b.com/type.v2", "typepkg1")]⟩

/-- For a third package of that name, the search takes as many rounds as it may. -/
theorem add_of_none_type :
    Ordered typeImports.entries ∧ typeImports.alias? "c.com/go-type" = none
      ∧ isKeyword (guessPackageName "c.com/go-type") = true
      ∧ (add "c.com/go-type" typeImports).1 = "typepkg2"
      ∧ AliasSearch ["typepkg", "typepkg1"] "typepkg" "typepkg" 1 3 "typepkg2"
      ∧ isKeyword "typepkg2" = false := by
  have ordered : Ordered typeImports.entries := by
    unfold Ordered
    decide +kernel
  have new : typeImports.alias? "c.com/go-type" = none := by decide +kernel
  have base : aliasBase "c.com/go-type" = "typepkg" := by decide +kernel
  have name : (add "c.com/go-type" typeImports).1 = "typepkg2" := by decide +kernel
  obtain ⟨n, -, found, search, -, -, -, -, free, -⟩ := add_of_none ordered new
  rw [base, name] at found
  rw [base, name] at search
  rw [name] at free
  have second : 2 = n := aliasCandidate_injective "typepkg" (Eq.trans (by decide +kernel) found)
  exact ⟨ordered, new, by decide +kernel, name, (search 3 "typepkg2").2 ⟨by rw [← second], rfl⟩,
    free⟩

end ImportTable

end WrapperGen
