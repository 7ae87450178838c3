import WrapperGen.Proofs.AliasStability

/-!
# Aliases as they are written

The text that is written for a package holds the alias that the package has at that time.  It is the
one that the package has in the end, save for the package at the path of foreign code, which may
have to give its alias up; then it depends on who was mentioned first.

## Main definitions

* `ForeignSettled`: the package at the path of foreign code has its alias from the start.

## Main results

* `ImportTable.settles_of_foreignSettled`: all aliases are written as they are in the end.
* `ImportTable.isSome_alias?_noteAll`: the packages that are imported.
-/

namespace WrapperGen

/-- Whether a mention gives the path of foreign code an alias. -/
def Mention.isAtForeign : Mention → Bool
  | .package path => path == foreignQualifier
  | .foreign => true

/-- If foreign code is mentioned, then it is the first that gives its path an alias; or else the
package at that path is the first that asks for the alias of foreign code. -/
def ForeignSettled (ms : List Mention) : Prop :=
  .foreign ∈ ms → ms.find? Mention.isAtForeign = some .foreign
    ∨ ms.find? Mention.wantsForeign = some (.package foreignQualifier)

instance (ms : List Mention) : Decidable (ForeignSettled ms) :=
  inferInstanceAs (Decidable (.foreign ∈ ms → ms.find? Mention.isAtForeign = some .foreign
    ∨ ms.find? Mention.wantsForeign = some (.package foreignQualifier)))

/-- Where no package has the path of foreign code, there is nothing to settle. -/
theorem foreignSettled_of_not_mem {ms : List Mention} (h : .package foreignQualifier ∉ ms) :
    ForeignSettled ms := by
  intro mentioned
  have asked : (ms.find? Mention.isAtForeign).isSome = true :=
    List.find?_isSome.2 ⟨.foreign, mentioned, rfl⟩
  obtain ⟨m, first⟩ := Option.isSome_iff_exists.1 asked
  cases m with
  | foreign => exact .inl first
  | package path =>
    have own : path = foreignQualifier := by
      simpa [Mention.isAtForeign] using List.find?_some first
    exact absurd (own ▸ List.mem_of_find?_eq_some first) h

namespace ImportTable

variable {t : ImportTable} {ms : List Mention}

/-- Once foreign code is mentioned, it has its own name as its alias. -/
theorem alias?_foreign_of_mem (h : .foreign ∈ ms) :
    (t.noteAll ms).alias? foreignQualifier = some foreignQualifier := by
  obtain ⟨front, back, rfl⟩ := List.mem_iff_append.1 h
  rw [noteAll_append, noteAll_cons]
  exact alias?_foreign_noteAll (alias?_bind_self _ _ _) back

theorem settles_of_sound (h : t.Sound ms) : t.Settles ms (t.noteAll ms) := by
  rintro front path name ⟨back, rfl⟩ known
  exact (h (front ++ [.package path]) back (List.prefix_refl _)).2 path name known

/-- If foreign code is the first at its path, then it is mentioned before any package there. -/
theorem mem_of_first {front back : List Mention}
    (first : (front ++ .package foreignQualifier :: back).find? Mention.isAtForeign
      = some .foreign) : .foreign ∈ front := by
  rw [List.find?_append] at first
  cases found : front.find? Mention.isAtForeign with
  | none =>
    rw [found, Option.none_or, List.find?_cons_of_pos (by decide)] at first
    cases first
  | some m =>
    rw [found, Option.some_or] at first
    rw [first] at found
    exact List.mem_of_find?_eq_some found

/-- All aliases are written as they are in the end. -/
theorem settles_of_foreignSettled (h : ForeignSettled ms) :
    ImportTable.empty.Settles ms (ImportTable.empty.noteAll ms) := by
  by_cases mentioned : .foreign ∈ ms
  · rcases h mentioned with first | first
    · rintro front path name ⟨back, rfl⟩ known
      rw [noteAll_append]
      by_cases own : path = foreignQualifier
      · -- foreign code was mentioned before, so the alias is its own name, at that time and later
        subst own
        rw [List.append_assoc, List.singleton_append] at first
        have here : (empty.noteAll (front ++ [.package foreignQualifier])).alias? foreignQualifier
            = some foreignQualifier :=
          alias?_foreign_of_mem (List.mem_append_left _ (mem_of_first first))
        rw [← known, here]
        exact alias?_foreign_noteAll here back
      · exact (extends_noteAll _ back).keeps path name own known
    · exact settles_of_sound (sound_of_first unique_empty lacksForeign_empty (.inr first))
  · exact settles_of_sound (sound_of_packages unique_empty mentioned)

theorem isSome_alias?_bind {path name other : String} :
    ((t.bind path name).alias? other).isSome = true
      ↔ other = path ∨ (t.alias? other).isSome = true := by
  by_cases same : other = path
  · rw [same, alias?_bind_self]
    simp
  · rw [alias?_bind_of_ne t name same]
    simp [same]

theorem isSome_alias?_note {m : Mention} {path : String} :
    ((t.note m).alias? path).isSome = true
      ↔ (m = .package path ∨ m = .foreign ∧ path = foreignQualifier)
        ∨ (t.alias? path).isSome = true := by
  cases m with
  | foreign => simpa [note] using isSome_alias?_bind
  | package other =>
    cases known : t.alias? other with
    | some name =>
      rw [note_package_of_some known]
      constructor
      · exact .inr
      · rintro ((e | ⟨e, -⟩) | here)
        · rw [← Mention.package.inj e, known]
          rfl
        · cases e
        · exact here
    | none =>
      rw [note_package_of_none known, isSome_alias?_bind, Mention.package.injEq, eq_comm]
      constructor
      · exact Or.imp_left .inl
      · rintro ((e | ⟨e, -⟩) | here)
        · exact .inl e
        · cases e
        · exact .inr here

/-- Those packages are imported that were mentioned. -/
theorem isSome_alias?_noteAll {path : String} :
    ((t.noteAll ms).alias? path).isSome = true
      ↔ (.package path ∈ ms ∨ .foreign ∈ ms ∧ path = foreignQualifier)
        ∨ (t.alias? path).isSome = true := by
  induction ms generalizing t with
  | nil => simp
  | cons m ms ih =>
    rw [noteAll_cons, ih, isSome_alias?_note, List.mem_cons, List.mem_cons]
    constructor
    · rintro ((mem | ⟨mem, own⟩) | (rfl | ⟨rfl, own⟩) | known)
      · exact .inl (.inl (.inr mem))
      · exact .inl (.inr ⟨.inr mem, own⟩)
      · exact .inl (.inl (.inl rfl))
      · exact .inl (.inr ⟨.inl rfl, own⟩)
      · exact .inr known
    · rintro (((rfl | mem) | ⟨rfl | mem, own⟩) | known)
      · exact .inr (.inl (.inl rfl))
      · exact .inl (.inl mem)
      · exact .inr (.inl (.inr ⟨rfl, own⟩))
      · exact .inl (.inr ⟨mem, own⟩)
      · exact .inr (.inr known)

end ImportTable

end WrapperGen
