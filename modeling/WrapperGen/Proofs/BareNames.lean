import WrapperGen.Proofs.ImportScope

/-!
# Names that stand bare

A predeclared type is written without a qualifier, and so is a type of the package that is being
written.  Such a name means what it says only if no import of the file has it for an alias.  An
alias is made from the path of its package: it is the name that the path suggests, or that name with
a number behind it.  So a bare name is safe where no path that is mentioned suggests it, with a
number or without; and if it does not end in a digit, it is taken where one does.

## Main definitions

* `ImportCall.WritesBare`: a name stands bare in the answer to a call.
* `Uncaptured`: at no time an import has one of the bare names for its alias.
* `ImportTable.Follows`: what holds of the imports after some mentions.

## Main results

* `ImportTable.follows_noteAll`: aliases come from the paths that were mentioned, and those paths
  have their names.
* `uncaptured_of_unasked`: bare names that are safe, and when exactly the others are.
* `not_uncaptured_error`: the predeclared type of errors, behind an import of that name.
-/

namespace WrapperGen

/-! ### Bare names -/

/-- A name stands bare in the answer to a call, in a file with some imports. -/
def ImportCall.WritesBare (name : String) : ImportCall → Prop
  | .importing _ => False
  | .qualifying path written => path.isEmpty = true ∧ written = name
  | .writing home _ type =>
      ∃ written final, .named written ∈ type.parts ∧ written.form home final = .bare name

/-- A name stands bare in the answer to one of some calls. -/
def WrittenBare (calls : List ImportCall) (name : String) : Prop :=
  ∃ call ∈ calls, call.WritesBare name

/-- At no time an import has a name for its alias that stands bare, then or later. -/
def Uncaptured (calls : List ImportCall) : Prop :=
  ∀ front, front <+: calls → ∀ name, WrittenBare calls name → name ∉ (importsAfter front).aliases

/-- The import path that gets an alias by a mention. -/
def Mention.path : Mention → String
  | .package path => path
  | .foreign => foreignQualifier

/-- Whether the last letter of a name is a digit. -/
def endsInDigit (name : String) : Bool := name.toList.getLast?.any Char.isDigit

theorem endsInDigit_aliasCandidate (base : String) (n : Nat) :
    endsInDigit (aliasCandidate base (n + 1)) = true := by
  have some' : Nat.toDigits 10 (n + 1) ≠ [] := Nat.toDigits_ne_nil
  have digit := Nat.isDigit_of_mem_toDigits (by decide) (by decide) (List.getLast_mem some')
  unfold endsInDigit
  rw [aliasCandidate, Nat.toString_eq_ofList_toDigits, String.toList_append, String.toList_ofList,
    List.getLast?_append_of_ne_nil _ some', List.getLast?_eq_some_getLast some']
  exact digit

/-! ### Where aliases come from -/

namespace ImportTable

variable {t : ImportTable} {ms : List Mention} {path name : String}

theorem mem_entries_bind_of_ne {entry : String × String} (h : entry ∈ t.entries)
    (ne : entry.1 ≠ path) : entry ∈ (t.bind path name).entries := by
  show entry ∈ putEntry path name t.entries
  generalize t.entries = entries at h
  -- an entry for another path is moved at most
  induction entries with
  | nil => cases h
  | cons first rest ih =>
    obtain ⟨q, b⟩ := first
    rw [putEntry]
    split
    · next same =>
      rcases List.mem_cons.1 h with rfl | h
      · exact absurd same.symm ne
      · exact List.mem_cons_of_mem _ h
    · split
      · exact List.mem_cons_of_mem _ h
      · rcases List.mem_cons.1 h with rfl | h
        · exact List.mem_cons_self
        · exact List.mem_cons_of_mem _ (ih h)

theorem mem_aliases_bind_self : name ∈ (t.bind path name).aliases :=
  mem_aliases_of_alias? (alias?_bind_self t path name)

theorem length_aliases_bind : (t.bind path name).aliases.length ≤ t.aliases.length + 1 := by
  unfold aliases
  rw [List.length_map, List.length_map]
  show (putEntry path name t.entries).length ≤ _
  induction t.entries with
  | nil => exact le_rfl
  | cons first rest ih =>
    obtain ⟨q, b⟩ := first
    rw [putEntry]
    split
    · exact Nat.le_succ _
    · split
      · exact le_rfl
      · exact Nat.succ_le_succ ih

/-- Where a path has no alias, no alias is lost when it gets one. -/
theorem mem_aliases_bind_of_none (h : t.alias? path = none) {other : String}
    (known : other ∈ t.aliases) : other ∈ (t.bind path name).aliases := by
  obtain ⟨entry, he, rfl⟩ := List.mem_map.1 known
  have ne : entry.1 ≠ path := by
    rintro rfl
    have unbound := List.lookup_eq_none_iff.1 h entry he
    simp at unbound
  exact List.mem_map_of_mem (mem_entries_bind_of_ne he ne)

/-- What holds of the imports after some mentions. -/
structure Follows (t : ImportTable) (ms : List Mention) : Prop where
  /-- There are no more aliases than mentions. -/
  length_le : t.aliases.length ≤ ms.length
  /-- A path has an alias only if it was mentioned. -/
  mentioned : ∀ entry ∈ t.entries, ∃ m ∈ ms, m.path = entry.1
  /-- An alias is one of the first candidates of its path. -/
  candidate : ∀ entry ∈ t.entries, ∃ n ≤ ms.length, entry.2 = aliasCandidate (aliasBase entry.1) n
  /-- The name that a path suggests has become an alias, of this path or of another; save for a name
  that the path of foreign code may have had, and given up. -/
  granted : ∀ m ∈ ms, (∀ n, aliasBase m.path ≠ aliasCandidate foreignQualifier (n + 1)) →
    aliasBase m.path ∈ t.aliases

theorem follows_empty : ImportTable.empty.Follows [] :=
  ⟨le_rfl, nofun, nofun, nofun⟩

/-- A path that has an alias makes no difference. -/
theorem Follows.note_of_some (h : t.Follows ms) (known : t.alias? path = some name) :
    t.Follows (ms ++ [.package path]) := by
  have longer : ms.length ≤ (ms ++ [Mention.package path]).length := by simp
  refine ⟨h.length_le.trans longer, fun entry he => ?_, fun entry he => ?_, fun m hm plain => ?_⟩
  · obtain ⟨m, hm, same⟩ := h.mentioned entry he
    exact ⟨m, List.mem_append_left _ hm, same⟩
  · obtain ⟨n, bound, e⟩ := h.candidate entry he
    exact ⟨n, bound.trans longer, e⟩
  · rcases List.mem_append.1 hm with hm | hm
    · exact h.granted m hm plain
    · -- the path got its alias when it was mentioned before
      rw [List.mem_singleton.1 hm] at plain ⊢
      obtain ⟨front, back, entries, -⟩ := List.lookup_eq_some_iff.1 known
      obtain ⟨before, hb, same⟩ := h.mentioned (path, name) (entries ▸ by simp)
      dsimp only at same
      subst same
      exact h.granted before hb plain

/-- A path gets one of its candidates.  The names that are in use stay in use, unless the path gives
one up. -/
theorem Follows.note_of_bind (h : t.Follows ms) {m : Mention}
    (candidate : ∃ n ≤ ms.length + 1, name = aliasCandidate (aliasBase m.path) n)
    (own : aliasBase m.path ∈ (t.bind m.path name).aliases)
    (kept : ∀ other ∈ t.aliases, (∀ n, other ≠ aliasCandidate foreignQualifier (n + 1)) →
      other ∈ (t.bind m.path name).aliases) :
    (t.bind m.path name).Follows (ms ++ [m]) := by
  have longer : (ms ++ [m]).length = ms.length + 1 := by simp
  -- how many aliases there are, where each comes from, and which of them are granted
  refine ⟨?_, fun entry he => ?_, fun entry he => ?_, fun n hn plain => ?_⟩
  · rw [longer]
    exact length_aliases_bind.trans (Nat.succ_le_succ h.length_le)
  · rcases eq_or_mem_of_mem_putEntry he with rfl | he
    · exact ⟨m, by simp, rfl⟩
    · obtain ⟨n, hn, same⟩ := h.mentioned entry he
      exact ⟨n, List.mem_append_left _ hn, same⟩
  · rw [longer]
    rcases eq_or_mem_of_mem_putEntry he with rfl | he
    · exact candidate
    · obtain ⟨n, bound, e⟩ := h.candidate entry he
      exact ⟨n, Nat.le_succ_of_le bound, e⟩
  · rcases List.mem_append.1 hn with hn | hn
    · exact kept _ (h.granted n hn plain) plain
    · rw [List.mem_singleton.1 hn]
      exact own

/-- One more mention. -/
theorem Follows.note (h : t.Follows ms) (m : Mention) : (t.note m).Follows (ms ++ [m]) := by
  cases m with
  | package path =>
    refine note_package_induction (fun _ known => h.note_of_some known) fun free => ?_
    obtain ⟨n, bound, e⟩ := exists_freshAlias_eq_le t.aliases (aliasBase path)
    refine Follows.note_of_bind (m := .package path) h
      ⟨n, bound.trans (Nat.succ_le_succ h.length_le), e⟩ ?_
      fun other ho _ => mem_aliases_bind_of_none free ho
    -- the alias that the path suggests is given to it, or to another path before
    by_cases used : aliasBase path ∈ t.aliases
    · exact mem_aliases_bind_of_none free used
    · rw [freshAlias_of_notMem used]
      exact mem_aliases_bind_self
  | foreign =>
    have base := aliasBase_foreign
    refine Follows.note_of_bind (m := .foreign) h ⟨0, Nat.zero_le _, base.symm⟩ ?_ ?_
    · rw [Mention.path, base]
      exact mem_aliases_bind_self
    · -- only the path of foreign code loses its alias, and that was one of its candidates
      intro other ho plain
      obtain ⟨entry, he, rfl⟩ := List.mem_map.1 ho
      by_cases same : entry.1 = foreignQualifier
      · obtain ⟨n, -, e⟩ := h.candidate entry he
        rw [same, base] at e
        cases n with
        | zero =>
          rw [e]
          exact mem_aliases_bind_self
        | succ n => exact absurd e (plain n)
      · exact List.mem_map_of_mem (mem_entries_bind_of_ne he same)

/-- Aliases come from the paths that were mentioned, and those paths have their names. -/
theorem follows_noteAll (ms : List Mention) : (ImportTable.empty.noteAll ms).Follows ms := by
  induction ms using List.reverseRecOn with
  | nil => exact follows_empty
  | append_singleton front m ih =>
    rw [noteAll_append]
    exact ih.note m

end ImportTable

/-! ### Calls -/

theorem callMentions_subset {front calls : List ImportCall} (h : front <+: calls) :
    callMentions front ⊆ callMentions calls
      ∧ (callMentions front).length ≤ (callMentions calls).length := by
  obtain ⟨rest, rfl⟩ := h
  rw [callMentions_append]
  exact ⟨List.subset_append_left _ _, by simp⟩

/-- An alias is one of the first candidates of a path that was mentioned. -/
theorem exists_candidate_of_mem_aliases {front calls : List ImportCall} (h : front <+: calls)
    {name : String} (taken : name ∈ (importsAfter front).aliases) :
    ∃ m ∈ callMentions calls, ∃ n ≤ (callMentions calls).length,
      aliasCandidate (aliasBase m.path) n = name := by
  rw [importsAfter_eq] at taken
  have follows := ImportTable.follows_noteAll (callMentions front)
  obtain ⟨entry, he, rfl⟩ := List.mem_map.1 taken
  obtain ⟨m, hm, same⟩ := follows.mentioned entry he
  obtain ⟨n, bound, e⟩ := follows.candidate entry he
  obtain ⟨inside, shorter⟩ := callMentions_subset h
  exact ⟨m, inside hm, n, bound.trans shorter, by rw [same, e]⟩

/-- No bare name is ever captured if none is among the first candidates of a path that is mentioned,
of which there are as many as there are mentions.  If no bare name ends in a digit, it is enough
that none is the name that a path suggests; and otherwise one is captured. -/
theorem uncaptured_of_unasked (calls : List ImportCall) :
    ((∀ name, WrittenBare calls name → ∀ m ∈ callMentions calls,
        ∀ n ≤ (callMentions calls).length, aliasCandidate (aliasBase m.path) n ≠ name) →
      Uncaptured calls)
    ∧ ((∀ name, WrittenBare calls name → endsInDigit name = false) →
      (Uncaptured calls ↔
        ∀ name, WrittenBare calls name → ∀ m ∈ callMentions calls, aliasBase m.path ≠ name)) := by
  -- an alias is one of its candidates, and none of these is a name that is written bare
  have safe : (∀ name, WrittenBare calls name → ∀ m ∈ callMentions calls,
      ∀ n ≤ (callMentions calls).length, aliasCandidate (aliasBase m.path) n ≠ name) →
      Uncaptured calls := by
    intro unasked front hf name bare taken
    obtain ⟨m, hm, n, bound, e⟩ := exists_candidate_of_mem_aliases hf taken
    exact unasked name bare m hm n bound e
  refine ⟨safe, fun plain => ⟨?_, fun unasked => safe fun name bare m hm n _ => ?_⟩⟩
  -- what a path suggests becomes an alias in any case, of that path or of another one
  · rintro uncaptured name bare m hm rfl
    refine uncaptured calls (List.prefix_refl calls) _ bare ?_
    rw [importsAfter_eq]
    refine (ImportTable.follows_noteAll _).granted m hm fun n e => ?_
    have digit := endsInDigit_aliasCandidate foreignQualifier n
    rw [← e, plain _ bare] at digit
    cases digit
  -- a candidate behind the first one ends in a digit, which no bare name does
  · cases n with
    | zero => exact unasked name bare m hm
    | succ n =>
      rintro rfl
      have digit := endsInDigit_aliasCandidate (aliasBase m.path) n
      rw [plain _ bare] at digit
      cases digit

/-- The predeclared type of errors, and then a list from the package at a path. -/
def errorThenList (path : String) : List ImportCall :=
  [.writing "example.com/p" false (.named (.named "error" none)), .qualifying path "List"]

theorem writtenBare_errorThenList {path : String} (some' : path.isEmpty = false) {name : String} :
    WrittenBare (errorThenList path) name ↔ name = "error" := by
  constructor
  · rintro ⟨call, hc, bare⟩
    rcases List.mem_cons.1 hc with rfl | hc
    · obtain ⟨written, final, part, form⟩ := bare
      obtain rfl := TypeForm.named.inj (List.mem_singleton.1 part)
      exact (NameForm.bare.inj form).symm
    · rw [List.mem_singleton.1 hc] at bare
      exact absurd bare.1 (by simp [some'])
  · rintro rfl
    exact ⟨_, List.mem_cons_self, _, ImportTable.empty, List.mem_singleton_self _, rfl⟩

theorem callMentions_errorThenList {path : String} (some' : path.isEmpty = false) :
    callMentions (errorThenList path) = [.package path] := by
  have nothing : typeMentions "example.com/p" (.named (.named "error" none)) = [] := by decide
  simp [callMentions, errorThenList, ImportCall.mentions, nothing, some']

/-- Behind an import of another name the type of errors is safe. -/
theorem uncaptured_errorThenList :
    (∀ name, WrittenBare (errorThenList "example.com/failure") name → endsInDigit name = false)
      ∧ Uncaptured (errorThenList "example.com/failure") := by
  have bare : ∀ name, WrittenBare (errorThenList "example.com/failure") name ↔ name = "error" :=
    fun _ => writtenBare_errorThenList (by decide)
  have plain : ∀ name, WrittenBare (errorThenList "example.com/failure") name →
      endsInDigit name = false := by
    intro name hn
    rw [(bare name).1 hn]
    decide
  refine ⟨plain, ((uncaptured_of_unasked _).2 plain).2 fun name hn m hm => ?_⟩
  rw [callMentions_errorThenList (by decide), List.mem_singleton] at hm
  rw [hm, (bare name).1 hn]
  decide

/-- An import whose path suggests the name takes it. -/
theorem not_uncaptured_error : ¬ Uncaptured (errorThenList "example.com/error") := by
  intro uncaptured
  refine uncaptured _ (List.prefix_refl _) "error"
    ((writtenBare_errorThenList (by decide)).2 rfl) ?_
  rw [importsAfter_eq, callMentions_errorThenList (by decide)]
  decide

end WrapperGen
