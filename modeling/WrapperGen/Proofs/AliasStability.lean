import Mathlib.Data.List.Nodup
import Mathlib.Data.List.Perm.Subperm
import WrapperGen.Proofs.ImportMentions
import WrapperGen.Proofs.TypeRendering

/-!
# Aliases that stay

The aliases that a file gives to packages differ from each other, and stay once they are given, as
long as no package has taken the alias of foreign code before foreign code is mentioned.  For
foreign code is not given an alias that is free: it gets its own name, whoever has it.

## Main definitions

* `ImportTable.Unique`: no two paths have one alias.
* `importsAfter`: the imports of a file after some calls.
* `Steady`: the aliases of a file are unique and stable through some calls.
* `ForeignFirst`: foreign code gets its alias before any other package can take it.

## Main results

* `exists_freshAlias_first`: a new package gets the first of its candidates that is not in use.
* `freshAlias_notMem`: the alias that a new package gets is no other's.
* `ImportTable.sound_of_foreignFirst`: where foreign code is first, each mention keeps all aliases.
* `ImportTable.not_unique_noteAll`: where it is not, two paths share its alias.
* `steady_iff`: the calls for which aliases are unique and stable.
-/

namespace WrapperGen

/-! ### Fresh aliases -/

theorem aliasCandidate_injective (base : String) : Function.Injective (aliasCandidate base) := by
  have numbered : ∀ n, base ≠ base ++ toString (n + 1) := by
    intro n e
    have lengths := congrArg (fun s => s.toList.length) e
    have digit : 0 < (Nat.toDigits 10 (n + 1)).length := Nat.length_toDigits_pos
    rw [Nat.toString_eq_ofList_toDigits] at lengths
    simp only [String.toList_append, String.toList_ofList, List.length_append] at lengths
    omega
  -- the numbers behind are read back as they were written
  intro m n e
  cases m with
  | zero =>
    cases n with
    | zero => rfl
    | succ n => exact absurd e (numbered n)
  | succ m =>
    cases n with
    | zero => exact absurd e.symm (numbered m)
    | succ n =>
      have texts := congrArg String.toList e
      simp only [aliasCandidate, String.toList_append, Nat.toString_eq_ofList_toDigits,
        String.toList_ofList] at texts
      have numbers := congrArg (Nat.ofDigitChars 10 · 0) (List.append_cancel_left texts)
      simpa only [Nat.ofDigitChars_ten_toDigits] using numbers

/-- There are more candidates than aliases in use, so they are not all in use. -/
theorem exists_candidate_notMem (used : List String) (base : String) :
    ∃ n < used.length + 1, aliasCandidate base n ∉ used := by
  by_contra none'
  push Not at none'
  have nodup : ((List.range (used.length + 1)).map (aliasCandidate base)).Nodup :=
    List.nodup_range.map (aliasCandidate_injective base)
  have all : (List.range (used.length + 1)).map (aliasCandidate base) ⊆ used := by
    intro name hn
    obtain ⟨n, hm, rfl⟩ := List.mem_map.1 hn
    exact none' n (List.mem_range.1 hm)
  have bound := nodup.length_le_of_subset all
  rw [List.length_map, List.length_range] at bound
  omega

/-- A new package gets the first of its candidates that is not in use. -/
theorem exists_freshAlias_first (used : List String) (base : String) :
    ∃ n ≤ used.length, freshAlias used base = aliasCandidate base n
      ∧ aliasCandidate base n ∉ used ∧ ∀ m < n, aliasCandidate base m ∈ used := by
  unfold freshAlias
  split
  · next n found =>
    obtain ⟨free, bound, taken⟩ := List.find?_range_eq_some.1 found
    refine ⟨n, Nat.le_of_lt_succ (List.mem_range.1 bound), rfl, by simpa using free, ?_⟩
    intro m hm
    simpa using taken m hm
  · next none' =>
    exfalso
    obtain ⟨n, bound, free⟩ := exists_candidate_notMem used base
    have taken := List.find?_range_eq_none.1 none' n bound
    exact free (by simpa using taken)

/-- The alias that a new package gets is no other's. -/
theorem freshAlias_notMem (used : List String) (base : String) : freshAlias used base ∉ used := by
  obtain ⟨n, -, e, free, -⟩ := exists_freshAlias_first used base
  rw [e]
  exact free

theorem freshAlias_of_notMem {used : List String} {base : String} (h : base ∉ used) :
    freshAlias used base = base := by
  obtain ⟨n, -, e, -, taken⟩ := exists_freshAlias_first used base
  cases n with
  | zero => exact e
  | succ n => exact absurd (taken 0 n.succ_pos) h

theorem aliasBase_ne_empty (path : String) : aliasBase path ≠ "" := by
  unfold aliasBase
  dsimp only
  by_cases reserved : isKeyword (guessPackageName path) = true
  · rw [if_pos reserved]
    intro e
    have lengths := congrArg String.length e
    simp at lengths
  · rw [if_neg reserved]
    exact guessPackageName_ne_empty path

theorem aliasCandidate_ne_empty (path : String) (n : Nat) :
    aliasCandidate (aliasBase path) n ≠ "" := by
  cases n with
  | zero => exact aliasBase_ne_empty path
  | succ n =>
    intro e
    rw [aliasCandidate, String.append_eq_empty_iff] at e
    exact aliasBase_ne_empty path e.1

/-- A name of one character is no numbered alias. -/
theorem aliasCandidate_ne_of_length {base name : String} (some' : base ≠ "") (h : base ≠ name)
    (one : name.toList.length = 1) (n : Nat) : aliasCandidate base n ≠ name := by
  cases n with
  | zero => exact h
  | succ n =>
    -- the base has one letter at least and the number another, but there is one in all
    intro e
    have lengths := congrArg (fun s => s.toList.length) e
    have letter : 0 < base.toList.length := by
      rw [List.length_pos_iff]
      exact fun nil => some' (String.toList_injective nil)
    have digit : 0 < (Nat.toDigits 10 (n + 1)).length := Nat.length_toDigits_pos
    rw [aliasCandidate, Nat.toString_eq_ofList_toDigits] at lengths
    simp only [String.toList_append, String.toList_ofList, List.length_append] at lengths
    omega

/-- What a package gets is one of its candidates, and not further down than there are others. -/
theorem exists_freshAlias_eq_le (used : List String) (base : String) :
    ∃ n ≤ used.length + 1, freshAlias used base = aliasCandidate base n := by
  obtain ⟨n, bound, e, -⟩ := exists_freshAlias_first used base
  exact ⟨n, Nat.le_succ_of_le bound, e⟩

theorem exists_freshAlias_eq (used : List String) (base : String) :
    ∃ n, freshAlias used base = aliasCandidate base n := by
  obtain ⟨n, -, e⟩ := exists_freshAlias_eq_le used base
  exact ⟨n, e⟩

/-- Only the packages that ask for the alias of foreign code may get it. -/
theorem freshAlias_ne_foreign (used : List String) {base : String} (some' : base ≠ "")
    (h : base ≠ foreignQualifier) : freshAlias used base ≠ foreignQualifier := by
  obtain ⟨n, e⟩ := exists_freshAlias_eq used base
  rw [e]
  exact aliasCandidate_ne_of_length some' h rfl n

/-! ### One mention -/

namespace ImportTable

variable {t : ImportTable} {path name : String}

/-- No two paths have one alias. -/
def Unique (t : ImportTable) : Prop :=
  ∀ p q name, t.alias? p = some name → t.alias? q = some name → p = q

theorem unique_empty : ImportTable.empty.Unique := by
  intro p q name h
  cases h

theorem mem_aliases_of_alias? (h : t.alias? path = some name) : name ∈ t.aliases := by
  obtain ⟨front, back, e, -⟩ := List.lookup_eq_some_iff.1 h
  unfold aliases
  rw [e]
  simp

theorem mem_aliases_putEntry {other : String} {entries : List (String × String)}
    (h : other ∈ (putEntry path name entries).map Prod.snd) :
    other = name ∨ other ∈ entries.map Prod.snd := by
  induction entries with
  | nil => exact .inl (by simpa [putEntry] using h)
  | cons entry rest ih =>
    obtain ⟨q, b⟩ := entry
    rw [putEntry] at h
    split at h
    · rcases List.mem_cons.1 h with h | h
      · exact .inl h
      · exact .inr (List.mem_cons_of_mem b h)
    · split at h
      · exact List.mem_cons.1 h
      · rcases List.mem_cons.1 h with h | h
        · exact .inr (List.mem_cons.2 (.inl h))
        · exact (ih h).imp_right fun h => List.mem_cons_of_mem b h

theorem mem_aliases_bind {other : String} (h : other ∈ (t.bind path name).aliases) :
    other = name ∨ other ∈ t.aliases := mem_aliases_putEntry h

theorem note_package_of_some (h : t.alias? path = some name) : t.note (.package path) = t := by
  show (add path t).2 = t
  rw [add, h]

theorem note_package_of_none (h : t.alias? path = none) :
    t.note (.package path) = t.bind path (freshAlias t.aliases (aliasBase path)) := by
  show (add path t).2 = _
  rw [add, h]

/-- A package that is mentioned changes nothing where it has an alias, and is given a fresh one
where it has none. -/
@[elab_as_elim]
theorem note_package_induction {motive : ImportTable → Prop}
    (known : ∀ name, t.alias? path = some name → motive t)
    (added : t.alias? path = none → motive (t.bind path (freshAlias t.aliases (aliasBase path)))) :
    motive (t.note (.package path)) := by
  cases h : t.alias? path with
  | some name =>
    rw [note_package_of_some h]
    exact known name h
  | none =>
    rw [note_package_of_none h]
    exact added h

theorem keeps_bind_of_none (h : t.alias? path = none) : t.Keeps (t.bind path name) := by
  intro other known ho
  have ne : other ≠ path := by
    rintro rfl
    rw [h] at ho
    cases ho
  rw [alias?_bind_of_ne t name ne]
  exact ho

/-- With an alias that was not in use, the aliases stay unique. -/
theorem unique_bind (h : t.Unique) (free : ∀ other, other ≠ path → t.alias? other ≠ some name) :
    (t.bind path name).Unique := by
  intro p q known hp hq
  by_cases hpp : p = path
  · by_cases hqp : q = path
    · rw [hpp, hqp]
    · rw [hpp, alias?_bind_self] at hp
      rw [alias?_bind_of_ne t name hqp, ← hp] at hq
      exact absurd hq (free q hqp)
  · by_cases hqp : q = path
    · rw [hqp, alias?_bind_self] at hq
      rw [alias?_bind_of_ne t name hpp, ← hq] at hp
      exact absurd hp (free p hpp)
    · rw [alias?_bind_of_ne t name hpp] at hp
      rw [alias?_bind_of_ne t name hqp] at hq
      exact h p q known hp hq

/-- A package keeps all aliases when it is mentioned. -/
theorem keeps_note_package (t : ImportTable) (path : String) :
    t.Keeps (t.note (.package path)) :=
  note_package_induction (fun _ _ => Keeps.refl t) keeps_bind_of_none

theorem unique_note_package (h : t.Unique) (path : String) : (t.note (.package path)).Unique := by
  refine note_package_induction (fun _ _ => h) fun _ => unique_bind h fun other _ taken => ?_
  exact freshAlias_notMem _ _ (mem_aliases_of_alias? taken)

/-- Foreign code that has its own name as its alias changes nothing when it is mentioned. -/
theorem alias?_note_foreign (h : t.alias? foreignQualifier = some foreignQualifier) :
    (t.note .foreign).alias? = t.alias? := by
  funext path
  by_cases same : path = foreignQualifier
  · rw [same, h]
    exact alias?_bind_self t _ _
  · exact alias?_bind_of_ne t _ same

theorem extends_note (t : ImportTable) (m : Mention) : Extends t (t.note m) := by
  cases m with
  | package path =>
    exact note_package_induction (fun _ _ => Extends.refl t) fun free => Extends.bind_of_none free _
  | foreign => exact Extends.bind_foreign t _

theorem extends_noteAll (t : ImportTable) (ms : List Mention) : Extends t (t.noteAll ms) := by
  induction ms generalizing t with
  | nil => exact Extends.refl t
  | cons m ms ih => exact (extends_note t m).trans (ih (t.note m))

/-- Once foreign code has its own name as its alias, it has it for ever. -/
theorem alias?_foreign_noteAll (h : t.alias? foreignQualifier = some foreignQualifier)
    (ms : List Mention) : (t.noteAll ms).alias? foreignQualifier = some foreignQualifier := by
  induction ms generalizing t with
  | nil => exact h
  | cons m ms ih =>
    refine ih ?_
    cases m with
    | package path => exact keeps_note_package t path _ _ h
    | foreign => exact alias?_bind_self t _ _

/-! ### Many mentions -/

/-- On the way through some mentions, aliases are always unique, and all of them are kept. -/
def Sound (t : ImportTable) (ms : List Mention) : Prop :=
  ∀ front more, front ++ more <+: ms →
    (t.noteAll front).Unique ∧ (t.noteAll front).Keeps (t.noteAll (front ++ more))

theorem sound_nil (h : t.Unique) : t.Sound [] := by
  intro front more hf
  obtain ⟨rfl, rfl⟩ := List.append_eq_nil_iff.1 (List.prefix_nil.1 hf)
  exact ⟨h, Keeps.refl t⟩

theorem sound_cons {m : Mention} {ms : List Mention} (h : t.Unique) (keeps : t.Keeps (t.note m))
    (rest : (t.note m).Sound ms) : t.Sound (m :: ms) := by
  intro front more hf
  cases front with
  | nil =>
    refine ⟨h, ?_⟩
    cases more with
    | nil => exact Keeps.refl t
    | cons n more =>
      obtain ⟨rfl, behind⟩ := List.cons_prefix_cons.1 hf
      exact keeps.trans (rest [] more behind).2
  | cons n front =>
    obtain ⟨rfl, behind⟩ := List.cons_prefix_cons.1 hf
    exact rest front more behind

theorem sound_of_packages {ms : List Mention} (h : t.Unique) (packages : .foreign ∉ ms) :
    t.Sound ms := by
  induction ms generalizing t with
  | nil => exact sound_nil h
  | cons m ms ih =>
    obtain ⟨ne, others⟩ := List.ne_and_not_mem_of_not_mem_cons packages
    cases m with
    | foreign => exact absurd rfl ne
    | package path =>
      exact sound_cons h (keeps_note_package t path) (ih (unique_note_package h path) others)

theorem sound_of_foreign {ms : List Mention} (h : t.Unique)
    (known : t.alias? foreignQualifier = some foreignQualifier) : t.Sound ms := by
  -- once foreign code has its alias, no mention takes it away
  induction ms generalizing t with
  | nil => exact sound_nil h
  | cons m ms ih =>
    have still := alias?_foreign_noteAll known [m]
    cases m with
    | package path =>
      exact sound_cons h (keeps_note_package t path) (ih (unique_note_package h path) still)
    | foreign =>
      have same := alias?_note_foreign known
      have keeps : t.Keeps (t.note .foreign) := by
        intro path name hp
        rw [same]
        exact hp
      have unique : (t.note .foreign).Unique := by
        unfold Unique
        rw [same]
        exact h
      exact sound_cons h keeps (ih unique still)

end ImportTable

/-! ### Who gets the alias of foreign code -/

/-- Whether a mention asks for the alias of foreign code. -/
def Mention.wantsForeign : Mention → Bool
  | .package path => aliasBase path == foreignQualifier
  | .foreign => true

/-- If foreign code is mentioned, then it is the first that asks for its alias, or the package at
its path is. -/
def ForeignFirst (ms : List Mention) : Prop :=
  .foreign ∈ ms → ms.find? Mention.wantsForeign = some .foreign
    ∨ ms.find? Mention.wantsForeign = some (.package foreignQualifier)

namespace ImportTable

variable {t : ImportTable} {ms : List Mention}

/-- Nothing has asked for the alias of foreign code yet. -/
structure LacksForeign (t : ImportTable) : Prop where
  /-- The alias is free. -/
  free : foreignQualifier ∉ t.aliases
  /-- The packages that would like to have it are not imported. -/
  unasked : ∀ path, aliasBase path = foreignQualifier → t.alias? path = none

theorem lacksForeign_empty : ImportTable.empty.LacksForeign :=
  ⟨List.not_mem_nil, fun _ _ => rfl⟩

theorem aliasBase_foreign : aliasBase foreignQualifier = foreignQualifier := by decide

/-- It stays free if it is not asked for. -/
theorem LacksForeign.note {m : Mention} (h : t.LacksForeign) (other : m.wantsForeign = false) :
    (t.note m).LacksForeign := by
  cases m with
  | foreign => cases other
  | package path =>
    have base : aliasBase path ≠ foreignQualifier := by simpa [Mention.wantsForeign] using other
    refine note_package_induction (fun _ _ => h) fun _ => ⟨fun taken => ?_, fun q hq => ?_⟩
    · rcases mem_aliases_bind taken with e | taken
      · exact freshAlias_ne_foreign _ (aliasBase_ne_empty path) base e.symm
      · exact h.free taken
    · have ne : q ≠ path := by
        rintro rfl
        exact base hq
      rw [alias?_bind_of_ne t _ ne]
      exact h.unasked q hq

/-- The first package that asks for the alias of foreign code gets it. -/
theorem LacksForeign.alias?_note {path : String} (h : t.LacksForeign)
    (wants : aliasBase path = foreignQualifier) :
    (t.note (.package path)).alias? path = some foreignQualifier := by
  rw [note_package_of_none (h.unasked path wants), alias?_bind_self, wants,
    freshAlias_of_notMem h.free]

theorem sound_of_first (h : t.Unique) (lacks : t.LacksForeign)
    (first : ms.find? Mention.wantsForeign = some .foreign
      ∨ ms.find? Mention.wantsForeign = some (.package foreignQualifier)) : t.Sound ms := by
  -- up to the first mention that wants the alias nothing changes; then it is given for good
  induction ms generalizing t with
  | nil => exact sound_nil h
  | cons m ms ih =>
    cases wants : m.wantsForeign with
    | false =>
      rw [List.find?_cons_of_neg (by simp [wants])] at first
      cases m with
      | foreign => cases wants
      | package path =>
        exact sound_cons h (keeps_note_package t path)
          (ih (unique_note_package h path) (lacks.note wants) first)
    | true =>
      rw [List.find?_cons_of_pos wants, Option.some.injEq, Option.some.injEq] at first
      rcases first with rfl | rfl
      · -- the alias is free, so foreign code takes it from nobody
        have absent := lacks.unasked _ aliasBase_foreign
        have unique : (t.note .foreign).Unique := unique_bind h fun other _ taken =>
          lacks.free (mem_aliases_of_alias? taken)
        exact sound_cons h (keeps_bind_of_none absent)
          (sound_of_foreign unique (alias?_bind_self t _ _))
      · exact sound_cons h (keeps_note_package t _)
          (sound_of_foreign (unique_note_package h _) (lacks.alias?_note aliasBase_foreign))

/-- Where foreign code is first, aliases are always unique, and all of them are kept. -/
theorem sound_of_foreignFirst (h : ForeignFirst ms) : ImportTable.empty.Sound ms := by
  by_cases mentioned : .foreign ∈ ms
  · exact sound_of_first unique_empty lacksForeign_empty (h mentioned)
  · exact sound_of_packages unique_empty mentioned

/-- Where another package is first, it shares its alias with foreign code in the end. -/
theorem not_unique_noteAll {path : String} (lacks : t.LacksForeign)
    (first : ms.find? Mention.wantsForeign = some (.package path)) (other : path ≠ foreignQualifier)
    (mentioned : .foreign ∈ ms) : ¬ (t.noteAll ms).Unique := by
  induction ms generalizing t with
  | nil => cases mentioned
  | cons m ms ih =>
    cases wants : m.wantsForeign with
    | false =>
      rw [List.find?_cons_of_neg (by simp [wants])] at first
      refine ih (lacks.note wants) first ?_
      rcases List.mem_cons.1 mentioned with rfl | behind
      · cases wants
      · exact behind
    | true =>
      rw [List.find?_cons_of_pos wants] at first
      obtain rfl := Option.some.inj first
      -- the alias goes to the first path, and is taken from it by the foreign mention behind
      have taken := lacks.alias?_note (beq_iff_eq.1 wants)
      obtain ⟨front, back, rfl⟩ : ∃ front back, ms = front ++ .foreign :: back := by
        rcases List.mem_cons.1 mentioned with e | behind
        · cases e
        · exact List.mem_iff_append.1 behind
      intro unique
      refine other (unique path foreignQualifier foreignQualifier ?_ ?_)
      · exact (extends_noteAll (t.note (.package path)) _).keeps path _ other taken
      · rw [noteAll_cons, noteAll_append, noteAll_cons]
        exact alias?_foreign_noteAll (alias?_bind_self _ _ _) back

/-! ### Answers -/

/-- What was mentioned has an alias; and that of foreign code is its own name. -/
def Answers (t : ImportTable) : Mention → Prop
  | .package path => (t.alias? path).isSome = true
  | .foreign => t.alias? foreignQualifier = some foreignQualifier

theorem answers_note (t : ImportTable) (m : Mention) : (t.note m).Answers m := by
  cases m with
  | foreign => exact alias?_bind_self t _ _
  | package path =>
    refine note_package_induction (fun name known => ?_) fun _ => ?_
    · exact Option.isSome_iff_exists.2 ⟨name, known⟩
    · exact Option.isSome_iff_exists.2 ⟨_, alias?_bind_self t path _⟩

theorem Keeps.answers {a b : ImportTable} (h : a.Keeps b) {m : Mention} (ha : a.Answers m) :
    b.Answers m := by
  cases m with
  | foreign => exact h _ _ ha
  | package path =>
    obtain ⟨name, known⟩ := Option.isSome_iff_exists.1 ha
    exact Option.isSome_iff_exists.2 ⟨name, h path name known⟩

/-- What has an alias already changes no alias when it is mentioned again. -/
theorem alias?_note_of_answers {m : Mention} (h : t.Answers m) : (t.note m).alias? = t.alias? := by
  cases m with
  | foreign => exact alias?_note_foreign h
  | package path =>
    obtain ⟨name, known⟩ := Option.isSome_iff_exists.1 h
    rw [note_package_of_some known]

theorem alias?_noteAll_of_answers (h : ∀ m ∈ ms, t.Answers m) :
    (t.noteAll ms).alias? = t.alias? := by
  induction ms generalizing t with
  | nil => rfl
  | cons m ms ih =>
    have here := alias?_note_of_answers (h m List.mem_cons_self)
    have keeps : t.Keeps (t.note m) := by
      intro path name hp
      rw [here]
      exact hp
    rw [noteAll_cons, ih fun n hn => keeps.answers (h n (List.mem_cons_of_mem m hn)), here]

theorem lasts_of_answers (h : ∀ m ∈ ms, t.Answers m) : t.Lasts ms t := by
  intro front hf path name known
  rw [alias?_noteAll_of_answers fun m hm => h m (hf.subset hm)] at known
  exact known

end ImportTable

/-! ### Calls -/

/-- The imports of a file after some calls. -/
def importsAfter (calls : List ImportCall) : ImportTable :=
  calls.foldl (fun t call => (call.run.run t).2) ImportTable.empty

/-- The answer to a call in a file with the given imports. -/
def ImportCall.answer (call : ImportCall) (t : ImportTable) : String := (call.run.run t).1

/-- What some calls mention. -/
def callMentions (calls : List ImportCall) : List Mention := calls.flatMap ImportCall.mentions

/-- The aliases of a file are unique and stable through some calls. -/
structure Steady (calls : List ImportCall) : Prop where
  /-- At no time two paths have one alias. -/
  unique : ∀ front, front <+: calls → (importsAfter front).Unique
  /-- A path that has an alias has it at all later times. -/
  kept : ∀ front more, front ++ more <+: calls →
    (importsAfter front).Keeps (importsAfter (front ++ more))
  /-- The text that a call was answered with is the answer at all later times, so that it still
  names the same packages. -/
  answers : ∀ front call more, front ++ call :: more <+: calls →
    call.answer (importsAfter (front ++ call :: more)) = call.answer (importsAfter front)

theorem callMentions_append (front more : List ImportCall) :
    callMentions (front ++ more) = callMentions front ++ callMentions more := List.flatMap_append

theorem importsAfter_eq (calls : List ImportCall) :
    importsAfter calls = ImportTable.empty.noteAll (callMentions calls) := by
  unfold importsAfter callMentions
  generalize ImportTable.empty = t
  induction calls generalizing t with
  | nil => rfl
  | cons call rest ih =>
    obtain ⟨_, told⟩ := call.mentions_run
    rw [List.foldl_cons, ih, (told t).1, List.flatMap_cons, ImportTable.noteAll_append]

/-- Where every mention is sound, a call is answered in the same way at all later times. -/
theorem answer_eq_of_sound {front more : List ImportCall} {call : ImportCall}
    (h : ImportTable.empty.Sound (callMentions (front ++ call :: more))) :
    call.answer (importsAfter (front ++ call :: more)) = call.answer (importsAfter front) := by
  obtain ⟨answer, told⟩ := call.mentions_run
  have split : callMentions (front ++ call :: more)
      = callMentions front ++ (call.mentions ++ callMentions more) := by
    rw [callMentions_append]
    rfl
  -- whatever was imported on the way to the answer is still imported, under the same alias
  have lasts : (importsAfter front).Lasts call.mentions (importsAfter (front ++ call :: more)) := by
    rintro ms ⟨rest, e⟩
    have all : (callMentions front ++ ms) ++ (rest ++ callMentions more)
        = callMentions (front ++ call :: more) := by
      rw [split, ← e]
      simp only [List.append_assoc]
    rw [importsAfter_eq, importsAfter_eq, ← ImportTable.noteAll_append, ← all]
    exact (h _ _ (all ▸ List.prefix_refl _)).2
  have again : (importsAfter (front ++ call :: more)).Lasts call.mentions
      (importsAfter (front ++ call :: more)) := by
    refine ImportTable.lasts_of_answers fun m hm => ?_
    obtain ⟨ms, rest, e⟩ := List.mem_iff_append.1 hm
    have kept := lasts (ms ++ [m]) ⟨rest, by rw [e, List.append_assoc]; rfl⟩
    rw [ImportTable.noteAll_append] at kept
    exact kept.answers (ImportTable.answers_note _ m)
  unfold ImportCall.answer
  rw [(told _).2 _ again, (told _).2 _ lasts]

/-- Aliases are unique and stable exactly if foreign code, where it is mentioned at all, is the
first that asks for its alias, or the package at its path is. -/
theorem steady_iff (calls : List ImportCall) :
    Steady calls ↔ ForeignFirst (callMentions calls) := by
  constructor
  · intro steady mentioned
    have unique := steady.unique calls (List.prefix_refl calls)
    rw [importsAfter_eq] at unique
    have asked : ((callMentions calls).find? Mention.wantsForeign).isSome = true :=
      List.find?_isSome.2 ⟨.foreign, mentioned, rfl⟩
    obtain ⟨m, first⟩ := Option.isSome_iff_exists.1 asked
    cases m with
    | foreign => exact .inl first
    | package path =>
      by_cases own : path = foreignQualifier
      · exact .inr (own ▸ first)
      · exact absurd unique
          (ImportTable.not_unique_noteAll ImportTable.lacksForeign_empty first own mentioned)
  · intro first
    have sound := ImportTable.sound_of_foreignFirst first
    have inside : ∀ front more, front ++ more <+: calls →
        callMentions front ++ callMentions more <+: callMentions calls := by
      rintro front more ⟨rest, rfl⟩
      rw [callMentions_append, callMentions_append]
      exact List.prefix_append _ _
    refine ⟨fun front hf => ?_, fun front more hf => ?_, fun front call more hf => ?_⟩
    · have here := inside front [] (by rwa [List.append_nil])
      rw [importsAfter_eq]
      exact (sound _ _ here).1
    · rw [importsAfter_eq, importsAfter_eq, callMentions_append]
      exact (sound _ _ (inside front more hf)).2
    · refine answer_eq_of_sound fun ms ns within => sound ms ns (within.trans ?_)
      rw [callMentions_append]
      exact inside front (call :: more) hf

/-- A package whose last name is that of foreign code, the import of foreign code, and a name of
foreign code: in the end both packages have the same alias. -/
theorem not_steady_foreign_last :
    ¬ Steady [.importing "example.com/C", .importing "C",
      .writing "example.com/p" false (.named (.selected "C" "int"))] := by
  intro steady
  have unique := steady.unique _ (List.prefix_refl _)
  have mentions : callMentions [.importing "example.com/C", .importing "C",
      .writing "example.com/p" false (.named (.selected "C" "int"))]
        = [.package "example.com/C", .package "C", .foreign] := by
    simp [callMentions, ImportCall.mentions, typeMentions, partMentions, TypeForm.parts,
      partMention?, WrittenName.mention?, foreignQualifier]
  rw [importsAfter_eq, mentions] at unique
  have same := unique "example.com/C" "C" "C" (by decide) (by decide)
  exact absurd same (by decide)

end WrapperGen
