import WrapperGen.Site

/-!
# Reasoning about runs

A run ends with a value or with a failure, and leaves a site behind either way.  What is known of
a run is stated for both ends: one condition on the value and its site, one on the cause of a
failure and its site.  Runs are put together by `bind`, so there is one rule for that, and one for
each of the steps of `WrapperGen.Run`.

## Main definitions

* `Run.Triple`: what holds at both ends of a run.

## Main results

* `Run.Triple.bind`: one run after another.
* `Run.Triple.mono`: more is known at the start, and less is asked at the ends.
* `Run.Triple.look`, `Run.Triple.onTree`, `Run.Triple.print`, `Run.Triple.mapError`: the steps.
-/

namespace WrapperGen

section

variable {ε σ α β : Type}

theorem run_bind (m : ExceptT ε (StateM σ) α) (next : α → ExceptT ε (StateM σ) β) (state : σ) :
    (m >>= next).run.run state = match m.run.run state with
      | (.ok value, last) => (next value).run.run last
      | (.error cause, last) => (.error cause, last) := by
  have step : (m >>= next).run.run state
      = (ExceptT.bindCont next (m.run.run state).1).run (m.run.run state).2 := rfl
  rw [step]
  rcases m.run.run state with ⟨result, last⟩
  cases result with
  | ok value => rfl
  | error cause => rfl

/-- What comes behind a value. -/
theorem run_bind_of_ok {m : ExceptT ε (StateM σ) α} {state after : σ} {value : α}
    (h : m.run.run state = (.ok value, after)) (next : α → ExceptT ε (StateM σ) β) :
    (m >>= next).run.run state = (next value).run.run after := by
  rw [run_bind, h]

/-- A sequence that comes to a value comes to one in between. -/
theorem exists_of_run_bind {m : ExceptT ε (StateM σ) α} {next : α → ExceptT ε (StateM σ) β}
    {state last : σ} {b : β} (h : (m >>= next).run.run state = (.ok b, last)) :
    ∃ a after, m.run.run state = (.ok a, after) ∧ (next a).run.run after = (.ok b, last) := by
  rw [run_bind] at h
  rcases hd : m.run.run state with ⟨result, after⟩
  rw [hd] at h
  cases result with
  | ok a => exact ⟨a, after, rfl, h⟩
  | error cause => cases h

/-- What comes behind the state. -/
theorem run_get_bind (next : σ → ExceptT ε (StateM σ) β) (state : σ) :
    ((get : ExceptT ε (StateM σ) σ) >>= next).run.run state = (next state).run.run state := rfl

/-- A result by itself uses no state. -/
theorem run_liftM (result : Except ε α) (state : σ) :
    (liftM result : ExceptT ε (StateM σ) α).run.run state = (result, state) := by
  cases result with
  | ok value => rfl
  | error cause => rfl

/-- What comes behind a value that depends on no state. -/
theorem run_liftM_bind {result : Except ε α} {value : α} (h : result = .ok value)
    (next : α → ExceptT ε (StateM σ) β) (state : σ) :
    ((liftM result : ExceptT ε (StateM σ) α) >>= next).run.run state
      = (next value).run.run state := by
  rw [h]
  rfl

theorem exists_of_run_liftM_bind {result : Except ε α} {next : α → ExceptT ε (StateM σ) β}
    {state last : σ} {b : β}
    (h : ((liftM result : ExceptT ε (StateM σ) α) >>= next).run.run state = (.ok b, last)) :
    ∃ value, result = .ok value ∧ (next value).run.run state = (.ok b, last) := by
  obtain ⟨value, _, came, h⟩ := exists_of_run_bind h
  rw [run_liftM] at came
  obtain ⟨rfl, rfl⟩ := Prod.mk.inj came
  exact ⟨value, rfl, h⟩

end

namespace Run

variable {ε δ α β : Type}

/-- A change of the files that succeeds. -/
theorem run_onTree {wrap : FileError → ε} {change : FileTree → Except FileError FileTree}
    {site : Site} {tree : FileTree} (h : change site.tree = .ok tree) :
    (onTree wrap change).run.run site = (.ok (), { site with tree := tree }) := by
  refine (run_get_bind _ site).trans ?_
  rw [h]
  rfl

theorem exists_of_run_onTree {wrap : FileError → ε}
    {change : FileTree → Except FileError FileTree} {site last : Site} {value : Unit}
    (h : (onTree wrap change).run.run site = (.ok value, last)) :
    ∃ tree, change site.tree = .ok tree ∧ last = { site with tree := tree } := by
  obtain ⟨found, _, got, h⟩ := exists_of_run_bind h
  cases show (Except.ok site, site) = (Except.ok found, _) from got
  cases asked : change site.tree with
  | ok tree =>
    simp only [asked] at h
    cases h
    exact ⟨tree, rfl, rfl⟩
  | error cause =>
    simp only [asked] at h
    cases h

/-- What is found is found in the files, and nothing changes. -/
theorem run_look {wrap : FileError → ε} {question : FileTree → Except FileError α} {site : Site}
    {value : α} (h : question site.tree = .ok value) :
    (look wrap question).run.run site = (.ok value, site) := by
  refine (run_get_bind _ site).trans ?_
  rw [h]
  rfl

theorem exists_of_run_look {wrap : FileError → ε} {question : FileTree → Except FileError α}
    {site last : Site} {value : α} (h : (look wrap question).run.run site = (.ok value, last)) :
    question site.tree = .ok value ∧ site = last := by
  obtain ⟨found, _, got, h⟩ := exists_of_run_bind h
  cases show (Except.ok site, site) = (Except.ok found, _) from got
  cases asked : question site.tree with
  | ok given =>
    simp only [asked] at h
    cases h
    exact ⟨rfl, rfl⟩
  | error cause =>
    simp only [asked] at h
    cases h

/-- Printing, if the output stream takes text. -/
theorem run_print (cause : ε) (text : String) (site : Site) :
    (print cause text).run.run site
      = if site.printable then (.ok (), { site with printed := site.printed ++ [text] })
        else (.error cause, site) := by
  refine (run_get_bind _ site).trans ?_
  by_cases h : site.printable = true
  · rw [if_pos h, if_pos h]
    rfl
  · rw [if_neg h, if_neg h]
    rfl

theorem run_mapError (f : ε → δ) (run : Run ε α) (site : Site) :
    (mapError f run).run.run site = ((run.run.run site).1.mapError f, (run.run.run site).2) := by
  show mapError f run site = ((run site).1.mapError f, (run site).2)
  unfold mapError
  rcases run site with ⟨_ | value, last⟩
  · rfl
  · rfl

/-- From a site with `before`, a run comes to a value and a site with `after`, or to a failure and
a site with `failed`. -/
def Triple (before : Site → Prop) (run : Run ε α) (after : α → Site → Prop)
    (failed : ε → Site → Prop) : Prop :=
  ∀ site, before site →
    match run.run.run site with
    | (.ok value, last) => after value last
    | (.error cause, last) => failed cause last

namespace Triple

variable {before : Site → Prop} {run : Run ε α} {after : α → Site → Prop}
  {failed : ε → Site → Prop}

/-! ### Ends -/

theorem of_ok (h : Triple before run after failed) {site : Site} (hs : before site) {value : α}
    (hr : (run.run.run site).1 = .ok value) : after value (run.run.run site).2 := by
  have ends := h site hs
  rcases hd : run.run.run site with ⟨result, last⟩
  rw [hd] at hr ends
  subst hr
  exact ends

theorem of_error (h : Triple before run after failed) {site : Site} (hs : before site) {cause : ε}
    (hr : (run.run.run site).1 = .error cause) : failed cause (run.run.run site).2 := by
  have ends := h site hs
  rcases hd : run.run.run site with ⟨result, last⟩
  rw [hd] at hr ends
  subst hr
  exact ends

/-- What holds at both ends. -/
theorem of_both {kept : Site → Prop} (h : Triple before run (fun _ => kept) fun _ => kept)
    {site : Site} (hs : before site) : kept (run.run.run site).2 := by
  cases hr : (run.run.run site).1 with
  | ok value => exact h.of_ok hs hr
  | error cause => exact h.of_error hs hr

/-! ### Composition -/

theorem mono {before' : Site → Prop} {after' : α → Site → Prop} {failed' : ε → Site → Prop}
    (h : Triple before run after failed) (hb : ∀ site, before' site → before site)
    (ha : ∀ value site, after value site → after' value site)
    (hf : ∀ cause site, failed cause site → failed' cause site) :
    Triple before' run after' failed' := by
  intro site hs
  have ends := h site (hb site hs)
  rcases hd : run.run.run site with ⟨result, last⟩
  rw [hd] at ends
  cases result with
  | ok value => exact ha value last ends
  | error cause => exact hf cause last ends

/-- Nothing is asked of the ends. -/
theorem trivial : Triple before run (fun _ _ => True) fun _ _ => True := by
  intro site _
  rcases run.run.run site with ⟨result, last⟩
  cases result with
  | ok value => exact True.intro
  | error cause => exact True.intro

theorem pure {value : α} (h : ∀ site, before site → after value site) :
    Triple before (Pure.pure value) after failed := h

theorem throw {cause : ε} (h : ∀ site, before site → failed cause site) :
    Triple before (MonadExcept.throw cause : Run ε α) after failed := h

theorem bind {between : α → Site → Prop} {next : α → Run ε β} {after : β → Site → Prop}
    (hr : Triple before run between failed)
    (hn : ∀ value, Triple (between value) (next value) after failed) :
    Triple before (run >>= next) after failed := by
  intro site hs
  have first := hr site hs
  rw [run_bind]
  rcases hd : run.run.run site with ⟨result, last⟩
  rw [hd] at first
  cases result with
  | ok value => exact hn value last first
  | error cause => exact first

/-- Nothing is done behind a failure. -/
theorem throw_bind {cause : ε} {next : α → Run ε β} {after : β → Site → Prop}
    (h : ∀ site, before site → failed cause site) :
    Triple before ((MonadExcept.throw cause : Run ε α) >>= next) after failed := by
  have stop : Triple before (MonadExcept.throw cause : Run ε α) (fun _ _ => False) failed :=
    throw h
  exact stop.bind fun _ _ never => never.elim

/-! ### Steps -/

theorem get {after : Site → Site → Prop} (h : ∀ site, before site → after site site) :
    Triple before (MonadState.get : Run ε Site) after failed := h

/-- What is known of a site is known of the value that looking at it gives. -/
theorem get_keep :
    Triple before (MonadState.get : Run ε Site) (fun found site => found = site ∧ before site)
      failed :=
  get fun _ hs => ⟨rfl, hs⟩

/-- A value that depends on no site. -/
theorem lift {result : Except ε α}
    (ha : ∀ value, result = .ok value → ∀ site, before site → after value site)
    (hf : ∀ cause, result = .error cause → ∀ site, before site → failed cause site) :
    Triple before (liftM result : Run ε α) after failed := by
  intro site hs
  cases result with
  | ok value => exact ha value rfl site hs
  | error cause => exact hf cause rfl site hs

/-- A value that depends on no site, and all that is known of the site. -/
theorem lift_keep {result : Except ε α}
    (hf : ∀ cause, result = .error cause → ∀ site, before site → failed cause site) :
    Triple before (liftM result : Run ε α) (fun value site => result = .ok value ∧ before site)
      failed :=
  lift (fun _ h _ hs => ⟨h, hs⟩) hf

theorem look {wrap : FileError → ε} {question : FileTree → Except FileError α}
    (ha : ∀ value site, question site.tree = .ok value → before site → after value site)
    (hf : ∀ cause site, question site.tree = .error cause → before site →
      failed (wrap cause) site) :
    Triple before (Run.look wrap question) after failed := by
  refine get_keep.bind fun found => ?_
  rintro site ⟨rfl, hs⟩
  cases h : question found.tree with
  | ok value => exact ha value found h hs
  | error cause => exact hf cause found h hs

theorem onTree {wrap : FileError → ε} {change : FileTree → Except FileError FileTree}
    {after : Unit → Site → Prop}
    (ha : ∀ tree site, change site.tree = .ok tree → before site →
      after () { site with tree := tree })
    (hf : ∀ cause site, change site.tree = .error cause → before site →
      failed (wrap cause) site) :
    Triple before (Run.onTree wrap change) after failed := by
  refine get_keep.bind fun found => ?_
  rintro site ⟨rfl, hs⟩
  cases h : change found.tree with
  | ok tree => exact ha tree found h hs
  | error cause => exact hf cause found h hs

theorem print {cause : ε} {text : String} {after : Unit → Site → Prop}
    (ha : ∀ site, before site → after () { site with printed := site.printed ++ [text] })
    (hf : ∀ site, before site → failed cause site) :
    Triple before (Run.print cause text) after failed := by
  -- whether printing works is known from the site
  refine get_keep.bind fun found => ?_
  rintro site ⟨rfl, hs⟩
  by_cases h : found.printable = true
  · rw [if_pos h]
    exact ha found hs
  · rw [if_neg h]
    exact hf found hs

theorem mapError {f : ε → δ} {failed : δ → Site → Prop}
    (h : Triple before run after fun cause => failed (f cause)) :
    Triple before (Run.mapError f run) after failed := by
  intro site hs
  have ends := h site hs
  show match Run.mapError f run site with
    | (.ok value, last) => after value last
    | (.error cause, last) => failed cause last
  unfold Run.mapError
  rcases hd : run site with ⟨result, last⟩
  have hd' : run.run.run site = (result, last) := hd
  rw [hd'] at ends
  cases result with
  | ok value => exact ends
  | error cause => exact ends

end Triple

end Run
end WrapperGen
