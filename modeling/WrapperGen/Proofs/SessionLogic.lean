import WrapperGen.Check.Session
import WrapperGen.Proofs.RunLogic

/-!
# Computations that use a session

Two computations are compared by what they come to from sessions that are related.  The relation
goes through all the ways in which computations are put together, so that it holds of a checker as
soon as it holds of the importer that the checker uses.

A session only remembers.  So what a check comes to should be what it would come to without one,
as long as all that the session holds is right.  That is said of two computations: one that uses
the session, and a plain one beside it that leaves every session alone.

## Main definitions

* `AlikeOn`, `Alike`: two computations come to the same from related sessions.
* `Yields`: a computation comes to all that another one comes to.
* `AgreesOn`, `Agrees`: a computation comes to the same as a plain one.

## Main results

* `AlikeOn.bind`, `AlikeOn.tryCatch`: sequences, and failures that are caught.
* `AlikeOn.eq`: computations that come to the same from equal sessions are equal.
* `AgreesOn.alike`, `AgreesOn.of_alike`: agreement as a relation of that kind.
-/

namespace WrapperGen

variable {α β : Type} {known : Session → Prop}

theorem run_tryCatch (m : Check α) (handle : CheckError → Check α) (s : Session) :
    (tryCatch m handle).run.run s = match m.run.run s with
      | (.ok value, after) => (.ok value, after)
      | (.error cause, after) => (handle cause).run.run after := by
  show (ExceptT.tryCatch m handle).run.run s = _
  unfold ExceptT.tryCatch ExceptT.run ExceptT.mk StateT.run
  simp only [bind, StateT.bind]
  rcases m s with ⟨result, after⟩
  cases result with
  | ok value => rfl
  | error cause => rfl

/-! ### Computations side by side -/

/-- How a computation ends: with a `good` value, or with a cause that `fails` allows. -/
inductive Ends (good : α → Prop) (fails : CheckError → Prop) : Except CheckError α → Prop
  /-- With a value. -/
  | ok {value : α} (h : good value) : Ends good fails (.ok value)
  /-- With a failure. -/
  | error {cause : CheckError} (h : fails cause) : Ends good fails (.error cause)

/-- From sessions that `keeps` relates, `m` and `m'` come to the same, which is a `good` value or a
cause that `fails` allows, and the sessions are related afterwards. -/
def AlikeOn (keeps : Session → Session → Prop) (good : α → Prop) (fails : CheckError → Prop)
    (m m' : Check α) : Prop :=
  ∀ s s', keeps s s' → ∃ result last last', m.run.run s = (result, last)
    ∧ m'.run.run s' = (result, last') ∧ keeps last last' ∧ Ends good fails result

/-- From sessions that `keeps` relates, `m` and `m'` come to the same, any failure is one that
`fails` allows, and the sessions are related afterwards. -/
abbrev Alike (keeps : Session → Session → Prop) (fails : CheckError → Prop) (m m' : Check α) :
    Prop :=
  AlikeOn keeps (fun _ => True) fails m m'

namespace AlikeOn

variable {keeps : Session → Session → Prop} {good : α → Prop} {good' : β → Prop}
  {fails : CheckError → Prop} {m m' : Check α}

theorem pure {value : α} (h : good value) :
    AlikeOn keeps good fails (Pure.pure value) (Pure.pure value) :=
  fun s s' hs => ⟨.ok value, s, s', rfl, rfl, hs, .ok h⟩

theorem throw {cause : CheckError} (h : fails cause) :
    AlikeOn keeps good fails (MonadExcept.throw cause) (MonadExcept.throw cause) :=
  fun s s' hs => ⟨.error cause, s, s', rfl, rfl, hs, .error h⟩

theorem lift {result : Except CheckError α} (h : ∀ cause, result = .error cause → fails cause) :
    AlikeOn keeps (fun value => result = .ok value) fails (liftM result : Check α)
      (liftM result : Check α) := by
  intro s s' hs
  refine ⟨result, s, s', run_liftM result s, run_liftM result s', hs, ?_⟩
  cases result with
  | ok value => exact .ok rfl
  | error cause => exact .error (h cause rfl)

theorem mono {better : α → Prop} {worse : CheckError → Prop} (h : AlikeOn keeps better worse m m')
    (hg : ∀ value, better value → good value) (hf : ∀ cause, worse cause → fails cause) :
    AlikeOn keeps good fails m m' := by
  intro s s' hs
  obtain ⟨result, last, last', ran, ran', kept, ends⟩ := h s s' hs
  refine ⟨result, last, last', ran, ran', kept, ?_⟩
  cases ends with
  | ok hv => exact .ok (hg _ hv)
  | error hc => exact .error (hf _ hc)

theorem bind {f f' : α → Check β} (h : AlikeOn keeps good fails m m')
    (hf : ∀ value, good value → AlikeOn keeps good' fails (f value) (f' value)) :
    AlikeOn keeps good' fails (m >>= f) (m' >>= f') := by
  intro s s' hs
  obtain ⟨result, last, last', ran, ran', kept, ends⟩ := h s s' hs
  rw [run_bind, run_bind, ran, ran']
  cases ends with
  | ok hv => exact hf _ hv last last' kept
  | error hc => exact ⟨_, last, last', rfl, rfl, kept, .error hc⟩

theorem tryCatch {caught : CheckError → Prop} {handle handle' : CheckError → Check α}
    (h : AlikeOn keeps good caught m m')
    (hh : ∀ cause, caught cause → AlikeOn keeps good fails (handle cause) (handle' cause)) :
    AlikeOn keeps good fails (MonadExcept.tryCatch m handle)
      (MonadExcept.tryCatch m' handle') := by
  intro s s' hs
  obtain ⟨result, last, last', ran, ran', kept, ends⟩ := h s s' hs
  rw [run_tryCatch, run_tryCatch, ran, ran']
  cases ends with
  | ok hv => exact ⟨_, last, last', rfl, rfl, kept, .ok hv⟩
  | error hc => exact hh _ hc last last' kept

/-- Every computation comes to the same as itself. -/
theorem refl (m : Check α) : AlikeOn Eq (fun _ => True) (fun _ => True) m m := by
  rintro s _ rfl
  rcases ran : m.run.run s with ⟨_ | _, last⟩
  · exact ⟨_, last, last, rfl, rfl, rfl, .error trivial⟩
  · exact ⟨_, last, last, rfl, rfl, rfl, .ok trivial⟩

/-- Computations that come to the same from equal sessions are equal. -/
theorem eq (h : AlikeOn Eq good fails m m') : m = m' := by
  funext s
  obtain ⟨result, last, last', ran, ran', rfl, -⟩ := h s s rfl
  exact ran.trans ran'.symm

/-- The failure of a computation is one that is allowed. -/
theorem fails_of_run (h : AlikeOn keeps good fails m m') {s s' : Session} (hs : keeps s s')
    {cause : CheckError} (came : (m.run.run s).1 = .error cause) : fails cause := by
  obtain ⟨result, last, last', ran, -, -, ends⟩ := h s s' hs
  rw [ran] at came
  rw [show result = .error cause from came] at ends
  cases ends with
  | error hc => exact hc

end AlikeOn

/-- A sequence in which nothing is asked of the value in between. -/
theorem Alike.bind {keeps : Session → Session → Prop} {good : β → Prop} {fails : CheckError → Prop}
    {m m' : Check α} {f f' : α → Check β} (h : Alike keeps fails m m')
    (hf : ∀ value, AlikeOn keeps good fails (f value) (f' value)) :
    AlikeOn keeps good fails (m >>= f) (m' >>= f') :=
  AlikeOn.bind h fun value _ => hf value

/-! ### A computation that comes to at least as much -/

/-- Whatever value `m` comes to, `m'` comes to as well, and leaves the same session behind.  Where
`m` fails, nothing is said of `m'`. -/
def Yields (m m' : Check α) : Prop :=
  ∀ s value last, m.run.run s = (.ok value, last) → m'.run.run s = (.ok value, last)

namespace Yields

variable {m m' : Check α}

theorem refl (m : Check α) : Yields m m := fun _ _ _ => id

theorem bind {f f' : α → Check β} (h : Yields m m') (hf : ∀ value, Yields (f value) (f' value)) :
    Yields (m >>= f) (m' >>= f') := by
  intro s value last ran
  obtain ⟨a, between, first, behind⟩ := exists_of_run_bind ran
  rw [run_bind_of_ok (h s a between first)]
  exact hf a between value last behind

/-- A failure comes to no value. -/
theorem of_throw {cause : CheckError} : Yields (MonadExcept.throw cause : Check α) m' := by
  intro s value last ran
  cases ran

end Yields

/-! ### A computation beside a plain one -/

/-- From every session that is `known` to be right, `m` comes to what `plain` comes to anywhere,
the session is right afterwards, and a value that comes out is `good`. -/
def AgreesOn (known : Session → Prop) (good : α → Prop) (m plain : Check α) : Prop :=
  ∃ result, (∀ s, known s → (m.run.run s).1 = result ∧ known (m.run.run s).2)
    ∧ (∀ s, plain.run.run s = (result, s)) ∧ ∀ value, result = .ok value → good value

/-- From every session that is `known` to be right, `m` comes to what `plain` comes to anywhere, and
the session is right afterwards. -/
abbrev Agrees (known : Session → Prop) (m plain : Check α) : Prop :=
  AgreesOn known (fun _ => True) m plain

namespace AgreesOn

variable {good : α → Prop} {m plain : Check α}

theorem pure {value : α} (h : good value) :
    AgreesOn known good (Pure.pure value) (Pure.pure value) := by
  refine ⟨.ok value, fun s hs => ⟨rfl, hs⟩, fun s => rfl, fun other e => ?_⟩
  obtain rfl := Except.ok.inj e
  exact h

theorem lift (result : Except CheckError α) (h : ∀ value, result = .ok value → good value) :
    AgreesOn known good (liftM result : Check α) (liftM result : Check α) := by
  refine ⟨result, fun s hs => ?_, run_liftM result, h⟩
  rw [run_liftM]
  exact ⟨rfl, hs⟩

theorem mono {better : α → Prop} (h : AgreesOn known better m plain)
    (hg : ∀ value, better value → good value) : AgreesOn known good m plain := by
  obtain ⟨result, steady, free, ends⟩ := h
  exact ⟨result, steady, free, fun value e => hg value (ends value e)⟩

theorem bind {f f' : α → Check β} {good' : β → Prop} (h : AgreesOn known good m plain)
    (hf : ∀ value, good value → AgreesOn known good' (f value) (f' value)) :
    AgreesOn known good' (m >>= f) (plain >>= f') := by
  obtain ⟨result, steady, free, ends⟩ := h
  cases result with
  | ok value =>
    -- the value is the same on both sides, so the same rest is run
    obtain ⟨last, steady', free', ends'⟩ := hf value (ends value rfl)
    refine ⟨last, fun s hs => ?_, fun s => ?_, ends'⟩
    · obtain ⟨came, right⟩ := steady s hs
      rw [run_bind]
      rcases hd : m.run.run s with ⟨first, after⟩
      rw [hd] at came right
      subst came
      exact steady' after right
    · rw [run_bind, free]
      exact free' s
  | error cause =>
    refine ⟨.error cause, fun s hs => ?_, fun s => ?_, fun _ e => by cases e⟩
    · obtain ⟨came, right⟩ := steady s hs
      rw [run_bind]
      rcases hd : m.run.run s with ⟨first, after⟩
      rw [hd] at came right
      subst came
      exact ⟨rfl, right⟩
    · rw [run_bind, free]

/-- What the computation comes to, from a session that is right. -/
theorem run_eq (h : AgreesOn known good m plain) {s : Session} (hs : known s) :
    (m.run.run s).1 = (plain.run.run .empty).1 := by
  obtain ⟨result, steady, free, -⟩ := h
  rw [(steady s hs).1, free]

theorem known_run (h : AgreesOn known good m plain) {s : Session} (hs : known s) :
    known (m.run.run s).2 := by
  obtain ⟨result, steady, -, -⟩ := h
  exact (steady s hs).2

theorem good_of_run (h : AgreesOn known good m plain) {value : α}
    (came : (plain.run.run .empty).1 = .ok value) : good value := by
  obtain ⟨result, -, free, ends⟩ := h
  rw [free] at came
  exact ends value came

/-- A value that comes out is the one that the plain computation comes to. -/
theorem came (h : AgreesOn known good m plain) :
    AgreesOn known (fun value => (plain.run.run .empty).1 = .ok value) m plain := by
  obtain ⟨result, steady, free, -⟩ := h
  refine ⟨result, steady, free, fun value e => ?_⟩
  rw [free, e]

/-- Of the plain computation only its answer counts. -/
theorem answer (h : AgreesOn known good m plain) :
    AgreesOn known good m (liftM (plain.run.run .empty).1) := by
  obtain ⟨result, steady, free, ends⟩ := h
  refine ⟨result, steady, fun s => ?_, ends⟩
  rw [free, run_liftM]

/-- Another computation that comes to the same and leaves right sessions right. -/
theorem replace {other : Check α} (h : AgreesOn known good m plain)
    (ho : ∀ s, known s → (other.run.run s).1 = (plain.run.run .empty).1
      ∧ known (other.run.run s).2) : AgreesOn known good other plain := by
  obtain ⟨result, -, free, ends⟩ := h
  refine ⟨result, fun s hs => ?_, free, ends⟩
  have same := ho s hs
  rw [free] at same
  exact same

/-- What is done with a value in the end makes no difference, if all that comes of it is the value
again. -/
theorem andThen {f : α → Check α} {good' : α → Prop} (h : AgreesOn known good m plain)
    (hf : ∀ value, good value → AgreesOn known good' (f value) (Pure.pure value)) :
    AgreesOn known good' (m >>= f) plain := by
  have both := h.bind hf
  rw [bind_pure] at both
  exact both

/-- Beside any session that the plain computation may have. -/
theorem alike (h : AgreesOn known good m plain) (t : Session) :
    AlikeOn (fun s s' => known s ∧ s' = t) good (fun _ => True) m plain := by
  rintro s s' ⟨hs, rfl⟩
  obtain ⟨result, steady, free, ends⟩ := h
  obtain ⟨came, right⟩ := steady s hs
  refine ⟨result, _, s', Prod.ext came rfl, free s', ⟨right, rfl⟩, ?_⟩
  cases result with
  | ok value => exact .ok (ends value rfl)
  | error cause => exact .error trivial

/-- Agreement, if it is seen beside every session that the plain computation may have.  Some session
has to be right, for otherwise nothing is known of the plain computation. -/
theorem of_alike {fails : CheckError → Prop} (one : ∃ start, known start)
    (h : ∀ t, AlikeOn (fun s s' => known s ∧ s' = t) good fails m plain) :
    AgreesOn known good m plain := by
  obtain ⟨start, known_start⟩ := one
  obtain ⟨result, last, last', ran, ran', -, ends⟩ := h .empty start .empty ⟨known_start, rfl⟩
  have ends' : ∀ value, result = .ok value → good value := by
    rintro value rfl
    cases ends with
    | ok hv => exact hv
  refine ⟨result, fun s hs => ?_, fun t => ?_, ends'⟩
  · obtain ⟨other, after, after', came, plainly, ⟨right, -⟩, -⟩ := h .empty s .empty ⟨hs, rfl⟩
    obtain ⟨rfl, -⟩ := Prod.mk.inj (plainly.symm.trans ran')
    rw [came]
    exact ⟨rfl, right⟩
  · obtain ⟨other, after, after', came, plainly, ⟨-, rfl⟩, -⟩ := h t start t ⟨known_start, rfl⟩
    obtain ⟨rfl, -⟩ := Prod.mk.inj (came.symm.trans ran)
    exact plainly

end AgreesOn

end WrapperGen
