import WrapperGen.Text.Reading

/-!
# Running readers

A reader is run on a list, and each combinator asks its parts at places of that list.  Every
lemma here says what a combinator does once the answer of its first part is known, so that the
proofs about readers follow them from left to right and never look inside.

## Main results

* `bind_of_some`, `bind_of_none`, `orElse_of_some`, `orElse_of_none`: sequence and choice.
* `maybe_of_some`, `maybe_of_none`, `follows_of_some`, `follows_of_none`: optional parts.
* `repeatStep_of_none`, `repeatStep_of_some`, `many_of_none`: repetition.
-/

namespace WrapperGen.Reading

variable {τ α β : Type}

/-! ### Sequence and choice -/

theorem bind_of_some {p : Reading τ α} {f : α → Reading τ β} {s rest : List τ} {a : α}
    (h : p s = some (a, rest)) : (p >>= f) s = f a rest := by
  show (p s).bind _ = _
  rw [h]
  rfl

theorem bind_of_none {p : Reading τ α} {f : α → Reading τ β} {s : List τ} (h : p s = none) :
    (p >>= f) s = none := by
  show (p s).bind _ = _
  rw [h]
  rfl

theorem orElse_of_some {p q : Reading τ α} {s rest : List τ} {a : α}
    (h : p s = some (a, rest)) : (p <|> q) s = some (a, rest) := by
  show ((p s).orElse fun _ => q s) = _
  rw [h]
  rfl

theorem orElse_of_none {p q : Reading τ α} {s : List τ} (h : p s = none) :
    (p <|> q) s = q s := by
  show ((p s).orElse fun _ => q s) = _
  rw [h]
  rfl

/-! ### Conditions and optional parts -/

theorem require_of_true {condition : Bool} (h : condition = true) (s : List τ) :
    (require condition : Reading τ Unit) s = some ((), s) := by
  rw [h]
  rfl

theorem require_of_false {condition : Bool} (h : condition = false) (s : List τ) :
    (require condition : Reading τ Unit) s = none := by
  rw [h]
  rfl

theorem maybe_of_some {p : Reading τ α} {s rest : List τ} {a : α} (h : p s = some (a, rest)) :
    maybe p s = some (some a, rest) := by
  refine orElse_of_some ?_
  rw [bind_of_some h]
  rfl

theorem maybe_of_none {p : Reading τ α} {s : List τ} (h : p s = none) :
    maybe p s = some (none, s) := by
  refine (orElse_of_none ?_).trans rfl
  exact bind_of_none h

theorem follows_of_some {p : Reading τ α} {s rest : List τ} {a : α} (h : p s = some (a, rest)) :
    follows p s = some ((), s) := by
  rw [follows, h]

theorem follows_of_none {p : Reading τ α} {s : List τ} (h : p s = none) : follows p s = none := by
  rw [follows, h]

/-! ### Repetition -/

theorem repeatStep_of_none {step : β → Reading τ β} {value : β} {s : List τ}
    (h : step value s = none) : (limit : Nat) → repeatStep step limit value s = some (value, s)
  | 0 => rfl
  | limit + 1 => by simp only [repeatStep, h]

theorem repeatStep_of_some {step : β → Reading τ β} {value next : β} {s rest : List τ}
    (h : step value s = some (next, rest)) (limit : Nat) :
    repeatStep step (limit + 1) value s = repeatStep step limit next rest := by
  simp only [repeatStep, h]

theorem many_of_none {p : Reading τ α} {s : List τ} (h : p s = none) (limit : Nat) :
    many limit p s = some ([], s) := by
  rw [many, bind_of_some (repeatStep_of_none (bind_of_none h) limit)]
  rfl

end WrapperGen.Reading
