/-!
# Reading from the front of a list

A reader takes what it recognises from the front of a list and gives back the rest.  It fails
where it recognises nothing, and then an alternative starts again from the same place.

## Main definitions

* `Reading`: what reads a value from the front of a list.
* `follows`, `require`, `maybe`: looking ahead, conditions, and what may be missing.
* `repeatStep`, `many`, `readAll`: sequences.
-/

namespace WrapperGen

/-- What reads a value from the front of a list, and gives back the rest. -/
abbrev Reading (τ α : Type) := StateT (List τ) Option α

namespace Reading

variable {τ α β : Type}

/-- Nothing, provided that `p` reads something here. -/
def follows (p : Reading τ α) : Reading τ Unit := fun s =>
  match p s with
  | none => none
  | some _ => some ((), s)

/-- Nothing, provided that a condition holds. -/
def require (condition : Bool) : Reading τ Unit := if condition then pure () else failure

/-- A value, or none if there is none here. -/
def maybe (p : Reading τ α) : Reading τ (Option α) :=
  (do
    let value ← p
    pure (some value)) <|> pure none

/-- Go on from a value as often as possible, at most `limit` times. -/
def repeatStep (step : β → Reading τ β) : Nat → β → Reading τ β
  | 0, value => pure value
  | limit + 1, value => fun s =>
      match step value s with
      | none => some (value, s)
      | some (next, rest) => repeatStep step limit next rest

/-- As many values as there are, at most `limit`, each read by `p`. -/
def many (limit : Nat) (p : Reading τ α) : Reading τ (List α) := do
  let values ← repeatStep (fun (values : List α) => do
    let value ← p
    pure (value :: values)) limit []
  pure values.reverse

/-- As many values as there are, each read by `p`, which takes at least one element. -/
def readAll (p : Reading τ α) : Reading τ (List α) := fun s => many s.length p s

end Reading

end WrapperGen
