/-!
# Sets of characters given by ranges

A property of characters is stored as a sorted list of ranges of code points.  Case
properties alternate along whole blocks, so a range there also carries a step.

## Main definitions

* `inRanges`: membership of a code point in a sorted list of ranges.
* `inSteppedRanges`: the same for ranges that take every `step`-th code point.
-/

namespace WrapperGen

/-- Whether `n` lies in one of the ranges, which are given in increasing order. -/
def inRanges (n : Nat) : List (Nat × Nat) → Bool
  | [] => false
  | (first, last) :: rest =>
      if n < first then false else n ≤ last || inRanges n rest

@[simp] theorem inRanges_nil (n : Nat) : inRanges n [] = false := rfl

/-- Whether `n` lies in one of the stepped ranges, which are given in increasing order. -/
def inSteppedRanges (n : Nat) : List (Nat × Nat × Nat) → Bool
  | [] => false
  | (first, last, step) :: rest =>
      if n < first then false
      else if n ≤ last then (n - first) % step == 0
      else inSteppedRanges n rest

@[simp] theorem inSteppedRanges_nil (n : Nat) : inSteppedRanges n [] = false := rfl

end WrapperGen
