import TrojanDetection.Python.Json

/-!
# Arithmetic on floats

Sum, difference, absolute value and comparison, with the rules for infinities and NaN. A finite
float is an exact rational, so sums are not rounded and do not overflow.
-/

set_option autoImplicit false

namespace TrojanDetection.Python.PyFloat

/-- `-x`. -/
def neg : PyFloat → PyFloat
  | .finite q => .finite (-q)
  | .nan => .nan
  | .posInf => .negInf
  | .negInf => .posInf

/-- `x + y`. Infinities of opposite signs have no sum. -/
def add : PyFloat → PyFloat → PyFloat
  | .finite p, .finite q => .finite (p + q)
  | .nan, _ => .nan
  | _, .nan => .nan
  | .posInf, .negInf => .nan
  | .negInf, .posInf => .nan
  | .posInf, _ => .posInf
  | _, .posInf => .posInf
  | .negInf, _ => .negInf
  | _, .negInf => .negInf

/-- `x - y`. -/
def sub (x y : PyFloat) : PyFloat := x.add y.neg

/-- `abs(x)`. -/
def abs : PyFloat → PyFloat
  | .finite q => .finite |q|
  | .nan => .nan
  | .posInf => .posInf
  | .negInf => .posInf

/-- `x < threshold` for a finite float `threshold`. Every comparison with NaN is false. -/
def lessThan (threshold : ℚ) : PyFloat → Bool
  | .finite q => q < threshold
  | .nan => false
  | .posInf => false
  | .negInf => true

theorem zero_add (x : PyFloat) : add (.finite 0) x = x := by
  cases x with
  | finite q => exact congrArg PyFloat.finite (Rat.zero_add q)
  | nan => rfl
  | posInf => rfl
  | negInf => rfl

/-- Nothing has a small distance to infinity, infinity itself included. -/
theorem lessThan_abs_sub_posInf (threshold : ℚ) (x : PyFloat) :
    lessThan threshold (sub .posInf x).abs = false := by
  cases x with
  | finite q => rfl
  | nan => rfl
  | posInf => rfl
  | negInf => rfl

end TrojanDetection.Python.PyFloat
