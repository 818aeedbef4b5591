import TrojanDetection.Python.Basic
import Mathlib.Data.Rat.Floor

/-!
# Numbers and sequences

Truncation, slices and the unpacking of tuples, as the interpreter does them.
-/

set_option autoImplicit false

namespace TrojanDetection.Python

/-- `int(x)`: truncation towards zero. -/
def truncate (x : ℚ) : ℤ := x.num.tdiv x.den

theorem truncate_of_nonneg {x : ℚ} (h : 0 ≤ x) : truncate x = ⌊x⌋ := by
  rw [truncate, Rat.floor_def']
  exact Int.tdiv_eq_ediv_of_nonneg (Rat.num_nonneg.2 h)

variable {α : Type}

/-- `xs[:k]`: a negative bound counts from the end. -/
def sliceTo (xs : List α) (k : ℤ) : List α :=
  if 0 ≤ k then xs.take k.toNat else xs.take (xs.length - (-k).toNat)

/-- A slice up to a truncated number that is not negative. -/
theorem sliceTo_truncate (xs : List α) {x : ℚ} (h : 0 ≤ x) :
    sliceTo xs (truncate x) = xs.take ⌊x⌋₊ := by
  rw [truncate_of_nonneg h, sliceTo, if_pos (Int.floor_nonneg.2 h), Int.floor_toNat]

/-- The assignment of an iterable to `n` names. -/
def unpack (n : ℕ) (items : List α) : Except PyError (List α) :=
  let got := items.length
  if got = n then .ok items
  else if got < n then
    .error (.valueError s!"not enough values to unpack (expected {n}, got {got})")
  else .error (.valueError s!"too many values to unpack (expected {n})")

/-- Only as many items as there are names can be unpacked. -/
theorem unpack_eq_ok_iff {n : ℕ} {items names : List α} :
    unpack n items = .ok names ↔ items.length = n ∧ names = items := by
  simp only [unpack]
  split
  · next h =>
      constructor
      · intro hok
        cases hok
        exact ⟨h, rfl⟩
      · rintro ⟨-, rfl⟩
        rfl
  · next h =>
      apply iff_of_false
      · intro hok
        split at hok <;> cases hok
      · intro hboth
        exact h hboth.1

end TrojanDetection.Python
