import TrojanDetection.Python.Float
import Mathlib.Algebra.Order.Ring.Rat
import Mathlib.Tactic.Linarith

/-!
# Comparing floats

The order of floats, Python's `max` and `min`, and NumPy's maximum. A comparison with NaN is false,
so `max(x, y)` and `min(x, y)` return a NaN that comes first and pass over one that comes second;
NumPy's maximum returns NaN if there is one anywhere (`npMax_eq_nan`).
-/

set_option autoImplicit false

namespace TrojanDetection.Python.PyFloat

/-- `x < y`. -/
def lt : PyFloat → PyFloat → Bool
  | .finite p, .finite q => p < q
  | .nan, _ => false
  | _, .nan => false
  | .negInf, .negInf => false
  | .negInf, _ => true
  | .posInf, _ => false
  | .finite _, .posInf => true
  | .finite _, .negInf => false

/-- `max(x, y)`: the first argument unless the second one is larger. -/
def pyMax (x y : PyFloat) : PyFloat := if lt x y then y else x

/-- `min(x, y)`: the first argument unless the second one is smaller. -/
def pyMin (x y : PyFloat) : PyFloat := if lt y x then y else x

/-- `x * k` and, with the inverse, `x / k`, for a positive float `k`. -/
def scale (k : ℚ) : PyFloat → PyFloat
  | .finite q => .finite (q * k)
  | .nan => .nan
  | .posInf => .posInf
  | .negInf => .negInf

/-- `np.maximum`. -/
def npMaximum (x y : PyFloat) : PyFloat :=
  if x = .nan ∨ y = .nan then .nan else if lt x y then y else x

/-- `np.max` of an array with a first entry. -/
def npMax (x : PyFloat) (xs : List PyFloat) : PyFloat := xs.foldl npMaximum x

/-! ## The order -/

theorem lt_irrefl (x : PyFloat) : lt x x = false := by
  cases x with
  | finite q => simp [lt]
  | nan => rfl
  | posInf => rfl
  | negInf => rfl

theorem lt_asymm {x y : PyFloat} (h : lt x y = true) : lt y x = false := by
  cases x <;> cases y <;> simp_all [lt, le_of_lt]

/-- Among numbers, not being below is transitive. -/
theorem not_lt_trans {x y z : PyFloat} (hy : y ≠ .nan) (hxy : lt x y = false)
    (hyz : lt y z = false) : lt x z = false := by
  cases x <;> cases y <;> cases z <;> simp_all [lt]
  exact hyz.trans hxy

/-! ## Maxima -/

theorem npMaximum_nan_left (y : PyFloat) : npMaximum .nan y = .nan := if_pos (.inl rfl)

theorem npMax_nan (xs : List PyFloat) : npMax .nan xs = .nan := by
  induction xs with
  | nil => rfl
  | cons y ys ih =>
      rw [npMax, List.foldl_cons, npMaximum_nan_left]
      exact ih

/-- A NaN anywhere is the maximum. -/
theorem npMax_eq_nan {x : PyFloat} {xs : List PyFloat} (h : PyFloat.nan ∈ x :: xs) :
    npMax x xs = .nan := by
  induction xs generalizing x with
  | nil =>
      rw [List.mem_singleton.1 h]
      rfl
  | cons y ys ih =>
      rw [npMax, List.foldl_cons]
      by_cases hnan : x = .nan ∨ y = .nan
      · rw [npMaximum, if_pos hnan]
        exact npMax_nan ys
      · obtain ⟨hx, hy⟩ := not_or.1 hnan
        have hys : PyFloat.nan ∈ ys := by
          simpa [Ne.symm hx, Ne.symm hy] using h
        exact ih (List.mem_cons_of_mem _ hys)

/-- Without a NaN the maximum is an entry that is not below any other. -/
theorem npMax_spec {x : PyFloat} {xs : List PyFloat} (h : PyFloat.nan ∉ x :: xs) :
    npMax x xs ∈ x :: xs ∧ ∀ y ∈ x :: xs, lt (npMax x xs) y = false := by
  induction xs generalizing x with
  | nil =>
      refine ⟨List.mem_singleton_self x, ?_⟩
      intro y hy
      rw [List.mem_singleton.1 hy]
      exact lt_irrefl x
  | cons y ys ih =>
      simp only [List.mem_cons, not_or] at h
      obtain ⟨hx, hy, hys⟩ := h
      -- the larger of the first two entries stands for both
      have hlarger : ∃ z, npMaximum x y = z ∧ z ≠ .nan ∧ (z = x ∨ z = y) ∧
          lt z x = false ∧ lt z y = false := by
        rw [npMaximum, if_neg (not_or.2 ⟨Ne.symm hx, Ne.symm hy⟩)]
        cases hxy : lt x y with
        | true => exact ⟨y, rfl, Ne.symm hy, .inr rfl, lt_asymm hxy, lt_irrefl y⟩
        | false => exact ⟨x, rfl, Ne.symm hx, .inl rfl, lt_irrefl x, hxy⟩
      obtain ⟨z, hz, hznan, hzmem, hzx, hzy⟩ := hlarger
      obtain ⟨hmem, hbound⟩ := ih (x := z) (by simp [Ne.symm hznan, hys])
      have hstep : npMax x (y :: ys) = npMax z ys := by
        rw [npMax, List.foldl_cons, hz, npMax]
      rw [hstep]
      refine ⟨?_, ?_⟩
      · rcases List.mem_cons.1 hmem with hself | hmem
        · rw [hself]
          rcases hzmem with rfl | rfl
          · exact List.mem_cons_self
          · exact List.mem_cons_of_mem _ List.mem_cons_self
        · exact List.mem_cons_of_mem _ (List.mem_cons_of_mem _ hmem)
      · intro u hu
        have hmax := hbound z List.mem_cons_self
        rcases List.mem_cons.1 hu with rfl | hu
        · exact not_lt_trans hznan hmax hzx
        · rcases List.mem_cons.1 hu with rfl | hu
          · exact not_lt_trans hznan hmax hzy
          · exact hbound u (List.mem_cons_of_mem _ hu)

end TrojanDetection.Python.PyFloat
