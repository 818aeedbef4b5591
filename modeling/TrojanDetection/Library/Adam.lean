import Mathlib.Analysis.SpecialFunctions.Sqrt
import Mathlib.Tactic.Linarith
import Mathlib.Tactic.Positivity
import Mathlib.Tactic.FieldSimp
import Mathlib.Tactic.Ring

/-!
# Adam on one coordinate

The update rule of Adam with its bias corrections, over the real numbers. On a gradient that stays
the same every step has one length, the `stride` (`update_steady`). A gradient that is never negative
never raises the value (`value_descend_succ_le`). Together: on a gradient that is constant
on an interval and not negative below it, the value after `n` steps, cut off at the lower end of the
interval, is the start minus `n` strides, cut off there (`max_value_descend`).
-/

set_option autoImplicit false

namespace TrojanDetection.Library.Adam

/-- The hyperparameters. -/
structure Hyper where
  lr : ℝ
  beta1 : ℝ
  beta2 : ℝ
  eps : ℝ
  lr_nonneg : 0 ≤ lr
  beta1_nonneg : 0 ≤ beta1
  beta1_lt_one : beta1 < 1
  beta2_nonneg : 0 ≤ beta2
  beta2_lt_one : beta2 < 1
  eps_pos : 0 < eps

/-- A coordinate with its two moment estimates. -/
structure Cell where
  value : ℝ
  expAvg : ℝ
  expAvgSq : ℝ

/-- A coordinate before the first step. -/
def Cell.fresh (x : ℝ) : Cell := ⟨x, 0, 0⟩

variable (h : Hyper)

/-- The `t`-th step, on the gradient `g`. -/
noncomputable def update (t : ℕ) (g : ℝ) (c : Cell) : Cell :=
  let expAvg := h.beta1 * c.expAvg + (1 - h.beta1) * g
  let expAvgSq := h.beta2 * c.expAvgSq + (1 - h.beta2) * (g * g)
  let denom := √expAvgSq / √(1 - h.beta2 ^ t) + h.eps
  ⟨c.value - h.lr / (1 - h.beta1 ^ t) * (expAvg / denom), expAvg, expAvgSq⟩

/-- Steps from `x` on a gradient that depends on the value. -/
noncomputable def descend (gradient : ℝ → ℝ) (x : ℝ) : ℕ → Cell
  | 0 => .fresh x
  | n + 1 => update h (n + 1) (gradient (descend gradient x n).value) (descend gradient x n)

/-- The length of a step on a constant gradient. -/
noncomputable def stride (g : ℝ) : ℝ := h.lr * (g / (g + h.eps))

variable {h}

theorem stride_nonneg {g : ℝ} (hg : 0 ≤ g) : 0 ≤ stride h g :=
  mul_nonneg h.lr_nonneg (div_nonneg hg (add_nonneg hg h.eps_pos.le))

theorem one_sub_pow_pos {b : ℝ} (hb : 0 ≤ b) (hlt : b < 1) (n : ℕ) : 0 < 1 - b ^ (n + 1) :=
  sub_pos.2 (pow_lt_one₀ hb hlt n.succ_ne_zero)

/-! ## A constant gradient -/

/-- The coordinate after `n` steps on the gradient `g`. -/
noncomputable def steady (h : Hyper) (g x : ℝ) (n : ℕ) : Cell :=
  ⟨x - n * stride h g, g * (1 - h.beta1 ^ n), g * g * (1 - h.beta2 ^ n)⟩

theorem steady_zero (g x : ℝ) : steady h g x 0 = .fresh x := by
  simp [steady, Cell.fresh]

/-- The bias corrections cancel the start at zero of both moments. -/
theorem update_steady {g : ℝ} (hg : 0 ≤ g) (x : ℝ) (n : ℕ) :
    update h (n + 1) g (steady h g x n) = steady h g x (n + 1) := by
  have hfirst : 1 - h.beta1 ^ (n + 1) ≠ 0 :=
    (one_sub_pow_pos h.beta1_nonneg h.beta1_lt_one n).ne'
  have hsecond := one_sub_pow_pos h.beta2_nonneg h.beta2_lt_one n
  have havg : h.beta1 * (g * (1 - h.beta1 ^ n)) + (1 - h.beta1) * g =
      g * (1 - h.beta1 ^ (n + 1)) := by
    ring
  have hsq : h.beta2 * (g * g * (1 - h.beta2 ^ n)) + (1 - h.beta2) * (g * g) =
      g * g * (1 - h.beta2 ^ (n + 1)) := by
    ring
  have hroot : √(g * g * (1 - h.beta2 ^ (n + 1))) / √(1 - h.beta2 ^ (n + 1)) = g := by
    rw [Real.sqrt_mul (mul_self_nonneg g), Real.sqrt_mul_self hg,
      mul_div_assoc, div_self (Real.sqrt_pos.2 hsecond).ne', mul_one]
  have hlength : h.lr / (1 - h.beta1 ^ (n + 1)) * (g * (1 - h.beta1 ^ (n + 1)) / (g + h.eps)) =
      stride h g := by
    have hne : g + h.eps ≠ 0 := (add_pos_of_nonneg_of_pos hg h.eps_pos).ne'
    rw [stride]
    field_simp
  simp only [update, steady, havg, hsq, hroot, hlength, Cell.mk.injEq, and_true]
  push_cast
  ring

/-! ## A gradient that is not negative -/

section Nonneg

variable {gradient : ℝ → ℝ} (hgradient : ∀ y, 0 ≤ gradient y) (x : ℝ)

include hgradient

theorem expAvg_descend_nonneg (n : ℕ) : 0 ≤ (descend h gradient x n).expAvg := by
  induction n with
  | zero => exact le_rfl
  | succ n ih =>
      have hold := mul_nonneg h.beta1_nonneg ih
      have hnew := mul_nonneg (sub_nonneg.2 h.beta1_lt_one.le)
        (hgradient (descend h gradient x n).value)
      exact add_nonneg hold hnew

theorem value_descend_succ_le (n : ℕ) :
    (descend h gradient x (n + 1)).value ≤ (descend h gradient x n).value := by
  have hrate : 0 ≤ h.lr / (1 - h.beta1 ^ (n + 1)) :=
    div_nonneg h.lr_nonneg (one_sub_pow_pos h.beta1_nonneg h.beta1_lt_one n).le
  have hdenom : 0 ≤ √(descend h gradient x (n + 1)).expAvgSq / √(1 - h.beta2 ^ (n + 1)) + h.eps :=
    add_nonneg (div_nonneg (Real.sqrt_nonneg _) (Real.sqrt_nonneg _)) h.eps_pos.le
  have hquotient := div_nonneg (expAvg_descend_nonneg (h := h) hgradient x (n + 1)) hdenom
  exact sub_le_self _ (mul_nonneg hrate hquotient)

end Nonneg

/-! ## A gradient that is constant on an interval -/

/-- The value after `n` steps, cut off at the lower end of an interval on which the gradient is
constant. Once it is below it stays below, since what is left of the momentum points down. -/
theorem max_value_descend {gradient : ℝ → ℝ} (hgradient : ∀ y, 0 ≤ gradient y) {a b g x : ℝ}
    (hg : 0 ≤ g) (hconst : ∀ y, a < y → y ≤ b → gradient y = g) (hx : x ≤ b) (n : ℕ) :
    max (descend h gradient x n).value a = max (x - n * stride h g) a := by
  have hstride : 0 ≤ stride h g := stride_nonneg hg
  -- either the gradient was the constant all along, or both sides are below the interval
  have hcases : descend h gradient x n = steady h g x n ∨
      (descend h gradient x n).value ≤ a ∧ x - n * stride h g ≤ a := by
    induction n with
    | zero => exact .inl (steady_zero g x).symm
    | succ n ih =>
        have hless : x - (n + 1 : ℕ) * stride h g ≤ x - n * stride h g := by
          push_cast
          linarith
        have hdown := value_descend_succ_le (h := h) hgradient x n
        rcases ih with hsteady | ⟨hvalue, hline⟩
        · by_cases hinside : a < x - n * stride h g
          · left
            have hupper : x - n * stride h g ≤ b := by
              have := mul_nonneg n.cast_nonneg hstride
              linarith
            have hat : gradient (descend h gradient x n).value = g := by
              rw [hsteady]
              exact hconst _ hinside hupper
            rw [descend, hat, hsteady, update_steady hg]
          · right
            have hbelow : (descend h gradient x n).value ≤ a := by
              rw [hsteady]
              exact not_lt.1 hinside
            exact ⟨hdown.trans hbelow, hless.trans (not_lt.1 hinside)⟩
        · exact .inr ⟨hdown.trans hvalue, hless.trans hline⟩
  rcases hcases with hsteady | ⟨hvalue, hline⟩
  · rw [hsteady]
    rfl
  · rw [max_eq_right hvalue, max_eq_right hline]

end TrojanDetection.Library.Adam
