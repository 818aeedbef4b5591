import TrojanDetection.Library.RobustStatistics
import Mathlib.Data.Rat.Defs
import Mathlib.Algebra.Order.Ring.Rat
import Mathlib.Tactic.Linarith
import Mathlib.Tactic.NormNum

/-!
# Neural Cleanse (`defenses.py`, `NeuralCleanse`)

`detect` reverse-engineers a trigger mask for each class of its search space and looks for outliers
among the mask sizes. A full sweep over more than two classes flags the classes whose MAD anomaly
index is above `1.5`; a targeted scan has a single size and flags its class whatever the size is
(`mem_detect_targeted`). The two modes therefore agree on a class exactly when its size is an
outlier of the sweep (`detect_targeted_iff_sweep`). Fewer than half of the classes cannot mask each
other: a sweep flags all of them once they are far from the rest (`detect_sweep_flags_minority`).
-/

set_option autoImplicit false

namespace TrojanDetection.Defenses

open TrojanDetection.Library.RobustStatistics

/-- The detector; `μ` is the type of trigger masks. The optimisation that recovers a mask for a
class in a number of epochs is a parameter, and so is the size of a mask. -/
structure NeuralCleanse (μ : Type) where
  numClasses : ℕ
  reverseEngineerTrigger : ℤ → ℕ → μ
  maskSize : μ → ℚ

/-- What `detect` returns. -/
structure Detection (μ : Type) where
  flaggedClasses : List ℤ
  maskSizes : List ℚ
  masks : List μ

namespace NeuralCleanse

/-- `mad` after `if mad < 1e-4: mad = 1e-4`. -/
def flooredMad (maskSizes : List ℚ) : ℚ :=
  let mad := medianAbsDev maskSizes
  if mad < 1 / 10000 then 1 / 10000 else mad

/-- `np.abs(mask_sizes - median) / (mad * 1.4826)`. -/
def anomalyIndex (maskSizes : List ℚ) : List ℚ :=
  (deviations maskSizes).map fun d => d / (flooredMad maskSizes * (14826 / 10000))

/-- The deviation from the median beyond which a size is flagged. -/
def flagDistance (maskSizes : List ℚ) : ℚ := 3 / 2 * (flooredMad maskSizes * (14826 / 10000))

theorem flooredMad_pos (maskSizes : List ℚ) : 0 < flooredMad maskSizes := by
  show 0 < if medianAbsDev maskSizes < 1 / 10000 then 1 / 10000 else medianAbsDev maskSizes
  split
  · norm_num
  · linarith [not_lt.1 ‹_›]

theorem le_flooredMad (maskSizes : List ℚ) : medianAbsDev maskSizes ≤ flooredMad maskSizes := by
  show medianAbsDev maskSizes ≤
    if medianAbsDev maskSizes < 1 / 10000 then 1 / 10000 else medianAbsDev maskSizes
  split
  · exact le_of_lt ‹_›
  · exact le_rfl

/-- A deviation has an index above `1.5` exactly when it is beyond the flagging distance. -/
theorem lt_index_iff (maskSizes : List ℚ) (d : ℚ) :
    3 / 2 < d / (flooredMad maskSizes * (14826 / 10000)) ↔ flagDistance maskSizes < d := by
  have hpos : 0 < flooredMad maskSizes * (14826 / 10000) :=
    mul_pos (flooredMad_pos maskSizes) (by norm_num)
  rw [lt_div_iff₀ hpos, flagDistance]

/-- `target_class is None` selects every class, otherwise the given one. -/
def searchSpace (numClasses : ℕ) : Option ℤ → List ℤ
  | none => (List.range numClasses).map Int.ofNat
  | some targetClass => [targetClass]

variable {μ : Type}

/-- The masks found over the search space; a sweep always uses two epochs. -/
def recoverMasks (nc : NeuralCleanse μ) (epochs : ℕ) (targetClass : Option ℤ) : List μ :=
  let sweepEpochs := if targetClass.isNone then 2 else epochs
  (searchSpace nc.numClasses targetClass).map fun c => nc.reverseEngineerTrigger c sweepEpochs

/-- `NeuralCleanse.detect`. -/
def detect (nc : NeuralCleanse μ) (epochs : ℕ) (targetClass : Option ℤ) : Detection μ :=
  let masks := nc.recoverMasks epochs targetClass
  let maskSizes := masks.map nc.maskSize
  if maskSizes.length > 2 then
    -- `np.where(anomaly_index > 1.5)`: positions in the list are classes of a full sweep
    ⟨(whereAbove (3 / 2) (anomalyIndex maskSizes)).map Int.ofNat, maskSizes, masks⟩
  else
    match targetClass with
    -- the comment of the source asks that the class look abnormal; no test is made
    | some c => ⟨[c], maskSizes, masks⟩
    | none => ⟨[], [], masks⟩

/-- The mask sizes of a full sweep, by class. -/
def sweepSizes (nc : NeuralCleanse μ) : List ℚ :=
  (List.range nc.numClasses).map fun c : ℕ => nc.maskSize (nc.reverseEngineerTrigger c 2)

theorem map_maskSize_recoverMasks (nc : NeuralCleanse μ) (epochs : ℕ) :
    (nc.recoverMasks epochs none).map nc.maskSize = nc.sweepSizes := by
  simp only [recoverMasks, searchSpace, sweepSizes, List.map_map]
  rfl

theorem length_sweepSizes (nc : NeuralCleanse μ) : nc.sweepSizes.length = nc.numClasses := by
  simp [sweepSizes]

/-- A full sweep over at least three classes. -/
theorem detect_sweep (nc : NeuralCleanse μ) (hn : 3 ≤ nc.numClasses) (epochs : ℕ) :
    nc.detect epochs none =
      ⟨(whereAbove (3 / 2) (anomalyIndex nc.sweepSizes)).map Int.ofNat, nc.sweepSizes,
        nc.recoverMasks epochs none⟩ := by
  have hlen : nc.sweepSizes.length > 2 := by
    rw [length_sweepSizes]
    omega
  simp only [detect, map_maskSize_recoverMasks]
  rw [if_pos hlen]

/-- A targeted scan flags its class. -/
theorem mem_detect_targeted (nc : NeuralCleanse μ) (epochs : ℕ) (c : ℤ) :
    c ∈ (nc.detect epochs (some c)).flaggedClasses := by
  have hlen : ¬ ((nc.recoverMasks epochs (some c)).map nc.maskSize).length > 2 := by
    simp [recoverMasks, searchSpace]
  simp only [detect]
  rw [if_neg hlen]
  exact List.mem_singleton_self c

/-- A full sweep flags the classes whose size is beyond the flagging distance from the median. -/
theorem mem_detect_sweep_iff (nc : NeuralCleanse μ) (hn : 3 ≤ nc.numClasses) (epochs : ℕ)
    {c : ℕ} (hc : c < nc.numClasses) :
    (c : ℤ) ∈ (nc.detect epochs none).flaggedClasses ↔
      flagDistance nc.sweepSizes <
        |nc.maskSize (nc.reverseEngineerTrigger c 2) - median nc.sweepSizes| := by
  have hindex : anomalyIndex nc.sweepSizes = (List.range nc.numClasses).map fun i : ℕ =>
      |nc.maskSize (nc.reverseEngineerTrigger i 2) - median nc.sweepSizes| /
        (flooredMad nc.sweepSizes * (14826 / 10000)) := by
    rw [anomalyIndex, deviations]
    conv_lhs => rw [sweepSizes, List.map_map, List.map_map]
    rfl
  rw [detect_sweep nc hn, hindex, ← lt_index_iff]
  constructor
  · -- a flagged position is the class itself
    intro h
    obtain ⟨i, hi, hic⟩ := List.mem_map.1 h
    obtain rfl : i = c := Int.ofNat.inj hic
    exact ((mem_whereAbove_map _).1 hi).2
  · intro h
    exact List.mem_map.2 ⟨c, (mem_whereAbove_map _).2 ⟨hc, h⟩, rfl⟩

/-- Both modes see the same mask size for every class. -/
def ModeIndependent (nc : NeuralCleanse μ) : Prop :=
  ∀ c e e', nc.maskSize (nc.reverseEngineerTrigger c e) =
    nc.maskSize (nc.reverseEngineerTrigger c e')

/-- The modes agree on class `c`: the targeted scan of `c` flags it if and only if the full sweep
does. -/
def ModesAgree (nc : NeuralCleanse μ) (epochs : ℕ) (c : ℤ) : Prop :=
  c ∈ (nc.detect epochs (some c)).flaggedClasses ↔ c ∈ (nc.detect epochs none).flaggedClasses

/-- The modes agree on a class exactly when its mask size is beyond the flagging distance from the
median of all sizes. -/
theorem detect_targeted_iff_sweep (nc : NeuralCleanse μ) (hn : 3 ≤ nc.numClasses)
    (hmode : nc.ModeIndependent) (epochs : ℕ) {c : ℕ} (hc : c < nc.numClasses) :
    nc.ModesAgree epochs c ↔
      flagDistance nc.sweepSizes <
        |nc.maskSize (nc.reverseEngineerTrigger c epochs) - median nc.sweepSizes| := by
  rw [hmode c epochs 2, ← mem_detect_sweep_iff nc hn epochs hc, ModesAgree]
  exact iff_true_left (nc.mem_detect_targeted epochs c)

/-! ## Minorities -/

theorem get_sweepSizes (nc : NeuralCleanse μ) (i : Fin nc.sweepSizes.length) :
    nc.sweepSizes.get i = nc.maskSize (nc.reverseEngineerTrigger i.val 2) := by
  rw [List.get_eq_getElem]
  simp only [sweepSizes, List.getElem_map, List.getElem_range]

theorem flooredMad_le {maskSizes : List ℚ} {width : ℚ} (h : medianAbsDev maskSizes ≤ width) :
    flooredMad maskSizes ≤ max width (1 / 10000) := by
  show (if medianAbsDev maskSizes < 1 / 10000 then 1 / 10000 else medianAbsDev maskSizes) ≤ _
  split
  · exact le_max_right _ _
  · exact h.trans (le_max_left _ _)

/-- Beside a majority in `[a, b]` the flagging distance stays below three widths of the interval. -/
theorem flagDistance_lt_of_majority {maskSizes : List ℚ} {a b : ℚ}
    (h : Majority maskSizes fun x => decide (a ≤ x ∧ x ≤ b)) :
    flagDistance maskSizes < 3 * max (b - a) (1 / 10000) := by
  have hmad : flooredMad maskSizes ≤ max (b - a) (1 / 10000) :=
    flooredMad_le (medianAbsDev_le_of_majority h)
  have hpos : 0 < flooredMad maskSizes := flooredMad_pos maskSizes
  rw [flagDistance]
  linarith

/-- A full sweep flags every class of a minority whose sizes are three widths away from an interval
that holds all other sizes. -/
theorem detect_sweep_flags_minority (nc : NeuralCleanse μ) (hn : 3 ≤ nc.numClasses) (epochs : ℕ)
    {a b : ℚ} {s : Finset (Fin nc.sweepSizes.length)} (h : Minority nc.sweepSizes a b s)
    (hfar : ∀ i ∈ s, nc.sweepSizes.get i ≤ a - 3 * max (b - a) (1 / 10000) ∨
      b + 3 * max (b - a) (1 / 10000) ≤ nc.sweepSizes.get i) :
    ∀ i ∈ s, (i.val : ℤ) ∈ (nc.detect epochs none).flaggedClasses := by
  intro i hi
  have hc : i.val < nc.numClasses := nc.length_sweepSizes ▸ i.isLt
  have hdistance := flagDistance_lt_of_majority h.majority
  obtain ⟨hlow, hhigh⟩ := median_mem_of_majority h.majority
  rw [mem_detect_sweep_iff nc hn epochs hc, ← get_sweepSizes, lt_abs]
  -- the median lies in the interval, so the distance to it is at least the distance to that
  rcases hfar i hi with hbelow | habove
  · right
    linarith
  · left
    linarith

/-! ## Given sizes -/

/-- A detector that finds given mask sizes, in any number of epochs. -/
def ofSizes (sizes : List ℚ) : NeuralCleanse ℚ where
  numClasses := sizes.length
  reverseEngineerTrigger c _ := sizes.getD c.toNat 0
  maskSize := id

theorem ofSizes_modeIndependent (sizes : List ℚ) : (ofSizes sizes).ModeIndependent :=
  fun _ _ _ => rfl

theorem sweepSizes_ofSizes (sizes : List ℚ) : (ofSizes sizes).sweepSizes = sizes := by
  refine List.ext_getElem (by simp [sweepSizes, ofSizes]) fun i h1 h2 => ?_
  simp [sweepSizes, ofSizes, List.getD_eq_getElem?_getD, h2]

/-- Class 0 of the sizes `1, 10, 11, 12` is an outlier: both modes flag it. -/
theorem modesAgree_outlier : (ofSizes [1, 10, 11, 12]).ModesAgree 3 (0 : ℕ) := by
  rw [detect_targeted_iff_sweep (ofSizes [1, 10, 11, 12]) (by decide)
    (ofSizes_modeIndependent _) 3 (by decide), sweepSizes_ofSizes]
  decide +kernel

/-- Three equal sizes: the targeted scan flags class 0, the sweep flags nothing. -/
theorem modes_disagree_on_equal_sizes :
    (ofSizes [5, 5, 5]).ModeIndependent ∧ ¬ (ofSizes [5, 5, 5]).ModesAgree 3 0 := by
  refine ⟨ofSizes_modeIndependent _, fun h => ?_⟩
  have hsweep := h.1 (mem_detect_targeted _ 3 0)
  have hempty : ((ofSizes [5, 5, 5]).detect 3 none).flaggedClasses = [] := by decide +kernel
  rw [hempty] at hsweep
  exact List.not_mem_nil hsweep

/-- Three sizes close together, one far below and one far above them. -/
def twoSided : List ℚ := [1, 10, 11, 12, 40]

/-- The sweep flags both outliers. -/
theorem detect_sweep_flags_twoSided :
    (0 : ℤ) ∈ ((ofSizes twoSided).detect 3 none).flaggedClasses ∧
      (4 : ℤ) ∈ ((ofSizes twoSided).detect 3 none).flaggedClasses := by
  have hminority : Minority (ofSizes twoSided).sweepSizes 10 12 {⟨0, by decide⟩, ⟨4, by decide⟩} :=
    ⟨by decide +kernel, by decide +kernel, by decide +kernel⟩
  have hflags := detect_sweep_flags_minority (ofSizes twoSided) (by decide) 3 hminority
    (by decide +kernel)
  exact ⟨hflags ⟨0, by decide⟩ (by decide), hflags ⟨4, by decide⟩ (by decide)⟩

end NeuralCleanse

end TrojanDetection.Defenses
