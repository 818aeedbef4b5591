import TrojanDetection.Defenses.FusedScore
import TrojanDetection.Python.FloatOrder

/-!
# The fusion engine on floats (`defenses.py`, `RiskFusionEngine`)

The engine of `RiskFusion.lean` computes with numbers. Detectors return floats, which may be
infinite or NaN. Here the normalisers and the weighted fusion are translated with the comparisons of
floats, and related to the engine on numbers: a float telemetry is fused as its `silenced` telemetry
is, in which an undefined reading has become one that carries no risk (`finalRisk_eq`).

A detector that breaks down is therefore counted as one that has found nothing, and one NaN among
its anomaly indices hides all others.
-/

set_option autoImplicit false

namespace TrojanDetection.Defenses.FusedFloats

open TrojanDetection.Defenses.RiskFusion
open TrojanDetection.Library
open TrojanDetection.Python

/-! ## The normalisers -/

/-- `min(max(x, 0.0), 1.0)`. -/
def clampUnit (x : PyFloat) : PyFloat := (x.pyMax (.finite 0)).pyMin (.finite 1)

/-- Zero below `baseline`, then linear over `span` and capped. -/
def ramp (baseline span : ℚ) (x : PyFloat) : PyFloat :=
  if x.lessThan baseline then .finite 0
  else clampUnit ((x.sub (.finite baseline)).scale (1 / span))

/-- The risk of a list of indices: their maximum on a ramp, or zero without indices. -/
def normalizeIndices (baseline span : ℚ) : List PyFloat → PyFloat
  | [] => .finite 0
  | x :: xs => ramp baseline span (PyFloat.npMax x xs)

/-- `normalize_strip` on floats. -/
def normalizeStrip (falseRejectionsRatio falseAcceptancesRatio : PyFloat) : PyFloat :=
  let avgError := (falseRejectionsRatio.add falseAcceptancesRatio).scale (1 / 2)
  clampUnit ((PyFloat.finite 1).sub (avgError.scale 2))

/-- The arguments of `calculate_unified_risk` as floats. -/
structure FloatTelemetry where
  ncAnomalyIndices : List PyFloat
  stripFrRatio : PyFloat
  stripFaRatio : PyFloat
  clusteringScore : PyFloat
  waAnomalyIndices : Option (List PyFloat) := none
  naturalSensitivity : PyFloat := .finite 0
  gradientSimilarity : PyFloat := .finite 0

/-- The risk of one signal, on floats. -/
def subRisk (t : FloatTelemetry) : Signal → PyFloat
  | .neuralCleanse => normalizeIndices (3 / 2) (5 / 2) t.ncAnomalyIndices
  | .strip => normalizeStrip t.stripFrRatio t.stripFaRatio
  | .clustering => ramp (2 / 100) (23 / 100) t.clusteringScore
  | .weightAnalysis =>
      match t.waAnomalyIndices with
      | some anomalyIndices => normalizeIndices (18 / 10) (32 / 10) anomalyIndices
      | none => .finite 0
  | .naturalProfiler => clampUnit (t.naturalSensitivity.scale (3 / 2))
  | .gradientSimilarity => ramp (70 / 100) (30 / 100) t.gradientSimilarity

/-- Only signals that fired are counted; `sum` starts at zero. -/
def confidenceWeighted (signalRisks : List (PyFloat × ℚ)) : Except PyError PyFloat :=
  let activeSignals := signalRisks.filter fun p => (PyFloat.finite 0).lt p.1
  if activeSignals.isEmpty then .ok (.finite 0)
  else
    let totalWeight := (activeSignals.map Prod.snd).sum
    if totalWeight = 0 then .error .zeroDivisionError
    else
      let weighted := (activeSignals.map fun p => p.1.scale p.2).foldl PyFloat.add (.finite 0)
      .ok (weighted.scale (1 / totalWeight))

/-- `final_risk` on the weighted path. -/
def finalRisk (w : Signal → ℚ) (t : FloatTelemetry) : Except PyError PyFloat :=
  confidenceWeighted (Signal.all.map fun s => (subRisk t s, w s))

/-! ## Undefined readings -/

/-- The reading of a signal is NaN, or the list of its indices has one. -/
def Undefined (t : FloatTelemetry) : Signal → Prop
  | .neuralCleanse => .nan ∈ t.ncAnomalyIndices
  | .strip => t.stripFrRatio.add t.stripFaRatio = .nan
  | .clustering => t.clusteringScore = .nan
  | .weightAnalysis => .nan ∈ t.waAnomalyIndices.getD []
  | .naturalProfiler => t.naturalSensitivity = .nan
  | .gradientSimilarity => t.gradientSimilarity = .nan

/-- A number in place of a float: `low` for one that is undefined or below all numbers, `high` for
one above all of them. -/
def number (low high : ℚ) : PyFloat → ℚ
  | .finite q => q
  | .nan => low
  | .posInf => high
  | .negInf => low

/-- Indices between the baseline and the cap; none if one is undefined. -/
def numbers (baseline span : ℚ) (xs : List PyFloat) : List ℚ :=
  if .nan ∈ xs then [] else xs.map (number baseline (baseline + span))

/-- The telemetry with numbers in place of floats. An undefined reading becomes one without risk. -/
def silenced (t : FloatTelemetry) : Telemetry where
  ncAnomalyIndices := numbers (3 / 2) (5 / 2) t.ncAnomalyIndices
  -- the engine uses the sum of the two ratios; a sum of one is no risk
  stripFrRatio := match t.stripFrRatio.add t.stripFaRatio with
    | .finite q => q
    | .nan => 1
    | .posInf => 1
    | .negInf => 0
  stripFaRatio := 0
  clusteringScore := number (2 / 100) (2 / 100 + 23 / 100) t.clusteringScore
  waAnomalyIndices := t.waAnomalyIndices.map (numbers (18 / 10) (32 / 10))
  naturalSensitivity := number 0 (2 / 3) t.naturalSensitivity
  gradientSimilarity := number (70 / 100) (70 / 100 + 30 / 100) t.gradientSimilarity

/-! ## What the normalisers return -/

@[simp] theorem clampUnit_finite (q : ℚ) :
    clampUnit (.finite q) = .finite (RiskFusion.clampUnit q) := by
  have hmax : PyFloat.pyMax (.finite q) (.finite 0) = .finite (max q 0) := by
    by_cases hq : q < 0
    · rw [PyFloat.pyMax, PyFloat.lt, if_pos (decide_eq_true hq), max_eq_right hq.le]
    · rw [PyFloat.pyMax, PyFloat.lt, if_neg (by simpa using hq), max_eq_left (not_lt.1 hq)]
  rw [clampUnit, hmax, RiskFusion.clampUnit]
  by_cases hone : 1 < max q 0
  · rw [PyFloat.pyMin, PyFloat.lt, if_pos (decide_eq_true hone), min_eq_right hone.le]
  · rw [PyFloat.pyMin, PyFloat.lt, if_neg (by simpa using hone), min_eq_left (not_lt.1 hone)]

@[simp] theorem clampUnit_nan : clampUnit .nan = .nan := rfl

@[simp] theorem clampUnit_posInf : clampUnit .posInf = .finite 1 := rfl

@[simp] theorem clampUnit_negInf : clampUnit .negInf = .finite 0 := rfl

/-- A normaliser on a float is NaN on NaN, and otherwise the normaliser on its number. -/
theorem ramp_eq {baseline span : ℚ} (hspan : 0 < span) (x : PyFloat) :
    ramp baseline span x = if x = .nan then .nan
      else .finite (RiskFusion.ramp baseline span (number baseline (baseline + span) x)) := by
  cases x with
  | finite q =>
      rw [if_neg PyFloat.noConfusion]
      by_cases hq : q < baseline
      · simp [ramp, RiskFusion.ramp, PyFloat.lessThan, number, hq]
      · simp [ramp, RiskFusion.ramp, PyFloat.lessThan, PyFloat.sub, PyFloat.neg, PyFloat.add,
          PyFloat.scale, number, hq, div_eq_mul_inv, sub_eq_add_neg]
  | nan => rfl
  | posInf =>
      have hcap : RiskFusion.ramp baseline span (baseline + span) = 1 := by
        rw [ramp_of_baseline_le (by linarith) hspan, add_sub_cancel_left, div_self hspan.ne',
          min_self]
      rw [if_neg PyFloat.noConfusion, number, hcap]
      rfl
  | negInf =>
      rw [if_neg PyFloat.noConfusion, number, ramp_of_le (le_refl baseline)]
      rfl

/-- A float that is not below another one is not normalised below it. -/
theorem ramp_number_le {baseline span : ℚ} (hspan : 0 < span) {x y : PyFloat} (hx : x ≠ .nan)
    (hy : y ≠ .nan) (h : x.lt y = false) :
    RiskFusion.ramp baseline span (number baseline (baseline + span) y) ≤
      RiskFusion.ramp baseline span (number baseline (baseline + span) x) := by
  rw [ramp_le_ramp_iff hspan]
  cases x with
  | nan => exact absurd rfl hx
  | posInf => exact .inr (.inl (le_refl _))
  | negInf =>
      cases y with
      | nan => exact absurd rfl hy
      | negInf => exact .inl (le_refl _)
      | posInf => cases h
      | finite q => cases h
  | finite p =>
      cases y with
      | nan => exact absurd rfl hy
      | negInf => exact .inl (le_refl _)
      | posInf => cases h
      | finite q => exact .inr (.inr (not_lt.1 (of_decide_eq_false h)))

theorem normalizeIndices_eq {baseline span : ℚ} (hspan : 0 < span) (xs : List PyFloat) :
    normalizeIndices baseline span xs = if .nan ∈ xs then .nan
      else .finite (RiskFusion.normalizeIndices baseline span (numbers baseline span xs)) := by
  cases xs with
  | nil => rfl
  | cons x xs =>
      by_cases hnan : PyFloat.nan ∈ x :: xs
      · rw [if_pos hnan, normalizeIndices, PyFloat.npMax_eq_nan hnan, ramp_eq hspan, if_pos rfl]
      · obtain ⟨hmem, hmax⟩ := PyFloat.npMax_spec hnan
        have hne : ∀ y ∈ x :: xs, y ≠ .nan := fun y hy hynan => hnan (hynan ▸ hy)
        rw [if_neg hnan, normalizeIndices, ramp_eq hspan, if_neg (hne _ hmem), numbers,
          if_neg hnan]
        -- both sides are the largest ramp of an entry
        have hnumbers : (x :: xs).map (number baseline (baseline + span)) ≠ [] := by simp
        obtain ⟨m, hm, hle, hramp⟩ := normalizeIndices_eq_ramp baseline span hnumbers
        obtain ⟨y, hy, rfl⟩ := List.mem_map.1 hm
        rw [hramp]
        congr 1
        apply le_antisymm
        · exact ramp_mono hspan (hle _ (List.mem_map_of_mem hmem))
        · exact ramp_number_le hspan (hne _ hmem) (hne y hy) (hmax y hy)

theorem normalizeStrip_eq (t : FloatTelemetry) :
    normalizeStrip t.stripFrRatio t.stripFaRatio =
      if t.stripFrRatio.add t.stripFaRatio = .nan then .nan
      else .finite (RiskFusion.subRisk (silenced t) .strip) := by
  rw [normalizeStrip, RiskFusion.subRisk, RiskFusion.normalizeStrip]
  simp only [silenced]
  cases t.stripFrRatio.add t.stripFaRatio with
  | finite q =>
      rw [if_neg PyFloat.noConfusion]
      simp only [PyFloat.scale, PyFloat.sub, PyFloat.neg, PyFloat.add, clampUnit_finite]
      congr 2
      ring
  | nan => rfl
  | posInf =>
      rw [if_neg PyFloat.noConfusion]
      exact congrArg PyFloat.finite (by norm_num [RiskFusion.clampUnit])
  | negInf =>
      rw [if_neg PyFloat.noConfusion]
      exact congrArg PyFloat.finite (by norm_num [RiskFusion.clampUnit])

theorem naturalProfiler_eq (x : PyFloat) :
    clampUnit (x.scale (3 / 2)) = if x = .nan then .nan
      else .finite (RiskFusion.clampUnit (number 0 (2 / 3) x * (3 / 2))) := by
  cases x with
  | finite q => simp [PyFloat.scale, number]
  | nan => rfl
  | posInf =>
      rw [if_neg PyFloat.noConfusion]
      exact congrArg PyFloat.finite (by norm_num [RiskFusion.clampUnit, number])
  | negInf =>
      rw [if_neg PyFloat.noConfusion]
      exact congrArg PyFloat.finite (by norm_num [RiskFusion.clampUnit, number])

/-- The risk of a defined signal is that of its silenced reading. -/
theorem subRisk_of_defined {t : FloatTelemetry} {s : Signal} (h : ¬ Undefined t s) :
    subRisk t s = .finite (RiskFusion.subRisk (silenced t) s) := by
  cases s with
  | neuralCleanse => exact (normalizeIndices_eq (by norm_num) _).trans (if_neg h)
  | strip => exact (normalizeStrip_eq t).trans (if_neg h)
  | clustering => exact (ramp_eq (by norm_num) _).trans (if_neg h)
  | weightAnalysis =>
      simp only [subRisk, RiskFusion.subRisk, silenced, Undefined] at h ⊢
      cases hindices : t.waAnomalyIndices with
      | none => rfl
      | some indices =>
          rw [hindices, Option.getD_some] at h
          exact (normalizeIndices_eq (by norm_num) _).trans (if_neg h)
  | naturalProfiler => exact (naturalProfiler_eq _).trans (if_neg h)
  | gradientSimilarity => exact (ramp_eq (by norm_num) _).trans (if_neg h)

/-- The risk of an undefined signal is NaN, and its silenced reading carries no risk. -/
theorem subRisk_of_undefined {t : FloatTelemetry} {s : Signal} (h : Undefined t s) :
    subRisk t s = .nan ∧ RiskFusion.subRisk (silenced t) s = 0 := by
  cases s with
  | neuralCleanse =>
      refine ⟨(normalizeIndices_eq (by norm_num) _).trans (if_pos h), ?_⟩
      have hnan : PyFloat.nan ∈ t.ncAnomalyIndices := h
      show RiskFusion.normalizeIndices _ _ (numbers _ _ t.ncAnomalyIndices) = 0
      rw [numbers, if_pos hnan, normalizeIndices_nil]
  | strip =>
      refine ⟨(normalizeStrip_eq t).trans (if_pos h), ?_⟩
      have hsum : t.stripFrRatio.add t.stripFaRatio = .nan := h
      simp only [RiskFusion.subRisk, RiskFusion.normalizeStrip, silenced, hsum]
      norm_num [RiskFusion.clampUnit]
  | clustering =>
      refine ⟨(ramp_eq (by norm_num) _).trans (if_pos h), ?_⟩
      have hscore : t.clusteringScore = .nan := h
      simp only [RiskFusion.subRisk, silenced, hscore, number]
      exact ramp_of_le (le_refl _)
  | weightAnalysis =>
      simp only [subRisk, RiskFusion.subRisk, silenced, Undefined] at h ⊢
      cases hindices : t.waAnomalyIndices with
      | none =>
          rw [hindices] at h
          exact absurd h List.not_mem_nil
      | some indices =>
          rw [hindices, Option.getD_some] at h
          refine ⟨(normalizeIndices_eq (by norm_num) _).trans (if_pos h), ?_⟩
          simp only [Option.map_some, numbers, if_pos h]
          exact normalizeIndices_nil
  | naturalProfiler =>
      refine ⟨(naturalProfiler_eq _).trans (if_pos h), ?_⟩
      have hreading : t.naturalSensitivity = .nan := h
      simp only [RiskFusion.subRisk, silenced, hreading, number]
      norm_num [RiskFusion.clampUnit]
  | gradientSimilarity =>
      refine ⟨(ramp_eq (by norm_num) _).trans (if_pos h), ?_⟩
      have hreading : t.gradientSimilarity = .nan := h
      simp only [RiskFusion.subRisk, silenced, hreading, number]
      exact ramp_of_le (le_refl _)

/-! ## The fusion -/

/-- A signal fires on floats exactly if its silenced reading fires, and then with the same risk. -/
theorem lt_subRisk (t : FloatTelemetry) (s : Signal) :
    (PyFloat.finite 0).lt (subRisk t s) = decide (0 < RiskFusion.subRisk (silenced t) s) := by
  by_cases h : Undefined t s
  · obtain ⟨hnan, hzero⟩ := subRisk_of_undefined h
    rw [hnan, hzero]
    rfl
  · rw [subRisk_of_defined h]
    rfl

theorem subRisk_of_fires {t : FloatTelemetry} {s : Signal}
    (h : 0 < RiskFusion.subRisk (silenced t) s) :
    subRisk t s = .finite (RiskFusion.subRisk (silenced t) s) := by
  apply subRisk_of_defined
  intro hundefined
  exact h.ne' (subRisk_of_undefined hundefined).2

/-- A sum of finite floats. -/
theorem foldl_add_finite (values : List ℚ) (start : ℚ) :
    (values.map PyFloat.finite).foldl PyFloat.add (.finite start) =
      .finite (start + values.sum) := by
  induction values generalizing start with
  | nil => simp
  | cons value values ih =>
      rw [List.map_cons, List.foldl_cons, PyFloat.add, ih, List.sum_cons, add_assoc]

/-- If the signals that fire are finite, they are fused as numbers. -/
theorem confidenceWeighted_of_active {floats : List (PyFloat × ℚ)} {values : List (ℚ × ℚ)}
    (hactive : floats.filter (fun p => (PyFloat.finite 0).lt p.1) =
      (values.filter fun p => 0 < p.1).map fun p => (PyFloat.finite p.1, p.2)) :
    confidenceWeighted floats = (RiskFusion.confidenceWeighted values).map PyFloat.finite := by
  rw [confidenceWeighted, RiskFusion.confidenceWeighted, hactive]
  generalize values.filter (fun p => 0 < p.1) = active
  have hweights : (active.map fun p => (PyFloat.finite p.1, p.2)).map Prod.snd =
      active.map Prod.snd := by
    rw [List.map_map]
    rfl
  have hvalues : (active.map fun p => (PyFloat.finite p.1, p.2)).map (fun p => p.1.scale p.2) =
      (active.map fun p => p.1 * p.2).map PyFloat.finite := by
    rw [List.map_map, List.map_map]
    rfl
  simp only [List.isEmpty_map, hweights, hvalues, foldl_add_finite, zero_add]
  by_cases hempty : active.isEmpty = true
  · rw [if_pos hempty, if_pos hempty]
    rfl
  · rw [if_neg hempty, if_neg hempty]
    by_cases hzero : (active.map Prod.snd).sum = 0
    · rw [if_pos hzero, if_pos hzero]
      rfl
    · rw [if_neg hzero, if_neg hzero, PyFloat.scale, mul_one_div]
      rfl

/-- The weighted fusion of floats is the fusion of the silenced readings. -/
theorem finalRisk_eq (w : Signal → ℚ) (t : FloatTelemetry) :
    finalRisk w t =
      (RiskFusion.confidenceWeighted
        (Signal.all.map fun s => (RiskFusion.subRisk (silenced t) s, w s))).map PyFloat.finite := by
  apply confidenceWeighted_of_active
  have hfires : (fun p : PyFloat × ℚ => (PyFloat.finite 0).lt p.1) ∘
        (fun s => (subRisk t s, w s)) =
      (fun p : ℚ × ℚ => decide (0 < p.1)) ∘
        fun s => (RiskFusion.subRisk (silenced t) s, w s) := funext (lt_subRisk t)
  rw [List.filter_map, List.filter_map, List.map_map, hfires]
  apply List.map_congr_left
  intro s hs
  have hpos : 0 < RiskFusion.subRisk (silenced t) s := of_decide_eq_true (List.mem_filter.1 hs).2
  exact congrArg (·, w s) (subRisk_of_fires hpos)

/-- On every telemetry of floats the weighted path ends in a number between zero and one: the score
that the engine on numbers gives the silenced telemetry. A signal with an undefined reading has an
undefined risk in the details and no part in the score. -/
theorem finalRisk_refines (w : Signal → ℚ) (hw : ∀ s, 0 < w s) (engine : RiskFusionEngine)
    (hweights : engine.weights = fun s => some (w s)) (t : FloatTelemetry)
    (hpath : engine.WeightedPath (silenced t)) :
    ∃ r, finalRisk w t = .ok (.finite r) ∧ (0 ≤ r ∧ r ≤ 1) ∧
      engine.calculateUnifiedRisk (silenced t) =
        .ok (r, ⟨RiskFusion.subRisk (silenced t), engine.weightedUse⟩) ∧
      ∀ s, (subRisk t s = .nan ↔ Undefined t s) ∧
        (Undefined t s → RiskFusion.subRisk (silenced t) s = 0) ∧
        (¬ Undefined t s → subRisk t s = .finite (RiskFusion.subRisk (silenced t) s)) := by
  refine ⟨_, ?_, ⟨ActiveMean.activeMean_nonneg fun s _ => hw s, activeMean_le_one hw⟩,
    RiskFusionEngine.calculateUnifiedRisk_eq hweights hw hpath, ?_⟩
  · rw [finalRisk_eq, confidenceWeighted_eq _ w hw]
    rfl
  · intro s
    refine ⟨⟨?_, fun h => (subRisk_of_undefined h).1⟩, fun h => (subRisk_of_undefined h).2,
      subRisk_of_defined⟩
    intro hnan
    by_contra hdefined
    rw [subRisk_of_defined hdefined] at hnan
    cases hnan

/-- Three anomaly indices, the last one undefined, and a silhouette score of one half. -/
def brokenReading : FloatTelemetry where
  ncAnomalyIndices := [.finite 10, .finite 4, .nan]
  stripFrRatio := .finite (1 / 2)
  stripFaRatio := .finite (1 / 2)
  clusteringScore := .finite (1 / 2)

/-- The undefined index hides the other two; only the clustering is left. -/
theorem finalRisk_brokenReading : ∃ r, finalRisk defaultWeight brokenReading = .ok (.finite r) ∧
    subRisk brokenReading .neuralCleanse = .nan ∧
      RiskFusion.subRisk (silenced brokenReading) .neuralCleanse = 0 := by
  obtain ⟨r, hr, -, -, hsignals⟩ := finalRisk_refines defaultWeight defaultWeight_pos {} rfl
    brokenReading (weightedPath_of_consulted rfl _)
  have hundefined : Undefined brokenReading .neuralCleanse := by
    simp [Undefined, brokenReading]
  exact ⟨r, hr, (hsignals .neuralCleanse).1.2 hundefined, (hsignals .neuralCleanse).2.1 hundefined⟩

end TrojanDetection.Defenses.FusedFloats
