import TrojanDetection.Defenses.RiskFusion

/-!
# Risk levels and the weight of evidence (`api.py`, `determine_risk_level`)

`determineRiskLevel` is monotone in the score. The fused score is not monotone in the telemetry:
a signal that starts to fire weakly pulls the mean down, far enough to clear a model that the
weaker evidence blocks (`evidence_lowers_risk`). `calculateUnifiedRisk_evidence` states exactly
when more suspicious telemetry keeps the score from falling.
-/

set_option autoImplicit false

namespace TrojanDetection.Service.Verdict

open TrojanDetection.Library
open TrojanDetection.Defenses.RiskFusion

/-- The three verdicts of `determine_risk_level`. -/
inductive RiskLevel
  | critical
  | warning
  | safe
  deriving DecidableEq, Repr

/-- The text returned to clients and written to reports. -/
def RiskLevel.text : RiskLevel → String
  | critical => "CRITICAL (Deployment Blocked)"
  | warning => "WARNING (Manual Review Required)"
  | safe => "SAFE (Cleared for Production)"

/-- `determine_risk_level`. -/
def determineRiskLevel (score : ℚ) : RiskLevel :=
  if score > 75 / 100 then .critical
  else if score > 40 / 100 then .warning
  else .safe

theorem determineRiskLevel_eq_safe_iff {score : ℚ} :
    determineRiskLevel score = .safe ↔ score ≤ 40 / 100 := by
  rw [determineRiskLevel]
  split
  · constructor
    · intro h
      cases h
    · intro h
      linarith
  · split
    · constructor
      · intro h
        cases h
      · intro h
        linarith
    · exact iff_of_true rfl (not_lt.1 ‹_›)

theorem determineRiskLevel_eq_critical_iff {score : ℚ} :
    determineRiskLevel score = .critical ↔ 75 / 100 < score := by
  rw [determineRiskLevel]
  split
  · exact iff_of_true rfl ‹_›
  · refine iff_of_false ?_ ‹_›
    split <;> exact RiskLevel.noConfusion

/-- A score that does not fall does not become safe. -/
theorem determineRiskLevel_ne_safe_of_le {x y : ℚ} (hxy : x ≤ y)
    (hx : determineRiskLevel x ≠ .safe) : determineRiskLevel y ≠ .safe := by
  rw [Ne, determineRiskLevel_eq_safe_iff, not_le] at hx ⊢
  exact lt_of_lt_of_le hx hxy

/-! ## More suspicious telemetry -/

/-- `b` is at least as suspicious as `a` in every signal. Largest indices are compared through
their lists: each index of `a` is reached by one of `b`; a missing list of weight-analysis indices
is an empty one. -/
structure AtLeastAsSuspicious (a b : Telemetry) : Prop where
  ncIndices : ∀ x ∈ a.ncAnomalyIndices, ∃ y ∈ b.ncAnomalyIndices, x ≤ y
  stripFr : b.stripFrRatio ≤ a.stripFrRatio
  stripFa : b.stripFaRatio ≤ a.stripFaRatio
  clustering : a.clusteringScore ≤ b.clusteringScore
  waIndices : ∀ x ∈ a.waAnomalyIndices.getD [], ∃ y ∈ b.waAnomalyIndices.getD [], x ≤ y
  natural : a.naturalSensitivity ≤ b.naturalSensitivity
  gradient : a.gradientSimilarity ≤ b.gradientSimilarity

theorem subRisk_weightAnalysis (t : Telemetry) :
    subRisk t .weightAnalysis = normalizeWeightAnalysis (t.waAnomalyIndices.getD []) := by
  cases h : t.waAnomalyIndices with
  | none => simp [subRisk, h, normalizeWeightAnalysis]
  | some xs => simp [subRisk, h]

/-- Every normaliser respects the order of suspicion. -/
theorem subRisk_mono {a b : Telemetry} (h : AtLeastAsSuspicious a b) (s : Signal) :
    subRisk a s ≤ subRisk b s := by
  cases s with
  | neuralCleanse => exact normalizeIndices_mono (by norm_num) h.ncIndices
  | strip =>
      have hfr := h.stripFr
      have hfa := h.stripFa
      exact clampUnit_mono (by linarith)
  | clustering => exact ramp_mono (by norm_num) h.clustering
  | weightAnalysis =>
      rw [subRisk_weightAnalysis, subRisk_weightAnalysis]
      exact normalizeIndices_mono (by norm_num) h.waIndices
  | naturalProfiler =>
      have hn := h.natural
      exact clampUnit_mono (by linarith)
  | gradientSimilarity => exact ramp_mono (by norm_num) h.gradient

/-- The signals that fire on `t`. -/
def firing (t : Telemetry) : Finset Signal := ActiveMean.fired Finset.univ (subRisk t)

theorem mem_firing {t : Telemetry} {s : Signal} : s ∈ firing t ↔ 0 < subRisk t s := by
  simp [firing]

/-- Both runs return a score, the second not below the first, and the verdict does not become
safe. -/
def EvidenceKept (engine : RiskFusionEngine) (a b : Telemetry) : Prop :=
  ∃ ra da rb db, engine.calculateUnifiedRisk a = .ok (ra, da) ∧
    engine.calculateUnifiedRisk b = .ok (rb, db) ∧ ra ≤ rb ∧
      (determineRiskLevel ra ≠ .safe → determineRiskLevel rb ≠ .safe)

/-- The weighted path with default weights on telemetry `b` at least as suspicious as `a`. The
score does not fall exactly when the weighted total by which newly firing signals fall short of the
first score is at most the weighted rise of the signals that fired already. In particular the
evidence is kept when every newly firing signal reaches the first score. -/
theorem calculateUnifiedRisk_evidence {engine : RiskFusionEngine} {a b : Telemetry}
    (hweights : engine.weights = fun s => some (defaultWeight s))
    (ha : engine.WeightedPath a) (hb : engine.WeightedPath b) (h : AtLeastAsSuspicious a b) :
    ∃ ra da rb db, engine.calculateUnifiedRisk a = .ok (ra, da) ∧
      engine.calculateUnifiedRisk b = .ok (rb, db) ∧
      (ra ≤ rb ↔
        ∑ s ∈ firing b \ firing a, (ra - subRisk b s) * defaultWeight s ≤
          ∑ s ∈ firing a, (subRisk b s - subRisk a s) * defaultWeight s) ∧
      ((∀ s, s ∉ firing a → s ∈ firing b → ra ≤ subRisk b s) → EvidenceKept engine a b) := by
  have hw : ∀ s ∈ (Finset.univ : Finset Signal), 0 < defaultWeight s :=
    fun s _ => defaultWeight_pos s
  have hr : ∀ s ∈ (Finset.univ : Finset Signal), subRisk a s ≤ subRisk b s :=
    fun s _ => subRisk_mono h s
  have hra := engine.calculateUnifiedRisk_eq hweights defaultWeight_pos ha
  have hrb := engine.calculateUnifiedRisk_eq hweights defaultWeight_pos hb
  refine ⟨_, _, _, _, hra, hrb, ActiveMean.activeMean_le_iff hw hr, fun hnew => ?_⟩
  have hle : ActiveMean.activeMean Finset.univ (subRisk a) defaultWeight ≤
      ActiveMean.activeMean Finset.univ (subRisk b) defaultWeight := by
    apply ActiveMean.activeMean_le_of_new_ge hw hr
    intro s _ has hbs
    refine hnew s ?_ (mem_firing.2 hbs)
    rw [mem_firing]
    exact not_lt.2 has
  exact ⟨_, _, _, _, hra, hrb, hle, determineRiskLevel_ne_safe_of_le hle⟩

/-- One strong Neural Cleanse index and nothing else. -/
def loneIndex : Telemetry where
  ncAnomalyIndices := [7 / 2]
  stripFrRatio := 1 / 2
  stripFaRatio := 1 / 2
  clusteringScore := 0
  waAnomalyIndices := some []

/-- The same index with a larger one beside it, and STRIP, which has not fired before, separates
without an error. -/
def louderIndex : Telemetry :=
  { loneIndex with ncAnomalyIndices := [7 / 2, 4], stripFrRatio := 0, stripFaRatio := 0 }

/-- The same index with weak evidence in the other five signals. -/
def weakEvidence : Telemetry where
  ncAnomalyIndices := [7 / 2]
  stripFrRatio := 45 / 100
  stripFaRatio := 1 / 2
  clusteringScore := 43 / 1000
  waAnomalyIndices := some [196 / 100]
  naturalSensitivity := 2 / 100
  gradientSimilarity := 715 / 1000

/-- An engine without a meta-classifier takes the weighted path. -/
theorem weightedPath_default (t : Telemetry) : ({} : RiskFusionEngine).WeightedPath t := by
  intro clf h
  cases h

theorem louderIndex_atLeast : AtLeastAsSuspicious loneIndex louderIndex where
  ncIndices := by
    intro x hx
    exact ⟨x, List.mem_append_left [4] hx, le_refl x⟩
  stripFr := by norm_num [loneIndex, louderIndex]
  stripFa := by norm_num [loneIndex, louderIndex]
  clustering := le_refl _
  waIndices := by
    intro x hx
    exact absurd hx List.not_mem_nil
  natural := le_refl _
  gradient := le_refl _

theorem weakEvidence_atLeast : AtLeastAsSuspicious loneIndex weakEvidence where
  ncIndices := by
    intro x hx
    exact ⟨x, hx, le_refl x⟩
  stripFr := by norm_num [loneIndex, weakEvidence]
  stripFa := by norm_num [loneIndex, weakEvidence]
  clustering := by norm_num [loneIndex, weakEvidence]
  waIndices := by
    intro x hx
    exact absurd hx List.not_mem_nil
  natural := by norm_num [loneIndex, weakEvidence]
  gradient := by norm_num [loneIndex, weakEvidence]

/-- The score of a default engine, read off the list of risks and weights. -/
theorem calculateUnifiedRisk_default (t : Telemetry) {r : ℚ}
    (h : confidenceWeighted (Signal.all.map fun s => (subRisk t s, defaultWeight s)) = .ok r) :
    ({} : RiskFusionEngine).calculateUnifiedRisk t = .ok (r, ⟨subRisk t, .notUsed⟩) := by
  rw [RiskFusionEngine.calculateUnifiedRisk,
    RiskFusionEngine.signalRisks_eq (w := defaultWeight) rfl]
  simp only [bind, Except.bind, h]
  rfl

/-- STRIP starts to fire, and with more than the score of the lone index. -/
theorem louderIndex_evidenceKept :
    .strip ∉ firing loneIndex ∧ .strip ∈ firing louderIndex ∧
      EvidenceKept {} loneIndex louderIndex := by
  have hquiet : .strip ∉ firing loneIndex := by
    rw [mem_firing]
    decide +kernel
  have hfires : .strip ∈ firing louderIndex := by
    rw [mem_firing]
    decide +kernel
  obtain ⟨ra, da, rb, db, hra, -, -, hkeep⟩ := calculateUnifiedRisk_evidence (by rfl)
    (weightedPath_default loneIndex) (weightedPath_default louderIndex) louderIndex_atLeast
  refine ⟨hquiet, hfires, hkeep ?_⟩
  have hlone : ra = 4 / 5 := by
    rw [calculateUnifiedRisk_default loneIndex (r := 4 / 5) (by decide +kernel)] at hra
    exact (congrArg Prod.fst (Except.ok.inj hra)).symm
  intro s hsa hsb
  rw [hlone]
  revert hsa hsb
  rw [mem_firing, mem_firing]
  cases s <;> decide +kernel

/-- Weak evidence in five more signals lowers the score `4/5` to `409/2000` and turns a critical
verdict into a safe one. -/
theorem evidence_lowers_risk :
    AtLeastAsSuspicious loneIndex weakEvidence ∧
      ({} : RiskFusionEngine).WeightedPath loneIndex ∧
      ({} : RiskFusionEngine).WeightedPath weakEvidence ∧
      ¬ EvidenceKept {} loneIndex weakEvidence ∧
      determineRiskLevel (4 / 5) = .critical ∧ determineRiskLevel (409 / 2000) = .safe := by
  refine ⟨weakEvidence_atLeast, weightedPath_default _, weightedPath_default _, ?_,
    by decide +kernel, by decide +kernel⟩
  have hlone := calculateUnifiedRisk_default loneIndex (r := 4 / 5) (by decide +kernel)
  have hweak := calculateUnifiedRisk_default weakEvidence (r := 409 / 2000) (by decide +kernel)
  rintro ⟨ra, da, rb, db, ha, hb, hle, -⟩
  rw [hlone] at ha
  rw [hweak] at hb
  cases ha
  cases hb
  exact absurd hle (by norm_num)

end TrojanDetection.Service.Verdict
