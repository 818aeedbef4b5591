import TrojanDetection.Service.Report
import TrojanDetection.Gate.AuditGate

/-!
# Three readings of one score (`api.py`, `verify_audit_gate.py`, `page.tsx`)

A fused score is read by the report's verdict, by the audit gate with its default threshold, and by
the verdict banner of the dashboard. The verdict clears scores up to `0.40`, the other two clear
scores up to `0.5`: the readings agree on clearance exactly outside that band
(`clearanceAgrees_iff`).
-/

set_option autoImplicit false

namespace TrojanDetection.Gate.Clearance

open TrojanDetection.Python
open TrojanDetection.Service.Verdict
open TrojanDetection.Service.ScanTask
open TrojanDetection.Service.Report

/-- What the dashboard shows for a score: the heading, the closing sentence of the advice and the
badge. -/
structure Banner where
  heading : String
  advice : String
  badge : String
  deriving DecidableEq, Repr

/-- The banner of a score above the threshold. -/
def trojanBanner : Banner where
  heading := "⚠️ TROJAN DETECTED"
  advice := "Do NOT deploy in a production environment."
  badge := "CRITICAL RISK DETECTED"

/-- The banner of any other score. -/
def cleanBanner : Banner where
  heading := "✅ MODEL IS CLEAN"
  advice := "Safe for deployment."
  badge := "INTEGRITY SECURE"

/-- `infected = result.fusion_risk_score > 0.5` selects every text of the result view. -/
def verdictBanner (fusionRiskScore : ℚ) : Banner :=
  if fusionRiskScore > 1 / 2 then trojanBanner else cleanBanner

/-- The default of `--threshold`. -/
def defaultThreshold : ℚ := 1 / 2

/-- The gate's exit status on the report of a scan, with the default threshold. -/
def gateOnReport (printable : Json → Bool) (auditTimestamp taskId : PyStr) (res : ScanResult) : ℕ :=
  match generateStandardAuditReport auditTimestamp taskId (.success res) with
  | .ok report => AuditGate.main printable defaultThreshold (some report)
  | .error _ => AuditGate.main printable defaultThreshold none

/-- A model that the dashboard or the gate clears has a safe verdict, and a critical verdict is
shown as a Trojan and blocked. -/
def ClearanceAgrees (printable : Json → Bool) (auditTimestamp taskId : PyStr) (res : ScanResult) :
    Prop :=
  ((verdictBanner res.fusionRiskScore = cleanBanner ∨
      gateOnReport printable auditTimestamp taskId res = 0) →
    determineRiskLevel res.fusionRiskScore = .safe) ∧
  (determineRiskLevel res.fusionRiskScore = .critical →
    verdictBanner res.fusionRiskScore = trojanBanner ∧
      gateOnReport printable auditTimestamp taskId res ≠ 0)

theorem verdictBanner_eq_clean_iff {score : ℚ} :
    verdictBanner score = cleanBanner ↔ score ≤ 1 / 2 := by
  simp only [verdictBanner]
  split
  · exact iff_of_false (by decide) (not_le.2 ‹_›)
  · exact iff_of_true rfl (not_lt.1 ‹_›)

/-- The gate approves a report only for a score up to the default threshold. -/
theorem score_le_of_gateOnReport {printable : Json → Bool} {auditTimestamp taskId : PyStr}
    {res : ScanResult} (h : gateOnReport printable auditTimestamp taskId res = 0) :
    res.fusionRiskScore ≤ 1 / 2 := by
  change AuditGate.main printable defaultThreshold
    (some (standardReport auditTimestamp taskId res)) = 0 at h
  obtain ⟨report, modelSummary, hdoc, hread, hscore⟩ := AuditGate.main_eq_zero_iff_readable.1 h
  obtain rfl := Option.some.inj hdoc
  rw [hread.eq_of_lookup (lookup_map_pyStr "model_summary" _), lookup_map_pyStr] at hscore
  rcases hscore with hunfit | ⟨score, hlookup, -, hnum⟩
  · exact absurd hunfit id
  · cases hlookup
    exact hnum

/-- For every scan result the three readings agree exactly when its score is not above `0.40` and
at most `0.5`. -/
theorem clearanceAgrees_iff (printable : Json → Bool) (auditTimestamp taskId : PyStr)
    (res : ScanResult) :
    ClearanceAgrees printable auditTimestamp taskId res ↔
      ¬ (40 / 100 < res.fusionRiskScore ∧ res.fusionRiskScore ≤ 1 / 2) := by
  constructor
  · rintro ⟨hclear, -⟩ ⟨hlow, hhigh⟩
    have hsafe := hclear (Or.inl (verdictBanner_eq_clean_iff.2 hhigh))
    rw [determineRiskLevel_eq_safe_iff] at hsafe
    exact absurd hsafe (not_le.2 hlow)
  · intro hband
    refine ⟨fun hclear => ?_, fun hcritical => ?_⟩
    · have hhalf : res.fusionRiskScore ≤ 1 / 2 := by
        rcases hclear with hbanner | hgate
        · exact verdictBanner_eq_clean_iff.1 hbanner
        · exact score_le_of_gateOnReport hgate
      rw [determineRiskLevel_eq_safe_iff]
      by_contra hlow
      exact hband ⟨not_le.1 hlow, hhalf⟩
    · rw [determineRiskLevel_eq_critical_iff] at hcritical
      refine ⟨if_pos (by linarith), fun hgate => ?_⟩
      have hhalf := score_le_of_gateOnReport hgate
      linarith

/-- A scan with the score `0.457` of a stored report. -/
def warningResult : ScanResult where
  fusionRiskScore := 457 / 1000
  details := {}
  forensicAnalysis := []
  isOnnx := false

/-- At `0.457` the dashboard and the gate clear a model that the report sends to manual review. -/
theorem clearance_disagrees_at_warning :
    determineRiskLevel warningResult.fusionRiskScore = .warning ∧
      verdictBanner warningResult.fusionRiskScore = cleanBanner ∧
      gateOnReport (fun _ => true) (pyStr "2026-03-01T17:55:18") (pyStr "40efcd28")
        warningResult = 0 ∧
      ¬ ClearanceAgrees (fun _ => true) (pyStr "2026-03-01T17:55:18") (pyStr "40efcd28")
        warningResult := by
  have hwarning : determineRiskLevel warningResult.fusionRiskScore = .warning := by decide +kernel
  have hclean : verdictBanner warningResult.fusionRiskScore = cleanBanner := by decide +kernel
  refine ⟨hwarning, hclean, by decide +kernel, fun h => ?_⟩
  have hsafe := h.1 (Or.inl hclean)
  rw [hwarning] at hsafe
  cases hsafe

end TrojanDetection.Gate.Clearance
