import TrojanDetection.Service.ScanTask
import TrojanDetection.Service.Upload
import TrojanDetection.Python.Json

/-!
# The audit report (`api.py`, `generate_standard_audit_report`)

The report of a finished scan, as the JSON document that clients store and the audit gate reads.
-/

set_option autoImplicit false

namespace TrojanDetection.Service.Report

open TrojanDetection.Python
open TrojanDetection.Service.Verdict
open TrojanDetection.Service.ScanTask

/-- The state of a Celery task as the result backend reports it. -/
inductive TaskState
  | pending
  | progress (message : String)
  | success (result : ScanResult)
  | failure (error : String)

/-- A string value of the document. -/
def text (s : String) : Json := .str (pyStr s)

/-- A number of the document. -/
def number (q : ℚ) : Json := .float (.finite q)

/-- An object of the document. -/
def object (fields : List (String × Json)) : Json :=
  .obj (fields.map fun f => (pyStr f.1, f.2))

/-- `max(indices or [0.0])`. -/
def maxOrZero (indices : List ℚ) : ℚ := indices.max?.getD 0

/-- The section `report_metadata`. -/
def reportMetadata (auditTimestamp taskId : PyStr) : List (String × Json) := [
  ("version", text "1.0-IARPA-JAN2026"),
  ("audit_timestamp", .str auditTimestamp),
  ("task_id", .str taskId),
  ("compliance_status", text "Institutionalized AI Security Testing (IAST)")]

/-- The section `model_summary`. -/
def modelSummary (res : ScanResult) : List (String × Json) := [
  ("architecture", text "ResNet-18"),
  ("framework", text (if res.isOnnx then "ONNX Runtime" else "PyTorch")),
  ("risk_fusion_score", number res.fusionRiskScore),
  ("verdict", text (determineRiskLevel res.fusionRiskScore).text)]

/-- The report of a finished scan. -/
def standardReport (auditTimestamp taskId : PyStr) (res : ScanResult) : Json :=
  object [
    ("report_metadata", object (reportMetadata auditTimestamp taskId)),
    ("model_summary", object (modelSummary res)),
    ("trojan_forensics", object [
      ("trigger_inversion", object [
        ("neural_cleanse_index", number (maxOrZero res.details.ncAnomalyIndices)),
        ("detected_target_classes", .arr (res.details.ncFlaggedClasses.map Json.int))]),
      ("test_time_checks", object [
        ("strip_false_acceptance", number res.details.stripFaRatio),
        ("strip_false_rejection", number res.details.stripFrRatio)]),
      ("weight_analysis", object [
        ("max_anomaly_l2_norm", number (maxOrZero res.details.waAnomalyIndices))]),
      ("natural_vulnerability_profiling", object [
        ("shortcut_sensitivity", number res.details.naturalSensitivity),
        ("classification_drift", number res.details.naturalSensitivity)])]),
    ("strategic_recommendations", .arr [
      text "Maintain defense-in-depth across the AI supply chain.",
      text "Verify model provenance for internal deployments.",
      text "Conduct continuous monitoring for low-ASR backdoors."])]

/-- The endpoint: only a finished scan has a report. -/
def generateStandardAuditReport (auditTimestamp taskId : PyStr) :
    TaskState → Except HttpError Json
  | .success res => .ok (standardReport auditTimestamp taskId res)
  | _ => .error ⟨400, "Report can only be generated for successful scans."⟩

end TrojanDetection.Service.Report
