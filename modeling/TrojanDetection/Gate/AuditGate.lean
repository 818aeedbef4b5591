import TrojanDetection.Python.Json
import Mathlib.Tactic.NormNum

/-!
# The audit gate (`verify_audit_gate.py`)

The gate reads a report, prints it and exits with status 0 when the score does not exceed the
threshold. An exception, caught or not, exits with status 1. A score that is present and a number
is judged correctly; the gate opens on a score that is NaN or a boolean, and on a missing one once
the threshold reaches the default `1.0` (`failsClosed_iff`).
-/

set_option autoImplicit false

namespace TrojanDetection.Gate.AuditGate

open TrojanDetection.Python

/-- `print(f"...{value}")` raises when standard output cannot encode the text of the value. -/
def printValue (printable : Json → Bool) (value : Json) : Except PyError Unit :=
  if printable value then .ok () else .error .unicodeEncodeError

/-- The gate on a report that was read: the exit status, or an uncaught exception. -/
def audit (printable : Json → Bool) (threshold : ℚ) (report : Json) : Except PyError ℕ := do
  -- every `get` raises on a value that is not an object
  let modelSummary ← report.get "model_summary" (.obj [])
  let riskScore ← modelSummary.get "risk_fusion_score" (.float (.finite 1))
  let verdict ← modelSummary.get "verdict" (.str (pyStr "UNKNOWN"))
  let reportMetadata ← report.get "report_metadata" (.obj [])
  let modelName ← reportMetadata.get "task_id" (.str (pyStr "Unknown-Model"))
  printValue printable modelName
  -- `:.4f` raises on null, strings, lists, objects and integers beyond the float range
  riskScore.formatFixed
  printValue printable verdict
  -- a comparison with NaN is false
  let exceeds ← riskScore.greaterThan threshold
  pure (if exceeds then 1 else 0)

/-- The exit status of the gate. `none` is a report that cannot be read or is not JSON. -/
def main (printable : Json → Bool) (threshold : ℚ) : Option Json → ℕ
  | none => 1
  | some report =>
      match audit printable threshold report with
      | .ok status => status
      -- the interpreter exits with status 1 on an uncaught exception
      | .error _ => 1

/-- The parts of a document that the gate reads when it reaches its comparison. -/
structure Readable (printable : Json → Bool) (report : Json)
    (modelSummary : List (PyStr × Json)) : Prop where
  shape : ∃ fields reportMetadata, report = .obj fields ∧
    Json.field "model_summary" (.obj []) fields = .obj modelSummary ∧
    Json.field "report_metadata" (.obj []) fields = .obj reportMetadata ∧
    printable (Json.field "task_id" (.str (pyStr "Unknown-Model")) reportMetadata) = true
  verdict : printable (Json.field "verdict" (.str (pyStr "UNKNOWN")) modelSummary) = true

theorem printValue_eq_ok_iff {printable : Json → Bool} {value : Json} {u : Unit} :
    printValue printable value = .ok u ↔ printable value = true := by
  simp only [printValue]
  split
  · exact iff_of_true rfl ‹_›
  · refine iff_of_false (fun h => ?_) ‹_›
    cases h

/-- The gate returns a status exactly on readable documents whose score can be formatted and
compared. -/
theorem audit_eq_ok_iff {printable : Json → Bool} {threshold : ℚ} {report : Json} {status : ℕ} :
    audit printable threshold report = .ok status ↔
      ∃ modelSummary exceeds, Readable printable report modelSummary ∧
        (Json.field "risk_fusion_score" (.float (.finite 1)) modelSummary).formatFixed = .ok () ∧
        (Json.field "risk_fusion_score" (.float (.finite 1)) modelSummary).greaterThan threshold =
          .ok exceeds ∧ status = if exceeds then 1 else 0 := by
  rw [audit]
  simp only [bind_eq_ok_iff, Json.get_eq_ok_iff, printValue_eq_ok_iff]
  constructor
  · rintro ⟨-, ⟨fields, rfl, rfl⟩, -, ⟨modelSummary, hms, rfl⟩, -, ⟨ms', hms', rfl⟩, -,
      ⟨fields', hf, rfl⟩, -, ⟨reportMetadata, hmeta, rfl⟩, -, hname, ⟨⟩, hformat, -, hverdict,
      exceeds, hexceeds, hstatus⟩
    cases hf
    rw [hms] at hms'
    cases hms'
    refine ⟨modelSummary, exceeds, ⟨⟨fields, reportMetadata, rfl, hms, hmeta, hname⟩, hverdict⟩,
      hformat, hexceeds, ?_⟩
    cases hstatus
    rfl
  · rintro ⟨modelSummary, exceeds, ⟨⟨fields, reportMetadata, rfl, hms, hmeta, hname⟩, hverdict⟩,
      hformat, hexceeds, rfl⟩
    exact ⟨_, ⟨fields, rfl, rfl⟩, _, ⟨modelSummary, hms, rfl⟩, _, ⟨modelSummary, hms, rfl⟩, _,
      ⟨fields, rfl, rfl⟩, _, ⟨reportMetadata, hmeta, rfl⟩, (), hname, (), hformat, (), hverdict,
      exceeds, hexceeds, rfl⟩

/-- Exit status 0 is a returned status. -/
theorem main_eq_zero_iff {printable : Json → Bool} {threshold : ℚ} {document : Option Json} :
    main printable threshold document = 0 ↔
      ∃ report, document = some report ∧ audit printable threshold report = .ok 0 := by
  cases document with
  | none => simp [main]
  | some report =>
      cases h : audit printable threshold report with
      | ok status => simp [main, h]
      | error e => simp [main, h]

/-! ## Failing closed -/

/-- The document is an object whose `model_summary.risk_fusion_score` is present, a number and at
most the threshold. -/
def ScoreCleared (threshold : ℚ) (document : Option Json) : Prop :=
  ∃ fields modelSummary score, document = some (.obj fields) ∧
    fields.lookup (pyStr "model_summary") = some (.obj modelSummary) ∧
    modelSummary.lookup (pyStr "risk_fusion_score") = some score ∧ score.NumberAtMost threshold

/-- The gate exits with status 0 only on a cleared score. -/
def FailsClosed (printable : Json → Bool) (threshold : ℚ) (document : Option Json) : Prop :=
  main printable threshold document = 0 → ScoreCleared threshold document

/-- A score field that opens the gate without being a number at most the threshold: a missing one
under a threshold of at least `1.0`, a boolean whose integer value is at most the threshold, or
NaN. -/
def UnfitScore (threshold : ℚ) : Option Json → Prop
  | none => 1 ≤ threshold
  | some (.bool b) => Json.boolValue b ≤ threshold
  | some (.float .nan) => True
  | _ => False

/-- A readable document with an unfit score. -/
def SlipsThrough (printable : Json → Bool) (threshold : ℚ) (document : Option Json) : Prop :=
  ∃ report modelSummary, document = some report ∧ Readable printable report modelSummary ∧
    UnfitScore threshold (modelSummary.lookup (pyStr "risk_fusion_score"))

/-- What a comparison that is false says about a score field that can be formatted. -/
theorem opens_iff {threshold : ℚ} {modelSummary : List (PyStr × Json)} :
    ((Json.field "risk_fusion_score" (.float (.finite 1)) modelSummary).formatFixed = .ok () ∧
      (Json.field "risk_fusion_score" (.float (.finite 1)) modelSummary).greaterThan threshold =
        .ok false) ↔
      UnfitScore threshold (modelSummary.lookup (pyStr "risk_fusion_score")) ∨
        ∃ score, modelSummary.lookup (pyStr "risk_fusion_score") = some score ∧
          score.formatFixed = .ok () ∧ score.NumberAtMost threshold := by
  rw [Json.field]
  cases hscore : modelSummary.lookup (pyStr "risk_fusion_score") with
  | none => simp [UnfitScore, Json.formatFixed, Json.greaterThan]
  | some score =>
      cases score with
      | null => simp [UnfitScore, Json.formatFixed]
      | bool b => simp [UnfitScore, Json.formatFixed, Json.greaterThan, Json.NumberAtMost]
      | int n => simp [UnfitScore, Json.greaterThan, Json.NumberAtMost]
      | float x =>
          cases x <;> simp [UnfitScore, Json.formatFixed, Json.greaterThan, Json.NumberAtMost]
      | str s => simp [UnfitScore, Json.formatFixed]
      | arr items => simp [UnfitScore, Json.formatFixed]
      | obj fields => simp [UnfitScore, Json.formatFixed]

/-- The gate opens on a readable document whose score field is unfit or a cleared number. -/
theorem main_eq_zero_iff_readable {printable : Json → Bool} {threshold : ℚ}
    {document : Option Json} :
    main printable threshold document = 0 ↔
      ∃ report modelSummary, document = some report ∧ Readable printable report modelSummary ∧
        (UnfitScore threshold (modelSummary.lookup (pyStr "risk_fusion_score")) ∨
          ∃ score, modelSummary.lookup (pyStr "risk_fusion_score") = some score ∧
            score.formatFixed = .ok () ∧ score.NumberAtMost threshold) := by
  simp only [main_eq_zero_iff, audit_eq_ok_iff, ← opens_iff]
  constructor
  · rintro ⟨report, rfl, modelSummary, exceeds, hread, hformat, hexceeds, hstatus⟩
    have hfalse : exceeds = false := by
      cases exceeds with
      | false => rfl
      | true => cases hstatus
    subst hfalse
    exact ⟨report, modelSummary, rfl, hread, hformat, hexceeds⟩
  · rintro ⟨report, modelSummary, rfl, hread, hformat, hexceeds⟩
    exact ⟨report, rfl, modelSummary, false, hread, hformat, hexceeds, rfl⟩

/-- A score that is present sits in a `model_summary` that is present. -/
theorem Readable.lookup_modelSummary {printable : Json → Bool} {report : Json}
    {modelSummary : List (PyStr × Json)} (h : Readable printable report modelSummary)
    (hne : modelSummary ≠ []) :
    ∃ fields, report = .obj fields ∧
      fields.lookup (pyStr "model_summary") = some (.obj modelSummary) := by
  obtain ⟨⟨fields, -, rfl, hms, -⟩, -⟩ := h
  refine ⟨fields, rfl, ?_⟩
  rw [Json.field] at hms
  cases hlookup : fields.lookup (pyStr "model_summary") with
  | none =>
      rw [hlookup] at hms
      cases hms
      exact absurd rfl hne
  | some v =>
      rw [hlookup] at hms
      exact congrArg some hms

/-- The summary that the gate reads is the one the document holds. -/
theorem Readable.eq_of_lookup {printable : Json → Bool} {fields xs ys : List (PyStr × Json)}
    (h : Readable printable (.obj fields) xs)
    (hlookup : fields.lookup (pyStr "model_summary") = some (.obj ys)) : xs = ys := by
  obtain ⟨⟨fields', -, hf, hms, -⟩, -⟩ := h
  cases hf
  rw [Json.field, hlookup] at hms
  cases hms
  rfl

/-- For every document, every finite threshold and every standard output: the gate fails closed
exactly when the document is not a readable one with an unfit score. -/
theorem failsClosed_iff (printable : Json → Bool) (threshold : ℚ) (document : Option Json) :
    FailsClosed printable threshold document ↔ ¬ SlipsThrough printable threshold document := by
  constructor
  · rintro hclosed ⟨report, modelSummary, rfl, hread, hunfit⟩
    obtain ⟨fields, ms, score, hdoc, hms, hscore, hnum⟩ := hclosed
      (main_eq_zero_iff_readable.2 ⟨report, modelSummary, rfl, hread, Or.inl hunfit⟩)
    cases hdoc
    rw [hread.eq_of_lookup hms, hscore] at hunfit
    -- an unfit value that is present is a boolean or NaN, neither of which is a number
    cases score with
    | float x => cases x <;> simp [UnfitScore, Json.NumberAtMost] at hunfit hnum
    | null => exact hnum
    | bool b => exact hnum
    | int n => exact hunfit
    | str s => exact hnum
    | arr items => exact hnum
    | obj fields => exact hnum
  · intro hno hzero
    obtain ⟨report, modelSummary, rfl, hread, hscore⟩ := main_eq_zero_iff_readable.1 hzero
    rcases hscore with hunfit | ⟨score, hlookup, -, hnum⟩
    · exact absurd ⟨report, modelSummary, rfl, hread, hunfit⟩ hno
    · -- a summary with a score is not the default, so the document holds it
      have hne : modelSummary ≠ [] := by
        rintro rfl
        cases hlookup
      obtain ⟨fields, rfl, hms⟩ := hread.lookup_modelSummary hne
      exact ⟨fields, modelSummary, score, rfl, hms, hlookup, hnum⟩

/-- The report `{"model_summary": {"risk_fusion_score": NaN}}`. -/
def nanReport : Json :=
  .obj [(pyStr "model_summary", .obj [(pyStr "risk_fusion_score", .float .nan)])]

/-- The gate opens on a NaN score under the default threshold. -/
theorem gate_opens_on_nan : main (fun _ => true) (1 / 2) (some nanReport) = 0 ∧
    ¬ FailsClosed (fun _ => true) (1 / 2) (some nanReport) := by
  have hzero : main (fun _ => true) (1 / 2) (some nanReport) = 0 := by decide
  refine ⟨hzero, fun hclosed => ?_⟩
  obtain ⟨fields, modelSummary, score, hdoc, hms, hscore, hnum⟩ := hclosed hzero
  cases hdoc
  cases hms
  cases hscore
  exact hnum

end TrojanDetection.Gate.AuditGate
