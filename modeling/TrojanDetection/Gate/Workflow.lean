import TrojanDetection.Library.JsonText
import TrojanDetection.Service.Upload
import Mathlib.Data.Rat.Defs
import Mathlib.Algebra.Order.Ring.Rat

/-!
# The audit step of the workflow (`model-audit.yml`, "Run Enterprise Trojan Scan")

The step posts the newest model to the scan endpoint, extracts a score from the answer with text
tools, and fails the build when `bc` finds the score above 0.75. It runs under `bash -e` without
`pipefail`.
-/

set_option autoImplicit false

namespace TrojanDetection.Gate.Workflow

open TrojanDetection.Library.JsonText
open TrojanDetection.Library.TextSearch
open TrojanDetection.Service

/-- The programs around the step: pathname expansion of a word in the checkout, what `bc -l` prints
for a line, and the truth of `(( ))`. -/
structure Shell where
  glob : List Char → List (List Char)
  bc : List Char → List Char
  arith : List Char → Bool
  /-- A word without a match stays; no file of the checkout is named after the key. -/
  glob_clean : ∀ word expanded, expanded ∈ glob word →
    expanded = word ∨ ¬ keyText "fusion_score".toList <:+: expanded
  /-- A syntax error prints nothing on standard output. -/
  bc_syntax_error : bc " > 0.75".toList = []
  /-- An empty `(( ))` is false. -/
  arith_empty : arith [] = false

/-! ## Answers of the server -/

/-- The responses to the upload: an answer of the endpoint, or an empty body. -/
inductive Response
  | answer (body : Except HttpError AsyncScanResponse)
  | empty

/-- The members of the answer's JSON object. -/
def members : Except HttpError AsyncScanResponse → List (List Char × List Char)
  | .ok r => [
      ("status".toList, r.status.toList),
      ("task_id".toList, r.taskId.toList),
      ("message".toList, r.message.toList)]
  | .error e => [("detail".toList, e.detail.toList)]

/-- The text of the response. -/
def Response.body : Response → List Char
  | .answer a => renderObject (members a)
  | .empty => []

/-! ## The step -/

/-- The characters the shell splits words at. -/
def blank (c : Char) : Bool := c = ' ' || c = '\t' || c = '\n'

/-- `echo $RESPONSE`, with word splitting and pathname expansion. -/
def echoUnquoted (sh : Shell) (text : List Char) : List Char :=
  List.intercalate [' '] ((words blank text).flatMap sh.glob)

/-- `"fusion_score":[^,]*` at the start of a text. -/
def matchScore (text : List Char) : Option ℕ :=
  let key := keyText "fusion_score".toList
  if key.isPrefixOf text then
    some (key.length + ((text.drop key.length).takeWhile (· ≠ ',')).length)
  else none

/-- `"risk_level":"[^"]*"` at the start of a text. -/
def matchLevel (text : List Char) : Option ℕ :=
  let key := keyText "risk_level".toList ++ ['"']
  if key.isPrefixOf text then
    let value := (text.drop key.length).takeWhile (· ≠ '"')
    if key.length + value.length < text.length then some (key.length + value.length + 1) else none
  else none

/-- `SCORE`: `grep -o`, `cut -d':' -f2` and `tr -d ' '`. -/
def extractScore (sh : Shell) (response : List Char) : List Char :=
  substituted ((grepOnly matchScore (echoUnquoted sh response)).map fun line =>
    (cutSecond ':' line).filter (· ≠ ' '))

/-- `LEVEL`: `grep -o`, `cut -d':' -f2` and `tr -d '"'`. -/
def extractLevel (sh : Shell) (response : List Char) : List Char :=
  substituted ((grepOnly matchLevel (echoUnquoted sh response)).map fun line =>
    (cutSecond ':' line).filter (· ≠ '"'))

/-- What the step leaves: its exit status and the lines it printed. -/
structure Outcome where
  exitCode : ℕ
  log : List (List Char)
  deriving DecidableEq, Repr

/-- The step after `curl` has returned a body, or has failed with a status other than zero. -/
def auditStep (sh : Shell) (newestModel : List Char) : Except ℕ (List Char) → Outcome
  -- the assignment of a failing substitution ends the step under `-e`
  | .error status => ⟨status, ["Scanning model: ".toList ++ newestModel]⟩
  | .ok response =>
      let score := extractScore sh response
      let level := extractLevel sh response
      let report := [
        "Scanning model: ".toList ++ newestModel,
        "--- AUDIT RESULTS ---".toList,
        "Fusion Risk Score: ".toList ++ score,
        "Risk Level: ".toList ++ level]
      if sh.arith (sh.bc (score ++ " > 0.75".toList)) then
        ⟨1, report ++ ["🚨 CRITICAL: Model failed MLSecOps audit. Deployment Blocked.".toList]⟩
      else
        ⟨0, report ++ ["✅ SAFE: Model passed MLSecOps audit. Cleared for production.".toList]⟩

/-! ## Scores -/

/-- A run of decimal digits. -/
def readDigits (text : List Char) : Option ℕ :=
  if text ≠ [] ∧ text.all Char.isDigit then
    some (text.foldl (fun n c => 10 * n + (c.toNat - '0'.toNat)) 0)
  else none

/-- Digits with an optional fraction. -/
def readDecimal (text : List Char) : Option ℚ :=
  match text.splitOn '.' with
  | [whole] => (readDigits whole).map fun n => (n : ℚ)
  | [whole, fraction] => do
      let n ← readDigits whole
      let m ← readDigits fraction
      some (n + m / 10 ^ fraction.length)
  | _ => none

/-- A number as the server prints scores, with an optional exponent. -/
def readScore (text : List Char) : Option ℚ :=
  match text.splitOn 'e' with
  | [decimal] => readDecimal decimal
  | [decimal, '-' :: digits] => do
      let q ← readDecimal decimal
      let n ← readDigits digits
      some (q / 10 ^ n)
  | _ => none

/-- The step passes only on a score of at most 0.75. -/
def FailsClosed (sh : Shell) (newestModel response : List Char) : Prop :=
  (auditStep sh newestModel (.ok response)).exitCode = 0 →
    ∃ q, readScore (extractScore sh response) = some q ∧ q ≤ 3 / 4

/-! ## What the step finds -/

/-- Word splitting and pathname expansion do not bring up a key that the text lacks. -/
theorem not_infix_echoUnquoted (sh : Shell) {text : List Char}
    (h : ¬ keyText "fusion_score".toList <:+: text) :
    ¬ keyText "fusion_score".toList <:+: echoUnquoted sh text := by
  intro hecho
  obtain ⟨expanded, hexpanded, hfound⟩ :=
    infix_of_infix_intercalate (List.cons_ne_nil _ _) (by decide) hecho
  obtain ⟨word, hword, hglob⟩ := List.mem_flatMap.1 hexpanded
  rcases sh.glob_clean word expanded hglob with rfl | hclean
  · exact h (hfound.trans (infix_of_mem_words hword))
  · exact hclean hfound

theorem prefix_of_matchScore {text : List Char} {n : ℕ} (h : matchScore text = some n) :
    keyText "fusion_score".toList <+: text := by
  simp only [matchScore] at h
  split at h
  · exact List.isPrefixOf_iff_prefix.1 (by assumption)
  · cases h

theorem extractScore_eq_nil (sh : Shell) {response : List Char}
    (h : ¬ keyText "fusion_score".toList <:+: response) : extractScore sh response = [] := by
  rw [extractScore]
  rw [grepOnly_eq_nil (fun _ _ => prefix_of_matchScore) (not_infix_echoUnquoted sh h)]
  rfl

/-- No answer of the endpoint has a member named `fusion_score`. -/
theorem members_ne_fusionScore (answer : Except HttpError AsyncScanResponse) :
    ∀ m ∈ members answer, '"' ∉ m.1 ∧ m.1 ≠ "fusion_score".toList := by
  rw [← List.forall_mem_map (f := Prod.fst)
    (P := fun key => '"' ∉ key ∧ key ≠ "fusion_score".toList)]
  cases answer with
  | ok r =>
      show ∀ key ∈ ["status".toList, "task_id".toList, "message".toList], _
      decide
  | error e =>
      show ∀ key ∈ ["detail".toList], _
      decide

theorem extractScore_body_eq_nil (sh : Shell) (r : Response) : extractScore sh r.body = [] := by
  apply extractScore_eq_nil
  cases r with
  | answer a => exact not_infix_renderObject (by decide) (members_ne_fusionScore a)
  | empty =>
      intro h
      exact List.cons_ne_nil _ _ (List.infix_nil.1 h)

/-- Without a score the step passes. -/
theorem exitCode_of_extractScore_eq_nil (sh : Shell) (newestModel : List Char)
    {response : List Char} (h : extractScore sh response = []) :
    (auditStep sh newestModel (.ok response)).exitCode = 0 := by
  have hfalse : sh.arith (sh.bc " > 0.75".toList) = false := by
    rw [sh.bc_syntax_error, sh.arith_empty]
  simp only [auditStep, h, List.nil_append, hfalse, Bool.false_eq_true, if_false]

theorem readScore_nil : readScore [] = none := by decide

theorem not_failsClosed_of_extractScore_eq_nil (sh : Shell) (newestModel : List Char)
    {response : List Char} (h : extractScore sh response = []) :
    ¬ FailsClosed sh newestModel response := by
  intro hclosed
  obtain ⟨q, hq, -⟩ := hclosed (exitCode_of_extractScore_eq_nil sh newestModel h)
  rw [h, readScore_nil] at hq
  cases hq

/-- Whatever the server returns, the step passes without having obtained a score. -/
theorem workflow_never_failsClosed (sh : Shell) (newestModel : List Char) (r : Response) :
    ¬ FailsClosed sh newestModel r.body :=
  not_failsClosed_of_extractScore_eq_nil sh newestModel (extractScore_body_eq_nil sh r)

/-- A checkout without special file names, and `bc` on comparisons of one number with 0.75. -/
def plainShell : Shell where
  glob word := [word]
  bc line :=
    match readScore (line.take (line.length - 7)) with
    | some q => if 3 / 4 < q then ['1'] else ['0']
    | none => []
  arith text := text ≠ [] && text ≠ ['0']
  glob_clean := fun _ _ h => .inl (List.mem_singleton.1 h)
  bc_syntax_error := by decide
  arith_empty := by decide

example :
    (auditStep plainShell [] (.ok "\x7b\"fusion_score\": 0.9,\"x\":1\x7d".toList)).exitCode = 1 := by
  decide +kernel

/-- The answer to an accepted upload passes the step. -/
theorem accepted_upload_passes :
    ¬ FailsClosed plainShell "models/model.pth".toList
      (Response.answer (.ok (Upload.acceptedResponse "1f0c"))).body :=
  not_failsClosed_of_extractScore_eq_nil plainShell _ (by decide +kernel)

end TrojanDetection.Gate.Workflow
