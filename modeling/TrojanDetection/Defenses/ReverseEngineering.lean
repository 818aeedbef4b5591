import TrojanDetection.Library.EarlyStopping
import TrojanDetection.Python.Float

/-!
# Trigger search (`defenses.py`, `NeuralCleanse.reverse_engineer_trigger`)

An epoch of the search optimises mask and pattern on the first few batches of the loader and adds up
their losses. After an epoch the search stops if the fifth epoch with a loss below 0.01 has been
seen, or if the loss differs from that of the epoch before by less than 0.0001.

The whole function ends as the stopping rule says for the losses of its epochs
(`reverseEngineerTrigger_eq`), and every sequence of losses occurs (`ofLosses_exit`). The counter of
low epochs is never reset, so they need not follow each other: `stopsAsStated_iff` says for which
losses they do.
-/

set_option autoImplicit false

namespace TrojanDetection.Defenses.ReverseEngineering

open TrojanDetection.Library.EarlyStopping
open TrojanDetection.Python

/-! ## The stopping rule -/

/-- `epoch_loss < 0.01`. -/
def lowLoss (epochLoss : PyFloat) : Bool := epochLoss.lessThan (1 / 100)

/-- `abs(last_loss - epoch_loss) < 1e-4`. -/
def nearLoss (lastLoss epochLoss : PyFloat) : Bool :=
  (lastLoss.sub epochLoss).abs.lessThan (1 / 10000)

/-- `last_loss` starts at infinity, and `patience` is 5. -/
def stoppingRule : Rule PyFloat where
  low := lowLoss
  near := nearLoss
  patience := 5
  start := .posInf
  near_start := PyFloat.lessThan_abs_sub_posInf (1 / 10000)
  patience_pos := Nat.succ_pos 4

/-! ## The search -/

/-- What the search works with: the height of the images of a batch; mask, pattern and optimiser for
such images; one optimiser step towards a class, with its loss; the clamped mask and pattern. -/
structure TriggerOptimisation (σ χ μ : Type) where
  height : χ → ℕ
  initial : χ → σ
  step : ℤ → σ → χ → Except PyError (σ × PyFloat)
  trigger : σ → μ

section Search

variable {σ χ μ : Type} (opt : TriggerOptimisation σ χ μ) (targetClass : ℤ)

/-- `2 if actual_shape[1] > 32 else 5`. -/
def batchLimit (firstBatch : χ) : ℕ := if opt.height firstBatch > 32 then 2 else 5

/-- The steps of an epoch, with the sum of their losses. -/
def epochSteps : σ → PyFloat → List χ → Except PyError (σ × PyFloat)
  | s, epochLoss, [] => .ok (s, epochLoss)
  | s, epochLoss, batch :: batches => do
      let (s, loss) ← opt.step targetClass s batch
      epochSteps s (epochLoss.add loss) batches

/-- One epoch over a pass of the loader, cut off at the limit. -/
def runEpoch (limit : ℕ) (pass : List χ) (s : σ) : Except PyError (σ × PyFloat) :=
  epochSteps opt targetClass s (.finite 0) (pass.take limit)

/-- The loop over the epochs. `passes (epoch + 1)` is the pass of an epoch, since the first pass is
the one that the first batch is taken from. -/
def epochLoop (limit : ℕ) (passes : ℕ → List χ) :
    ℕ → ℕ → Memory PyFloat → σ → Except PyError (Exit × σ)
  | 0, _, _, s => .ok (.exhausted, s)
  | rounds + 1, epoch, memory, s => do
      let (s, epochLoss) ← runEpoch opt targetClass limit (passes (epoch + 1)) s
      -- `last_loss` changes only if the loop goes on
      match stoppingRule.check memory epoch epochLoss with
      | .inl exit => pure (exit, s)
      | .inr memory => epochLoop limit passes rounds (epoch + 1) memory s

/-- `reverse_engineer_trigger`, with the way in which its loop ends, as the source prints it. -/
def reverseEngineerTrigger (passes : ℕ → List χ) (epochs : ℕ) : Except PyError (Exit × μ) :=
  match passes 0 with
  | [] => .error .stopIteration
  | firstBatch :: _ => do
      let (exit, s) ← epochLoop opt targetClass (batchLimit opt firstBatch) passes epochs 0
        ⟨.posInf, 0⟩ (opt.initial firstBatch)
      pure (exit, opt.trigger s)

variable {opt targetClass}

/-- While the epochs do not raise, the loop is the search over their losses. -/
theorem epochLoop_eq {limit : ℕ} {passes : ℕ → List χ} {states : ℕ → σ} {losses : ℕ → PyFloat}
    (rounds epoch : ℕ) (memory : Memory PyFloat)
    (hruns : ∀ k, epoch ≤ k → k < epoch + rounds →
      runEpoch opt targetClass limit (passes (k + 1)) (states k) =
        .ok (states (k + 1), losses k)) :
    ∃ k, epochLoop opt targetClass limit passes rounds epoch memory (states epoch) =
      .ok (stoppingRule.searchFrom losses rounds epoch memory, states k) := by
  induction rounds generalizing epoch memory with
  | zero => exact ⟨epoch, rfl⟩
  | succ rounds ih =>
      rw [epochLoop, Rule.searchFrom, hruns epoch (le_refl epoch) (by omega)]
      cases hcheck : stoppingRule.check memory epoch (losses epoch) with
      | inl exit =>
          refine ⟨epoch + 1, ?_⟩
          simp only [bind, Except.bind, hcheck]
          rfl
      | inr memory =>
          obtain ⟨k, hk⟩ := ih (epoch + 1) memory fun k hle hlt => hruns k (by omega) (by omega)
          refine ⟨k, ?_⟩
          simp only [bind, Except.bind, hcheck]
          exact hk

/-- The function ends as the rule says for the losses of its epochs. -/
theorem reverseEngineerTrigger_eq {passes : ℕ → List χ} {firstBatch : χ} {others : List χ}
    (hfirst : passes 0 = firstBatch :: others) (states : ℕ → σ) {losses : ℕ → PyFloat}
    {epochs : ℕ} (hstart : states 0 = opt.initial firstBatch)
    (hruns : ∀ k < epochs, runEpoch opt targetClass (batchLimit opt firstBatch) (passes (k + 1))
      (states k) = .ok (states (k + 1), losses k)) :
    ∃ k, reverseEngineerTrigger opt targetClass passes epochs =
      .ok (stoppingRule.search losses epochs, opt.trigger (states k)) := by
  obtain ⟨k, hk⟩ := epochLoop_eq epochs 0 ⟨.posInf, 0⟩ fun k _ hlt => hruns k (by omega)
  rw [hstart] at hk
  refine ⟨k, ?_⟩
  simp only [reverseEngineerTrigger, hfirst, hk, bind, Except.bind]
  rfl

end Search

/-- An optimisation with given losses, on one batch in each epoch. -/
def ofLosses (losses : ℕ → PyFloat) : TriggerOptimisation ℕ Unit Unit where
  height _ := 32
  initial _ := 0
  step _ s _ := .ok (s + 1, losses s)
  trigger _ := ()

theorem ofLosses_exit (losses : ℕ → PyFloat) (targetClass : ℤ) (epochs : ℕ) :
    reverseEngineerTrigger (ofLosses losses) targetClass (fun _ => [()]) epochs =
      .ok (stoppingRule.search losses epochs, ()) := by
  have hruns : ∀ k < epochs, runEpoch (ofLosses losses) targetClass
      (batchLimit (ofLosses losses) ()) [()] k = .ok (k + 1, losses k) := by
    intro k _
    show Except.ok (k + 1, PyFloat.add (.finite 0) (losses k)) = _
    rw [PyFloat.zero_add]
  have hend : ∃ k, reverseEngineerTrigger (ofLosses losses) targetClass (fun _ => [()]) epochs =
      .ok (stoppingRule.search losses epochs, (ofLosses losses).trigger k) :=
    reverseEngineerTrigger_eq rfl (fun k => k) rfl hruns
  obtain ⟨k, hk⟩ := hend
  exact hk

/-! ## When the low epochs follow each other -/

section Stated

variable (losses : ℕ → PyFloat) (epochs : ℕ)

/-- The search converges only after five low epochs in a row, ends on a plateau exactly in the first
epoch near the one before it unless it has converged by then, and otherwise runs all epochs. -/
structure StopsAsStated : Prop where
  converged : ∀ epoch, stoppingRule.search losses epochs = .converged epoch →
    ∀ k < stoppingRule.patience, k ≤ epoch ∧ lowLoss (losses (epoch - k)) = true
  plateau : ∀ epoch, stoppingRule.search losses epochs = .plateau epoch ↔
    epoch < epochs ∧ stoppingRule.nearAt losses epoch = true ∧
    (∀ k < epoch, stoppingRule.nearAt losses k = false) ∧
    ∀ k ≤ epoch, stoppingRule.search losses epochs ≠ .converged k
  exhausted : stoppingRule.search losses epochs = .exhausted ↔
    (∀ k < epochs, stoppingRule.nearAt losses k = false) ∧
    ∀ k, stoppingRule.search losses epochs ≠ .converged k

/-- The loop stops as stated exactly if, whenever the fifth low epoch comes before any plateau, the
four epochs before it are low as well. -/
theorem stopsAsStated_iff (losses : ℕ → PyFloat) (epochs : ℕ) :
    StopsAsStated losses epochs ↔
      ∀ epoch < epochs, lowLoss (losses epoch) = true →
        stoppingRule.lowCount losses (epoch + 1) = 5 →
        (∀ k < epoch, stoppingRule.nearAt losses k = false) →
        ∀ k < 5, lowLoss (losses (epoch - k)) = true := by
  constructor
  · intro h epoch hlt hlow hcount hnear k hk
    have hconverged := (stoppingRule.search_eq_converged_iff losses).2 ⟨hlt, hlow, hcount, hnear⟩
    exact (h.converged epoch hconverged k hk).2
  · intro h
    refine ⟨?_, fun epoch => stoppingRule.plateau_iff_not_converged losses,
      stoppingRule.exhausted_iff_not_converged losses⟩
    intro epoch hconverged k hk
    obtain ⟨hlt, hlow, hcount, hnear⟩ :=
      (stoppingRule.search_eq_converged_iff losses).1 hconverged
    -- five low epochs need five epochs
    have hle := stoppingRule.lowCount_le losses (epoch + 1)
    exact ⟨by omega, h epoch hlt hlow hcount hnear k hk⟩

end Stated

/-- Low epochs with high ones between them. -/
def alternatingLosses (epoch : ℕ) : PyFloat :=
  ([9 / 1000, 1, 8 / 1000, 1, 7 / 1000, 1, 6 / 1000, 1, 5 / 1000] : List ℚ)[epoch]?.elim .nan
    .finite

/-- The search converges in an epoch that comes right after a high one. -/
theorem alternatingLosses_converge :
    reverseEngineerTrigger (ofLosses alternatingLosses) 0 (fun _ => [()]) 9 =
      .ok (.converged 8, ()) ∧
    lowLoss (alternatingLosses 7) = false ∧ ¬ StopsAsStated alternatingLosses 9 := by
  have hconverged : stoppingRule.search alternatingLosses 9 = .converged 8 := by
    decide +kernel
  have hhigh : lowLoss (alternatingLosses 7) = false := by
    decide +kernel
  refine ⟨?_, hhigh, ?_⟩
  · rw [ofLosses_exit, hconverged]
  · intro h
    have hlow := (h.converged 8 hconverged 1 (by decide)).2
    rw [hhigh] at hlow
    cases hlow

end TrojanDetection.Defenses.ReverseEngineering
