import TrojanDetection.Defenses.NeuralCleanse
import TrojanDetection.Defenses.ReverseEngineering
import TrojanDetection.Library.Adam
import Mathlib.Data.Real.Sign

/-!
# Neural Cleanse on ONNX models (`defenses.py`, `NeuralCleanse`; `celery_worker.py`,
`ONNXModelWrapper`)

The wrapper of an ONNX model detaches its inputs and returns a new tensor, so that the cross entropy
has no gradient with respect to mask and pattern. What is left is the gradient of the penalty on the
mask, which is the same for all models, classes and batches. Adam skips the pattern, and lowers
every entry of the mask by one stride in each step.

The mask that is found is the random mask that the search started from, lowered and cut off at zero
(`onnx_search_ignores_model`): a model can make the search raise, but it has no influence on the mask
in a sweep. With five batches in each of the two epochs of a sweep hardly anything of a mask is left,
and a sweep that returns flags no class (`OnnxSweep.flagged_eq_nil`).

Numbers are real numbers; the rounding of floats is not modelled.
-/

set_option autoImplicit false

namespace TrojanDetection.Defenses.OnnxCleanse

open TrojanDetection.Library
open TrojanDetection.Library.EarlyStopping
open TrojanDetection.Library.RobustStatistics
open TrojanDetection.Python
open TrojanDetection.Defenses.ReverseEngineering

/-! ## The search on a network with gradients -/

/-- A number that `torch.rand` returns. -/
structure UnitDraw where
  val : ℝ
  nonneg : 0 ≤ val
  lt_one : val < 1

/-- The random mask and pattern that a search starts from. -/
structure InitialDraws where
  mask : List UnitDraw
  pattern : List UnitDraw

/-- What a search needs besides a network: `χ` is the type of batches, `ω` that of outputs. -/
structure Setting (χ ω : Type) where
  height : χ → ℕ
  /-- `(1 - m) * inputs + m * p`. -/
  stamp : List ℝ → List ℝ → χ → χ
  /-- The number of logits for each image. -/
  classes : ω → ℕ
  /-- The value of `loss_ce + loss_reg`. -/
  lossValue : ω → ℤ → List ℝ → PyFloat

/-- A network as the backward pass sees it. The gradient is that of the cross entropy with respect to
the clamped mask and pattern, if the outputs are connected with them. -/
structure TracedModel (χ ω : Type) where
  forward : χ → Except PyError ω
  gradient : ℤ → List ℝ → List ℝ → χ → Option (List ℝ × List ℝ)

variable {χ ω : Type}

/-- `ignore_index` of `nn.CrossEntropyLoss`. -/
def ignoreIndex : ℤ := -100

/-- `criterion(outputs, labels) + loss_reg`. The criterion raises for a class that has no logit. -/
def Setting.loss (setting : Setting χ ω) (outputs : ω) (targetClass : ℤ) (m : List ℝ) :
    Except PyError PyFloat :=
  if targetClass = ignoreIndex ∨ (0 ≤ targetClass ∧ targetClass < setting.classes outputs) then
    .ok (setting.lossValue outputs targetClass m)
  else .error .indexError

/-- `ONNXModelWrapper`: the outputs are a tensor of their own. -/
def onnxModelWrapper (session : χ → Except PyError ω) : TracedModel χ ω where
  forward := session
  gradient _ _ _ _ := none

/-- `torch.clamp(x, 0, 1)`. -/
noncomputable def clamp (x : ℝ) : ℝ := min (max x 0) 1

/-- Its derivative; the ends count as inside. -/
noncomputable def clampGradient (x : ℝ) : ℝ := if 0 ≤ x ∧ x ≤ 1 then 1 else 0

/-- `lambda_reg`. -/
noncomputable def lambdaReg : ℝ := (1 / 1000 : ℚ)

/-- The gradient of the loss with respect to an entry of the mask, given that of the cross entropy
with respect to the clamped entry. -/
noncomputable def maskGradient (crossEntropy x : ℝ) : ℝ :=
  clampGradient x * (crossEntropy + lambdaReg * Real.sign (clamp x))

theorem lr_nonneg : (0 : ℝ) ≤ (1 / 10 : ℚ) := by norm_num

theorem beta1_nonneg : (0 : ℝ) ≤ (9 / 10 : ℚ) := by norm_num

theorem beta1_lt_one : ((9 / 10 : ℚ) : ℝ) < 1 := by norm_num

theorem beta2_nonneg : (0 : ℝ) ≤ (999 / 1000 : ℚ) := by norm_num

theorem beta2_lt_one : ((999 / 1000 : ℚ) : ℝ) < 1 := by norm_num

theorem eps_pos : (0 : ℝ) < (1 / 10 ^ 8 : ℚ) := by norm_num

/-- `optim.Adam([mask, pattern], lr=0.1)`. -/
noncomputable def optimizer : Adam.Hyper where
  lr := (1 / 10 : ℚ)
  beta1 := (9 / 10 : ℚ)
  beta2 := (999 / 1000 : ℚ)
  eps := (1 / 10 ^ 8 : ℚ)
  lr_nonneg := lr_nonneg
  beta1_nonneg := beta1_nonneg
  beta1_lt_one := beta1_lt_one
  beta2_nonneg := beta2_nonneg
  beta2_lt_one := beta2_lt_one
  eps_pos := eps_pos

/-- Mask and pattern with what the optimiser keeps for them. -/
structure SearchState where
  mask : List Adam.Cell
  maskSteps : ℕ
  pattern : List Adam.Cell
  patternSteps : ℕ

namespace SearchState

/-- Random numbers, and a new optimiser. -/
def initial (draws : InitialDraws) : SearchState where
  mask := draws.mask.map fun u => .fresh u.val
  maskSteps := 0
  pattern := draws.pattern.map fun u => .fresh u.val
  patternSteps := 0

/-- `torch.clamp(mask, 0, 1)`. -/
noncomputable def clampedMask (s : SearchState) : List ℝ := s.mask.map fun cell => clamp cell.value

/-- `torch.clamp(pattern, 0, 1)`. -/
noncomputable def clampedPattern (s : SearchState) : List ℝ :=
  s.pattern.map fun cell => clamp cell.value

/-- `loss.backward()` and `optimizer.step()`. A tensor without a gradient is skipped; the mask always
has one, since the penalty depends on it. -/
noncomputable def backward (s : SearchState) : Option (List ℝ × List ℝ) → SearchState
  | none =>
      { s with
        mask := s.mask.map fun cell =>
          Adam.update optimizer (s.maskSteps + 1) (maskGradient 0 cell.value) cell
        maskSteps := s.maskSteps + 1 }
  | some (dMask, dPattern) =>
      { mask := List.zipWith (fun cell d =>
          Adam.update optimizer (s.maskSteps + 1) (maskGradient d cell.value) cell) s.mask dMask
        maskSteps := s.maskSteps + 1
        pattern := List.zipWith (fun cell d =>
          Adam.update optimizer (s.patternSteps + 1) (clampGradient cell.value * d) cell)
          s.pattern dPattern
        patternSteps := s.patternSteps + 1 }

end SearchState

/-- The loop body of `reverse_engineer_trigger`, with its start and its result. -/
noncomputable def triggerOptimisation (setting : Setting χ ω) (model : TracedModel χ ω)
    (draws : χ → InitialDraws) : TriggerOptimisation SearchState χ (List ℝ × List ℝ) where
  height := setting.height
  initial firstBatch := .initial (draws firstBatch)
  step targetClass s inputs := do
    let m := s.clampedMask
    let p := s.clampedPattern
    let outputs ← model.forward (setting.stamp m p inputs)
    let loss ← setting.loss outputs targetClass m
    .ok (s.backward (model.gradient targetClass m p inputs), loss)
  trigger s := (s.clampedMask, s.clampedPattern)

/-! ## The penalty alone -/

theorem clamp_nonneg (x : ℝ) : 0 ≤ clamp x := le_min (le_max_right _ _) zero_le_one

theorem clamp_of_mem {x : ℝ} (h0 : 0 ≤ x) (h1 : x ≤ 1) : clamp x = x := by
  rw [clamp, max_eq_left h0, min_eq_left h1]

theorem lambdaReg_pos : 0 < lambdaReg := by norm_num [lambdaReg]

theorem maskGradient_nonneg (x : ℝ) : 0 ≤ maskGradient 0 x := by
  have hclamp : 0 ≤ clampGradient x := by
    rw [clampGradient]
    split <;> norm_num
  have hsign : 0 ≤ Real.sign (clamp x) := by
    rcases (clamp_nonneg x).eq_or_lt with h | h
    · rw [← h, Real.sign_zero]
    · rw [Real.sign_of_pos h]
      exact zero_le_one
  rw [maskGradient, zero_add]
  exact mul_nonneg hclamp (mul_nonneg lambdaReg_pos.le hsign)

theorem maskGradient_of_mem {x : ℝ} (h0 : 0 < x) (h1 : x ≤ 1) : maskGradient 0 x = lambdaReg := by
  rw [maskGradient, clampGradient, if_pos ⟨h0.le, h1⟩, clamp_of_mem h0.le h1, Real.sign_of_pos h0]
  ring

/-- What one step takes away, a little less than a tenth. -/
def stepLength : ℚ := 10000 / 100001

theorem stride_eq : Adam.stride optimizer lambdaReg = stepLength := by
  norm_num [Adam.stride, optimizer, lambdaReg, stepLength]

theorem stepLength_pos : (0 : ℝ) < stepLength := by norm_num [stepLength]

/-- The clamped entry after `n` steps. -/
theorem clamp_descend (u : UnitDraw) (n : ℕ) :
    clamp (Adam.descend optimizer (maskGradient 0) u.val n).value =
      max (u.val - n * stepLength) 0 := by
  have hvalue := Adam.max_value_descend (h := optimizer) maskGradient_nonneg lambdaReg_pos.le
    (fun y => maskGradient_of_mem) u.lt_one.le n
  rw [stride_eq] at hvalue
  rw [clamp, hvalue]
  apply min_eq_left
  apply max_le _ zero_le_one
  have hlowered : (0 : ℝ) ≤ n * stepLength := mul_nonneg n.cast_nonneg stepLength_pos.le
  linarith [u.lt_one]

/-- The state after `n` steps without a gradient of the cross entropy. -/
noncomputable def descended (draws : InitialDraws) (n : ℕ) : SearchState where
  mask := draws.mask.map fun u => Adam.descend optimizer (maskGradient 0) u.val n
  maskSteps := n
  pattern := draws.pattern.map fun u => .fresh u.val
  patternSteps := 0

theorem backward_descended (draws : InitialDraws) (n : ℕ) :
    (descended draws n).backward none = descended draws (n + 1) := by
  simp only [SearchState.backward, descended, List.map_map]
  rfl

/-- The mask that is left after `n` steps. -/
noncomputable def lowered (draws : InitialDraws) (n : ℕ) : List ℝ :=
  draws.mask.map fun u => max (u.val - n * stepLength) 0

theorem clampedMask_descended (draws : InitialDraws) (n : ℕ) :
    (descended draws n).clampedMask = lowered draws n := by
  rw [SearchState.clampedMask, descended, lowered, List.map_map]
  apply List.map_congr_left
  intro u _
  exact clamp_descend u n

theorem clampedPattern_descended (draws : InitialDraws) (n : ℕ) :
    (descended draws n).clampedPattern = draws.pattern.map UnitDraw.val := by
  rw [SearchState.clampedPattern, descended, List.map_map]
  apply List.map_congr_left
  intro u _
  exact clamp_of_mem u.nonneg u.lt_one.le

/-! ## The search on an ONNX model -/

/-- The search on an ONNX model. -/
noncomputable abbrev onnxOptimisation (setting : Setting χ ω) (draws : χ → InitialDraws)
    (session : χ → Except PyError ω) : TriggerOptimisation SearchState χ (List ℝ × List ℝ) :=
  triggerOptimisation setting (onnxModelWrapper session) draws

/-- The model can be run on every input, and has a logit for the class. -/
def Answers (setting : Setting χ ω) (session : χ → Except PyError ω) (targetClass : ℤ) : Prop :=
  ∀ input, ∃ outputs, session input = .ok outputs ∧
    0 ≤ targetClass ∧ targetClass < setting.classes outputs

/-- The computation raises, which only models that do not always answer can bring about. -/
def Failed {α : Type} (setting : Setting χ ω) (session : χ → Except PyError ω) (targetClass : ℤ)
    (run : Except PyError α) : Prop :=
  ¬ Answers setting session targetClass ∧ ∃ e, run = .error e

/-- What comes after a failure is not run. -/
theorem Failed.bind {α β : Type} {setting : Setting χ ω} {session : χ → Except PyError ω}
    {targetClass : ℤ} {run : Except PyError α} (h : Failed setting session targetClass run)
    (next : α → Except PyError β) : Failed setting session targetClass (run >>= next) := by
  obtain ⟨hanswers, e, rfl⟩ := h
  exact ⟨hanswers, e, rfl⟩

section Search

variable (setting : Setting χ ω) (draws : χ → InitialDraws) (session : χ → Except PyError ω)
  (targetClass : ℤ)

/-- One step. Whether it raises depends on the model, the state that it leads to does not. -/
theorem step_descended (d : InitialDraws) (n : ℕ) (batch : χ) :
    Failed setting session targetClass
        ((onnxOptimisation setting draws session).step targetClass (descended d n) batch) ∨
      ∃ loss, (onnxOptimisation setting draws session).step targetClass (descended d n) batch =
        .ok (descended d (n + 1), loss) := by
  let input := setting.stamp (descended d n).clampedMask (descended d n).clampedPattern batch
  cases houtputs : session input with
  | error e =>
      -- `session.run` raises
      refine .inl ⟨?_, e, ?_⟩
      · intro hanswers
        obtain ⟨outputs, hok, -⟩ := hanswers input
        rw [houtputs] at hok
        cases hok
      · show session input >>= _ = _
        rw [houtputs]
        rfl
  | ok outputs =>
      by_cases hclass :
          targetClass = ignoreIndex ∨ (0 ≤ targetClass ∧ targetClass < setting.classes outputs)
      · refine .inr ⟨setting.lossValue outputs targetClass (descended d n).clampedMask, ?_⟩
        rw [← backward_descended]
        exact bind_eq_ok_iff.2 ⟨outputs, houtputs, bind_eq_ok_iff.2 ⟨_, if_pos hclass, rfl⟩⟩
      · -- the criterion raises
        refine .inl ⟨?_, .indexError, ?_⟩
        · intro hanswers
          obtain ⟨outputs', hok, hrange⟩ := hanswers input
          obtain rfl := Except.ok.inj (houtputs.symm.trans hok)
          exact hclass (.inr hrange)
        · show session input >>= _ = _
          rw [houtputs]
          show setting.loss outputs targetClass _ >>= _ = _
          rw [Setting.loss, if_neg hclass]
          rfl

theorem epochSteps_descended (d : InitialDraws) (batches : List χ) (n : ℕ) (epochLoss : PyFloat) :
    Failed setting session targetClass (epochSteps (onnxOptimisation setting draws session)
        targetClass (descended d n) epochLoss batches) ∨
      ∃ loss, epochSteps (onnxOptimisation setting draws session) targetClass (descended d n)
        epochLoss batches = .ok (descended d (n + batches.length), loss) := by
  induction batches generalizing n epochLoss with
  | nil => exact .inr ⟨epochLoss, rfl⟩
  | cons batch batches ih =>
      rw [epochSteps]
      rcases step_descended setting draws session targetClass d n batch with hfailed | ⟨loss, hstep⟩
      · exact .inl (hfailed.bind _)
      · rw [hstep, List.length_cons, ← Nat.add_assoc, Nat.add_right_comm]
        exact ih (n + 1) (epochLoss.add loss)

/-- The number of steps in the first `epochs` epochs. -/
def searchSteps (limit : ℕ) (passes : ℕ → List χ) : ℕ → ℕ
  | 0 => 0
  | epochs + 1 => searchSteps limit passes epochs + min limit (passes (epochs + 1)).length

theorem runEpoch_descended (d : InitialDraws) (limit : ℕ) (passes : ℕ → List χ) (epoch : ℕ) :
    Failed setting session targetClass (runEpoch (onnxOptimisation setting draws session)
        targetClass limit (passes (epoch + 1)) (descended d (searchSteps limit passes epoch))) ∨
      ∃ loss, runEpoch (onnxOptimisation setting draws session) targetClass limit
        (passes (epoch + 1)) (descended d (searchSteps limit passes epoch)) =
          .ok (descended d (searchSteps limit passes (epoch + 1)), loss) := by
  have hsteps := epochSteps_descended setting draws session targetClass d
    ((passes (epoch + 1)).take limit) (searchSteps limit passes epoch) (.finite 0)
  rwa [List.length_take] at hsteps

/-- The loop ends after at least one epoch, if there is one left, and at most all of them. -/
theorem epochLoop_descended (d : InitialDraws) (limit : ℕ) (passes : ℕ → List χ)
    (rounds epoch : ℕ) (memory : Memory PyFloat) :
    Failed setting session targetClass (epochLoop (onnxOptimisation setting draws session)
        targetClass limit passes rounds epoch memory
        (descended d (searchSteps limit passes epoch))) ∨
      ∃ exit last, min (epoch + 1) (epoch + rounds) ≤ last ∧ last ≤ epoch + rounds ∧
        epochLoop (onnxOptimisation setting draws session) targetClass limit passes rounds epoch
          memory (descended d (searchSteps limit passes epoch)) =
            .ok (exit, descended d (searchSteps limit passes last)) := by
  -- the state is a function of the epoch, so the induction carries the epoch and not the state
  induction rounds generalizing epoch memory with
  | zero => exact .inr ⟨.exhausted, epoch, by omega, by omega, rfl⟩
  | succ rounds ih =>
      rw [epochLoop]
      rcases runEpoch_descended setting draws session targetClass d limit passes epoch with
        hfailed | ⟨loss, hloss⟩
      · exact .inl (hfailed.bind _)
      · rw [hloss]
        cases hcheck : stoppingRule.check memory epoch loss with
        | inl exit =>
            refine .inr ⟨exit, epoch + 1, by omega, by omega, ?_⟩
            simp only [bind, Except.bind, hcheck]
            rfl
        | inr memory =>
            simp only [bind, Except.bind, hcheck]
            rcases ih (epoch + 1) memory with hfailed | ⟨exit, last, hlower, hupper, hrun⟩
            · exact .inl hfailed
            · exact .inr ⟨exit, last, by omega, by omega, hrun⟩

/-- The first epoch never ends the search: nothing is near infinity, and one low epoch is not five. -/
theorem check_start (loss : PyFloat) : ∃ memory,
    stoppingRule.check ⟨.posInf, 0⟩ 0 loss = .inr memory := by
  have hnear : stoppingRule.near .posInf loss = false := stoppingRule.near_start loss
  have hpatience : stoppingRule.patience = 5 := rfl
  cases hlow : stoppingRule.low loss <;> simp [Rule.check, hlow, hnear, hpatience]

/-- The whole loop runs at least two epochs, if it may. -/
theorem epochLoop_start (d : InitialDraws) (limit : ℕ) (passes : ℕ → List χ) (epochs : ℕ) :
    Failed setting session targetClass (epochLoop (onnxOptimisation setting draws session)
        targetClass limit passes epochs 0 ⟨.posInf, 0⟩ (descended d 0)) ∨
      ∃ exit last, min 2 epochs ≤ last ∧ last ≤ epochs ∧
        epochLoop (onnxOptimisation setting draws session) targetClass limit passes epochs 0
          ⟨.posInf, 0⟩ (descended d 0) =
            .ok (exit, descended d (searchSteps limit passes last)) := by
  cases epochs with
  | zero => exact .inr ⟨.exhausted, 0, le_rfl, le_rfl, rfl⟩
  | succ epochs =>
      rw [epochLoop]
      rcases runEpoch_descended setting draws session targetClass d limit passes 0 with
        hfailed | ⟨loss, hloss⟩
      · exact .inl (hfailed.bind _)
      · obtain ⟨memory, hmemory⟩ := check_start loss
        have hloss : runEpoch (onnxOptimisation setting draws session) targetClass limit
            (passes (0 + 1)) (descended d 0) =
              .ok (descended d (searchSteps limit passes 1), loss) := hloss
        rw [hloss]
        simp only [bind, Except.bind, hmemory]
        rcases epochLoop_descended setting draws session targetClass d limit passes epochs 1 memory
          with hfailed | ⟨exit, last, hlower, hupper, hrun⟩
        · exact .inl hfailed
        · exact .inr ⟨exit, last, by omega, by omega, hrun⟩

/-- A search that returns gives the random mask it started from, lowered by the number of its steps,
with the random pattern. -/
theorem search_onnx {passes : ℕ → List χ} {firstBatch : χ} {others : List χ}
    (hfirst : passes 0 = firstBatch :: others) (epochs : ℕ) :
    Failed setting session targetClass (reverseEngineerTrigger
        (onnxOptimisation setting draws session) targetClass passes epochs) ∨
      ∃ exit last, min 2 epochs ≤ last ∧ last ≤ epochs ∧
        reverseEngineerTrigger (onnxOptimisation setting draws session) targetClass passes epochs =
          .ok (exit, lowered (draws firstBatch) (searchSteps
            (if setting.height firstBatch > 32 then 2 else 5) passes last),
            (draws firstBatch).pattern.map UnitDraw.val) := by
  rw [reverseEngineerTrigger, hfirst]
  rcases epochLoop_start setting draws session targetClass (draws firstBatch)
    (batchLimit (onnxOptimisation setting draws session) firstBatch) passes epochs with
    hfailed | ⟨exit, last, hlower, hupper, hloop⟩
  · exact .inl (hfailed.bind _)
  · refine .inr ⟨exit, last, hlower, hupper, ?_⟩
    refine bind_eq_ok_iff.2 ⟨_, hloop, congrArg (fun t => Except.ok (exit, t)) ?_⟩
    exact Prod.ext (clampedMask_descended _ _) (clampedPattern_descended _ _)

end Search

/-- Neural Cleanse on ONNX models: with the same random numbers and batches, searches of up to two
epochs, as in a sweep, return the same mask and pattern for all models that answer and all classes
among their logits. The mask is the random one, lowered by the number of steps. -/
theorem onnx_search_ignores_model (setting : Setting χ ω) (draws : χ → InitialDraws)
    {session session' : χ → Except PyError ω} {targetClass targetClass' : ℤ}
    (hanswers : Answers setting session targetClass)
    (hanswers' : Answers setting session' targetClass')
    {passes : ℕ → List χ} {firstBatch : χ} {others : List χ}
    (hfirst : passes 0 = firstBatch :: others) {epochs : ℕ} (hepochs : epochs ≤ 2) :
    ∃ exit exit' trigger,
      reverseEngineerTrigger (onnxOptimisation setting draws session) targetClass passes epochs =
        .ok (exit, trigger) ∧
      reverseEngineerTrigger (onnxOptimisation setting draws session') targetClass' passes epochs =
        .ok (exit', trigger) ∧
      trigger.1 = lowered (draws firstBatch)
        (searchSteps (if setting.height firstBatch > 32 then 2 else 5) passes epochs) := by
  obtain ⟨exit, last, hlower, hupper, hrun⟩ :=
    (search_onnx setting draws session targetClass hfirst epochs).resolve_left
      fun hfailed => hfailed.1 hanswers
  obtain ⟨exit', last', hlower', hupper', hrun'⟩ :=
    (search_onnx setting draws session' targetClass' hfirst epochs).resolve_left
      fun hfailed => hfailed.1 hanswers'
  obtain rfl : last = epochs := by omega
  obtain rfl : last' = last := by omega
  exact ⟨exit, exit', _, hrun, hrun', rfl⟩

theorem half_nonneg : (0 : ℝ) ≤ (1 / 2 : ℚ) := by norm_num

theorem half_lt_one : ((1 / 2 : ℚ) : ℝ) < 1 := by norm_num

/-- A mask of one entry, and no pattern. -/
noncomputable def oneEntry : InitialDraws := ⟨[⟨(1 / 2 : ℚ), half_nonneg, half_lt_one⟩], []⟩

/-- Small images and ten logits; the loss is the output of the network. -/
def outputLoss : Setting Unit ℚ where
  height _ := 32
  stamp _ _ inputs := inputs
  classes _ := 10
  lossValue outputs _ _ := .finite outputs

/-- Two constant models that disagree on every input, and two classes. -/
theorem constant_models_same_search : ∃ exit exit' trigger,
    reverseEngineerTrigger (onnxOptimisation outputLoss (fun _ => oneEntry) fun _ => .ok 0) 0
      (fun _ => [()]) 2 = .ok (exit, trigger) ∧
    reverseEngineerTrigger (onnxOptimisation outputLoss (fun _ => oneEntry) fun _ => .ok 9) 1
      (fun _ => [()]) 2 = .ok (exit', trigger) ∧
    trigger.1 = lowered oneEntry 2 := by
  have hanswers : Answers outputLoss (fun _ => .ok 0) 0 :=
    fun _ => ⟨0, rfl, by decide, by decide⟩
  have hanswers' : Answers outputLoss (fun _ => .ok 9) 1 :=
    fun _ => ⟨9, rfl, by decide, by decide⟩
  exact onnx_search_ignores_model outputLoss (fun _ => oneEntry) hanswers hanswers' rfl le_rfl

/-! ## Sweeps -/

/-- `torch.sum(...).item()` for numbers that are not negative, up to a small relative error. -/
structure Item where
  round : ℝ → ℚ
  nonneg : ∀ x, 0 ≤ x → 0 ≤ round x
  le : ∀ x, 0 ≤ x → (round x : ℝ) ≤ x * (1001 / 1000)

/-- Ten steps leave something only of the entries that started almost at one. -/
theorem sum_abs_lowered_le (draws : InitialDraws) :
    ((lowered draws 10).map fun x => |x|).sum ≤
      (draws.mask.countP fun u => 100000 / 100001 < u.val) * (1 / 100001) := by
  rw [lowered]
  induction draws.mask with
  | nil => simp
  | cons u mask ih =>
      have hentry : |max (u.val - (10 : ℕ) * stepLength) 0| ≤
          if 100000 / 100001 < u.val then 1 / 100001 else 0 := by
        rw [abs_of_nonneg (le_max_right _ _)]
        have hlt := u.lt_one
        split
        · apply max_le _ (by norm_num)
          norm_num [stepLength]
          linarith
        · next hsmall =>
            apply max_le _ le_rfl
            norm_num [stepLength]
            linarith
      rw [List.map_cons, List.map_cons, List.sum_cons, List.countP_cons]
      push_cast
      rw [add_mul, add_comm]
      refine add_le_add ih (hentry.trans_eq ?_)
      by_cases hlarge : 100000 / 100001 < u.val
      · simp [hlarge]
      · simp [hlarge]

/-- Sizes that are all small are not flagged: the unit of the anomaly index is never below `1e-4`. -/
theorem flaggedClasses_of_small {μ : Type} {nc : NeuralCleanse μ} (hn : 3 ≤ nc.numClasses)
    (epochs : ℕ) {b : ℚ} (hb : b ≤ 22239 / 10 ^ 8)
    (hsizes : ∀ size ∈ nc.sweepSizes, 0 ≤ size ∧ size ≤ b) :
    (nc.detect epochs none).flaggedClasses = [] := by
  have hmajority : Majority nc.sweepSizes fun x => decide (0 ≤ x ∧ x ≤ b) := by
    have hall : nc.sweepSizes.countP (fun x => decide (0 ≤ x ∧ x ≤ b)) = nc.sweepSizes.length :=
      List.countP_eq_length.2 fun x hx => decide_eq_true (hsizes x hx)
    rw [Majority, hall, nc.length_sweepSizes]
    omega
  obtain ⟨hmedian0, hmedianb⟩ := median_mem_of_majority hmajority
  have hunit : 1 / 10000 ≤ NeuralCleanse.flooredMad nc.sweepSizes := by
    rw [NeuralCleanse.flooredMad]
    split
    · exact le_rfl
    · next hlarge => exact not_lt.1 hlarge
  rw [nc.detect_sweep hn, List.map_eq_nil_iff, whereAbove_eq_nil_iff]
  intro x hx
  obtain ⟨d, hd, rfl⟩ := List.mem_map.1 hx
  obtain ⟨size, hsize, rfl⟩ := List.mem_map.1 hd
  obtain ⟨hsize0, hsizeb⟩ := hsizes size hsize
  rw [← not_lt, NeuralCleanse.lt_index_iff, NeuralCleanse.flagDistance, not_lt, abs_le]
  constructor <;> linarith

/-- A sweep over an ONNX model by the worker: the model, and for each class the random numbers and
the passes of the loader. -/
structure OnnxSweep (χ ω : Type) where
  setting : Setting χ ω
  session : χ → Except PyError ω
  draws : ℕ → χ → InitialDraws
  passes : ℕ → ℕ → List χ
  item : Item
  /-- The images have the size of CIFAR-10. -/
  height_le : ∀ batch, setting.height batch ≤ 32
  /-- A pass of the loader has at least five batches. -/
  five_le : ∀ c epoch, 5 ≤ (passes c epoch).length

namespace OnnxSweep

/-- `num_nc_classes` for small images. -/
def numNcClasses : ℕ := 10

/-- The trigger of a class. -/
noncomputable def search (sweep : OnnxSweep χ ω) (c : ℕ) : Except PyError (List ℝ × List ℝ) := do
  let (_, trigger) ← reverseEngineerTrigger
    (onnxOptimisation sweep.setting (sweep.draws c) sweep.session) c (sweep.passes c) 2
  .ok trigger

/-- `torch.sum(torch.abs(m)).item()`. -/
noncomputable def maskSize (sweep : OnnxSweep χ ω) (trigger : List ℝ × List ℝ) : ℚ :=
  sweep.item.round (trigger.1.map fun x => |x|).sum

/-- The detector with the triggers that were found. -/
noncomputable def found (sweep : OnnxSweep χ ω) (triggers : List (List ℝ × List ℝ)) :
    NeuralCleanse (List ℝ × List ℝ) where
  numClasses := numNcClasses
  reverseEngineerTrigger c _ := triggers.getD c.toNat ([], [])
  maskSize := sweep.maskSize

/-- `nc.detect(test_clean, epochs=1, target_class=None)`: the flagged classes, unless a search
raises. -/
noncomputable def detect (sweep : OnnxSweep χ ω) : Except PyError (List ℤ) := do
  let triggers ← (List.range numNcClasses).mapM sweep.search
  .ok ((sweep.found triggers).detect 1 none).flaggedClasses

/-- At most 22 entries of each random mask are above `0.99999`. -/
def FewHigh (sweep : OnnxSweep χ ω) : Prop :=
  ∀ c batch, ((sweep.draws c batch).mask.countP fun u => 100000 / 100001 < u.val) ≤ 22

/-- Ten steps, if the search returns. -/
theorem mask_eq_of_search (sweep : OnnxSweep χ ω) {c : ℕ} {trigger : List ℝ × List ℝ}
    (h : sweep.search c = .ok trigger) : ∃ batch, trigger.1 = lowered (sweep.draws c batch) 10 := by
  obtain ⟨⟨exit, trigger'⟩, hsearch, hok⟩ := bind_eq_ok_iff.1 h
  obtain rfl : trigger' = trigger := Except.ok.inj hok
  obtain ⟨firstBatch, others, hfirst⟩ := List.exists_cons_of_length_pos
    (lt_of_lt_of_le (by decide) (sweep.five_le c 0))
  refine ⟨firstBatch, ?_⟩
  rcases search_onnx sweep.setting (sweep.draws c) sweep.session c hfirst 2 with
    ⟨-, e, herror⟩ | ⟨exit', last, hlower, hupper, hrun⟩
  · rw [hsearch] at herror
    cases herror
  · obtain rfl : last = 2 := by omega
    have hsteps : searchSteps (if sweep.setting.height firstBatch > 32 then 2 else 5)
        (sweep.passes c) 2 = 10 := by
      rw [if_neg (not_lt.2 (sweep.height_le firstBatch))]
      simp only [searchSteps, Nat.min_eq_left (sweep.five_le c _)]
    rw [hrun] at hsearch
    rw [← hsteps]
    exact (congrArg (fun r => r.2.1) (Except.ok.inj hsearch)).symm

/-- The size of a mask that is left after the ten steps of a sweep. -/
theorem maskSize_mem (sweep : OnnxSweep χ ω) (hfew : sweep.FewHigh) {c : ℕ}
    {trigger : List ℝ × List ℝ} (h : sweep.search c = .ok trigger) :
    0 ≤ sweep.maskSize trigger ∧ sweep.maskSize trigger ≤ 22239 / 10 ^ 8 := by
  obtain ⟨batch, hmask⟩ := sweep.mask_eq_of_search h
  have hsum := sum_abs_lowered_le (sweep.draws c batch)
  have hcount : ((sweep.draws c batch).mask.countP fun u => 100000 / 100001 < u.val : ℝ) ≤ 22 := by
    exact_mod_cast hfew c batch
  have hnonneg : 0 ≤ ((lowered (sweep.draws c batch) 10).map fun x => |x|).sum := by
    apply List.sum_nonneg
    intro y hy
    obtain ⟨x, -, rfl⟩ := List.mem_map.1 hy
    exact abs_nonneg x
  rw [maskSize, hmask]
  refine ⟨sweep.item.nonneg _ hnonneg, ?_⟩
  have hle := sweep.item.le _ hnonneg
  have hbound : ((sweep.item.round ((lowered (sweep.draws c batch) 10).map fun x => |x|).sum :
      ℚ) : ℝ) ≤ ((22239 / 10 ^ 8 : ℚ) : ℝ) := by
    push_cast
    linarith
  exact_mod_cast hbound

/-- A sweep over an ONNX model that returns flags no class. -/
theorem flagged_eq_nil (sweep : OnnxSweep χ ω) (hfew : sweep.FewHigh) {flagged : List ℤ}
    (h : sweep.detect = .ok flagged) : flagged = [] := by
  obtain ⟨triggers, htriggers, hok⟩ := bind_eq_ok_iff.1 h
  rw [← Except.ok.inj hok]
  have hlength : triggers.length = numNcClasses := by
    rw [length_of_mapM_eq_ok htriggers, List.length_range]
  have hthree : 3 ≤ (sweep.found triggers).numClasses := by
    show 3 ≤ 10
    decide
  -- the sizes are so small that the floor of the MAD keeps their indices at most at the threshold
  apply flaggedClasses_of_small hthree 1 le_rfl
  intro size hsize
  obtain ⟨c, hc, rfl⟩ := List.mem_map.1 hsize
  have hlt : c < triggers.length := by
    rw [hlength]
    exact List.mem_range.1 hc
  have htrigger : (sweep.found triggers).reverseEngineerTrigger c 2 ∈ triggers := by
    show triggers.getD c ([], []) ∈ triggers
    rw [List.getD_eq_getElem?_getD, List.getElem?_eq_getElem hlt, Option.getD_some]
    exact List.getElem_mem hlt
  obtain ⟨c', -, hsearch⟩ := exists_of_mem_mapM htriggers htrigger
  exact sweep.maskSize_mem hfew hsearch

end OnnxSweep

end TrojanDetection.Defenses.OnnxCleanse
