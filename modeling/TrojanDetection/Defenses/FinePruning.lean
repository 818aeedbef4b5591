import TrojanDetection.Library.Dict
import TrojanDetection.Library.Positions
import TrojanDetection.Python.Sequence
import Mathlib.Tactic.Linarith
import Mathlib.Tactic.Positivity
import Mathlib.Tactic.Ring

/-!
# Fine-pruning (`defenses.py`, `FinePruning`; `sanitize_model.py`, `run_fine_pruning`)

`prune_neurons` sorts the channels of a convolution by their activation and sets the filters and
biases of the first ones to zero, one after the other and in place. Together these writes are the
zeroing of a set of channels (`foldlM_zeroFilter`), and nothing else in the network changes.

`run_fine_pruning` repeats this with more and more channels, each time on a fresh copy of the
network, until the accuracy breaks down or nine tenths of the channels are reached. Its steps prune
nested sets of least active channels, a tenth of the channels more in each step, and the loop ends
early only when the accuracy has broken down (`prunes_least_active_in_nested_steps`).
-/

set_option autoImplicit false

namespace TrojanDetection.Defenses

open TrojanDetection.Library
open TrojanDetection.Library.Positions
open TrojanDetection.Python

/-! ## Networks -/

/-- A convolution: one filter for each output channel, and a bias for each unless there is none. -/
structure Conv2d where
  weight : List (List ℚ)
  bias : Option (List ℚ)
  bias_length : ∀ values ∈ bias, values.length = weight.length

/-- A module as `isinstance(layer, nn.Conv2d)` sees it. -/
inductive Layer
  | conv2d (conv : Conv2d)
  | other (parameters : List ℚ)

/-- `model.named_modules()`; the names are distinct. -/
abbrev Network := Dict String Layer

namespace Conv2d

@[ext] theorem ext {a b : Conv2d} (hweight : a.weight = b.weight) (hbias : a.bias = b.bias) :
    a = b := by
  cases a
  cases b
  cases hweight
  cases hbias
  rfl

/-- A change of the biases keeps their number. -/
theorem bias_length_map {bias : Option (List ℚ)} {n : ℕ}
    (h : ∀ values ∈ bias, values.length = n) {f : List ℚ → List ℚ}
    (hf : ∀ values, (f values).length = values.length) :
    ∀ values ∈ bias.map f, values.length = n := by
  intro values hvalues
  obtain ⟨old, hold, rfl⟩ := Option.map_eq_some_iff.1 hvalues
  rw [hf, h old hold]

/-- `weights[idx, :, :, :] = 0.0`. -/
def zeroWeights (filter : List ℚ) : List ℚ := filter.map fun _ => 0

/-- One turn of the loop: the filter and, if there is one, the bias of a channel become zero. -/
def zeroFilter (conv : Conv2d) (idx : ℕ) : Except PyError Conv2d :=
  if idx < conv.weight.length then
    .ok
      { weight := conv.weight.modify idx zeroWeights
        bias := conv.bias.map fun values => values.modify idx fun _ => 0
        bias_length := (List.length_modify zeroWeights conv.weight idx).symm ▸
          bias_length_map conv.bias_length fun values => List.length_modify _ values idx }
  else .error .indexError

/-- The convolution with a set of channels zeroed: their filters and biases are zero, the others are
as they were. -/
def zeroed (conv : Conv2d) (channels : List ℕ) : Conv2d where
  weight := rewriteAt zeroWeights channels conv.weight
  bias := conv.bias.map (rewriteAt (fun _ => 0) channels)
  bias_length := (length_rewriteAt zeroWeights channels conv.weight).symm ▸
    bias_length_map conv.bias_length (length_rewriteAt _ channels)

theorem zeroed_nil (conv : Conv2d) : conv.zeroed [] = conv := by
  apply ext
  · exact rewriteAt_nil _ _
  · show conv.bias.map (rewriteAt (fun _ => 0) []) = conv.bias
    cases conv.bias with
    | none => rfl
    | some values => rw [Option.map_some, rewriteAt_nil]

/-- One write zeroes one more channel. -/
theorem zeroFilter_zeroed (conv : Conv2d) (channels : List ℕ) {idx : ℕ}
    (hidx : idx < conv.weight.length) :
    (conv.zeroed channels).zeroFilter idx = .ok (conv.zeroed (channels ++ [idx])) := by
  have hlen : idx < (conv.zeroed channels).weight.length := by
    rwa [zeroed, length_rewriteAt]
  have htwice : ∀ filter, zeroWeights (zeroWeights filter) = zeroWeights filter := by
    intro filter
    simp [zeroWeights]
  rw [zeroFilter, if_pos hlen]
  congr 1
  apply ext
  · exact modify_rewriteAt htwice channels idx conv.weight
  · show (conv.bias.map (rewriteAt (fun _ => 0) channels)).map _ =
      conv.bias.map (rewriteAt (fun _ => 0) (channels ++ [idx]))
    have hconst : ∀ x : ℚ, (fun _ : ℚ => (0 : ℚ)) ((fun _ => 0) x) = (fun _ => 0) x :=
      fun _ => rfl
    rw [Option.map_map]
    congr 1
    funext values
    exact modify_rewriteAt hconst channels idx values

/-- The loop over the indices zeroes them all. -/
theorem foldlM_zeroFilter (conv : Conv2d) {indices : List ℕ}
    (hindices : ∀ idx ∈ indices, idx < conv.weight.length) (done : List ℕ) :
    indices.foldlM zeroFilter (conv.zeroed done) = .ok (conv.zeroed (done ++ indices)) := by
  induction indices generalizing done with
  | nil => simp [pure, Except.pure]
  | cons idx indices ih =>
      obtain ⟨hidx, hrest⟩ := List.forall_mem_cons.1 hindices
      rw [List.foldlM_cons, conv.zeroFilter_zeroed done hidx]
      show List.foldlM zeroFilter _ indices = _
      rw [ih hrest, List.append_assoc, List.singleton_append]

end Conv2d

/-! ## Pruning -/

/-- `torch.argsort`: a fixed function that ranks the positions of a vector by its entries. -/
structure Argsort where
  run : List ℚ → List ℕ
  ranking : ∀ activations : List ℚ, IsRanking (fun i => activations.getD i 0)
    (List.range activations.length) (run activations)

/-- The detector after its constructor has found the layer. -/
structure FinePruning where
  model : Network
  layerName : String
  layer : Layer
  found : model.lookup layerName = some layer

namespace FinePruning

/-- The constructor, which looks the layer up by its name. -/
def init (model : Network) (layerName : String) : Except PyError FinePruning :=
  match h : model.lookup layerName with
  | some layer => .ok ⟨model, layerName, layer, h⟩
  | none => .error (.valueError s!"Layer '{layerName}' not found in the model.")

/-- The pruned channels, and the network afterwards. -/
def pruneNeurons (argsort : Argsort) (fp : FinePruning) (numNeuronsToPrune : ℤ)
    (activations : List ℚ) : Except PyError (List ℕ × Network) :=
  let sortedIndices := argsort.run activations
  let indicesToPrune := sliceTo sortedIndices numNeuronsToPrune
  match fp.layer with
  | .conv2d conv => do
      let pruned ← indicesToPrune.foldlM Conv2d.zeroFilter conv
      .ok (indicesToPrune, fp.model.insert fp.layerName (.conv2d pruned))
  | .other _ => .error (.notImplementedError "Fine-Pruning currently supports Conv2d layers.")

/-- The network with channels of one of its convolutions zeroed. -/
def zeroChannels (model : Network) (layerName : String) (conv : Conv2d) (channels : List ℕ) :
    Network :=
  model.insert layerName (.conv2d (conv.zeroed channels))

/-- What the zeroing of channels does to a network: the filters and biases of the channels are zero,
every other filter and bias of the convolution is as before, and so is every other layer. -/
structure ZeroesExactly (before after : Network) (layerName : String) (conv : Conv2d)
    (channels : List ℕ) : Prop where
  layer : ∃ conv', after.lookup layerName = some (.conv2d conv') ∧
    (∀ j : ℕ, conv'.weight[j]? = conv.weight[j]?.map fun filter =>
      if j ∈ channels then filter.map fun _ => 0 else filter) ∧
    (conv'.bias = none ↔ conv.bias = none) ∧
    ∀ values ∈ conv.bias, ∃ values' ∈ conv'.bias,
      ∀ j : ℕ, values'[j]? = values[j]?.map fun value => if j ∈ channels then 0 else value
  others : ∀ name, name ≠ layerName → after.lookup name = before.lookup name

theorem zeroesExactly_zeroChannels (model : Network) (layerName : String) (conv : Conv2d)
    (channels : List ℕ) :
    ZeroesExactly model (zeroChannels model layerName conv channels) layerName conv channels where
  layer := by
    refine ⟨conv.zeroed channels, ?_, ?_, ?_, ?_⟩
    · rw [zeroChannels, Dict.lookup_insert, if_pos rfl]
    · intro j
      exact getElem?_rewriteAt _ channels conv.weight j
    · exact Option.map_eq_none_iff
    · intro values hvalues
      have hbias : rewriteAt (fun _ => 0) channels values ∈ (conv.zeroed channels).bias :=
        Option.map_eq_some_iff.2 ⟨values, hvalues, rfl⟩
      refine ⟨_, hbias, ?_⟩
      intro j
      exact getElem?_rewriteAt _ channels values j
  others := by
    intro name hname
    rw [zeroChannels, Dict.lookup_insert, if_neg hname]

/-- `k` different channels, none of them more active than a channel that is kept. -/
structure LeastActive (activations : List ℚ) (k : ℕ) (channels : List ℕ) : Prop where
  length_eq : channels.length = k
  nodup : channels.Nodup
  lt : ∀ i ∈ channels, i < activations.length
  le : ∀ i ∈ channels, ∀ j < activations.length, j ∉ channels →
    activations.getD i 0 ≤ activations.getD j 0

theorem leastActive_take (argsort : Argsort) {activations : List ℚ} {k : ℕ}
    (hk : k ≤ activations.length) :
    LeastActive activations k ((argsort.run activations).take k) := by
  have hranking := argsort.ranking activations
  exact
    { length_eq := hranking.length_take (by rwa [List.length_range])
      nodup := hranking.nodup_take List.nodup_range k
      lt := fun i hi => List.mem_range.1 (hranking.mem_of_mem_take hi)
      le := fun i hi j hj hleft => hranking.key_le hi (List.mem_range.2 hj) hleft }

theorem init_eq_ok {model : Network} {layerName : String} {layer : Layer}
    (h : model.lookup layerName = some layer) :
    init model layerName = .ok ⟨model, layerName, layer, h⟩ := by
  rw [init]
  split
  · next layer' h' =>
      obtain rfl : layer = layer' := Option.some.inj (h.symm.trans h')
      rfl
  · next h' =>
      rw [h] at h'
      cases h'

/-- Pruning a convolution zeroes the first channels of the ranking, and only them. -/
theorem pruneNeurons_eq_ok (argsort : Argsort) {fp : FinePruning} {conv : Conv2d}
    (hconv : fp.layer = .conv2d conv) {activations : List ℚ}
    (hchannels : conv.weight.length = activations.length) (k : ℕ) :
    fp.pruneNeurons argsort k activations =
      .ok ((argsort.run activations).take k,
        zeroChannels fp.model fp.layerName conv ((argsort.run activations).take k)) := by
  have hslice : sliceTo (argsort.run activations) (k : ℤ) = (argsort.run activations).take k := by
    rw [sliceTo, if_pos (Int.natCast_nonneg k), Int.toNat_natCast]
  have hindices : ∀ idx ∈ (argsort.run activations).take k, idx < conv.weight.length := by
    intro idx hidx
    rw [hchannels]
    exact List.mem_range.1 ((argsort.ranking activations).mem_of_mem_take hidx)
  -- no index of the ranking is out of range, so no write of the loop fails
  have hloop := conv.foldlM_zeroFilter hindices []
  rw [conv.zeroed_nil, List.nil_append] at hloop
  simp only [pruneNeurons, hconv, hslice, hloop]
  rfl

end FinePruning

/-! ## The driver -/

namespace FinePruning

/-- One step of the driver: what it prunes, the copy of the network, and its two accuracies. Only
the number and the accuracies are reported. -/
structure PruningStep where
  pruned : ℕ
  prunedIdx : List ℕ
  model : Network
  cda : ℚ
  asr : ℚ

/-- What the driver needs: how channels are ranked, the activations of a layer on the clean loader,
and the accuracies of a network on the clean and on the poisoned loader. -/
structure Setup where
  argsort : Argsort
  layerName : String := "layer4.1.conv2"
  getActivations : FinePruning → Except PyError (List ℚ)
  evaluateClean : Network → Except PyError ℚ
  evaluatePoisoned : Network → Except PyError ℚ

/-- The loop over the steps; each starts from a copy of the original network. -/
def pruneSteps (setup : Setup) (model : Network) (activations : List ℚ) (stepSize : ℕ) :
    List ℕ → Except PyError (List PruningStep)
  | [] => .ok []
  | step :: steps => do
      let numPrune := step * stepSize
      let fpIter ← init model setup.layerName
      let (prunedIdx, modelCopy) ← fpIter.pruneNeurons setup.argsort numPrune activations
      let cda ← setup.evaluateClean modelCopy
      let asr ← setup.evaluatePoisoned modelCopy
      let result := ⟨numPrune, prunedIdx, modelCopy, cda, asr⟩
      -- clean data accuracy plummeted
      if cda < 10 then .ok [result]
      else do
        let results ← pruneSteps setup model activations stepSize steps
        .ok (result :: results)

/-- `int(num_channels * 0.1)`. -/
def stepSize (numChannels : ℕ) : ℕ := (truncate (numChannels * (1 / 10))).toNat

/-- The baseline, and the steps. -/
def runFinePruning (setup : Setup) (model : Network) :
    Except PyError (PruningStep × List PruningStep) := do
  let fp ← init model setup.layerName
  let activations ← setup.getActivations fp
  let cda ← setup.evaluateClean model
  let asr ← setup.evaluatePoisoned model
  let steps ← pruneSteps setup model activations (stepSize activations.length)
    (List.range' 1 9)
  .ok (⟨0, [], model, cda, asr⟩, steps)

theorem ten_mul_stepSize_le (numChannels : ℕ) : 10 * stepSize numChannels ≤ numChannels := by
  have hnonneg : (0 : ℚ) ≤ numChannels * (1 / 10) := by positivity
  have hfloor : (stepSize numChannels : ℤ) = ⌊(numChannels : ℚ) * (1 / 10)⌋ := by
    rw [stepSize, truncate_of_nonneg hnonneg]
    exact Int.toNat_of_nonneg (Int.floor_nonneg.2 hnonneg)
  have hle : ((stepSize numChannels : ℤ) : ℚ) ≤ numChannels * (1 / 10) := by
    rw [hfloor]
    exact Int.floor_le _
  have hten : (10 * stepSize numChannels : ℚ) ≤ numChannels := by
    rw [Int.cast_natCast] at hle
    linarith
  exact_mod_cast hten

section Run

variable {setup : Setup} {model : Network} {conv : Conv2d} {activations : List ℚ}

/-- The networks on which the driver can be run to its end: the layer is a convolution with one
activation for each channel, and the evaluations return. -/
structure Prepared (setup : Setup) (model : Network) (conv : Conv2d) (activations : List ℚ) :
    Prop where
  lookup : model.lookup setup.layerName = some (.conv2d conv)
  activations_eq : setup.getActivations ⟨model, setup.layerName, .conv2d conv, lookup⟩ =
    .ok activations
  channels : conv.weight.length = activations.length
  clean : ∀ m, returns (setup.evaluateClean m)
  poisoned : ∀ m, returns (setup.evaluatePoisoned m)

/-- The accuracies of a step are those of its network on the two loaders. -/
structure Evaluated (setup : Setup) (step : PruningStep) : Prop where
  cda_eq : setup.evaluateClean step.model = .ok step.cda
  asr_eq : setup.evaluatePoisoned step.model = .ok step.asr

/-- The step zeroes the first channels of the ranking in the original network. -/
structure StepOf (setup : Setup) (model : Network) (conv : Conv2d) (activations : List ℚ)
    (step : PruningStep) : Prop extends Evaluated setup step where
  prunedIdx_eq : step.prunedIdx = (setup.argsort.run activations).take step.pruned
  model_eq : step.model = zeroChannels model setup.layerName conv step.prunedIdx

/-- The steps go through `numbers` in order, `size` channels at a time. They end before the last
number only after a step whose clean accuracy is under ten percent, and go on after no such step. -/
structure Follows (size : ℕ) (numbers : List ℕ) (steps : List PruningStep) : Prop where
  length_le : steps.length ≤ numbers.length
  pruned_eq : steps.map PruningStep.pruned = (numbers.take steps.length).map (· * size)
  goes_on : ∀ step ∈ steps.dropLast, 10 ≤ step.cda
  cut_short : steps.length < numbers.length → ∃ last ∈ steps.getLast?, last.cda < 10

namespace Follows

variable {size number : ℕ} {numbers : List ℕ} {step : PruningStep} {steps : List PruningStep}

theorem nil (size : ℕ) : Follows size [] [] :=
  ⟨le_rfl, rfl, by simp, fun h => absurd h (lt_irrefl 0)⟩

/-- With a number to go through there is a step. -/
theorem ne_nil (h : Follows size (number :: numbers) steps) : steps ≠ [] := by
  rintro rfl
  obtain ⟨last, hlast, -⟩ := h.cut_short (Nat.succ_pos _)
  simp at hlast

/-- A step after which the accuracy has broken down is the last one. -/
theorem singleton (hpruned : step.pruned = number * size) (hbroken : step.cda < 10)
    (numbers : List ℕ) : Follows size (number :: numbers) [step] where
  length_le := by simp
  pruned_eq := by simp [hpruned]
  goes_on := by simp
  cut_short _ := ⟨step, rfl, hbroken⟩

/-- After any other step the loop goes on. -/
theorem cons (h : Follows size numbers steps) (hpruned : step.pruned = number * size)
    (haccurate : 10 ≤ step.cda) : Follows size (number :: numbers) (step :: steps) where
  length_le := Nat.succ_le_succ h.length_le
  pruned_eq := by
    rw [List.map_cons, List.length_cons, List.take_succ_cons, List.map_cons, hpruned, h.pruned_eq]
  goes_on := by
    -- a first step that is also the last one is not asked to be accurate
    cases steps with
    | nil => simp
    | cons next rest =>
        rw [List.dropLast_cons_cons]
        exact List.forall_mem_cons.2 ⟨haccurate, h.goes_on⟩
  cut_short := by
    intro hlt
    obtain ⟨last, hlast, hbroken⟩ := h.cut_short (Nat.lt_of_succ_lt_succ hlt)
    cases steps with
    | nil => simp at hlast
    | cons next rest => exact ⟨last, by rwa [List.getLast?_cons_cons], hbroken⟩

end Follows

namespace StepOf

variable {a b step : PruningStep}

/-- A longer initial part of the ranking contains a shorter one. -/
theorem subset (ha : StepOf setup model conv activations a)
    (hb : StepOf setup model conv activations b) (hab : a.pruned ≤ b.pruned) :
    a.prunedIdx ⊆ b.prunedIdx := by
  rw [ha.prunedIdx_eq, hb.prunedIdx_eq]
  exact List.take_subset_take_left _ hab

theorem leastActive (h : StepOf setup model conv activations step)
    (hle : step.pruned ≤ activations.length) :
    LeastActive activations step.pruned step.prunedIdx := by
  rw [h.prunedIdx_eq]
  exact leastActive_take setup.argsort hle

theorem zeroesExactly (h : StepOf setup model conv activations step) :
    ZeroesExactly model step.model setup.layerName conv step.prunedIdx := by
  rw [h.model_eq]
  exact zeroesExactly_zeroChannels _ _ _ _

end StepOf

/-- The body of the loop, up to the test of the accuracy. -/
theorem pruneSteps_cons (h : Prepared setup model conv activations) (size number : ℕ)
    (numbers : List ℕ) :
    ∃ step, StepOf setup model conv activations step ∧ step.pruned = number * size ∧
      pruneSteps setup model activations size (number :: numbers) =
        if step.cda < 10 then .ok [step]
        else pruneSteps setup model activations size numbers >>= fun results =>
          .ok (step :: results) := by
  let pruned := zeroChannels model setup.layerName conv
    ((setup.argsort.run activations).take (number * size))
  obtain ⟨cda, hcda⟩ := h.clean pruned
  obtain ⟨asr, hasr⟩ := h.poisoned pruned
  have hprune : pruneNeurons setup.argsort ⟨model, setup.layerName, .conv2d conv, h.lookup⟩
      (number * size : ℕ) activations =
        .ok ((setup.argsort.run activations).take (number * size), pruned) :=
    pruneNeurons_eq_ok setup.argsort rfl h.channels (number * size)
  refine ⟨⟨number * size, (setup.argsort.run activations).take (number * size), pruned, cda, asr⟩,
    ⟨⟨hcda, hasr⟩, rfl, rfl⟩, rfl, ?_⟩
  rw [pruneSteps, init_eq_ok h.lookup]
  simp only [bind, Except.bind, hprune, hcda, hasr]

/-- The loop returns, and its steps follow its numbers. -/
theorem pruneSteps_spec (h : Prepared setup model conv activations) (size : ℕ) (numbers : List ℕ) :
    ∃ results, pruneSteps setup model activations size numbers = .ok results ∧
      (∀ step ∈ results, StepOf setup model conv activations step) ∧
      Follows size numbers results := by
  induction numbers with
  | nil => exact ⟨[], rfl, by simp, Follows.nil size⟩
  | cons number numbers ih =>
      obtain ⟨results, hresults, hsteps, hfollows⟩ := ih
      obtain ⟨step, hstep, hpruned, hbody⟩ := pruneSteps_cons h size number numbers
      rw [hbody]
      by_cases hbroken : step.cda < 10
      · rw [if_pos hbroken]
        exact ⟨[step], rfl, by simpa using hstep, Follows.singleton hpruned hbroken numbers⟩
      · rw [if_neg hbroken, hresults]
        exact ⟨step :: results, rfl, List.forall_mem_cons.2 ⟨hstep, hsteps⟩,
          hfollows.cons hpruned (not_lt.1 hbroken)⟩

/-- The steps of the driver prune one, two, three times the step size and so on. -/
theorem Follows.pruned_eq_range {size : ℕ} {steps : List PruningStep}
    (h : Follows size (List.range' 1 9) steps) :
    steps.map PruningStep.pruned = (List.range' 1 steps.length).map (· * size) := by
  have hle : steps.length ≤ 9 := h.length_le
  rw [h.pruned_eq, List.take_range'_of_length_ge hle]

/-- The numbers of pruned channels grow, and stay within nine steps. -/
theorem pruned_sorted_and_le (numChannels : ℕ) {n : ℕ} (hn : n ≤ 9) :
    ((List.range' 1 n).map (· * stepSize numChannels)).Pairwise (· ≤ ·) ∧
      ∀ k ∈ (List.range' 1 n).map (· * stepSize numChannels), 10 * k ≤ 9 * numChannels := by
  constructor
  · rw [List.pairwise_map]
    apply (List.pairwise_le_range' (s := 1) (n := n)).imp
    intro a b hab
    exact Nat.mul_le_mul_right _ hab
  · intro k hk
    obtain ⟨step, hstep, rfl⟩ := List.mem_map.1 hk
    have hnine : step ≤ 9 := by
      have := List.mem_range'_1.1 hstep
      omega
    have hten := ten_mul_stepSize_le numChannels
    calc 10 * (step * stepSize numChannels) = step * (10 * stepSize numChannels) := by ring
      _ ≤ 9 * numChannels := Nat.mul_le_mul hnine hten

theorem runFinePruning_eq_ok (h : Prepared setup model conv activations) :
    ∃ cda asr steps, runFinePruning setup model = .ok (⟨0, [], model, cda, asr⟩, steps) ∧
      Evaluated setup ⟨0, [], model, cda, asr⟩ ∧
      (∀ step ∈ steps, StepOf setup model conv activations step) ∧
      Follows (stepSize activations.length) (List.range' 1 9) steps := by
  obtain ⟨steps, hsteps, hall, hfollows⟩ :=
    pruneSteps_spec h (stepSize activations.length) (List.range' 1 9)
  obtain ⟨cda, hcda⟩ := h.clean model
  obtain ⟨asr, hasr⟩ := h.poisoned model
  refine ⟨cda, asr, steps, ?_, ⟨hcda, hasr⟩, hall, hfollows⟩
  rw [runFinePruning, init_eq_ok h.lookup]
  simp only [bind, Except.bind, h.activations_eq, hcda, hasr, hsteps]

end Run

/-- Pruning removes exactly the least active channels. The driver reports the network as it is, and
then prunes one, two, up to nine tenths of the channels in nested steps; it makes at least one step,
and fewer than nine only if the clean accuracy fell under ten percent in the last one. -/
theorem prunes_least_active_in_nested_steps (setup : Setup) :
    (∀ (fp : FinePruning) (conv : Conv2d) (activations : List ℚ) (k : ℕ),
      fp.layer = .conv2d conv → conv.weight.length = activations.length →
      k ≤ activations.length →
      ∃ channels after, fp.pruneNeurons setup.argsort k activations = .ok (channels, after) ∧
        LeastActive activations k channels ∧
        ZeroesExactly fp.model after fp.layerName conv channels) ∧
    ∀ (model : Network) (conv : Conv2d) (activations : List ℚ),
      Prepared setup model conv activations →
      ∃ baseline steps, runFinePruning setup model = .ok (baseline, steps) ∧
        (baseline.pruned = 0 ∧ baseline.prunedIdx = [] ∧ baseline.model = model ∧
          Evaluated setup baseline) ∧
        steps ≠ [] ∧ steps.length ≤ 9 ∧
        steps.map PruningStep.pruned =
          (List.range' 1 steps.length).map (· * stepSize activations.length) ∧
        (∀ step ∈ steps.dropLast, 10 ≤ step.cda) ∧
        (steps.length < 9 → ∃ last ∈ steps.getLast?, last.cda < 10) ∧
        steps.Pairwise (fun a b => a.prunedIdx ⊆ b.prunedIdx) ∧
        ∀ step ∈ steps,
          step.model = zeroChannels model setup.layerName conv step.prunedIdx ∧
            ZeroesExactly model step.model setup.layerName conv step.prunedIdx ∧
            LeastActive activations step.pruned step.prunedIdx ∧
            10 * step.prunedIdx.length ≤ 9 * activations.length ∧ Evaluated setup step := by
  constructor
  · intro fp conv activations k hconv hchannels hk
    exact ⟨_, _, pruneNeurons_eq_ok setup.argsort hconv hchannels k,
      leastActive_take setup.argsort hk, zeroesExactly_zeroChannels _ _ _ _⟩
  · intro model conv activations h
    obtain ⟨cda, asr, steps, hrun, hbaseline, hall, hfollows⟩ := runFinePruning_eq_ok h
    have hpruned := hfollows.pruned_eq_range
    obtain ⟨hsorted, hbound⟩ := pruned_sorted_and_le activations.length hfollows.length_le
    rw [← hpruned] at hsorted hbound
    refine ⟨_, steps, hrun, ⟨rfl, rfl, rfl, hbaseline⟩, hfollows.ne_nil, hfollows.length_le, hpruned,
      hfollows.goes_on, hfollows.cut_short, ?_, ?_⟩
    · apply (List.pairwise_map.1 hsorted).imp_of_mem
      intro a b ha hb hab
      exact (hall a ha).subset (hall b hb) hab
    · intro step hstep
      have hten := hbound step.pruned (List.mem_map_of_mem hstep)
      have hleast := (hall step hstep).leastActive (by omega)
      refine ⟨(hall step hstep).model_eq, (hall step hstep).zeroesExactly, hleast, ?_,
        (hall step hstep).toEvaluated⟩
      rwa [hleast.length_eq]

/-! ## A convolution with ten channels -/

/-- Sorting positions is an `argsort`. -/
def sortingArgsort : Argsort where
  run activations := sortPositions (fun i => activations.getD i 0) (List.range activations.length)
  ranking _ := isRanking_sortPositions _ _

theorem length_tenBiases : ∀ values ∈ some (List.replicate 10 (2 : ℚ)),
    values.length = (List.replicate 10 [(1 : ℚ)]).length := by
  simp

/-- Ten filters of one weight, and a bias for each. -/
def tenChannels : Conv2d where
  weight := List.replicate 10 [1]
  bias := some (List.replicate 10 2)
  bias_length := length_tenBiases

/-- A network with this convolution alone. -/
def tenChannelNetwork : Network := Dict.empty.insert "conv" (.conv2d tenChannels)

/-- Activations that fall from the first to the last channel; every network is fully accurate. -/
def tenChannelSetup : Setup where
  argsort := sortingArgsort
  layerName := "conv"
  getActivations _ := .ok [9, 8, 7, 6, 5, 4, 3, 2, 1, 0]
  evaluateClean _ := .ok 100
  evaluatePoisoned _ := .ok 100

/-- Three channels of the ten are pruned; the driver makes nine steps and prunes one more channel in
each. -/
theorem prunes_tenChannels :
    (∃ channels after, pruneNeurons sortingArgsort
        ⟨tenChannelNetwork, "conv", .conv2d tenChannels, rfl⟩ 3 [9, 8, 7, 6, 5, 4, 3, 2, 1, 0] =
          .ok (channels, after) ∧
      LeastActive [9, 8, 7, 6, 5, 4, 3, 2, 1, 0] 3 channels) ∧
    ∃ baseline steps, runFinePruning tenChannelSetup tenChannelNetwork = .ok (baseline, steps) ∧
      baseline.pruned = 0 ∧
      steps.map PruningStep.pruned = [1, 2, 3, 4, 5, 6, 7, 8, 9] ∧
      steps.Pairwise fun a b => a.prunedIdx ⊆ b.prunedIdx := by
  obtain ⟨hprune, hrun⟩ := prunes_least_active_in_nested_steps tenChannelSetup
  have hprepared : Prepared tenChannelSetup tenChannelNetwork tenChannels
      [9, 8, 7, 6, 5, 4, 3, 2, 1, 0] :=
    ⟨rfl, rfl, rfl, fun _ => ⟨100, rfl⟩, fun _ => ⟨100, rfl⟩⟩
  obtain ⟨channels, after, hok, hleast, -⟩ := hprune
    ⟨tenChannelNetwork, "conv", .conv2d tenChannels, rfl⟩ tenChannels
    [9, 8, 7, 6, 5, 4, 3, 2, 1, 0] 3 rfl rfl (by decide)
  obtain ⟨baseline, steps, hsteps, ⟨hzero, -⟩, -, hle, hpruned, -, hcut, hnested, hall⟩ :=
    hrun _ _ _ hprepared
  -- every network is accurate, so no step is the last before the ninth
  have hnine : steps.length = 9 := by
    by_contra hne
    obtain ⟨last, hlast, hbroken⟩ := hcut (lt_of_le_of_ne hle hne)
    have hcda := (hall last (List.mem_of_getLast? hlast)).2.2.2.2.cda_eq
    rw [← Except.ok.inj hcda] at hbroken
    norm_num at hbroken
  have hsize : stepSize 10 = 1 := by decide +kernel
  refine ⟨⟨channels, after, hok, hleast⟩, baseline, steps, hsteps, hzero, ?_, hnested⟩
  rw [hpruned, hnine]
  show (List.range' 1 9).map (· * stepSize 10) = _
  rw [hsize]
  rfl

end FinePruning

end TrojanDetection.Defenses
