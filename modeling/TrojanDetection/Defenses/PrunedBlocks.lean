import TrojanDetection.Defenses.FinePruning
import TrojanDetection.Zoo.ResNet

/-!
# What pruning does to the output of a residual block (`defenses.py`, `FinePruning`)

`run_fine_pruning` prunes the second convolution of the last block. A pruned channel of the
convolution is zero, but it is normalised and added to the shortcut afterwards: on every input the
channel of the block becomes the rectified sum of a constant and the shortcut, whatever the
convolutions are, and all other channels are as they were (`pruned_block_output`). The channel itself
is not removed, and what reaches it through the shortcut is kept.
-/

set_option autoImplicit false

namespace TrojanDetection.Defenses.PrunedBlocks

open TrojanDetection.Library
open TrojanDetection.Library.Convolution
open TrojanDetection.Library.Convolution.FeatureMap
open TrojanDetection.Library.Positions
open TrojanDetection.Python
open TrojanDetection.Torch
open TrojanDetection.Zoo.Resnet

/-! ## Tensors of weights and rows of filters -/

section Filters

/-- The weights of one filter, in the order of the tensor. -/
def filter (conv : Torch.Conv2d ℚ) (o : ℕ) : List ℚ :=
  (List.range conv.fanIn).flatMap fun c =>
    (List.range conv.kernelSize).flatMap fun u =>
      (List.range conv.kernelSize).map fun v => conv.weight o c u v

theorem length_filters {α β : Type} (n : ℕ) (row : ℕ → α) (bias : Option (ℕ → β)) :
    ∀ values ∈ bias.map fun value => (List.range n).map value,
      values.length = ((List.range n).map row).length := by
  intro values hvalues
  obtain ⟨value, -, rfl⟩ := Option.map_eq_some_iff.1 hvalues
  rw [List.length_map, List.length_map]

/-- The convolution as pruning sees it, with a row for each filter. -/
def filters (conv : Torch.Conv2d ℚ) : Defenses.Conv2d where
  weight := (List.range conv.outChannels).map (filter conv)
  bias := conv.bias.map fun value => (List.range conv.outChannels).map value
  bias_length := length_filters _ _ _

/-- The tensors with the filters and biases of some channels set to zero. -/
def zeroChannels (conv : Torch.Conv2d ℚ) (channels : List ℕ) : Torch.Conv2d ℚ :=
  { conv with
    weight := fun o c u v => if o ∈ channels then 0 else conv.weight o c u v
    bias := conv.bias.map fun value o => if o ∈ channels then 0 else value o }

variable (conv : Torch.Conv2d ℚ) (channels : List ℕ)

theorem filter_zeroChannels (o : ℕ) :
    filter (zeroChannels conv channels) o =
      if o ∈ channels then Defenses.Conv2d.zeroWeights (filter conv o) else filter conv o := by
  by_cases ho : o ∈ channels
  · simp [filter, zeroChannels, ho, Defenses.Conv2d.zeroWeights, List.map_flatMap,
      Torch.Conv2d.fanIn, Function.comp_def]
  · simp [filter, zeroChannels, ho, Torch.Conv2d.fanIn]

/-- Rewriting a table at some positions. -/
theorem rewriteAt_map_range {α : Type} (f : α → α) (n : ℕ) (row : ℕ → α) :
    rewriteAt f channels ((List.range n).map row) =
      (List.range n).map fun o => if o ∈ channels then f (row o) else row o := by
  apply List.ext_getElem?
  intro j
  rw [getElem?_rewriteAt, List.getElem?_map, List.getElem?_map]
  by_cases hj : j < n
  · rw [List.getElem?_range hj]
    rfl
  · rw [List.getElem?_eq_none (by rw [List.length_range]; omega)]
    rfl

/-- The two descriptions of pruning agree. -/
theorem filters_zeroChannels :
    filters (zeroChannels conv channels) = (filters conv).zeroed channels := by
  apply Defenses.Conv2d.ext
  · show (List.range conv.outChannels).map (filter (zeroChannels conv channels)) =
      rewriteAt Defenses.Conv2d.zeroWeights channels
        ((List.range conv.outChannels).map (filter conv))
    rw [rewriteAt_map_range]
    exact List.map_congr_left fun o _ => filter_zeroChannels conv channels o
  · show (conv.bias.map _).map _ = (conv.bias.map _).map _
    rw [Option.map_map, Option.map_map]
    congr 1
    funext value
    exact (rewriteAt_map_range channels (fun _ => (0 : ℚ)) conv.outChannels value).symm

end Filters

/-! ## Pruned blocks -/

section Blocks

/-- The block with channels of its second convolution set to zero. -/
def prune (block : BasicBlock ℚ) (channels : List ℕ) : BasicBlock ℚ :=
  { block with conv2 := fun o c u v => if o ∈ channels then 0 else block.conv2 o c u v }

variable {block : BasicBlock ℚ} {channels : List ℕ} {root : Root ℚ} {x : FeatureMap ℚ}

theorem conv_second_prune :
    (prune block channels).second.conv = zeroChannels block.second.conv channels := rfl

/-- A pruned channel of the convolution is zero before it is normalised, the others are as they
were. -/
theorem entry_second_prune (z : FeatureMap ℚ) (c : ℕ) (i j : ℤ) :
    (prune block channels).second.entry root z c i j =
      if c ∈ channels then block.bn2.normalize root c 0 else block.second.entry root z c i j := by
  by_cases hc : c ∈ channels
  · rw [if_pos hc]
    show block.bn2.normalize root c (correlate _ _ _ _ z c i j + 0) = _
    rw [correlate_zero fun _ _ _ => if_pos hc, add_zero]
  · rw [if_neg hc]
    show block.bn2.normalize root c (correlate _ _ _ _ z c i j + 0) =
      block.bn2.normalize root c (correlate _ _ _ _ z c i j + 0)
    rw [correlate_congr fun _ _ _ _ _ _ => if_neg hc]
    rfl

theorem shape_output_prune :
    ((prune block channels).output root x).shape = (block.output root x).shape := by
  rw [BasicBlock.shape_output, BasicBlock.shape_output]
  rfl

/-- The output of a pruned block. -/
theorem value_output_prune {c : ℕ} {i j : ℤ}
    (hin : Inside (block.output root x).channels (block.output root x).height
      (block.output root x).width c i j) :
    ((prune block channels).output root x).value c i j =
      if c ∈ channels then
        max (block.bn2.normalize root c 0 + (block.identity root x).value c i j) 0
      else (block.output root x).value c i j := by
  -- the lemma on the output asks for a position inside the pruned output, which has the same shape
  have hin' : Inside ((prune block channels).output root x).channels
      ((prune block channels).output root x).height ((prune block channels).output root x).width
      c i j := by
    have hshape : ((prune block channels).output root x).shape = (block.output root x).shape :=
      shape_output_prune
    rw [shape, shape, Prod.mk.injEq, Prod.mk.injEq] at hshape
    rwa [hshape.1, hshape.2.1, hshape.2.2]
  rw [BasicBlock.value_output hin', BasicBlock.value_output hin, entry_second_prune]
  by_cases hc : c ∈ channels
  · rw [if_pos hc, if_pos hc]
    rfl
  · rw [if_neg hc, if_neg hc]
    rfl

/-- A pruned block accepts the same inputs. -/
theorem returns_forward_prune :
    returns ((prune block channels).forward root x) ↔ returns (block.forward root x) := by
  simp only [returns, BasicBlock.forward_eq_ok_iff, exists_eq_right']
  rfl

end Blocks

/-- Pruning the second convolution of a block. The detector zeroes least active channels and leaves
the network with the pruned block. This block runs on the same inputs; each of the channels is the
rectified sum of a constant, which the normalisation makes of zero, and the shortcut, and every
other channel is as before. -/
theorem pruned_block_output (argsort : Argsort) (fp : FinePruning) (block : BasicBlock ℚ)
    (hlayer : fp.layer = .conv2d (filters block.second.conv)) (activations : List ℚ)
    (hactivations : activations.length = block.planes) (k : ℕ) (hk : k ≤ activations.length)
    (root : Root ℚ) :
    ∃ channels after, fp.pruneNeurons argsort k activations = .ok (channels, after) ∧
      FinePruning.LeastActive activations k channels ∧
      after.lookup fp.layerName =
        some (.conv2d (filters (prune block channels).second.conv)) ∧
      (∀ x, returns ((prune block channels).forward root x) ↔ returns (block.forward root x)) ∧
      ∀ x y, block.forward root x = .ok y →
        ∃ y', (prune block channels).forward root x = .ok y' ∧ y'.shape = y.shape ∧
          ∀ c i j, Inside y.channels y.height y.width c i j →
            y'.value c i j = if c ∈ channels then
              max (block.bn2.normalize root c 0 + (block.identity root x).value c i j) 0
            else y.value c i j := by
  have hchannels : (filters block.second.conv).weight.length = activations.length := by
    rw [hactivations]
    show ((List.range block.planes).map _).length = _
    rw [List.length_map, List.length_range]
  refine ⟨_, _, FinePruning.pruneNeurons_eq_ok argsort hlayer hchannels k,
    FinePruning.leastActive_take argsort hk, ?_, fun x => returns_forward_prune, ?_⟩
  · rw [FinePruning.zeroChannels, Dict.lookup_insert, if_pos rfl, conv_second_prune,
      filters_zeroChannels]
  · intro x y hy
    obtain ⟨hx, rfl⟩ := BasicBlock.forward_eq_ok_iff.1 hy
    have hrun : (prune block ((argsort.run activations).take k)).forward root x =
        .ok ((prune block ((argsort.run activations).take k)).output root x) :=
      BasicBlock.forward_eq_ok_iff.2 ⟨hx, rfl⟩
    exact ⟨_, hrun, shape_output_prune, fun c i j hin => value_output_prune hin⟩

/-! ## A block with two channels -/

/-- Kernels of ones and new normalisations. -/
def unitWeights : BlockWeights ℚ where
  conv1 _ _ _ _ := 1
  bn1 := BatchNormState.initial
  conv2 _ _ _ _ := 1
  bn2 := BatchNormState.initial
  downsampleConv _ _ _ _ := 1
  downsampleBn := BatchNormState.initial

/-- A block that keeps its two channels. -/
def twoChannelBlock : BasicBlock ℚ := newBlock unitWeights (Nat.toPNat' 2) (Nat.toPNat' 2) defaultStride

/-- The detector on the second convolution of the block. -/
def twoChannelPruning : FinePruning where
  model := Dict.empty.insert "conv2" (.conv2d (filters twoChannelBlock.second.conv))
  layerName := "conv2"
  layer := .conv2d (filters twoChannelBlock.second.conv)
  found := rfl

/-- One of the two channels is pruned, and the block still runs. -/
theorem pruned_twoChannelBlock : ∃ channels after,
    twoChannelPruning.pruneNeurons FinePruning.sortingArgsort 1 [1, 0] = .ok (channels, after) ∧
      channels.length = 1 ∧
      (∀ x, returns ((prune twoChannelBlock channels).forward Root.rat x) ↔
        returns (twoChannelBlock.forward Root.rat x)) ∧
      ∀ x y, twoChannelBlock.forward Root.rat x = .ok y →
        ∃ y', (prune twoChannelBlock channels).forward Root.rat x = .ok y' ∧
          y'.shape = y.shape := by
  obtain ⟨channels, after, hrun, hleast, -, hinputs, houtput⟩ :=
    pruned_block_output FinePruning.sortingArgsort twoChannelPruning twoChannelBlock rfl [1, 0] rfl
      1 (by decide) Root.rat
  refine ⟨channels, after, hrun, hleast.length_eq, hinputs, ?_⟩
  intro x y hy
  obtain ⟨y', hy', hshape, -⟩ := houtput x y hy
  exact ⟨y', hy', hshape⟩

end TrojanDetection.Defenses.PrunedBlocks
