import TrojanDetection.Zoo.ResNet

/-!
# ShuffleNets (`pytorch_cifar_models/shufflenetv2.py`)

`channel_shuffle` reads the channels of its groups in turn; a second shuffle with the size of a group
as the number of groups undoes it (`channelShuffle_channelShuffle`). A block joins two branches of
`oup // 2` channels each. For an odd `oup` its output thus has one channel less than the next block
is built for. The constructor asserts an even `oup` in the blocks that repeat a stage, but not in the
first block: a network whose stages have a single block can be constructed with an odd number of
channels, and then raises on every image. All other networks that can be constructed run on every
image with three channels (`ShuffleNetV2.runs_iff_even`).
-/

set_option autoImplicit false

namespace TrojanDetection.Zoo.Shufflenetv2

open TrojanDetection.Library.Convolution
open TrojanDetection.Library.Convolution.FeatureMap
open TrojanDetection.Library.Pipeline
open TrojanDetection.Python
open TrojanDetection.Torch
open TrojanDetection.Zoo.Resnet (convolution conv1x1 conv3x3 defaultStride)

variable {K : Type}

/-! ## Channels -/

section Channels

variable [Zero K]

/-- The channels from `start` on. -/
def slice (start count : ℕ) (x : FeatureMap K) : FeatureMap K :=
  tabulate count x.height x.width fun c i j => x.value (start + c) i j

/-- `x.chunk(2, dim=1)`, unpacked into two tensors. The first one has the channel in the middle. -/
def chunk (x : FeatureMap K) : Except PyError (FeatureMap K × FeatureMap K) :=
  if x.channels ≤ 1 then .error (.valueError "not enough values to unpack (expected 2, got 1)")
  else
    .ok (slice 0 ((x.channels + 1) / 2) x,
      slice ((x.channels + 1) / 2) (x.channels - (x.channels + 1) / 2) x)

/-- `torch.cat((x, y), dim=1)`. -/
def cat (x y : FeatureMap K) : Except PyError (FeatureMap K) :=
  if x.height ≠ y.height ∨ x.width ≠ y.width then
    .error (.runtimeError "Sizes of tensors must match except in dimension 1")
  else
    .ok (tabulate (x.channels + y.channels) x.height x.width fun c i j =>
      if c < x.channels then x.value c i j else y.value (c - x.channels) i j)

/-- The first `view` raises unless the groups divide the channels. -/
def channelShuffle (x : FeatureMap K) (groups : ℕ+) : Except PyError (FeatureMap K) :=
  let channelsPerGroup := x.channels / groups
  if groups * channelsPerGroup ≠ x.channels then
    .error (.runtimeError "shape is invalid for input of this size")
  else
    .ok (tabulate x.channels x.height x.width fun o i j =>
      x.value (o % groups * channelsPerGroup + o / groups) i j)

variable {x y z : FeatureMap K}

theorem cat_eq_ok_iff : cat x y = .ok z ↔
    (x.height = y.height ∧ x.width = y.width) ∧
      tabulate (x.channels + y.channels) x.height x.width (fun c i j =>
        if c < x.channels then x.value c i j else y.value (c - x.channels) i j) = z := by
  rw [cat]
  split
  · next h =>
      apply iff_of_false
      · intro hz
        cases hz
      · rintro ⟨⟨hheight, hwidth⟩, -⟩
        exact h.elim (· hheight) (· hwidth)
  · next h =>
      rw [not_or, not_not, not_not] at h
      simp [h]

theorem channelShuffle_eq_ok_iff {groups : ℕ+} : channelShuffle x groups = .ok y ↔
    groups * (x.channels / groups) = x.channels ∧
      tabulate x.channels x.height x.width (fun o i j =>
        x.value (o % groups * (x.channels / groups) + o / groups) i j) = y := by
  rw [channelShuffle]
  split
  · next h => simp [h]
  · next h => simp [not_not.1 h]

theorem shape_of_channelShuffle {groups : ℕ+} (h : channelShuffle x groups = .ok y) :
    y.shape = x.shape := by
  obtain ⟨-, rfl⟩ := channelShuffle_eq_ok_iff.1 h
  rfl

/-- A shuffle is undone by another one, with as many groups as a group had channels. -/
theorem channelShuffle_channelShuffle {groups size : ℕ+} (hsize : x.channels = groups * size)
    (h : channelShuffle x groups = .ok y) : channelShuffle y size = .ok x := by
  obtain ⟨-, rfl⟩ := channelShuffle_eq_ok_iff.1 h
  have hgroup : x.channels / groups = size := by
    rw [hsize, Nat.mul_div_cancel_left _ groups.pos]
  have hback : x.channels / size = groups := by
    rw [hsize, Nat.mul_div_cancel _ size.pos]
  rw [channelShuffle_eq_ok_iff, channels_tabulate, height_tabulate, width_tabulate, hback, hgroup]
  refine ⟨by rw [hsize, Nat.mul_comm], (tabulate_congr ?_).trans (eq_tabulate x).symm⟩
  intro o i j ⟨ho, hinside⟩
  -- `o` is at place `o % size` of group `o / size`
  have hdiv : o / size < groups := by
    rw [Nat.div_lt_iff_lt_mul size.pos, ← hsize]
    exact ho
  have hplace : o % size * groups + o / size < x.channels := by
    have hmod : o % size < size := Nat.mod_lt o size.pos
    calc o % size * groups + o / size < o % size * groups + groups := Nat.add_lt_add_left hdiv _
      _ = (o % size + 1) * groups := (Nat.succ_mul _ _).symm
      _ ≤ size * groups := Nat.mul_le_mul_right _ hmod
      _ = x.channels := by rw [hsize, Nat.mul_comm]
  have hmod : (o % size * groups + o / size) % groups = o / size := by
    rw [Nat.add_comm, Nat.add_mul_mod_self_right, Nat.mod_eq_of_lt hdiv]
  have hquot : (o % size * groups + o / size) / groups = o % size := by
    rw [Nat.add_comm, Nat.add_mul_div_right _ _ groups.pos, Nat.div_eq_of_lt hdiv, Nat.zero_add]
  rw [value_tabulate ⟨hplace, hinside⟩, hmod, hquot, Nat.mul_comm (o / size), Nat.div_add_mod]

end Channels

/-! ## Blocks -/

variable [Field K] [LinearOrder K]

/-- What a block is initialised with; the first two are used if it has a first branch. -/
structure BlockWeights (K : Type) [Field K] [LinearOrder K] where
  depthwise1 : ConvWeights K
  pointwise1 : ConvWeights K
  entry2 : ConvWeights K
  depthwise2 : ConvWeights K
  pointwise2 : ConvWeights K

/-- A block that the constructor returns: with a stride of one, it is built for as many channels as
its two branches have. -/
structure InvertedResidual (K : Type) [Field K] [LinearOrder K] where
  inp : ℕ+
  branchFeatures : ℕ+
  stride : ℕ+
  inp_eq : (stride : ℕ) = 1 → (inp : ℕ) = 2 * branchFeatures
  weights : BlockWeights K

/-- A convolution with one filter for each channel, and its normalisation. -/
def depthwiseConv (channels stride : ℕ+) (weights : ConvWeights K) : NormalizedConv K :=
  ⟨.depthwise 3 stride 1 channels weights.weight channels.pos stride.pos, weights.bn⟩

/-- A 1x1 convolution with its batch normalisation. -/
def pointwiseConv (inp out : ℕ+) (weights : ConvWeights K) : NormalizedConv K :=
  ⟨conv1x1 inp out defaultStride weights.weight, weights.bn⟩

namespace InvertedResidual

/-- The constructor. Without branch features the depthwise convolution of the second branch has no
groups. -/
def init (weights : BlockWeights K) (inp oup : ℕ+) (stride : ℕ) :
    Except PyError (InvertedResidual K) :=
  if hstride : 1 ≤ stride ∧ stride ≤ 3 then
    let branchFeatures := (oup : ℕ) / 2
    if hassert : stride ≠ 1 ∨ (inp : ℕ) = 2 * branchFeatures then
      if hfeatures : 0 < branchFeatures then
        .ok
          { inp := inp
            branchFeatures := ⟨branchFeatures, hfeatures⟩
            stride := ⟨stride, hstride.1⟩
            inp_eq := hassert.neg_resolve_left
            weights := weights }
      else .error (.valueError "groups must be a positive integer")
    else .error (.assertionError "")
  else .error (.valueError "illegal stride value")

/-- The channels of the input of the second branch. -/
def entryChannels (block : InvertedResidual K) : ℕ+ :=
  if (block.stride : ℕ) > 1 then block.inp else block.branchFeatures

/-- The layers of `branch1`. -/
def branch1 (block : InvertedResidual K) (root : Root K) (x : FeatureMap K) :
    Except PyError (FeatureMap K) := do
  let x ← (depthwiseConv block.inp block.stride block.weights.depthwise1).forward root x
  let x ← (pointwiseConv block.inp block.branchFeatures block.weights.pointwise1).forward root x
  .ok (relu x)

/-- The layers of `branch2`. -/
def branch2 (block : InvertedResidual K) (root : Root K) (x : FeatureMap K) :
    Except PyError (FeatureMap K) := do
  let x ← (pointwiseConv block.entryChannels block.branchFeatures block.weights.entry2).forward root x
  let x ← (depthwiseConv block.branchFeatures block.stride block.weights.depthwise2).forward root
    (relu x)
  let x ← (pointwiseConv block.branchFeatures block.branchFeatures
    block.weights.pointwise2).forward root x
  .ok (relu x)

/-- The two halves of the output, one after the other. -/
def joined (block : InvertedResidual K) (root : Root K) (x : FeatureMap K) :
    Except PyError (FeatureMap K) :=
  if (block.stride : ℕ) = 1 then do
    let (x1, x2) ← chunk x
    let y ← block.branch2 root x2
    cat x1 y
  else do
    let left ← block.branch1 root x
    let right ← block.branch2 root x
    cat left right

/-- `InvertedResidual.forward`. -/
def forward (block : InvertedResidual K) (root : Root K) (x : FeatureMap K) :
    Except PyError (FeatureMap K) := do
  let out ← block.joined root x
  channelShuffle out (Nat.toPNat' 2)

end InvertedResidual

/-! ### What the branches return -/

/-- Rows or columns after a depthwise convolution. -/
def halved (stride n : ℕ) : ℕ := Geometry.extent ⟨3, stride, 1⟩ n

section Branches

variable {root : Root K} {height width : ℕ}

theorem exactly_pointwiseConv (inp out : ℕ+) (weights : ConvWeights K) (root : Root K) :
    Exactly (WithChannels inp) ((pointwiseConv inp out weights).forward root) (WithChannels out) :=
  (pointwiseConv inp out weights).exactly_withChannels root fun _ => Geometry.fits_oneByOne

theorem exactly_depthwiseConv (channels stride : ℕ+) (weights : ConvWeights K) (root : Root K) :
    Exactly (WithChannels channels) ((depthwiseConv channels stride weights).forward root)
      (WithChannels channels) :=
  (depthwiseConv channels stride weights).exactly_withChannels root
    fun _ => Geometry.fits_threeByThree

/-- A 1x1 convolution keeps rows and columns. -/
theorem meets_pointwiseConv (inp out : ℕ+) (weights : ConvWeights K) :
    Meets (OfShape inp height width) ((pointwiseConv inp out weights).forward root)
      (OfShape out height width) := by
  intro x hx
  obtain ⟨y, hy, hchannels, hheight, hwidth⟩ := (pointwiseConv inp out weights).meets_ofShape root
    (fun _ => Geometry.fits_oneByOne) height width x hx
  obtain ⟨⟨-, hpos, hpos'⟩, rfl, rfl⟩ := hx
  exact ⟨y, hy, hchannels, hheight.trans (Geometry.extent_same (p := 0) hpos),
    hwidth.trans (Geometry.extent_same (p := 0) hpos')⟩

theorem meets_depthwiseConv (channels stride : ℕ+) (weights : ConvWeights K) :
    Meets (OfShape channels height width) ((depthwiseConv channels stride weights).forward root)
      (OfShape channels (halved stride height) (halved stride width)) :=
  (depthwiseConv channels stride weights).meets_ofShape root
    (fun _ => Geometry.fits_threeByThree) height width

theorem meets_relu {channels : ℕ} :
    Meets (OfShape channels height width) (fun x : FeatureMap K => (.ok (relu x) : Except PyError _))
      (OfShape channels height width) :=
  Meets.pure fun _ hx => hx

end Branches

namespace InvertedResidual

variable {block : InvertedResidual K} {root : Root K} {x y : FeatureMap K} {height width : ℕ}

theorem meets_branch1 (block : InvertedResidual K) (root : Root K) (height width : ℕ) :
    Meets (OfShape block.inp height width) (block.branch1 root)
      (OfShape block.branchFeatures (halved block.stride height) (halved block.stride width)) :=
  (meets_depthwiseConv _ _ _).bind ((meets_pointwiseConv _ _ _).bind meets_relu)

theorem meets_branch2 (block : InvertedResidual K) (root : Root K) (height width : ℕ) :
    Meets (OfShape block.entryChannels height width) (block.branch2 root)
      (OfShape block.branchFeatures (halved block.stride height) (halved block.stride width)) :=
  (meets_pointwiseConv _ _ _).bind
    (Meets.bind (fun x hx => meets_depthwiseConv _ _ _ (relu x) hx)
      ((meets_pointwiseConv _ _ _).bind meets_relu))

theorem exactly_branch2 (block : InvertedResidual K) (root : Root K) :
    Exactly (WithChannels block.entryChannels) (block.branch2 root)
      (WithChannels block.branchFeatures) := by
  constructor
  · intro x hx
    obtain ⟨y, hy, hshape⟩ := block.meets_branch2 root x.height x.width x ⟨hx, rfl, rfl⟩
    exact ⟨y, hy, hshape.1⟩
  · intro x y hy
    obtain ⟨out, hout, -⟩ := bind_eq_ok_iff.1 hy
    exact (exactly_pointwiseConv _ _ _ root).only x out hout

theorem withChannels_of_branch1 (h : block.branch1 root x = .ok y) : x.WithChannels block.inp := by
  obtain ⟨out, hout, -⟩ := bind_eq_ok_iff.1 h
  exact (exactly_depthwiseConv _ _ _ root).only x out hout

theorem entryChannels_of_stride_one (h : (block.stride : ℕ) = 1) :
    block.entryChannels = block.branchFeatures := if_neg (by omega)

theorem entryChannels_of_stride_ne_one (h : (block.stride : ℕ) ≠ 1) :
    block.entryChannels = block.inp := if_pos (by have := block.stride.pos; omega)

/-- Two tensors with the same rows and columns are joined. -/
theorem withChannels_cat {left right : FeatureMap K}
    (hleft : OfShape block.branchFeatures height width left)
    (hright : OfShape block.branchFeatures height width right) :
    ∃ out, cat left right = .ok out ∧ out.WithChannels (2 * block.branchFeatures) := by
  obtain ⟨⟨hchannels, hpos⟩, rfl, rfl⟩ := hleft
  obtain ⟨⟨hchannels', -⟩, hheight, hwidth⟩ := hright
  refine ⟨_, cat_eq_ok_iff.2 ⟨⟨hheight.symm, hwidth.symm⟩, rfl⟩, ?_, hpos⟩
  rw [channels_tabulate, hchannels, hchannels', Nat.two_mul]

theorem meets_joined (block : InvertedResidual K) (root : Root K) :
    Meets (WithChannels block.inp) (block.joined root)
      (WithChannels (2 * block.branchFeatures)) := by
  intro x hx
  have hfeatures := block.branchFeatures.pos
  rw [joined]
  split
  · next hstride =>
      have hinp : x.channels = 2 * block.branchFeatures := hx.1.trans (block.inp_eq hstride)
      have hchunk : chunk x = .ok (slice 0 block.branchFeatures x,
          slice block.branchFeatures block.branchFeatures x) := by
        have hsize : (x.channels + 1) / 2 = block.branchFeatures := by omega
        have hrest : x.channels - block.branchFeatures = block.branchFeatures := by omega
        rw [chunk, if_neg (by omega), hsize, hrest]
      have hsame : ∀ n, 0 < n → halved block.stride n = n := by
        intro n hn
        rw [halved, hstride]
        exact Geometry.extent_same (p := 1) hn
      have hhalf : ∀ start, OfShape block.branchFeatures x.height x.width
          (slice start block.branchFeatures x) := fun _ => ⟨⟨rfl, hx.2⟩, rfl, rfl⟩
      have hbranch := block.meets_branch2 root x.height x.width
      rw [entryChannels_of_stride_one hstride, hsame _ hx.2.1, hsame _ hx.2.2] at hbranch
      obtain ⟨y, hy, hyshape⟩ := hbranch _ (hhalf block.branchFeatures)
      obtain ⟨out, hout, hwith⟩ := withChannels_cat (hhalf 0) hyshape
      exact ⟨out, bind_eq_ok_iff.2 ⟨_, hchunk, bind_eq_ok_iff.2 ⟨y, hy, hout⟩⟩, hwith⟩
  · next hstride =>
      have hshape : OfShape block.inp x.height x.width x := ⟨hx, rfl, rfl⟩
      obtain ⟨left, hleft, hleftShape⟩ := block.meets_branch1 root _ _ x hshape
      have hbranch := block.meets_branch2 root x.height x.width
      rw [entryChannels_of_stride_ne_one hstride] at hbranch
      obtain ⟨right, hright, hrightShape⟩ := hbranch x hshape
      obtain ⟨out, hout, hwith⟩ := withChannels_cat hleftShape hrightShape
      exact ⟨out, bind_eq_ok_iff.2 ⟨left, hleft, bind_eq_ok_iff.2 ⟨right, hright, hout⟩⟩, hwith⟩

omit [LinearOrder K] in
theorem meets_channelShuffle {features : ℕ} :
    Meets (WithChannels (K := K) (2 * features)) (fun x => channelShuffle x (Nat.toPNat' 2))
      (WithChannels (2 * features)) := by
  intro x hx
  have hdiv : 2 * (x.channels / 2) = x.channels := by
    have := hx.1
    omega
  exact ⟨_, channelShuffle_eq_ok_iff.2 ⟨hdiv, rfl⟩, hx⟩

/-- The branches and the shuffle leave no other input than one with the channels of the block. -/
theorem withChannels_of_forward (h : block.forward root x = .ok y) : x.WithChannels block.inp := by
  obtain ⟨out, hout, hshuffle⟩ := bind_eq_ok_iff.1 h
  rw [joined] at hout
  split at hout
  · next hstride =>
      obtain ⟨⟨x1, x2⟩, hchunk, hout⟩ := bind_eq_ok_iff.1 hout
      obtain ⟨half, hhalf, hcat⟩ := bind_eq_ok_iff.1 hout
      rw [chunk] at hchunk
      split at hchunk
      · cases hchunk
      · cases hchunk
        have hentry := (block.exactly_branch2 root).only _ _ hhalf
        rw [entryChannels_of_stride_one hstride] at hentry
        obtain ⟨hchannels, hpos⟩ := hentry
        have hhalfChannels := ((block.exactly_branch2 root).post_of hhalf).1
        obtain ⟨-, rfl⟩ := cat_eq_ok_iff.1 hcat
        -- an odd channel in the middle passes the branch, and stops the shuffle
        have heven : 2 * (((x.channels + 1) / 2 + half.channels) / 2) =
            (x.channels + 1) / 2 + half.channels := (channelShuffle_eq_ok_iff.1 hshuffle).1
        have hchannels' : x.channels - (x.channels + 1) / 2 = block.branchFeatures := hchannels
        refine ⟨?_, hpos⟩
        rw [block.inp_eq hstride]
        omega
  · next hstride =>
      obtain ⟨left, hleft, -⟩ := bind_eq_ok_iff.1 hout
      exact withChannels_of_branch1 hleft

theorem exactly_forward (block : InvertedResidual K) (root : Root K) :
    Exactly (WithChannels block.inp) (block.forward root)
      (WithChannels (2 * block.branchFeatures)) :=
  ⟨(block.meets_joined root).bind meets_channelShuffle, fun _ _ => withChannels_of_forward⟩

/-- What the constructor has checked. -/
theorem init_eq_ok {weights : BlockWeights K} {inp oup : ℕ+} {stride : ℕ}
    (h : init weights inp oup stride = .ok block) :
    block.inp = inp ∧ (block.branchFeatures : ℕ) = oup / 2 ∧
      (stride = 1 → (inp : ℕ) = 2 * (oup / 2)) := by
  rw [init] at h
  split at h
  · next hstride =>
      dsimp only at h
      split at h
      · next hassert =>
          split at h
          · cases h
            exact ⟨rfl, rfl, hassert.neg_resolve_left⟩
          · cases h
      · cases h
  · cases h

end InvertedResidual

/-! ## Stages -/

/-- An `nn.Sequential` of blocks. -/
def stageForward (root : Root K) (blocks : List (InvertedResidual K)) :
    FeatureMap K → Except PyError (FeatureMap K) :=
  sequence (blocks.map fun block => block.forward root)

/-- One round of the loop over the stages. -/
def makeStage (weights : ℕ → BlockWeights K) (inputChannels outputChannels : ℕ+) (repeats : ℕ) :
    Except PyError (List (InvertedResidual K)) := do
  let first ← InvertedResidual.init (weights 0) inputChannels outputChannels 2
  let others ← (List.range (repeats - 1)).mapM fun i =>
    InvertedResidual.init (weights (i + 1)) outputChannels outputChannels 1
  .ok (first :: others)

section Stages

variable {weights : ℕ → BlockWeights K} {inputChannels outputChannels : ℕ+} {repeats : ℕ}
  {stage : List (InvertedResidual K)} {root : Root K}

/-- A stage returns exactly on its input channels; an odd number of output channels is rounded
down. -/
theorem exactly_stage (h : makeStage weights inputChannels outputChannels repeats = .ok stage)
    (root : Root K) :
    Exactly (WithChannels inputChannels) (stageForward root stage)
      (WithChannels (2 * (outputChannels / 2))) := by
  obtain ⟨first, hfirst, h⟩ := bind_eq_ok_iff.1 h
  obtain ⟨others, hothers, h⟩ := bind_eq_ok_iff.1 h
  cases h
  obtain ⟨hinp, hfeatures, -⟩ := InvertedResidual.init_eq_ok hfirst
  have hexactly := first.exactly_forward root
  rw [hinp, hfeatures] at hexactly
  refine hexactly.bind (Meets.sequence ?_)
  intro step hstep
  obtain ⟨block, hblock, rfl⟩ := List.mem_map.1 hstep
  obtain ⟨i, -, hinit⟩ := exists_of_mem_mapM hothers hblock
  obtain ⟨hinp', hfeatures', hassert⟩ := InvertedResidual.init_eq_ok hinit
  have hmeets := (block.exactly_forward root).meets
  rw [hinp', hfeatures', ← hassert rfl] at hmeets
  rw [← hassert rfl]
  exact hmeets

/-- A stage with a second block has passed its assertion. -/
theorem even_of_makeStage (h : makeStage weights inputChannels outputChannels repeats = .ok stage)
    (hrepeats : 2 ≤ repeats) : Even (outputChannels : ℕ) := by
  obtain ⟨first, -, h⟩ := bind_eq_ok_iff.1 h
  obtain ⟨others, hothers, -⟩ := bind_eq_ok_iff.1 h
  have hsecond : 0 ∈ List.range (repeats - 1) := List.mem_range.2 (by omega)
  obtain ⟨block, hblock⟩ := returns_mapM_iff.1 ⟨others, hothers⟩ 0 hsecond
  exact even_iff_two_dvd.2 ⟨_, (InvertedResidual.init_eq_ok hblock).2.2 rfl⟩

omit [LinearOrder K] in
/-- The next layer, built for an odd number of channels, finds one less. -/
theorem not_withChannels_of_odd {n : ℕ} {x : FeatureMap K} (h : ¬ Even n)
    (hx : x.WithChannels (2 * (n / 2))) : ¬ x.WithChannels n := by
  intro hx'
  exact h (even_iff_two_dvd.2 ⟨n / 2, hx'.1.symm.trans hx.1⟩)

end Stages

/-! ## Networks -/

/-- `ShuffleNetV2`: the stem, three stages, the last convolution and the linear layer. -/
structure ShuffleNetV2 (K : Type) [Field K] [LinearOrder K] where
  conv1 : NormalizedConv K
  stage2 : List (InvertedResidual K)
  stage3 : List (InvertedResidual K)
  stage4 : List (InvertedResidual K)
  conv5 : NormalizedConv K
  fc : Linear K

/-- `x.mean([2, 3])`. -/
def globalPool (x : FeatureMap K) : List K :=
  (List.range x.channels).map fun c =>
    (∑ i ∈ Finset.range x.height, ∑ j ∈ Finset.range x.width, x.value c i j) /
      (x.height * x.width : ℕ)

/-- `conv5` with its activation, the pooling and the linear layer. -/
def ShuffleNetV2.head (model : ShuffleNetV2 K) (root : Root K) (x : FeatureMap K) :
    Except PyError (List K) := do
  let x ← model.conv5.forward root x
  model.fc.forward (globalPool (relu x))

/-- `ShuffleNetV2.forward`. -/
def ShuffleNetV2.forward (model : ShuffleNetV2 K) (root : Root K) (x : FeatureMap K) :
    Except PyError (List K) := do
  let x ← model.conv1.forward root x
  let x ← stageForward root model.stage2 (relu x)
  let x ← stageForward root model.stage3 x
  let x ← stageForward root model.stage4 x
  model.head root x

/-- What a network is initialised with; blocks are found by their stage and position. -/
structure Weights (K : Type) [Field K] [LinearOrder K] where
  conv1 : ConvWeights K
  block : ℕ → ℕ → BlockWeights K
  conv5 : ConvWeights K
  fcWeight : ℕ → ℕ → K
  fcBias : ℕ → K

/-- The channels of the three stages. -/
def stageChannels (stagesOutChannels : List ℕ+) : List ℕ+ := (stagesOutChannels.drop 1).take 3

/-- `ShuffleNetV2.__init__`. -/
def ShuffleNetV2.init (weights : Weights K) (stagesRepeats : List ℕ) (stagesOutChannels : List ℕ+)
    (numClasses : ℕ) : Except PyError (ShuffleNetV2 K) :=
  match stagesRepeats with
  | [repeats2, repeats3, repeats4] =>
      match stagesOutChannels with
      | [out1, out2, out3, out4, out5] => do
          let stage2 ← makeStage (weights.block 2) out1 out2 repeats2
          let stage3 ← makeStage (weights.block 3) out2 out3 repeats3
          let stage4 ← makeStage (weights.block 4) out3 out4 repeats4
          .ok
            { conv1 := ⟨conv3x3 (Nat.toPNat' 3) out1 defaultStride weights.conv1.weight,
                weights.conv1.bn⟩
              stage2 := stage2
              stage3 := stage3
              stage4 := stage4
              conv5 := pointwiseConv out4 out5 weights.conv5
              fc := ⟨out5, numClasses, weights.fcWeight, weights.fcBias⟩ }
      | _ => .error (.valueError "expected stages_out_channels as list of 5 positive ints")
  | _ => .error (.valueError "expected stages_repeats as list of 3 positive ints")

/-- The parts of a constructed network and the arguments that they were built from. -/
structure Constructed (root : Root K) (model : ShuffleNetV2 K) (stagesRepeats : List ℕ)
    (out1 out2 out3 out4 : ℕ+) (numClasses : ℕ) : Prop where
  stem : Exactly (WithChannels 3) (model.conv1.forward root) (WithChannels out1)
  stage2 : Exactly (WithChannels out1) (stageForward root model.stage2)
    (WithChannels (2 * (out2 / 2)))
  stage3 : Exactly (WithChannels out2) (stageForward root model.stage3)
    (WithChannels (2 * (out3 / 2)))
  stage4 : Exactly (WithChannels out3) (stageForward root model.stage4)
    (WithChannels (2 * (out4 / 2)))
  head : Exactly (WithChannels out4) (model.head root) fun logits => logits.length = numClasses
  asserted : ∀ stage ∈ stagesRepeats.zip [out2, out3, out4], 2 ≤ stage.1 → Even (stage.2 : ℕ)

omit [LinearOrder K] in
theorem length_globalPool (x : FeatureMap K) : (globalPool x).length = x.channels := by
  rw [globalPool, List.length_map, List.length_range]

/-- The linear layer fits the last convolution. -/
theorem meets_fc (fc : Linear K) :
    Meets (WithChannels (K := K) fc.inFeatures) (fun x => fc.forward (globalPool (relu x)))
      fun logits => logits.length = fc.outFeatures := by
  intro x hx
  obtain ⟨logits, hlogits⟩ := fc.returns_iff.2
    ((length_globalPool (relu x)).trans hx.1)
  exact ⟨logits, hlogits, Linear.length_of_forward hlogits⟩

theorem exactly_stem (out1 : ℕ+) (weights : ConvWeights K) (root : Root K) :
    Exactly (WithChannels 3)
      (NormalizedConv.forward ⟨conv3x3 (Nat.toPNat' 3) out1 defaultStride weights.weight,
        weights.bn⟩ root)
      (WithChannels out1) :=
  NormalizedConv.exactly_withChannels
    ⟨conv3x3 (Nat.toPNat' 3) out1 defaultStride weights.weight, weights.bn⟩ root
    fun _ => Geometry.fits_threeByThree

/-- What a constructed network is made of. -/
theorem constructed_of_init {weights : Weights K} {stagesRepeats : List ℕ}
    {stagesOutChannels : List ℕ+} {numClasses : ℕ} {model : ShuffleNetV2 K} (root : Root K)
    (h : ShuffleNetV2.init weights stagesRepeats stagesOutChannels numClasses = .ok model) :
    ∃ out1 out2 out3 out4, stageChannels stagesOutChannels = [out2, out3, out4] ∧
      Constructed root model stagesRepeats out1 out2 out3 out4 numClasses := by
  unfold ShuffleNetV2.init at h
  split at h
  · next repeats2 repeats3 repeats4 =>
      split at h
      · next out1 out2 out3 out4 out5 =>
          obtain ⟨stage2, hstage2, h⟩ := bind_eq_ok_iff.1 h
          obtain ⟨stage3, hstage3, h⟩ := bind_eq_ok_iff.1 h
          obtain ⟨stage4, hstage4, h⟩ := bind_eq_ok_iff.1 h
          cases h
          refine ⟨out1, out2, out3, out4, rfl, ?_⟩
          exact
            { stem := exactly_stem out1 weights.conv1 root
              stage2 := exactly_stage hstage2 root
              stage3 := exactly_stage hstage3 root
              stage4 := exactly_stage hstage4 root
              head := (exactly_pointwiseConv out4 out5 weights.conv5 root).bind
                (meets_fc ⟨out5, numClasses, weights.fcWeight, weights.fcBias⟩)
              asserted := by
                rw [List.zip_cons_cons, List.zip_cons_cons, List.zip_cons_cons, List.zip_nil_left,
                  List.forall_mem_cons, List.forall_mem_cons, List.forall_mem_singleton]
                exact ⟨even_of_makeStage hstage2, even_of_makeStage hstage3,
                  even_of_makeStage hstage4⟩ }
      · cases h
  · cases h

section Networks

variable {root : Root K} {model : ShuffleNetV2 K} {stagesRepeats : List ℕ} {out1 out2 out3 out4 : ℕ+}
  {numClasses : ℕ}

theorem Constructed.classifies
    (h : Constructed root model stagesRepeats out1 out2 out3 out4 numClasses)
    (h2 : Even (out2 : ℕ)) (h3 : Even (out3 : ℕ)) (h4 : Even (out4 : ℕ)) :
    Classifies (model.forward root) 3 numClasses := by
  obtain ⟨hstem, hstage2, hstage3, hstage4, hhead, -⟩ := h
  rw [Nat.two_mul_div_two_of_even h2] at hstage2
  rw [Nat.two_mul_div_two_of_even h3] at hstage3
  rw [Nat.two_mul_div_two_of_even h4] at hstage4
  have hrelu : Meets (WithChannels (K := K) out1)
      (fun x => stageForward root model.stage2 (relu x)) (WithChannels out2) :=
    fun x hx => hstage2.meets (relu x) (withChannels_relu hx)
  have hexactly := hstem.bind (hrelu.bind (hstage3.meets.bind (hstage4.meets.bind hhead.meets)))
  refine classifies_of_meets hexactly.meets ?_
  rintro x ⟨logits, hlogits⟩
  exact hexactly.only x logits hlogits

/-- A stage with an odd number of channels stops the network at the next layer. -/
theorem Constructed.not_returns
    (h : Constructed root model stagesRepeats out1 out2 out3 out4 numClasses)
    (hodd : ¬ (Even (out2 : ℕ) ∧ Even (out3 : ℕ) ∧ Even (out4 : ℕ))) (x : FeatureMap K) :
    ¬ returns (model.forward root x) := by
  rintro ⟨logits, hlogits⟩
  obtain ⟨x1, -, hlogits⟩ := bind_eq_ok_iff.1 hlogits
  obtain ⟨x2, hx2, hlogits⟩ := bind_eq_ok_iff.1 hlogits
  obtain ⟨x3, hx3, hlogits⟩ := bind_eq_ok_iff.1 hlogits
  obtain ⟨x4, hx4, hlogits⟩ := bind_eq_ok_iff.1 hlogits
  apply hodd
  refine ⟨?_, ?_, ?_⟩
  · by_contra h2
    exact not_withChannels_of_odd h2 (h.stage2.post_of hx2) (h.stage3.only x2 x3 hx3)
  · by_contra h3
    exact not_withChannels_of_odd h3 (h.stage3.post_of hx3) (h.stage4.only x3 x4 hx4)
  · by_contra h4
    exact not_withChannels_of_odd h4 (h.stage4.post_of hx4) (h.head.only x4 logits hlogits)

/-- A network that can be constructed runs on exactly the images with three channels if its stages
have even numbers of channels, and on no input otherwise. A stage with two or more blocks has an even
number. -/
theorem ShuffleNetV2.runs_iff_even {weights : Weights K} {stagesOutChannels : List ℕ+}
    (h : ShuffleNetV2.init weights stagesRepeats stagesOutChannels numClasses = .ok model)
    (root : Root K) :
    ((∀ c ∈ stageChannels stagesOutChannels, Even (c : ℕ)) →
      Classifies (model.forward root) 3 numClasses) ∧
    ((∃ c ∈ stageChannels stagesOutChannels, ¬ Even (c : ℕ)) →
      ∀ x, ¬ returns (model.forward root x)) ∧
    ∀ stage ∈ stagesRepeats.zip (stageChannels stagesOutChannels),
      2 ≤ stage.1 → Even (stage.2 : ℕ) := by
  obtain ⟨out1, out2, out3, out4, hchannels, hconstructed⟩ := constructed_of_init root h
  have heven : (∀ c ∈ stageChannels stagesOutChannels, Even (c : ℕ)) ↔
      Even (out2 : ℕ) ∧ Even (out3 : ℕ) ∧ Even (out4 : ℕ) := by
    rw [hchannels, List.forall_mem_cons, List.forall_mem_cons, List.forall_mem_singleton]
  refine ⟨?_, ?_, ?_⟩
  · intro hall
    obtain ⟨h2, h3, h4⟩ := heven.1 hall
    exact hconstructed.classifies h2 h3 h4
  · rintro ⟨c, hc, hodd⟩
    apply hconstructed.not_returns
    intro hall
    exact hodd (heven.2 hall c hc)
  · rw [hchannels]
    exact hconstructed.asserted

end Networks

/-! ## Networks with one block in each stage -/

/-- Empty kernels and new normalisations. -/
def blankConv : ConvWeights ℚ := ⟨fun _ _ _ _ => 0, BatchNormState.initial⟩

/-- Weights that make every layer constant. -/
def blankWeights : Weights ℚ where
  conv1 := blankConv
  block _ _ := ⟨blankConv, blankConv, blankConv, blankConv, blankConv⟩
  conv5 := blankConv
  fcWeight _ _ := 0
  fcBias _ := 0

/-- Three channels in the first stage, which has one block. -/
def oddChannels : List ℕ+ :=
  [Nat.toPNat' 1, Nat.toPNat' 3, Nat.toPNat' 2, Nat.toPNat' 2, Nat.toPNat' 1]

/-- The constructor accepts the odd number, and the network rejects every input. -/
theorem odd_network_rejects_all :
    ∃ model, ShuffleNetV2.init blankWeights [1, 1, 1] oddChannels 10 = .ok model ∧
      ∀ x, ¬ returns (model.forward Root.rat x) := by
  have hinit : returns (ShuffleNetV2.init blankWeights [1, 1, 1] oddChannels 10) := ⟨_, rfl⟩
  obtain ⟨model, hmodel⟩ := hinit
  exact ⟨model, hmodel, (ShuffleNetV2.runs_iff_even hmodel Root.rat).2.1
    ⟨Nat.toPNat' 3, List.mem_cons_self, by decide⟩⟩

end TrojanDetection.Zoo.Shufflenetv2
