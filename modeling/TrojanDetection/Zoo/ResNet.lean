import TrojanDetection.Torch.Layers
import Mathlib.Data.PNat.Basic

/-!
# Residual networks (`pytorch_cifar_models/resnet.py`)

A block adds its input, or a projection of it, to the output of two convolutions, in place. The
constructor gives a block a projection exactly where the two would not have one shape
(`BasicBlock.shortcut_iff`), so the addition never raises and never broadcasts, whatever the height
and width are; a constructed network therefore runs on every image with three channels.
-/

set_option autoImplicit false

namespace TrojanDetection.Zoo.Resnet

open TrojanDetection.Library.Convolution
open TrojanDetection.Library.Convolution.FeatureMap
open TrojanDetection.Library.Pipeline
open TrojanDetection.Python
open TrojanDetection.Torch

variable {K : Type}

/-! ## Convolutions -/

/-- The value of `stride` in calls that do not pass one. -/
def defaultStride : ℕ+ := ⟨1, Nat.one_pos⟩

/-- A convolution of a block, without groups and bias. -/
def convolution (kernelSize padding : ℕ) (inPlanes outPlanes stride : ℕ+) (weight : Kernel K) :
    Conv2d K where
  inChannels := inPlanes
  outChannels := outPlanes
  kernelSize := kernelSize
  stride := stride
  padding := padding
  groups := 1
  weight := weight
  bias := none
  inChannels_pos := inPlanes.pos
  outChannels_pos := outPlanes.pos
  stride_pos := stride.pos
  groups_pos := Nat.one_pos
  groups_dvd_in := one_dvd _
  groups_dvd_out := one_dvd _

/-- `conv3x3`. -/
def conv3x3 (inPlanes outPlanes stride : ℕ+) (weight : Kernel K) : Conv2d K :=
  convolution 3 1 inPlanes outPlanes stride weight

/-- `conv1x1`. -/
def conv1x1 (inPlanes outPlanes stride : ℕ+) (weight : Kernel K) : Conv2d K :=
  convolution 1 0 inPlanes outPlanes stride weight

/-! ## Blocks -/

/-- A `BasicBlock` as `_make_layer` builds it, which passes a `downsample` exactly if the shapes
differ. -/
structure BasicBlock (K : Type) [Field K] [LinearOrder K] where
  inplanes : ℕ+
  planes : ℕ+
  stride : ℕ+
  conv1 : Kernel K
  bn1 : BatchNormState K
  conv2 : Kernel K
  bn2 : BatchNormState K
  downsample : Option (Kernel K × BatchNormState K)
  shortcut_iff : downsample.isSome = true ↔ (stride : ℕ) ≠ 1 ∨ inplanes ≠ planes

variable [Field K] [LinearOrder K]

namespace BasicBlock

/-- `conv1` and `bn1`. -/
def first (block : BasicBlock K) : NormalizedConv K :=
  ⟨conv3x3 block.inplanes block.planes block.stride block.conv1, block.bn1⟩

/-- `conv2` and `bn2`. -/
def second (block : BasicBlock K) : NormalizedConv K :=
  ⟨conv3x3 block.planes block.planes defaultStride block.conv2, block.bn2⟩

/-- `nn.Sequential(conv1x1(...), nn.BatchNorm2d(...))`. -/
def projection (block : BasicBlock K) (weights : Kernel K × BatchNormState K) : NormalizedConv K :=
  ⟨conv1x1 block.inplanes block.planes block.stride weights.1, weights.2⟩

/-- `identity` at the time of the addition. -/
def shortcut (block : BasicBlock K) (root : Root K) (x : FeatureMap K) :
    Except PyError (FeatureMap K) :=
  match block.downsample with
  | none => .ok x
  | some weights => (block.projection weights).forward root x

/-- `BasicBlock.forward`. -/
def forward (block : BasicBlock K) (root : Root K) (x : FeatureMap K) :
    Except PyError (FeatureMap K) := do
  let out ← block.first.forward root x
  let out ← block.second.forward root (relu out)
  let identity ← block.shortcut root x
  let out ← addInPlace out identity
  .ok (relu out)

/-! ### What a block computes -/

/-- The output of the two convolutions. -/
def convPath (block : BasicBlock K) (root : Root K) (x : FeatureMap K) : FeatureMap K :=
  block.second.apply root (relu (block.first.apply root x))

/-- What is added to it. -/
def identity (block : BasicBlock K) (root : Root K) (x : FeatureMap K) : FeatureMap K :=
  match block.downsample with
  | none => x
  | some weights => (block.projection weights).apply root x

variable {block : BasicBlock K} {root : Root K} {x y : FeatureMap K}

theorem first_forward_eq_ok_iff :
    block.first.forward root x = .ok y ↔
      x.WithChannels block.inplanes ∧ block.first.apply root x = y := by
  have hfits : ∀ n, block.first.conv.geometry.Fits n ↔ 1 ≤ n := fun _ => Geometry.fits_threeByThree
  exact NormalizedConv.forward_eq_ok_iff_withChannels hfits

theorem second_forward_eq_ok (hx : x.WithChannels block.planes) :
    block.second.forward root x = .ok (block.second.apply root x) := by
  have hfits : ∀ n, block.second.conv.geometry.Fits n ↔ 1 ≤ n :=
    fun _ => Geometry.fits_threeByThree
  exact (NormalizedConv.forward_eq_ok_iff_withChannels hfits).2 ⟨hx, rfl⟩

theorem shortcut_eq_ok (hx : x.WithChannels block.inplanes) :
    block.shortcut root x = .ok (block.identity root x) := by
  rw [shortcut, identity]
  split
  · rfl
  · next weights _ =>
      have hfits : ∀ n, (block.projection weights).conv.geometry.Fits n ↔ 1 ≤ n :=
        fun _ => Geometry.fits_oneByOne
      exact (NormalizedConv.forward_eq_ok_iff_withChannels hfits).2 ⟨hx, rfl⟩

/-- The rows and columns of the two convolutions are those of the first. -/
theorem shape_convPath : (block.convPath root x).shape =
    ((block.planes : ℕ), Geometry.extent ⟨3, block.stride, 1⟩ x.height,
      Geometry.extent ⟨3, block.stride, 1⟩ x.width) := by
  have hsame : ∀ n, Geometry.extent ⟨3, 1, 1⟩ (Geometry.extent ⟨3, block.stride, 1⟩ n) =
      Geometry.extent ⟨3, block.stride, 1⟩ n :=
    fun n => Geometry.extent_same (p := 1) Geometry.one_le_extent
  show (_, Geometry.extent ⟨3, 1, 1⟩ (Geometry.extent ⟨3, block.stride, 1⟩ x.height),
    Geometry.extent ⟨3, 1, 1⟩ (Geometry.extent ⟨3, block.stride, 1⟩ x.width)) = _
  rw [hsame, hsame]
  rfl

/-- Both summands have one shape, for an odd number of rows and columns as well. -/
theorem shape_convPath_eq (hx : x.WithChannels block.inplanes) :
    (block.convPath root x).shape = (block.identity root x).shape := by
  rw [shape_convPath, identity]
  split
  · next hnone =>
      -- no projection: the stride is one and the planes agree
      have hsame : ¬ ((block.stride : ℕ) ≠ 1 ∨ block.inplanes ≠ block.planes) := by
        rw [← block.shortcut_iff, hnone]
        exact Bool.false_ne_true
      obtain ⟨hstride, hplanes⟩ := not_or.1 hsame
      obtain ⟨hchannels, hheight, hwidth⟩ := hx
      rw [not_not.1 hstride, Geometry.extent_same (p := 1) hheight,
        Geometry.extent_same (p := 1) hwidth, shape, hchannels, not_not.1 hplanes]
  · show _ = ((block.planes : ℕ), Geometry.extent ⟨1, block.stride, 0⟩ x.height,
      Geometry.extent ⟨1, block.stride, 0⟩ x.width)
    rw [Geometry.extent_oneByOne, Geometry.extent_oneByOne]

/-- The output of a block, entry by entry. -/
def output (block : BasicBlock K) (root : Root K) (x : FeatureMap K) : FeatureMap K :=
  relu (tabulate (block.convPath root x).channels (block.convPath root x).height
    (block.convPath root x).width fun c i j =>
      (block.convPath root x).value c i j + (block.identity root x).value c i j)

theorem shape_output : (block.output root x).shape =
    ((block.planes : ℕ), Geometry.extent ⟨3, block.stride, 1⟩ x.height,
      Geometry.extent ⟨3, block.stride, 1⟩ x.width) :=
  shape_convPath

theorem value_output {c : ℕ} {i j : ℤ}
    (hin : Inside (block.output root x).channels (block.output root x).height
      (block.output root x).width c i j) :
    (block.output root x).value c i j =
      max (block.second.entry root (relu (block.first.apply root x)) c i j +
        (block.identity root x).value c i j) 0 := by
  have hin' : Inside (block.convPath root x).channels (block.convPath root x).height
      (block.convPath root x).width c i j := hin
  have hpath : (block.convPath root x).value c i j =
      block.second.entry root (relu (block.first.apply root x)) c i j := value_tabulate hin'
  calc (block.output root x).value c i j
      = max ((tabulate (block.convPath root x).channels (block.convPath root x).height
          (block.convPath root x).width fun c i j => (block.convPath root x).value c i j +
            (block.identity root x).value c i j).value c i j) 0 := value_relu hin'
    _ = max ((block.convPath root x).value c i j + (block.identity root x).value c i j) 0 := by
        rw [value_tabulate hin']
    _ = _ := by rw [hpath]

/-- A block returns on the inputs with its channels, and only there. -/
theorem forward_eq_ok_iff :
    block.forward root x = .ok y ↔ x.WithChannels block.inplanes ∧ block.output root x = y := by
  have hsecond : block.second.forward root (relu (block.first.apply root x)) =
      .ok (block.convPath root x) :=
    second_forward_eq_ok (withChannels_relu (NormalizedConv.withChannels_apply _ _ _))
  constructor
  · intro h
    obtain ⟨out, hout, h⟩ := bind_eq_ok_iff.1 h
    obtain ⟨hx, rfl⟩ := first_forward_eq_ok_iff.1 hout
    rw [hsecond, shortcut_eq_ok hx] at h
    refine ⟨hx, ?_⟩
    simp only [bind, Except.bind, addInPlace_of_shape_eq (shape_convPath_eq hx)] at h
    exact Except.ok.inj h
  · rintro ⟨hx, rfl⟩
    refine bind_eq_ok_iff.2 ⟨_, first_forward_eq_ok_iff.2 ⟨hx, rfl⟩, ?_⟩
    rw [hsecond, shortcut_eq_ok hx]
    simp only [bind, Except.bind, addInPlace_of_shape_eq (shape_convPath_eq hx)]
    rfl

theorem meets (block : BasicBlock K) (root : Root K) :
    Meets (WithChannels block.inplanes) (block.forward root) (WithChannels block.planes) := by
  intro x hx
  refine ⟨block.output root x, forward_eq_ok_iff.2 ⟨hx, rfl⟩, ?_⟩
  exact NormalizedConv.withChannels_apply block.second root _

end BasicBlock

/-! ## Networks -/

/-- `CifarResNet`: the stem, three layers of blocks and the linear layer. -/
structure CifarResNet (K : Type) [Field K] [LinearOrder K] where
  stem : NormalizedConv K
  layer1 : List (BasicBlock K)
  layer2 : List (BasicBlock K)
  layer3 : List (BasicBlock K)
  fc : Linear K

/-- An `nn.Sequential` of blocks. -/
def layerForward (root : Root K) (blocks : List (BasicBlock K)) :
    FeatureMap K → Except PyError (FeatureMap K) :=
  sequence (blocks.map fun block => block.forward root)

/-- `CifarResNet.forward`. -/
def CifarResNet.forward (model : CifarResNet K) (root : Root K) (x : FeatureMap K) :
    Except PyError (List K) := do
  let x ← model.stem.forward root x
  let x ← layerForward root model.layer1 (relu x)
  let x ← layerForward root model.layer2 x
  let x ← layerForward root model.layer3 x
  let x ← adaptiveAvgPool x
  model.fc.forward (flatten x)

/-- What a block is initialised with; the last two are used if it has a projection. -/
structure BlockWeights (K : Type) [Field K] [LinearOrder K] where
  conv1 : Kernel K
  bn1 : BatchNormState K
  conv2 : Kernel K
  bn2 : BatchNormState K
  downsampleConv : Kernel K
  downsampleBn : BatchNormState K

/-- What a network is initialised with; blocks are found by their layer and position. -/
structure Weights (K : Type) [Field K] [LinearOrder K] where
  conv1 : Kernel K
  bn1 : BatchNormState K
  block : ℕ → ℕ → BlockWeights K
  fcWeight : ℕ → ℕ → K
  fcBias : ℕ → K

/-- A block with the test for `downsample` that `_make_layer` makes; `expansion` is one. -/
def newBlock (weights : BlockWeights K) (inplanes planes stride : ℕ+) : BasicBlock K where
  inplanes := inplanes
  planes := planes
  stride := stride
  conv1 := weights.conv1
  bn1 := weights.bn1
  conv2 := weights.conv2
  bn2 := weights.bn2
  downsample := if (stride : ℕ) ≠ 1 ∨ inplanes ≠ planes then
    some (weights.downsampleConv, weights.downsampleBn) else none
  shortcut_iff := Option.isSome_ite

/-- `_make_layer`: a first block, which changes the shape, and `range(1, blocks)` further ones. -/
def makeLayer (weights : ℕ → BlockWeights K) (inplanes planes : ℕ+) (blocks : ℕ) (stride : ℕ+) :
    List (BasicBlock K) :=
  newBlock (weights 0) inplanes planes stride ::
    (List.range' 1 (blocks - 1)).map fun i => newBlock (weights i) planes planes defaultStride

/-- `CifarResNet.__init__`. -/
def CifarResNet.init (weights : Weights K) (layers : ℕ × ℕ × ℕ) (numClasses : ℕ) :
    CifarResNet K where
  stem := ⟨conv3x3 (Nat.toPNat' 3) (Nat.toPNat' 16) defaultStride weights.conv1, weights.bn1⟩
  layer1 := makeLayer (weights.block 1) (Nat.toPNat' 16) (Nat.toPNat' 16) layers.1 defaultStride
  layer2 := makeLayer (weights.block 2) (Nat.toPNat' 16) (Nat.toPNat' 32) layers.2.1
    (Nat.toPNat' 2)
  layer3 := makeLayer (weights.block 3) (Nat.toPNat' 32) (Nat.toPNat' 64) layers.2.2
    (Nat.toPNat' 2)
  fc :=
    { inFeatures := 64
      outFeatures := numClasses
      weight := weights.fcWeight
      bias := weights.fcBias }

/-- A layer leads from the channels before it to its own, with any number of blocks. -/
theorem meets_makeLayer (root : Root K) (weights : ℕ → BlockWeights K) (inplanes planes : ℕ+)
    (blocks : ℕ) (stride : ℕ+) :
    Meets (WithChannels inplanes) (layerForward root (makeLayer weights inplanes planes blocks stride))
      (WithChannels (K := K) planes) := by
  refine ((newBlock (weights 0) inplanes planes stride).meets root).bind (Meets.sequence ?_)
  intro stage hstage
  rw [List.map_map, List.mem_map] at hstage
  obtain ⟨i, -, rfl⟩ := hstage
  exact (newBlock (weights i) planes planes defaultStride).meets root

theorem stem_forward_eq_ok_iff {weights : Weights K} {layers : ℕ × ℕ × ℕ} {numClasses : ℕ}
    {root : Root K} {x y : FeatureMap K} :
    (CifarResNet.init weights layers numClasses).stem.forward root x = .ok y ↔
      x.WithChannels 3 ∧
        (CifarResNet.init weights layers numClasses).stem.apply root x = y := by
  have hfits : ∀ n, (CifarResNet.init weights layers numClasses).stem.conv.geometry.Fits n ↔
      1 ≤ n := fun _ => Geometry.fits_threeByThree
  exact NormalizedConv.forward_eq_ok_iff_withChannels hfits

/-- A residual network of any depth runs on an input if and only if it is an image with three
channels, of any height and width, and returns one logit for each class. -/
theorem CifarResNet.classifies_init (weights : Weights K) (layers : ℕ × ℕ × ℕ) (numClasses : ℕ)
    (root : Root K) :
    Classifies ((CifarResNet.init weights layers numClasses).forward root) 3 numClasses := by
  have hstem : Meets (WithChannels 3)
      (fun x => (CifarResNet.init weights layers numClasses).stem.forward root x)
      (WithChannels (K := K) 16) := by
    intro x hx
    exact ⟨_, stem_forward_eq_ok_iff.2 ⟨hx, rfl⟩, NormalizedConv.withChannels_apply _ _ _⟩
  have hlayer1 := meets_makeLayer root (weights.block 1) (Nat.toPNat' 16) (Nat.toPNat' 16)
    layers.1 defaultStride
  have hlayer2 := meets_makeLayer root (weights.block 2) (Nat.toPNat' 16) (Nat.toPNat' 32)
    layers.2.1 (Nat.toPNat' 2)
  have hlayer3 := meets_makeLayer root (weights.block 3) (Nat.toPNat' 32) (Nat.toPNat' 64)
    layers.2.2 (Nat.toPNat' 2)
  have hhead := meets_head (CifarResNet.init weights layers numClasses).fc rfl
  have hrelu : Meets (WithChannels (K := K) 16)
      (fun x => layerForward root (makeLayer (weights.block 1) (Nat.toPNat' 16) (Nat.toPNat' 16)
        layers.1 defaultStride) (relu x))
      (WithChannels (K := K) 16) := fun x hx => hlayer1 (relu x) (withChannels_relu hx)
  refine classifies_of_meets (hstem.bind (hrelu.bind (hlayer2.bind (hlayer3.bind hhead)))) ?_
  rintro x ⟨logits, hlogits⟩
  obtain ⟨out, hout, -⟩ := bind_eq_ok_iff.1 hlogits
  exact (stem_forward_eq_ok_iff.1 hout).1

end TrojanDetection.Zoo.Resnet
