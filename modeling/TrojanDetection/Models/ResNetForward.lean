import TrojanDetection.Models.StateDict
import TrojanDetection.Zoo.ResNet
import Mathlib.Data.List.GetD

/-!
# Running a ResNet-18 (`models.py`, `get_resnet18`)

What a network with values for its parameters computes, for one image in evaluation mode. Weights
are read from the parameters by name, as the modules of torchvision's `resnet18` are named; its
blocks are those of `pytorch_cifar_models/resnet.py`. A network can be run if no running variance is
negative (`RunnableNetwork`): for a negative one the square root is no number.

A network whose stem takes three channels to 64 and whose head takes 512 numbers runs on exactly the
images with three channels, and returns as many logits as its head has outputs (`classifies`).
-/

set_option autoImplicit false

namespace TrojanDetection.Models

open TrojanDetection.Library.Convolution
open TrojanDetection.Library.Convolution.FeatureMap
open TrojanDetection.Library.Pipeline
open TrojanDetection.Python
open TrojanDetection.Torch (BatchNormState BatchNorm2d Root adaptiveAvgPool flatten relu maxPool2d
  Classifies classifies_of_meets meets_adaptiveAvgPool length_flatten withChannels_relu)
open TrojanDetection.Zoo.Resnet (BasicBlock BlockWeights defaultStride layerForward makeLayer
  meets_makeLayer)

variable {K : Type}

/-! ## Parameters -/

namespace Network

/-- The entries of a parameter or buffer. -/
def param (net : Network K) (name : String) : List K :=
  ((net.params.lookup name).map Tensor.data).getD []

/-- An entry of a parameter with one dimension. -/
def entry [Zero K] (net : Network K) (name : String) (i : ℕ) : K := (net.param name).getD i 0

/-- An entry of a parameter with two dimensions, stored row by row. -/
def matrixEntry [Zero K] (net : Network K) (name : String) (columns i j : ℕ) : K :=
  net.entry name (i * columns + j)

/-- The weight of a convolution. -/
def kernel [Zero K] (net : Network K) (name : String) (inChannels kernelSize : ℕ) : Kernel K :=
  fun o c u v =>
    net.entry (name ++ ".weight") (((o * inChannels + c) * kernelSize + u) * kernelSize + v)

/-- No running variance is negative. -/
def VariancesNonneg [Zero K] [LE K] (net : Network K) : Prop :=
  ∀ name, ∀ v ∈ net.param (name ++ ".running_var"), 0 ≤ v

end Network

/-! ## Stem and pooling -/

section Field

variable [Field K]

/-- A convolution without bias; a layer without channels or stride raises. -/
def Conv2d.forward (conv : Conv2d) (weight : Kernel K) (x : FeatureMap K) :
    Except PyError (FeatureMap K) :=
  if h : 0 < conv.inChannels ∧ 0 < conv.outChannels ∧ 0 < conv.stride then
    Torch.Conv2d.forward
      { inChannels := conv.inChannels
        outChannels := conv.outChannels
        kernelSize := conv.kernelSize
        stride := conv.stride
        padding := conv.padding
        groups := 1
        weight := weight
        bias := none
        inChannels_pos := h.1
        outChannels_pos := h.2.1
        stride_pos := h.2.2
        groups_pos := Nat.one_pos
        groups_dvd_in := one_dvd _
        groups_dvd_out := one_dvd _ } x
  else .error (.runtimeError "non-positive channels or stride")

/-- The padding is half of the kernel. -/
def Centred (kernelSize padding : ℕ) : Prop := kernelSize = 2 * padding + 1

theorem fits_iff_of_centred {kernelSize stride padding n : ℕ} (h : Centred kernelSize padding) :
    Geometry.Fits ⟨kernelSize, stride, padding⟩ n ↔ 1 ≤ n := by
  simp only [Geometry.Fits, Centred] at *
  omega

/-- A convolution between the given channels that accepts every size. -/
structure Conv2d.Between (conv : Conv2d) (inChannels outChannels : ℕ) : Prop where
  inChannels_eq : conv.inChannels = inChannels
  outChannels_eq : conv.outChannels = outChannels
  inChannels_pos : 0 < inChannels
  outChannels_pos : 0 < outChannels
  stride_pos : 0 < conv.stride
  centred : Centred conv.kernelSize conv.padding

theorem Conv2d.Between.exactly {conv : Conv2d} {inChannels outChannels : ℕ}
    (h : conv.Between inChannels outChannels) (weight : Kernel K) :
    Exactly (WithChannels inChannels) (conv.forward weight) (WithChannels outChannels) := by
  obtain ⟨rfl, rfl, hin, hout, hstride, hcentred⟩ := h
  have hforward : ∀ x y : FeatureMap K, conv.forward weight x = .ok y →
      x.WithChannels conv.inChannels := by
    intro x y hy
    rw [Conv2d.forward, dif_pos ⟨hin, hout, hstride⟩, Torch.Conv2d.forward_eq_ok_iff] at hy
    obtain ⟨⟨hchannels, hheight, hwidth⟩, -⟩ := hy
    exact ⟨hchannels, (fits_iff_of_centred hcentred).1 hheight,
      (fits_iff_of_centred hcentred).1 hwidth⟩
  refine ⟨?_, hforward⟩
  rintro x ⟨hchannels, hheight, hwidth⟩
  rw [Conv2d.forward, dif_pos ⟨hin, hout, hstride⟩]
  refine ⟨_, Torch.Conv2d.forward_eq_ok_iff.2 ⟨⟨hchannels, ?_, ?_⟩, rfl⟩, rfl,
    Geometry.one_le_extent, Geometry.one_le_extent⟩
  · exact (fits_iff_of_centred hcentred).2 hheight
  · exact (fits_iff_of_centred hcentred).2 hwidth

variable [LinearOrder K]

/-- `self.maxpool`. -/
def Pool.forward (x : FeatureMap K) : Pool → Except PyError (FeatureMap K)
  | .identity => .ok x
  | .maxPool2d kernelSize stride padding => Torch.maxPool2d ⟨kernelSize, stride, padding⟩ x

/-- A pooling that accepts every size. -/
def Pool.Accepts : Pool → Prop
  | .identity => True
  | .maxPool2d kernelSize stride padding => 0 < stride ∧ Centred kernelSize padding

theorem Pool.Accepts.meets {pool : Pool} (h : pool.Accepts) (channels : ℕ) :
    Meets (WithChannels (K := K) channels) (fun x => pool.forward x) (WithChannels channels) := by
  cases pool with
  | identity => exact Meets.pure fun _ hx => hx
  | maxPool2d kernelSize stride padding =>
      obtain ⟨hstride, hcentred⟩ := h
      have hpadding : 2 * padding ≤ kernelSize := by
        rw [hcentred]
        exact Nat.le_succ _
      exact Torch.meets_maxPool2d hstride hpadding (fun n hn => (fits_iff_of_centred hcentred).2 hn)
        channels

/-! ## Normalisation -/

/-- A network without negative running variances, so that every normalisation has a square root to
divide by. -/
structure RunnableNetwork (K : Type) [Zero K] [LE K] where
  net : Network K
  variances_nonneg : net.VariancesNonneg

theorem RunnableNetwork.runningVar_nonneg (model : RunnableNetwork K) (name : String) (c : ℕ) :
    0 ≤ model.net.entry (name ++ ".running_var") c := by
  rw [Network.entry]
  rcases lt_or_ge c (model.net.param (name ++ ".running_var")).length with hlt | hge
  · rw [List.getD_eq_getElem _ _ hlt]
    exact model.variances_nonneg name _ (List.getElem_mem hlt)
  · rw [List.getD_eq_default _ _ hge]

variable [IsStrictOrderedRing K]

/-- The value of `eps` in calls that do not pass one. -/
def defaultEps (K : Type) [Field K] : K := 1 / ((100000 : ℕ) : K)

theorem defaultEps_pos : 0 < defaultEps K :=
  one_div_pos.2 (Nat.cast_pos.2 (Nat.succ_pos 99999))

/-- The state of a normalisation. -/
def RunnableNetwork.batchNorm (model : RunnableNetwork K) (name : String) : BatchNormState K where
  weight := model.net.entry (name ++ ".weight")
  bias := model.net.entry (name ++ ".bias")
  runningMean := model.net.entry (name ++ ".running_mean")
  runningVar := model.net.entry (name ++ ".running_var")
  eps := defaultEps K
  runningVar_nonneg := model.runningVar_nonneg name
  eps_pos := defaultEps_pos

/-! ## Heads -/

/-- A layer of the head; `name` is what its parameters are found by. -/
def Layer.forward (model : RunnableNetwork K) (root : Root K) (name : String) (layer : Layer)
    (features : List K) : Except PyError (List K) :=
  match layer with
  | .linear inFeatures outFeatures =>
      Torch.Linear.forward
        { inFeatures := inFeatures
          outFeatures := outFeatures
          weight := model.net.matrixEntry (name ++ ".weight") inFeatures
          bias := model.net.entry (name ++ ".bias") } features
  | .batchNorm1d width =>
      if features.length ≠ width then
        .error (.runtimeError "running_mean should contain another number of elements")
      else .ok (features.mapIdx fun c v => (model.batchNorm name).normalize root c v)
  | .relu => .ok (features.map fun v => max v 0)
  -- evaluation mode
  | .dropout _ => .ok features

/-- `self.fc`. -/
def Head.forward (model : RunnableNetwork K) (root : Root K) :
    Head → List K → Except PyError (List K)
  | .single layer => layer.forward model root "fc"
  | .sequential layers =>
      sequence (layers.zipIdx.map fun (layer, i) =>
        layer.forward model root ("fc" ++ "." ++ toString i))

/-- The layer takes vectors of this width. -/
def Layer.Takes (width : ℕ) : Layer → Prop
  | .linear inFeatures _ => inFeatures = width
  | .batchNorm1d features => features = width
  | .relu => True
  | .dropout _ => True

/-- Each layer takes what the one before it returns. -/
def Chained : ℕ → List Layer → Prop
  | _, [] => True
  | width, layer :: layers => layer.Takes width ∧ Chained (layer.outputs width) layers

/-- The head takes vectors of this width. -/
def Head.Takes (width : ℕ) : Head → Prop
  | .single layer => layer.Takes width
  | .sequential layers => Chained width layers

/-- The width of what a head returns. -/
def Head.outputs (width : ℕ) : Head → ℕ
  | .single layer => layer.outputs width
  | .sequential layers => layers.foldl Layer.outputs width

theorem ResNet18.outputs_eq (arch : ResNet18) : arch.outputs = arch.fc.outputs 512 := by
  rw [ResNet18.outputs]
  cases arch.fc <;> rfl

/-- A vector of the given width. -/
def OfLength (width : ℕ) (features : List K) : Prop := features.length = width

section Head

variable (model : RunnableNetwork K) (root : Root K)

theorem Layer.meets {layer : Layer} {width : ℕ} (h : layer.Takes width) (name : String) :
    Meets (OfLength width) (layer.forward model root name) (OfLength (layer.outputs width)) := by
  intro features hlength
  cases layer with
  | linear inFeatures outFeatures =>
      have hfeatures : features.length = inFeatures := hlength.trans (Eq.symm h)
      obtain ⟨out, hout⟩ := (Torch.Linear.returns_iff
        { inFeatures := inFeatures
          outFeatures := outFeatures
          weight := model.net.matrixEntry (name ++ ".weight") inFeatures
          bias := model.net.entry (name ++ ".bias") }).2 hfeatures
      exact ⟨out, hout, Torch.Linear.length_of_forward hout⟩
  | batchNorm1d features' =>
      refine ⟨_, if_neg (not_not.2 (hlength.trans (Eq.symm h))), ?_⟩
      exact (List.length_mapIdx).trans hlength
  | relu => exact ⟨_, rfl, (List.length_map _).trans hlength⟩
  | dropout p => exact ⟨_, rfl, hlength⟩

theorem leads_of_chained {layers : List Layer} {width : ℕ} (h : Chained width layers) (start : ℕ) :
    Leads (OfLength (K := K)) width
      ((layers.zipIdx start).map fun (layer, i) =>
        layer.forward model root ("fc" ++ "." ++ toString i))
      (layers.foldl Layer.outputs width) := by
  induction layers generalizing width start with
  | nil => exact .nil width
  | cons layer layers ih =>
      obtain ⟨hlayer, hlayers⟩ := h
      exact .cons (layer.meets model root hlayer _) (ih hlayers (start + 1))

theorem Head.meets {head : Head} {width : ℕ} (h : head.Takes width) :
    Meets (OfLength width) (head.forward model root) (OfLength (head.outputs width)) := by
  cases head with
  | single layer => exact layer.meets model root h "fc"
  | sequential layers => exact (leads_of_chained model root h 0).meets

end Head

/-! ## Networks -/

namespace RunnableNetwork

variable (model : RunnableNetwork K) (root : Root K)

/-- The parameters of a block. -/
def blockWeights (name : String) (inplanes planes : ℕ) : BlockWeights K where
  conv1 := model.net.kernel (name ++ ".conv1") inplanes 3
  bn1 := model.batchNorm (name ++ ".bn1")
  conv2 := model.net.kernel (name ++ ".conv2") planes 3
  bn2 := model.batchNorm (name ++ ".bn2")
  downsampleConv := model.net.kernel (name ++ ".downsample.0") inplanes 1
  downsampleBn := model.batchNorm (name ++ ".downsample.1")

/-- A layer of two blocks, of which the first changes the shape. -/
def stage (name : String) (inplanes planes stride : ℕ+) : List (BasicBlock K) :=
  makeLayer (fun i => model.blockWeights (name ++ "." ++ toString i)
    (if i = 0 then inplanes else planes) planes) inplanes planes 2 stride

/-- The maps that the network pools. -/
def features (x : FeatureMap K) : Except PyError (FeatureMap K) := do
  let conv1 := model.net.arch.conv1
  let x ← conv1.forward (model.net.kernel "conv1" conv1.inChannels conv1.kernelSize) x
  let x ← (BatchNorm2d.mk 64 (model.batchNorm "bn1")).forward root x
  let x ← model.net.arch.maxpool.forward (relu x)
  let x ← layerForward root
    (model.stage "layer1" (Nat.toPNat' 64) (Nat.toPNat' 64) defaultStride) x
  let x ← layerForward root
    (model.stage "layer2" (Nat.toPNat' 64) (Nat.toPNat' 128) (Nat.toPNat' 2)) x
  let x ← layerForward root
    (model.stage "layer3" (Nat.toPNat' 128) (Nat.toPNat' 256) (Nat.toPNat' 2)) x
  layerForward root
    (model.stage "layer4" (Nat.toPNat' 256) (Nat.toPNat' 512) (Nat.toPNat' 2)) x

/-- What the module `avgpool` returns. -/
def avgpool (x : FeatureMap K) : Except PyError (FeatureMap K) := do
  let x ← model.features root x
  adaptiveAvgPool x

/-- `ResNet.forward`. -/
def forward (x : FeatureMap K) : Except PyError (List K) := do
  let x ← model.avgpool root x
  model.net.arch.fc.forward model root (flatten x)

end RunnableNetwork

/-- The parts of a network fit together. -/
structure ResNet18.Connected (arch : ResNet18) : Prop where
  conv1 : arch.conv1.Between 3 64
  maxpool : arch.maxpool.Accepts
  fc : arch.fc.Takes 512

namespace RunnableNetwork

variable {model : RunnableNetwork K}

theorem exactly_features (h : model.net.arch.Connected) (root : Root K) :
    Exactly (WithChannels 3) (model.features root) (WithChannels 512) := by
  have hconv := h.conv1.exactly
    (model.net.kernel "conv1" model.net.arch.conv1.inChannels model.net.arch.conv1.kernelSize)
  have hbn := (BatchNorm2d.mk 64 (model.batchNorm "bn1")).meets root
  have hpool := h.maxpool.meets (K := K) 64
  have hrelu : Meets (WithChannels (K := K) 64) (fun x => model.net.arch.maxpool.forward (relu x))
      (WithChannels 64) := fun x hx => hpool (relu x) (withChannels_relu hx)
  have hlayer1 := meets_makeLayer root (fun i => model.blockWeights ("layer1" ++ "." ++ toString i)
    (if i = 0 then 64 else 64) 64) (Nat.toPNat' 64) (Nat.toPNat' 64) 2 defaultStride
  have hlayer2 := meets_makeLayer root (fun i => model.blockWeights ("layer2" ++ "." ++ toString i)
    (if i = 0 then 64 else 128) 128) (Nat.toPNat' 64) (Nat.toPNat' 128) 2 (Nat.toPNat' 2)
  have hlayer3 := meets_makeLayer root (fun i => model.blockWeights ("layer3" ++ "." ++ toString i)
    (if i = 0 then 128 else 256) 256) (Nat.toPNat' 128) (Nat.toPNat' 256) 2 (Nat.toPNat' 2)
  have hlayer4 := meets_makeLayer root (fun i => model.blockWeights ("layer4" ++ "." ++ toString i)
    (if i = 0 then 256 else 512) 512) (Nat.toPNat' 256) (Nat.toPNat' 512) 2 (Nat.toPNat' 2)
  exact hconv.bind (hbn.bind (hrelu.bind (hlayer1.bind (hlayer2.bind (hlayer3.bind hlayer4)))))

/-- The module `avgpool` leaves one number for each of 512 channels. -/
theorem exactly_avgpool (h : model.net.arch.Connected) (root : Root K) :
    Exactly (WithChannels 3) (model.avgpool root)
      fun y : FeatureMap K => y.channels = 512 ∧ y.height = 1 ∧ y.width = 1 :=
  (exactly_features h root).bind meets_adaptiveAvgPool

/-- A network whose parts fit together classifies images with three channels. -/
theorem classifies (h : model.net.arch.Connected) (root : Root K) :
    Classifies (model.forward root) 3 model.net.arch.outputs := by
  have hhead : Meets (fun y : FeatureMap K => y.channels = 512 ∧ y.height = 1 ∧ y.width = 1)
      (fun y => model.net.arch.fc.forward model root (flatten y))
      fun logits => logits.length = model.net.arch.outputs := by
    rintro y ⟨hchannels, hheight, hwidth⟩
    have hlength : OfLength 512 (flatten y) := by
      rw [OfLength, length_flatten, hchannels, hheight, hwidth]
    rw [model.net.arch.outputs_eq]
    exact Head.meets model root h.fc (flatten y) hlength
  have hexactly := (exactly_avgpool h root).bind hhead
  apply classifies_of_meets hexactly.meets
  rintro x ⟨logits, hlogits⟩
  exact hexactly.only x logits hlogits

end RunnableNetwork

end Field

end TrojanDetection.Models
