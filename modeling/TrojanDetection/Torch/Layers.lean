import TrojanDetection.Library.Convolution
import TrojanDetection.Library.Pipeline
import TrojanDetection.Python.Basic
import Mathlib.Algebra.Order.Field.Basic
import Mathlib.Data.Rat.Sqrt
import Mathlib.Algebra.Order.Ring.Rat
import Mathlib.Tactic.NormNum

/-!
# Layers of a network (`torch.nn`)

The forward passes of the layers that the networks of the repository are made of, for one sample
and in evaluation mode. A layer raises when the shape of its input does not fit. Numbers are those
of an ordered field, the square root is any function that is positive on positive numbers.

Each layer comes with one lemma that says when it returns and what (`forward_eq_ok_iff`).
-/

set_option autoImplicit false

namespace TrojanDetection.Torch

open TrojanDetection.Library.Convolution
open TrojanDetection.Library.Convolution.FeatureMap
open TrojanDetection.Library.Pipeline
open TrojanDetection.Python

/-- The square root. -/
structure Root (K : Type) [Zero K] [LT K] where
  sqrt : K → K
  sqrt_pos : ∀ x, 0 < x → 0 < sqrt x

/-- The square root of rationals, exact on squares. -/
def Root.rat : Root ℚ where
  sqrt := Rat.sqrt
  sqrt_pos := by
    intro x hx
    rw [Rat.sqrt, ← Rat.num_pos]
    have hnum : 0 < Int.sqrt x.num := by
      rw [Int.sqrt]
      have hpos : 0 < x.num.toNat := by
        have := Rat.num_pos.2 hx
        omega
      exact_mod_cast Nat.sqrt_pos.2 hpos
    have hden : (0 : ℤ) < Nat.sqrt x.den := by
      exact_mod_cast Nat.sqrt_pos.2 x.den_pos
    rw [Rat.mkRat_eq_div, Rat.num_pos]
    exact div_pos (by exact_mod_cast hnum) (by exact_mod_cast hden)

variable {K : Type}

/-! ## Convolutions -/

/-- `nn.Conv2d` with square kernels. The constructor raises unless the groups divide the channels; a
layer without channels or stride raises on every input. -/
structure Conv2d (K : Type) where
  inChannels : ℕ
  outChannels : ℕ
  kernelSize : ℕ
  stride : ℕ
  padding : ℕ
  groups : ℕ
  weight : Kernel K
  bias : Option (ℕ → K)
  inChannels_pos : 0 < inChannels
  outChannels_pos : 0 < outChannels
  stride_pos : 0 < stride
  groups_pos : 0 < groups
  groups_dvd_in : groups ∣ inChannels
  groups_dvd_out : groups ∣ outChannels

namespace Conv2d

/-- Every number of channels can be in one group. -/
theorem one_dvd_channels (channels : ℕ+) : 1 ∣ (channels : ℕ) := one_dvd _

/-- A convolution with one filter for each channel and without bias. -/
def depthwise (kernelSize stride padding : ℕ) (channels : ℕ) (weight : Kernel K)
    (channels_pos : 0 < channels) (stride_pos : 0 < stride) : Conv2d K where
  inChannels := channels
  outChannels := channels
  kernelSize := kernelSize
  stride := stride
  padding := padding
  groups := channels
  weight := weight
  bias := none
  inChannels_pos := channels_pos
  outChannels_pos := channels_pos
  stride_pos := stride_pos
  groups_pos := channels_pos
  groups_dvd_in := dvd_rfl
  groups_dvd_out := dvd_rfl

/-- The geometry along each axis; kernel, stride and padding are square. -/
def geometry (conv : Conv2d K) : Geometry := ⟨conv.kernelSize, conv.stride, conv.padding⟩

/-- The input channels of a group. -/
def fanIn (conv : Conv2d K) : ℕ := conv.inChannels / conv.groups

/-- The first input channel of the group that an output channel belongs to. -/
def firstIn (conv : Conv2d K) (o : ℕ) : ℕ := o / (conv.outChannels / conv.groups) * conv.fanIn

variable [CommSemiring K]

/-- The output for an input that fits. -/
def apply (conv : Conv2d K) (x : FeatureMap K) : FeatureMap K :=
  tabulate conv.outChannels (conv.geometry.extent x.height) (conv.geometry.extent x.width)
    fun o i j =>
      correlate conv.geometry conv.fanIn conv.firstIn conv.weight x o i j +
        conv.bias.elim 0 fun values => values o

theorem shape_apply (conv : Conv2d K) (x : FeatureMap K) : (conv.apply x).shape =
    (conv.outChannels, conv.geometry.extent x.height, conv.geometry.extent x.width) := rfl

theorem value_apply {conv : Conv2d K} {x : FeatureMap K} {o : ℕ} {i j : ℤ}
    (hin : Inside conv.outChannels (conv.geometry.extent x.height) (conv.geometry.extent x.width)
      o i j) :
    (conv.apply x).value o i j =
      correlate conv.geometry conv.fanIn conv.firstIn conv.weight x o i j +
        conv.bias.elim 0 fun values => values o := value_tabulate hin

/-- `nn.Conv2d.forward`, which raises on a wrong number of channels and on a small input. -/
def forward (conv : Conv2d K) (x : FeatureMap K) : Except PyError (FeatureMap K) :=
  if x.channels ≠ conv.inChannels then
    .error (.runtimeError "expected input to have another number of channels")
  else if ¬ (conv.geometry.Fits x.height ∧ conv.geometry.Fits x.width) then
    .error (.runtimeError "Kernel size can't be greater than actual input size")
  else .ok (conv.apply x)

theorem forward_eq_ok_iff {conv : Conv2d K} {x y : FeatureMap K} :
    conv.forward x = .ok y ↔
      (x.channels = conv.inChannels ∧ conv.geometry.Fits x.height ∧ conv.geometry.Fits x.width) ∧
        conv.apply x = y := by
  rw [forward]
  split
  · next h => simp [h]
  · split
    · next hfits =>
        apply iff_of_false
        · intro h
          cases h
        · rintro ⟨⟨-, h⟩, -⟩
          exact hfits h
    · next hchannels hfits => simp [not_not.1 hchannels, not_not.1 hfits]

end Conv2d

/-! ## Batch normalisation -/

/-- The parameters and running statistics of a normalisation. A running variance is a mean of
squares, and `eps` is a small positive number. -/
structure BatchNormState (K : Type) [Zero K] [LE K] [LT K] where
  weight : ℕ → K
  bias : ℕ → K
  runningMean : ℕ → K
  runningVar : ℕ → K
  eps : K
  runningVar_nonneg : ∀ c, 0 ≤ runningVar c
  eps_pos : 0 < eps

/-- The state of a new layer: no running mean, a running variance of one, and `eps=1e-05`. -/
def BatchNormState.initial : BatchNormState ℚ where
  weight _ := 1
  bias _ := 0
  runningMean _ := 0
  runningVar _ := 1
  eps := 1 / 100000
  runningVar_nonneg _ := zero_le_one
  eps_pos := div_pos one_pos (by norm_num)

section BatchNorm

variable [Field K] [LinearOrder K]

/-- `nn.BatchNorm2d`. -/
structure BatchNorm2d (K : Type) [Field K] [LinearOrder K] where
  numFeatures : ℕ
  state : BatchNormState K

namespace BatchNormState

/-- `(running_var + eps).sqrt()`. -/
def std (bn : BatchNormState K) (root : Root K) (c : ℕ) : K := root.sqrt (bn.runningVar c + bn.eps)

/-- One entry, normalised with the running statistics. -/
def normalize (bn : BatchNormState K) (root : Root K) (c : ℕ) (v : K) : K :=
  (v - bn.runningMean c) / bn.std root c * bn.weight c + bn.bias c

variable [IsStrictOrderedRing K]

theorem std_ne_zero (bn : BatchNormState K) (root : Root K) (c : ℕ) : bn.std root c ≠ 0 :=
  (root.sqrt_pos _ (add_pos_of_nonneg_of_pos (bn.runningVar_nonneg c) bn.eps_pos)).ne'

end BatchNormState

namespace BatchNorm2d

/-- The normalised map. -/
def apply (bn : BatchNorm2d K) (root : Root K) (x : FeatureMap K) : FeatureMap K :=
  tabulate x.channels x.height x.width fun c i j => bn.state.normalize root c (x.value c i j)

/-- `nn.BatchNorm2d.forward` in evaluation mode. -/
def forward (bn : BatchNorm2d K) (root : Root K) (x : FeatureMap K) :
    Except PyError (FeatureMap K) :=
  if x.channels ≠ bn.numFeatures then
    .error (.runtimeError "running_mean should contain another number of elements")
  else .ok (bn.apply root x)

theorem forward_eq_ok_iff {bn : BatchNorm2d K} {root : Root K} {x y : FeatureMap K} :
    bn.forward root x = .ok y ↔ x.channels = bn.numFeatures ∧ bn.apply root x = y := by
  rw [forward]
  split
  · next h => simp [h]
  · next h => simp [not_not.1 h]

theorem meets (bn : BatchNorm2d K) (root : Root K) :
    Meets (WithChannels bn.numFeatures) (bn.forward root) (WithChannels bn.numFeatures) := by
  intro x hx
  exact ⟨_, forward_eq_ok_iff.2 ⟨hx.1, rfl⟩, hx⟩

end BatchNorm2d

/-! ## A convolution and its normalisation -/

/-- `nn.Conv2d` followed by `nn.BatchNorm2d`. -/
structure NormalizedConv (K : Type) [Field K] [LinearOrder K] where
  conv : Conv2d K
  bn : BatchNormState K

namespace NormalizedConv

/-- A convolution and the batch normalisation of its output. -/
def forward (layer : NormalizedConv K) (root : Root K) (x : FeatureMap K) :
    Except PyError (FeatureMap K) := do
  let out ← layer.conv.forward x
  (BatchNorm2d.mk layer.conv.outChannels layer.bn).forward root out

/-- One entry of the output. -/
def entry (layer : NormalizedConv K) (root : Root K) (x : FeatureMap K) (o : ℕ) (i j : ℤ) : K :=
  layer.bn.normalize root o
    (correlate layer.conv.geometry layer.conv.fanIn layer.conv.firstIn layer.conv.weight x o i j +
      layer.conv.bias.elim 0 fun values => values o)

/-- The map that both layers give on an input that they accept. -/
def apply (layer : NormalizedConv K) (root : Root K) (x : FeatureMap K) : FeatureMap K :=
  tabulate layer.conv.outChannels (layer.conv.geometry.extent x.height)
    (layer.conv.geometry.extent x.width) (layer.entry root x)

theorem forward_eq_ok_iff {layer : NormalizedConv K} {root : Root K} {x y : FeatureMap K} :
    layer.forward root x = .ok y ↔
      (x.channels = layer.conv.inChannels ∧ layer.conv.geometry.Fits x.height ∧
        layer.conv.geometry.Fits x.width) ∧ layer.apply root x = y := by
  have happly : BatchNorm2d.apply ⟨layer.conv.outChannels, layer.bn⟩ root (layer.conv.apply x) =
      layer.apply root x := by
    simp only [BatchNorm2d.apply, Conv2d.apply, channels_tabulate, height_tabulate, width_tabulate]
    apply tabulate_congr
    intro o i j hin
    rw [value_tabulate hin]
    rfl
  simp only [forward, bind_eq_ok_iff, Conv2d.forward_eq_ok_iff, BatchNorm2d.forward_eq_ok_iff]
  constructor
  · rintro ⟨out, ⟨hx, rfl⟩, -, rfl⟩
    exact ⟨hx, happly.symm⟩
  · rintro ⟨hx, rfl⟩
    exact ⟨_, ⟨hx, rfl⟩, rfl, happly⟩

/-- A kernel that fits every input with rows and columns makes no other demand than the number of
channels. -/
theorem forward_eq_ok_iff_withChannels {layer : NormalizedConv K} {root : Root K}
    {x y : FeatureMap K} (hfits : ∀ n, layer.conv.geometry.Fits n ↔ 1 ≤ n) :
    layer.forward root x = .ok y ↔
      x.WithChannels layer.conv.inChannels ∧ layer.apply root x = y := by
  rw [forward_eq_ok_iff, hfits, hfits]
  rfl

theorem withChannels_apply (layer : NormalizedConv K) (root : Root K) (x : FeatureMap K) :
    (layer.apply root x).WithChannels layer.conv.outChannels :=
  ⟨rfl, Geometry.one_le_extent, Geometry.one_le_extent⟩

end NormalizedConv

/-- What a convolution without bias and its normalisation are initialised with. -/
structure ConvWeights (K : Type) [Field K] [LinearOrder K] where
  weight : Kernel K
  bn : BatchNormState K

/-- A tensor of the given shape, with rows and columns. -/
def OfShape (channels height width : ℕ) (x : FeatureMap K) : Prop :=
  x.WithChannels channels ∧ x.height = height ∧ x.width = width

namespace NormalizedConv

variable (layer : NormalizedConv K) (root : Root K)
  (hfits : ∀ n, layer.conv.geometry.Fits n ↔ 1 ≤ n)

include hfits

theorem exactly_withChannels :
    Exactly (WithChannels layer.conv.inChannels) (layer.forward root)
      (WithChannels layer.conv.outChannels) := by
  constructor
  · intro x hx
    exact ⟨_, (forward_eq_ok_iff_withChannels hfits).2 ⟨hx, rfl⟩, layer.withChannels_apply root x⟩
  · intro x y hy
    exact ((forward_eq_ok_iff_withChannels hfits).1 hy).1

theorem meets_ofShape (height width : ℕ) :
    Meets (OfShape layer.conv.inChannels height width) (layer.forward root)
      (OfShape layer.conv.outChannels (layer.conv.geometry.extent height)
        (layer.conv.geometry.extent width)) := by
  rintro x ⟨hx, rfl, rfl⟩
  exact ⟨_, (forward_eq_ok_iff_withChannels hfits).2 ⟨hx, rfl⟩, layer.withChannels_apply root x, rfl,
    rfl⟩

end NormalizedConv

end BatchNorm

/-! ## Entrywise operations -/

section Pointwise

/-- `nn.ReLU`. -/
def relu [Zero K] [Max K] (x : FeatureMap K) : FeatureMap K :=
  tabulate x.channels x.height x.width fun c i j => max (x.value c i j) 0

theorem withChannels_relu [Zero K] [Max K] {x : FeatureMap K} {channels : ℕ}
    (h : x.WithChannels channels) : (relu x).WithChannels channels := h

theorem value_relu [Zero K] [Max K] {x : FeatureMap K} {c : ℕ} {i j : ℤ}
    (h : Inside x.channels x.height x.width c i j) :
    (relu x).value c i j = max (x.value c i j) 0 := value_tabulate h

/-- The size of a dimension after broadcasting. -/
def broadcastDim (a b : ℕ) : Option ℕ :=
  if a = b then some a else if a = 1 then some b else if b = 1 then some a else none

theorem broadcastDim_self (a : ℕ) : broadcastDim a a = some a := if_pos rfl

/-- A read of a tensor that is stretched along a dimension of size one. -/
def stretched [Zero K] (x : FeatureMap K) (c : ℕ) (i j : ℤ) : K :=
  x.value (if x.channels = 1 then 0 else c) (if x.height = 1 then 0 else i)
    (if x.width = 1 then 0 else j)

theorem stretched_of_inside [Zero K] {x : FeatureMap K} {c : ℕ} {i j : ℤ}
    (h : Inside x.channels x.height x.width c i j) : stretched x c i j = x.value c i j := by
  obtain ⟨hc, hi, hj⟩ := h
  have hchannel : (if x.channels = 1 then 0 else c) = c := by
    split <;> omega
  have hrow : (if x.height = 1 then 0 else i) = i := by
    split <;> omega
  have hcolumn : (if x.width = 1 then 0 else j) = j := by
    split <;> omega
  rw [stretched, hchannel, hrow, hcolumn]

/-- `x + y`, with broadcasting. -/
def add [Zero K] [Add K] (x y : FeatureMap K) : Except PyError (FeatureMap K) :=
  match broadcastDim x.channels y.channels, broadcastDim x.height y.height,
    broadcastDim x.width y.width with
  | some channels, some height, some width =>
      .ok (tabulate channels height width fun c i j => stretched x c i j + stretched y c i j)
  | _, _, _ =>
      .error (.runtimeError "The size of tensor a must match the size of tensor b")

/-- Tensors of one shape are added entry by entry. -/
theorem add_of_shape_eq [Zero K] [Add K] {x y : FeatureMap K} (h : x.shape = y.shape) :
    add x y = .ok (tabulate x.channels x.height x.width
      fun c i j => x.value c i j + y.value c i j) := by
  rw [shape, shape, Prod.mk.injEq, Prod.mk.injEq] at h
  obtain ⟨hchannels, hheight, hwidth⟩ := h
  rw [add, ← hchannels, ← hheight, ← hwidth, broadcastDim_self, broadcastDim_self,
    broadcastDim_self]
  refine congrArg Except.ok (tabulate_congr ?_)
  intro c i j hin
  have hin' : Inside y.channels y.height y.width c i j := hchannels ▸ hheight ▸ hwidth ▸ hin
  rw [stretched_of_inside hin, stretched_of_inside hin']

/-- `x += y`, which keeps the shape of `x`. -/
def addInPlace [Zero K] [Add K] (x y : FeatureMap K) : Except PyError (FeatureMap K) := do
  let out ← add x y
  if out.shape = x.shape then .ok out
  else .error (.runtimeError "output with shape of x doesn't match the broadcast shape")

theorem addInPlace_of_shape_eq [Zero K] [Add K] {x y : FeatureMap K} (h : x.shape = y.shape) :
    addInPlace x y = .ok (tabulate x.channels x.height x.width
      fun c i j => x.value c i j + y.value c i j) := by
  rw [addInPlace, add_of_shape_eq h]
  exact if_pos rfl

end Pointwise

/-! ## Pooling -/

section Pooling

variable [Zero K] [Max K]

/-- `nn.MaxPool2d(kernel_size=2, stride=2)`, which drops an odd last row or column. -/
def maxPool (x : FeatureMap K) : Except PyError (FeatureMap K) :=
  if x.height / 2 = 0 ∨ x.width / 2 = 0 then
    .error (.runtimeError "Output size is too small")
  else
    .ok (tabulate x.channels (x.height / 2) (x.width / 2) fun c i j =>
      max (max (x.value c (2 * i) (2 * j)) (x.value c (2 * i) (2 * j + 1)))
        (max (x.value c (2 * i + 1) (2 * j)) (x.value c (2 * i + 1) (2 * j + 1))))

theorem shape_of_maxPool {x y : FeatureMap K} (h : maxPool x = .ok y) :
    y.shape = (x.channels, x.height / 2, x.width / 2) := by
  rw [maxPool] at h
  split at h
  · cases h
  · cases h
    rfl

theorem returns_maxPool {x : FeatureMap K} (hheight : 0 < x.height / 2) (hwidth : 0 < x.width / 2) :
    returns (maxPool x) :=
  ⟨_, if_neg (not_or.2 ⟨hheight.ne', hwidth.ne'⟩)⟩

/-- The entries that the window of an output lies over. -/
def windowEntries (g : Geometry) (x : FeatureMap K) (c : ℕ) (i j : ℤ) : List K :=
  (List.range g.size).flatMap fun (u : ℕ) => (List.range g.size).filterMap fun (v : ℕ) =>
    let row : ℤ := i * g.stride + u - g.padding
    let column : ℤ := j * g.stride + v - g.padding
    if Inside x.channels x.height x.width c row column then some (x.value c row column) else none

/-- `nn.MaxPool2d`; the padding never wins. -/
def maxPool2d (g : Geometry) (x : FeatureMap K) : Except PyError (FeatureMap K) :=
  if g.stride = 0 ∨ g.size < 2 * g.padding then
    .error (.runtimeError "pad should be at most half of effective kernel size")
  else if ¬ (g.Fits x.height ∧ g.Fits x.width) then
    .error (.runtimeError "Output size is too small")
  else
    .ok (tabulate x.channels (g.extent x.height) (g.extent x.width) fun c i j =>
      (windowEntries g x c i j).max?.getD 0)

theorem meets_maxPool2d {g : Geometry} (hstride : 0 < g.stride) (hpadding : 2 * g.padding ≤ g.size)
    (hfits : ∀ n, 1 ≤ n → g.Fits n) (channels : ℕ) :
    Meets (WithChannels (K := K) channels) (maxPool2d g) (WithChannels channels) := by
  rintro x ⟨hchannels, hheight, hwidth⟩
  have hfit : g.Fits x.height ∧ g.Fits x.width := ⟨hfits _ hheight, hfits _ hwidth⟩
  rw [maxPool2d, if_neg (by omega), if_neg (not_not.2 hfit)]
  exact ⟨_, rfl, hchannels, Geometry.one_le_extent, Geometry.one_le_extent⟩

end Pooling

/-! ## The head -/

section Head

variable [Field K]

/-- `nn.AdaptiveAvgPool2d(1)`. -/
def adaptiveAvgPool (x : FeatureMap K) : Except PyError (FeatureMap K) :=
  if x.height = 0 ∨ x.width = 0 then
    .error (.runtimeError "Expected input to have non-zero size for non-batch dimensions")
  else
    .ok (tabulate x.channels 1 1 fun c _ _ =>
      (∑ i ∈ Finset.range x.height, ∑ j ∈ Finset.range x.width, x.value c i j) /
        (x.height * x.width : ℕ))

/-- `out.view(out.size(0), -1)`: the entries row by row. -/
def flatten (x : FeatureMap K) : List K :=
  (List.range x.channels).flatMap fun c =>
    (List.range x.height).flatMap fun (i : ℕ) => (List.range x.width).map fun (j : ℕ) =>
      x.value c i j

theorem length_flatten (x : FeatureMap K) :
    (flatten x).length = x.channels * (x.height * x.width) := by
  simp [flatten, List.length_flatMap]

/-- `nn.Linear`. -/
structure Linear (K : Type) where
  inFeatures : ℕ
  outFeatures : ℕ
  weight : ℕ → ℕ → K
  bias : ℕ → K

/-- `nn.Linear.forward`. -/
def Linear.forward (linear : Linear K) (features : List K) : Except PyError (List K) :=
  if features.length ≠ linear.inFeatures then
    .error (.runtimeError "mat1 and mat2 shapes cannot be multiplied")
  else
    .ok ((List.range linear.outFeatures).map fun o =>
      (∑ k ∈ Finset.range linear.inFeatures, linear.weight o k * features.getD k 0) +
        linear.bias o)

theorem Linear.returns_iff (linear : Linear K) {features : List K} :
    returns (linear.forward features) ↔ features.length = linear.inFeatures := by
  rw [Linear.forward]
  split
  · next h =>
      apply iff_of_false
      · rintro ⟨out, hout⟩
        cases hout
      · exact h
  · next h => exact iff_of_true (returns_ok _) (not_not.1 h)

theorem Linear.length_of_forward {linear : Linear K} {features out : List K}
    (h : linear.forward features = .ok out) : out.length = linear.outFeatures := by
  rw [Linear.forward] at h
  split at h
  · cases h
  · cases h
    rw [List.length_map, List.length_range]

section Meets

variable {channels : ℕ}

/-- Pooling leaves one entry for each channel. -/
theorem meets_adaptiveAvgPool :
    Meets (WithChannels (K := K) channels) adaptiveAvgPool
      fun y : FeatureMap K => y.channels = channels ∧ y.height = 1 ∧ y.width = 1 := by
  rintro x ⟨hchannels, hheight, hwidth⟩
  exact ⟨_, if_neg (by omega), hchannels, rfl, rfl⟩

theorem meets_linear (linear : Linear K) (hchannels : channels = linear.inFeatures) :
    Meets (fun y : FeatureMap K => y.channels = channels ∧ y.height = 1 ∧ y.width = 1)
      (fun y => linear.forward (flatten y)) fun logits => logits.length = linear.outFeatures := by
  rintro y ⟨hy, hheight, hwidth⟩
  have hlength : (flatten y).length = linear.inFeatures := by
    rw [length_flatten, hy, hheight, hwidth, hchannels, Nat.mul_one]
  refine ⟨_, if_neg (not_not.2 hlength), ?_⟩
  show List.length _ = _
  rw [List.length_map, List.length_range]

/-- The end that the convolutional networks share. -/
theorem meets_head (linear : Linear K) (hchannels : channels = linear.inFeatures) :
    Meets (WithChannels channels) (fun x => do
        let out ← adaptiveAvgPool x
        linear.forward (flatten out))
      fun logits => logits.length = linear.outFeatures :=
  meets_adaptiveAvgPool.bind (meets_linear linear hchannels)

/-- The network runs on exactly the images with the given channels, and returns one logit for each
class. -/
def Classifies (forward : FeatureMap K → Except PyError (List K)) (channels numClasses : ℕ) : Prop :=
  ∀ x, (returns (forward x) ↔ x.WithChannels channels) ∧
    ∀ logits, forward x = .ok logits → logits.length = numClasses

/-- It suffices that the network runs on these images, and that its first layer rejects the others. -/
theorem classifies_of_meets {forward : FeatureMap K → Except PyError (List K)} {numClasses : ℕ}
    (hmeets : Meets (WithChannels channels) forward fun logits => logits.length = numClasses)
    (honly : ∀ x, returns (forward x) → x.WithChannels channels) :
    Classifies forward channels numClasses := by
  intro x
  refine ⟨⟨honly x, ?_⟩, ?_⟩
  · intro hx
    obtain ⟨logits, hlogits, -⟩ := hmeets x hx
    exact ⟨logits, hlogits⟩
  · intro logits hlogits
    obtain ⟨logits', hlogits', hlength⟩ := hmeets x (honly x ⟨logits, hlogits⟩)
    rw [hlogits] at hlogits'
    cases hlogits'
    exact hlength

end Meets

end Head

end TrojanDetection.Torch
