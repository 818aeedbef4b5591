import TrojanDetection.Torch.Layers
import Mathlib.Data.PNat.Basic

/-!
# VGG networks (`pytorch_cifar_models/vgg.py`)

`make_layers` reads a configuration, in which numbers stand for convolutions and `'M'` for pooling.
A convolution keeps height and width and a pooling halves them, so that the features of an image
have as many rows as the height divided by `2 ^ pools` (`shape_of_features`). The classifier wants
512 numbers, wherever they come from: a network whose configuration has a convolution runs exactly
where channels, rows and columns multiply to 512 (`VGG.returns_forward_iff`). With the five poolings
and 512 channels of the exported configurations this is a window of sizes from 32 to 63, for both
height and width (`exported_runs_iff`).
-/

set_option autoImplicit false

namespace TrojanDetection.Zoo.Vgg

open TrojanDetection.Library.Convolution
open TrojanDetection.Library.Convolution.FeatureMap
open TrojanDetection.Library.Pipeline
open TrojanDetection.Python
open TrojanDetection.Torch

/-! ## Configurations -/

/-- An entry of a configuration: `'M'`, or a number of channels. -/
inductive Entry where
  | pool
  | planes (v : ℕ+)
  deriving DecidableEq

namespace Entry

/-- The value of `in_channels` after an entry. -/
def channelsAfter (inChannels : ℕ+) : Entry → ℕ+
  | pool => inChannels
  | planes v => v

/-- Rows or columns after an entry. -/
def sizeAfter (n : ℕ) : Entry → ℕ
  | pool => n / 2
  | planes _ => n

end Entry

/-- The value of `in_channels` after the loop. -/
def outChannels (inChannels : ℕ+) (cfg : List Entry) : ℕ+ := cfg.foldl Entry.channelsAfter inChannels

/-- The number of poolings. -/
def pools (cfg : List Entry) : ℕ := cfg.count .pool

/-- Convolutions keep the size, poolings halve it. -/
theorem foldl_sizeAfter (cfg : List Entry) (n : ℕ) :
    cfg.foldl Entry.sizeAfter n = n / 2 ^ pools cfg := by
  induction cfg generalizing n with
  | nil => exact (Nat.div_one n).symm
  | cons entry cfg ih =>
      rw [List.foldl_cons, ih]
      cases entry with
      | pool =>
          rw [Entry.sizeAfter, pools, pools, List.count_cons_self, Nat.div_div_eq_div_mul,
            pow_succ']
      | planes v =>
          rw [Entry.sizeAfter, pools, pools, List.count_cons_of_ne Entry.noConfusion]

/-! ## Layers -/

variable {K : Type} [Field K] [LinearOrder K]

/-- A module of the features. -/
inductive Layer (K : Type) [Field K] [LinearOrder K] where
  | conv2d (conv : Conv2d K)
  | batchNorm2d (bn : BatchNorm2d K)
  | relu
  | maxPool2d

/-- One entry of `nn.Sequential` in evaluation mode. -/
def Layer.forward (root : Root K) : Layer K → FeatureMap K → Except PyError (FeatureMap K)
  | conv2d conv, x => conv.forward x
  | batchNorm2d bn, x => bn.forward root x
  | relu, x => .ok (Torch.relu x)
  | maxPool2d, x => maxPool x

/-- What the modules of one entry are initialised with. -/
structure EntryWeights (K : Type) [Field K] [LinearOrder K] where
  weight : Kernel K
  bias : ℕ → K
  bn : BatchNormState K

/-- `nn.Conv2d(in_channels, v, kernel_size=3, padding=1)`. -/
def convolution (inChannels v : ℕ+) (weights : EntryWeights K) : Conv2d K where
  inChannels := inChannels
  outChannels := v
  kernelSize := 3
  stride := 1
  padding := 1
  groups := 1
  weight := weights.weight
  bias := some weights.bias
  inChannels_pos := inChannels.pos
  outChannels_pos := v.pos
  stride_pos := Nat.one_pos
  groups_pos := Nat.one_pos
  groups_dvd_in := Conv2d.one_dvd_channels inChannels
  groups_dvd_out := Conv2d.one_dvd_channels v

/-- What one round of the loop appends to the layers. -/
def entryLayers (batchNorm : Bool) (weights : EntryWeights K) (inChannels : ℕ+) :
    Entry → List (Layer K)
  | .pool => [.maxPool2d]
  | .planes v =>
      if batchNorm then
        [.conv2d (convolution inChannels v weights), .batchNorm2d ⟨v, weights.bn⟩, .relu]
      else [.conv2d (convolution inChannels v weights), .relu]

/-- The loop of `make_layers`; weights are found by the position of their entry. -/
def makeLayersFrom (batchNorm : Bool) (weights : ℕ → EntryWeights K) (inChannels : ℕ+) :
    List Entry → List (Layer K)
  | [] => []
  | entry :: cfg =>
      entryLayers batchNorm (weights 0) inChannels entry ++
        makeLayersFrom batchNorm (fun i => weights (i + 1)) (entry.channelsAfter inChannels) cfg

/-- `make_layers`. -/
def makeLayers (weights : ℕ → EntryWeights K) (cfg : List Entry) (batchNorm : Bool) :
    List (Layer K) :=
  makeLayersFrom batchNorm weights (Nat.toPNat' 3) cfg

/-- An `nn.Sequential` of layers. -/
def featuresForward (root : Root K) (layers : List (Layer K)) :
    FeatureMap K → Except PyError (FeatureMap K) :=
  sequence (layers.map fun layer => layer.forward root)

/-! ## The features -/

section Features

variable {root : Root K} {batchNorm : Bool} {weights : EntryWeights K} {inChannels : ℕ+}
  {x y : FeatureMap K}

/-- A padded 3x3 kernel returns on the inputs with its channels, and keeps rows and columns. -/
theorem convolution_forward_eq_ok_iff {v : ℕ+} :
    (convolution inChannels v weights).forward x = .ok y ↔
      x.WithChannels inChannels ∧ (convolution inChannels v weights).apply x = y := by
  have hfits : ∀ n, (convolution inChannels v weights).geometry.Fits n ↔ 1 ≤ n :=
    fun _ => Geometry.fits_threeByThree
  rw [Conv2d.forward_eq_ok_iff, hfits, hfits]
  rfl

theorem shape_convolution (weights : EntryWeights K) (v : ℕ+) (hx : x.WithChannels inChannels) :
    ((convolution inChannels v weights).apply x).shape = ((v : ℕ), x.height, x.width) := by
  obtain ⟨-, hheight, hwidth⟩ := hx
  rw [Conv2d.shape_apply]
  show ((v : ℕ), Geometry.extent ⟨3, 1, 1⟩ x.height, Geometry.extent ⟨3, 1, 1⟩ x.width) = _
  rw [Geometry.extent_same (p := 1) hheight, Geometry.extent_same (p := 1) hwidth]

/-- The modules of a number in the configuration. -/
theorem featuresForward_planes {v : ℕ+} :
    featuresForward root (entryLayers batchNorm weights inChannels (.planes v)) x = .ok y ↔
      x.WithChannels inChannels ∧
        relu (if batchNorm then
          BatchNorm2d.apply ⟨v, weights.bn⟩ root ((convolution inChannels v weights).apply x)
        else (convolution inChannels v weights).apply x) = y := by
  cases batchNorm with
  | false =>
      constructor
      · intro h
        obtain ⟨out, hout, h⟩ := bind_eq_ok_iff.1 h
        obtain ⟨hx, rfl⟩ := convolution_forward_eq_ok_iff.1 hout
        exact ⟨hx, Except.ok.inj h⟩
      · rintro ⟨hx, rfl⟩
        exact bind_eq_ok_iff.2 ⟨_, convolution_forward_eq_ok_iff.2 ⟨hx, rfl⟩, rfl⟩
  | true =>
      constructor
      · intro h
        obtain ⟨out, hout, h⟩ := bind_eq_ok_iff.1 h
        obtain ⟨normalized, hnormalized, h⟩ := bind_eq_ok_iff.1 h
        obtain ⟨hx, rfl⟩ := convolution_forward_eq_ok_iff.1 hout
        obtain ⟨-, rfl⟩ := BatchNorm2d.forward_eq_ok_iff.1 hnormalized
        exact ⟨hx, Except.ok.inj h⟩
      · rintro ⟨hx, rfl⟩
        refine bind_eq_ok_iff.2 ⟨_, convolution_forward_eq_ok_iff.2 ⟨hx, rfl⟩, ?_⟩
        exact bind_eq_ok_iff.2 ⟨_, BatchNorm2d.forward_eq_ok_iff.2 ⟨rfl, rfl⟩, rfl⟩

theorem shape_of_planes {v : ℕ+}
    (h : featuresForward root (entryLayers batchNorm weights inChannels (.planes v)) x = .ok y) :
    y.shape = ((v : ℕ), x.height, x.width) := by
  obtain ⟨hx, rfl⟩ := featuresForward_planes.1 h
  rw [← shape_convolution weights v hx]
  cases batchNorm <;> rfl

theorem featuresForward_pool :
    featuresForward root (entryLayers batchNorm weights inChannels .pool) x = maxPool x := by
  show (maxPool x >>= fun y => .ok y) = maxPool x
  cases maxPool x <;> rfl

/-- The modules of one entry, on an input with the channels that the loop has reached. -/
theorem shape_of_entry {entry : Entry} (hx : x.channels = inChannels)
    (h : featuresForward root (entryLayers batchNorm weights inChannels entry) x = .ok y) :
    y.shape = ((entry.channelsAfter inChannels : ℕ), entry.sizeAfter x.height,
      entry.sizeAfter x.width) := by
  cases entry with
  | pool =>
      rw [featuresForward_pool] at h
      rw [shape_of_maxPool h, hx]
      rfl
  | planes v => exact shape_of_planes h

theorem returns_entry (root : Root K) (batchNorm : Bool) (weights : EntryWeights K) {entry : Entry}
    (hx : x.channels = inChannels) (hheight : 0 < entry.sizeAfter x.height)
    (hwidth : 0 < entry.sizeAfter x.width) :
    returns (featuresForward root (entryLayers batchNorm weights inChannels entry) x) := by
  cases entry with
  | pool =>
      rw [featuresForward_pool]
      exact returns_maxPool hheight hwidth
  | planes v => exact ⟨_, featuresForward_planes.2 ⟨⟨hx, hheight, hwidth⟩, rfl⟩⟩

end Features

section Loop

variable {root : Root K} {batchNorm : Bool} {x y : FeatureMap K}

theorem featuresForward_cons (weights : ℕ → EntryWeights K) (inChannels : ℕ+) (entry : Entry)
    (cfg : List Entry) :
    featuresForward root (makeLayersFrom batchNorm weights inChannels (entry :: cfg)) =
      fun x => featuresForward root (entryLayers batchNorm (weights 0) inChannels entry) x >>=
        featuresForward root (makeLayersFrom batchNorm (fun i => weights (i + 1))
          (entry.channelsAfter inChannels) cfg) := by
  rw [featuresForward, makeLayersFrom, List.map_append, sequence_append]
  rfl

/-- A size that is left after an entry was there before it. -/
theorem sizeAfter_pos_of_foldl {entry : Entry} {cfg : List Entry} {n : ℕ}
    (h : 0 < cfg.foldl Entry.sizeAfter (entry.sizeAfter n)) : 0 < entry.sizeAfter n := by
  rw [foldl_sizeAfter] at h
  exact h.trans_le (Nat.div_le_self _ _)

/-- Channels, rows and columns of the features. -/
theorem shape_of_features {weights : ℕ → EntryWeights K} {inChannels : ℕ+} {cfg : List Entry}
    (hx : x.channels = inChannels)
    (h : featuresForward root (makeLayersFrom batchNorm weights inChannels cfg) x = .ok y) :
    y.shape = ((outChannels inChannels cfg : ℕ), cfg.foldl Entry.sizeAfter x.height,
      cfg.foldl Entry.sizeAfter x.width) := by
  -- the loop carries the channels; rows and columns are those of the intermediate feature map
  induction cfg generalizing weights inChannels x with
  | nil =>
      cases h
      rw [shape, hx]
      rfl
  | cons entry cfg ih =>
      rw [featuresForward_cons] at h
      obtain ⟨out, hout, h⟩ := bind_eq_ok_iff.1 h
      have hshape := shape_of_entry hx hout
      rw [shape, Prod.mk.injEq, Prod.mk.injEq] at hshape
      obtain ⟨hchannels, hheight, hwidth⟩ := hshape
      rw [ih hchannels h, hheight, hwidth]
      rfl

/-- Nothing raises while rows and columns are left. -/
theorem returns_features (root : Root K) (batchNorm : Bool) (weights : ℕ → EntryWeights K)
    {inChannels : ℕ+} {cfg : List Entry} (hx : x.channels = inChannels)
    (hheight : 0 < cfg.foldl Entry.sizeAfter x.height)
    (hwidth : 0 < cfg.foldl Entry.sizeAfter x.width) :
    returns (featuresForward root (makeLayersFrom batchNorm weights inChannels cfg) x) := by
  induction cfg generalizing weights inChannels x with
  | nil => exact returns_ok x
  | cons entry cfg ih =>
      obtain ⟨out, hout⟩ := returns_entry root batchNorm (weights 0) hx
        (sizeAfter_pos_of_foldl hheight) (sizeAfter_pos_of_foldl hwidth)
      have hshape := shape_of_entry hx hout
      rw [shape, Prod.mk.injEq, Prod.mk.injEq] at hshape
      obtain ⟨hchannels, hheight', hwidth'⟩ := hshape
      obtain ⟨y, hy⟩ := ih (fun i => weights (i + 1)) hchannels (hheight' ▸ hheight)
        (hwidth' ▸ hwidth)
      exact ⟨y, by rw [featuresForward_cons]; exact bind_eq_ok_iff.2 ⟨out, hout, hy⟩⟩

/-- The first convolution checks the channels of the image; poolings before it keep them. -/
theorem channels_of_returns {weights : ℕ → EntryWeights K} {inChannels : ℕ+} {cfg : List Entry}
    (hconv : ∃ v, Entry.planes v ∈ cfg)
    (h : returns (featuresForward root (makeLayersFrom batchNorm weights inChannels cfg) x)) :
    x.channels = inChannels := by
  induction cfg generalizing weights inChannels x with
  | nil =>
      obtain ⟨v, hv⟩ := hconv
      cases hv
  | cons entry cfg ih =>
      obtain ⟨y, hy⟩ := h
      rw [featuresForward_cons] at hy
      obtain ⟨out, hout, hy⟩ := bind_eq_ok_iff.1 hy
      cases entry with
      | planes v => exact (featuresForward_planes.1 hout).1.1
      | pool =>
          rw [featuresForward_pool] at hout
          have hconv' : ∃ v, Entry.planes v ∈ cfg := by
            obtain ⟨v, hv⟩ := hconv
            exact ⟨v, (List.mem_cons.1 hv).resolve_left Entry.noConfusion⟩
          have hchannels : out.channels = x.channels :=
            congrArg Prod.fst (shape_of_maxPool hout)
          exact hchannels.symm.trans (ih hconv' ⟨y, hy⟩)

end Loop

/-! ## Networks -/

/-- `VGG`: the features and the linear layers of the classifier. -/
structure VGG (K : Type) [Field K] [LinearOrder K] where
  features : List (Layer K)
  /-- The linear layers of the classifier; dropout does nothing in evaluation mode. -/
  fc1 : Linear K
  fc2 : Linear K
  fc3 : Linear K

/-- `nn.ReLU` on a vector. -/
def reluVector (features : List K) : List K := features.map fun v => max v 0

/-- `VGG.forward`. -/
def VGG.forward (model : VGG K) (root : Root K) (x : FeatureMap K) : Except PyError (List K) := do
  let x ← featuresForward root model.features x
  let x ← model.fc1.forward (flatten x)
  let x ← model.fc2.forward (reluVector x)
  model.fc3.forward (reluVector x)

/-- What the linear layers are initialised with. -/
structure ClassifierWeights (K : Type) where
  fc1 : (ℕ → ℕ → K) × (ℕ → K)
  fc2 : (ℕ → ℕ → K) × (ℕ → K)
  fc3 : (ℕ → ℕ → K) × (ℕ → K)

/-- `VGG.__init__`. -/
def VGG.init (features : List (Layer K)) (weights : ClassifierWeights K) (numClasses : ℕ) :
    VGG K where
  features := features
  fc1 := ⟨512, 512, weights.fc1.1, weights.fc1.2⟩
  fc2 := ⟨512, 512, weights.fc2.1, weights.fc2.2⟩
  fc3 := ⟨512, numClasses, weights.fc3.1, weights.fc3.2⟩

section Networks

variable {root : Root K} {x : FeatureMap K}

/-- The classifier takes 512 numbers. -/
theorem returns_forward_iff_features {features : List (Layer K)} {weights : ClassifierWeights K}
    {numClasses : ℕ} :
    returns ((VGG.init features weights numClasses).forward root x) ↔
      ∃ y, featuresForward root features x = .ok y ∧ (flatten y).length = 512 := by
  constructor
  · rintro ⟨logits, hlogits⟩
    obtain ⟨y, hy, hlogits⟩ := bind_eq_ok_iff.1 hlogits
    obtain ⟨hidden, hhidden, -⟩ := bind_eq_ok_iff.1 hlogits
    exact ⟨y, hy, (Linear.returns_iff _).1 ⟨hidden, hhidden⟩⟩
  · rintro ⟨y, hy, hlength⟩
    obtain ⟨first, hfirst⟩ := (VGG.init features weights numClasses).fc1.returns_iff.2 hlength
    obtain ⟨second, hsecond⟩ := (VGG.init features weights numClasses).fc2.returns_iff.2
      ((List.length_map _).trans (Linear.length_of_forward hfirst))
    obtain ⟨logits, hlogits⟩ := (VGG.init features weights numClasses).fc3.returns_iff.2
      ((List.length_map _).trans (Linear.length_of_forward hsecond))
    exact ⟨logits, bind_eq_ok_iff.2 ⟨y, hy, bind_eq_ok_iff.2 ⟨first, hfirst,
      bind_eq_ok_iff.2 ⟨second, hsecond, hlogits⟩⟩⟩⟩

/-- A network with a convolution runs where the features of the image are 512 numbers. -/
theorem VGG.returns_forward_iff {weights : ℕ → EntryWeights K} {cfg : List Entry}
    {batchNorm : Bool} {classifier : ClassifierWeights K} {numClasses : ℕ}
    (hconv : ∃ v, Entry.planes v ∈ cfg) :
    returns ((VGG.init (makeLayers weights cfg batchNorm) classifier numClasses).forward root x) ↔
      x.channels = 3 ∧ (outChannels (Nat.toPNat' 3) cfg : ℕ) *
        (x.height / 2 ^ pools cfg * (x.width / 2 ^ pools cfg)) = 512 := by
  rw [returns_forward_iff_features, ← foldl_sizeAfter, ← foldl_sizeAfter]
  have hlength : ∀ {y : FeatureMap K}, x.channels = 3 →
      featuresForward root (makeLayers weights cfg batchNorm) x = .ok y →
      (flatten y).length = (outChannels (Nat.toPNat' 3) cfg : ℕ) *
        (cfg.foldl Entry.sizeAfter x.height * cfg.foldl Entry.sizeAfter x.width) := by
    intro y hx hy
    have hx' : x.channels = (Nat.toPNat' 3 : ℕ) := hx
    have hshape := shape_of_features hx' hy
    rw [shape, Prod.mk.injEq, Prod.mk.injEq] at hshape
    rw [length_flatten, hshape.1, hshape.2.1, hshape.2.2]
  constructor
  · rintro ⟨y, hy, h512⟩
    have hx : x.channels = 3 := channels_of_returns hconv ⟨y, hy⟩
    exact ⟨hx, (hlength hx hy).symm.trans h512⟩
  · rintro ⟨hx, h512⟩
    have hx' : x.channels = (Nat.toPNat' 3 : ℕ) := hx
    have hne : (512 : ℕ) ≠ 0 := Nat.succ_ne_zero 511
    rw [← h512, Nat.mul_ne_zero_iff, Nat.mul_ne_zero_iff] at hne
    obtain ⟨-, hheight, hwidth⟩ := hne
    obtain ⟨y, hy⟩ := returns_features root batchNorm weights hx' (Nat.pos_of_ne_zero hheight)
      (Nat.pos_of_ne_zero hwidth)
    exact ⟨y, hy, (hlength hx hy).trans h512⟩

theorem VGG.length_of_forward {features : List (Layer K)} {weights : ClassifierWeights K}
    {numClasses : ℕ} {logits : List K}
    (h : (VGG.init features weights numClasses).forward root x = .ok logits) :
    logits.length = numClasses := by
  obtain ⟨y, -, h⟩ := bind_eq_ok_iff.1 h
  obtain ⟨first, -, h⟩ := bind_eq_ok_iff.1 h
  obtain ⟨second, -, h⟩ := bind_eq_ok_iff.1 h
  exact Linear.length_of_forward h

end Networks

/-! ## The exported networks -/

/-- The keys of `cfgs`. -/
inductive Cfg where
  | a
  | b
  | d
  | e
  deriving DecidableEq

/-- A number of the configurations. -/
def planes (v : ℕ) : Entry := .planes v.toPNat'

/-- The table `cfgs`. -/
def cfgs : Cfg → List Entry
  | .a => [planes 64, .pool, planes 128, .pool, planes 256, planes 256, .pool, planes 512,
      planes 512, .pool, planes 512, planes 512, .pool]
  | .b => [planes 64, planes 64, .pool, planes 128, planes 128, .pool, planes 256, planes 256,
      .pool, planes 512, planes 512, .pool, planes 512, planes 512, .pool]
  | .d => [planes 64, planes 64, .pool, planes 128, planes 128, .pool, planes 256, planes 256,
      planes 256, .pool, planes 512, planes 512, planes 512, .pool, planes 512, planes 512,
      planes 512, .pool]
  | .e => [planes 64, planes 64, .pool, planes 128, planes 128, .pool, planes 256, planes 256,
      planes 256, planes 256, .pool, planes 512, planes 512, planes 512, planes 512, .pool,
      planes 512, planes 512, planes 512, planes 512, .pool]

/-- `_vgg`, which passes `batch_norm=True` for all exported networks. -/
def vgg (weights : ℕ → EntryWeights K) (classifier : ClassifierWeights K) (cfg : Cfg)
    (numClasses : ℕ) : VGG K :=
  VGG.init (makeLayers weights (cfgs cfg) true) classifier numClasses

theorem planes_mem_cfgs (cfg : Cfg) : ∃ v, Entry.planes v ∈ cfgs cfg := by
  cases cfg <;> exact ⟨_, List.mem_cons_self⟩

theorem pools_cfgs (cfg : Cfg) : pools (cfgs cfg) = 5 := by
  cases cfg <;> decide

theorem outChannels_cfgs (cfg : Cfg) : (outChannels (Nat.toPNat' 3) (cfgs cfg) : ℕ) = 512 := by
  cases cfg <;> rfl

/-- The exported networks run exactly on the images with three channels whose height and width are
between 32 and 63, and return one logit for each class. -/
theorem exported_runs_iff (weights : ℕ → EntryWeights K) (classifier : ClassifierWeights K)
    (cfg : Cfg) (numClasses : ℕ) (root : Root K) (x : FeatureMap K) :
    (returns ((vgg weights classifier cfg numClasses).forward root x) ↔
      x.channels = 3 ∧ (32 ≤ x.height ∧ x.height < 64) ∧ (32 ≤ x.width ∧ x.width < 64)) ∧
    ∀ logits, (vgg weights classifier cfg numClasses).forward root x = .ok logits →
      logits.length = numClasses := by
  refine ⟨?_, fun logits => VGG.length_of_forward⟩
  rw [vgg, VGG.returns_forward_iff (planes_mem_cfgs cfg), pools_cfgs, outChannels_cfgs]
  apply and_congr_right
  intro _
  -- 512 channels leave exactly one row and one column
  have hone : 512 * (x.height / 2 ^ 5 * (x.width / 2 ^ 5)) = 512 ↔
      x.height / 2 ^ 5 = 1 ∧ x.width / 2 ^ 5 = 1 := by
    rw [← mul_eq_one]
    omega
  rw [hone]
  omega

end TrojanDetection.Zoo.Vgg
