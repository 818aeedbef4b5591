import TrojanDetection.Python.Sequence
import TrojanDetection.Zoo.ResNet
import Mathlib.Data.Rat.Floor

/-!
# MobileNets (`pytorch_cifar_models/mobilenetv2.py`)

`_make_divisible` rounds a number of channels to a positive multiple of its divisor, and never takes
away more than a tenth (`makeDivisible_spec`). The channels that the loop of the constructor carries
from block to block are such multiples, the groups of a depthwise convolution are all its channels,
and the input of a block is added to its output only if both have one shape; whatever the width, the
rows of the setting and the rounding, a network that can be constructed runs on every image with
three channels (`MobileNetV2.classifies_of_constructor`).
-/

set_option autoImplicit false

namespace TrojanDetection.Zoo.Mobilenetv2

open TrojanDetection.Library.Convolution
open TrojanDetection.Library.Convolution.FeatureMap
open TrojanDetection.Library.Pipeline
open TrojanDetection.Python
open TrojanDetection.Torch
open TrojanDetection.Zoo.Resnet (convolution defaultStride)

/-! ## Rounding -/

/-- `int(v + divisor / 2) // divisor * divisor`. -/
def nearestMultiple (v : ℚ) (divisor : ℕ) : ℤ := truncate (v + divisor / 2) / divisor * divisor

/-- `_make_divisible`; `min_value` is the divisor if it is not given. -/
def makeDivisible (v : ℚ) (divisor : ℕ) (minValue : Option ℤ) : ℤ :=
  let newV := max (minValue.getD divisor) (nearestMultiple v divisor)
  if (newV : ℚ) < 9 / 10 * v then newV + divisor else newV

section Rounding

variable {v : ℚ} {divisor : ℕ}

theorem lt_nearestMultiple_add (hv : 0 ≤ v) (hpos : 0 < divisor) :
    v < (nearestMultiple v divisor + divisor : ℤ) := by
  have hhalf : (0 : ℚ) ≤ divisor / 2 := by positivity
  have hdivisor : (0 : ℤ) < divisor := by exact_mod_cast hpos
  rw [nearestMultiple, truncate_of_nonneg (add_nonneg hv hhalf)]
  have hfloor : v + divisor / 2 < (⌊v + divisor / 2⌋ + 1 : ℤ) := by
    exact_mod_cast Int.lt_floor_add_one (v + divisor / 2)
  have hmultiple : ⌊v + divisor / 2⌋ + 1 ≤ ⌊v + divisor / 2⌋ / divisor * divisor + divisor :=
    (Int.lt_ediv_add_one_mul_self _ hdivisor).trans_eq (by ring)
  calc v ≤ v + divisor / 2 := le_add_of_nonneg_right hhalf
    _ < (⌊v + divisor / 2⌋ + 1 : ℤ) := hfloor
    _ ≤ _ := by exact_mod_cast hmultiple

theorem nearestMultiple_le (v : ℚ) (hpos : 0 < divisor) :
    (nearestMultiple v divisor : ℚ) ≤ max (divisor : ℚ) (v + divisor) := by
  have hdivisor : (0 : ℚ) ≤ divisor := Nat.cast_nonneg divisor
  have hle : nearestMultiple v divisor ≤ truncate (v + divisor / 2) :=
    Int.ediv_mul_le _ (by exact_mod_cast hpos.ne')
  rcases le_total 0 (v + divisor / 2) with hsum | hsum
  · rw [truncate_of_nonneg hsum] at hle
    apply le_max_of_le_right
    calc (nearestMultiple v divisor : ℚ) ≤ ⌊v + divisor / 2⌋ := by exact_mod_cast hle
      _ ≤ v + divisor / 2 := Int.floor_le _
      _ ≤ v + divisor := by linarith
  · -- a negative number is truncated to one that is not positive
    have htruncate : truncate (v + divisor / 2) ≤ 0 := by
      have hneg := Int.tdiv_nonneg (neg_nonneg.2 (Rat.num_nonpos.2 hsum))
        (Int.natCast_nonneg (v + divisor / 2).den)
      rw [Int.neg_tdiv] at hneg
      exact neg_nonneg.1 hneg
    apply le_max_of_le_left
    calc (nearestMultiple v divisor : ℚ) ≤ 0 := by exact_mod_cast hle.trans htruncate
      _ ≤ divisor := hdivisor

/-- The result is a positive multiple of the divisor. It is below its argument by at most a tenth,
and above by at most one divisor. -/
theorem makeDivisible_spec (v : ℚ) (hpos : 0 < divisor) :
    (divisor : ℤ) ∣ makeDivisible v divisor none ∧
      (divisor : ℤ) ≤ makeDivisible v divisor none ∧
      9 / 10 * v ≤ makeDivisible v divisor none ∧
      (makeDivisible v divisor none : ℚ) ≤ max (divisor : ℚ) (v + divisor) := by
  have hdivisor : (0 : ℚ) < divisor := by exact_mod_cast hpos
  have hdvd : (divisor : ℤ) ∣ max (divisor : ℤ) (nearestMultiple v divisor) := by
    rcases max_choice (divisor : ℤ) (nearestMultiple v divisor) with h | h
    · rw [h]
    · rw [h]
      exact Dvd.intro_left _ rfl
  have hge : (divisor : ℤ) ≤ max (divisor : ℤ) (nearestMultiple v divisor) := le_max_left _ _
  rw [makeDivisible, Option.getD_none]
  split
  · next hlow =>
      have hv : 0 ≤ v := by
        have hcast : (divisor : ℚ) ≤ (max (divisor : ℤ) (nearestMultiple v divisor) : ℤ) := by
          exact_mod_cast hge
        linarith
      have hnearest := lt_nearestMultiple_add hv hpos
      have hmax : (nearestMultiple v divisor : ℚ) ≤
          (max (divisor : ℤ) (nearestMultiple v divisor) : ℤ) := by
        exact_mod_cast le_max_right (divisor : ℤ) (nearestMultiple v divisor)
      refine ⟨dvd_add hdvd dvd_rfl, by omega, ?_, le_max_of_le_right ?_⟩
      · push_cast at hnearest ⊢
        push_cast at hmax
        linarith
      · push_cast at hlow ⊢
        linarith
  · next hlow =>
      refine ⟨hdvd, hge, not_lt.1 hlow, ?_⟩
      push_cast
      exact max_le (le_max_left _ _) (nearestMultiple_le v hpos)

theorem toNat_makeDivisible_pos (v : ℚ) (divisor : ℕ+) :
    0 < (makeDivisible v divisor none).toNat := by
  have hle := (makeDivisible_spec v divisor.pos).2.1
  have hpos := divisor.pos
  omega

end Rounding

/-- A number of channels that is rounded with `round_nearest`. -/
def roundedChannels (v : ℚ) (roundNearest : ℕ+) : ℕ+ :=
  ⟨(makeDivisible v roundNearest none).toNat, toNat_makeDivisible_pos v roundNearest⟩

theorem dvd_roundedChannels (v : ℚ) (roundNearest : ℕ+) :
    (roundNearest : ℕ) ∣ roundedChannels v roundNearest := by
  obtain ⟨hdvd, hle, -⟩ := makeDivisible_spec v roundNearest.pos
  have hcast : ((roundedChannels v roundNearest : ℕ) : ℤ) = makeDivisible v roundNearest none :=
    Int.toNat_of_nonneg (le_trans (Int.natCast_nonneg _) hle)
  rw [← hcast] at hdvd
  exact_mod_cast hdvd

/-! ## Blocks -/

variable {K : Type} [Field K] [LinearOrder K]

/-- The activation of a `ConvBNReLU`. -/
def relu6 (x : FeatureMap K) : FeatureMap K :=
  tabulate x.channels x.height x.width fun c i j => min (max (x.value c i j) 0) (6 : ℕ)

/-- Convolution and normalisation of a `ConvBNReLU` without groups. -/
def convBN (kernelSize : ℕ) (inPlanes outPlanes stride : ℕ+) (weights : ConvWeights K) :
    NormalizedConv K :=
  ⟨convolution kernelSize ((kernelSize - 1) / 2) inPlanes outPlanes stride weights.weight,
    weights.bn⟩

/-- Those of one with `groups=hidden_dim`. -/
def depthwiseBN (hiddenDim stride : ℕ+) (weights : ConvWeights K) : NormalizedConv K :=
  ⟨.depthwise 3 stride 1 hiddenDim weights.weight hiddenDim.pos stride.pos, weights.bn⟩

/-- What a block is initialised with; the first one is used if the block expands its input. -/
structure BlockWeights (K : Type) [Field K] [LinearOrder K] where
  expansion : ConvWeights K
  depthwise : ConvWeights K
  projection : ConvWeights K

/-- A block that the constructor returns. One that does not expand its input has the input's
channels. -/
structure InvertedResidual (K : Type) [Field K] [LinearOrder K] where
  inp : ℕ+
  oup : ℕ+
  stride : ℕ+
  hiddenDim : ℕ+
  expands : Bool
  hiddenDim_eq : expands = false → hiddenDim = inp
  weights : BlockWeights K

namespace InvertedResidual

/-- The constructor. A depthwise convolution of no channels has no groups. -/
def init (weights : BlockWeights K) (inp oup : ℕ+) (stride expandRatio : ℕ) :
    Except PyError (InvertedResidual K) :=
  if hstride : stride = 1 ∨ stride = 2 then
    if hhidden : 0 < inp * expandRatio then
      .ok
        { inp := inp
          oup := oup
          stride := ⟨stride, hstride.elim (fun h => h ▸ Nat.one_pos) (fun h => h ▸ Nat.two_pos)⟩
          hiddenDim := ⟨inp * expandRatio, hhidden⟩
          expands := decide (expandRatio ≠ 1)
          hiddenDim_eq := by
            intro h
            rw [decide_eq_false_iff_not, not_not] at h
            exact PNat.coe_injective (h ▸ Nat.mul_one _)
          weights := weights }
    else .error (.valueError "groups must be a positive integer")
  else .error (.assertionError "")

/-- `use_res_connect`. -/
def useResConnect (block : InvertedResidual K) : Bool :=
  (block.stride : ℕ) = 1 ∧ block.inp = block.oup

/-- The expanding layer, if there is one. -/
def expand (block : InvertedResidual K) (root : Root K) (x : FeatureMap K) :
    Except PyError (FeatureMap K) :=
  if block.expands then do
    let x ← (convBN 1 block.inp block.hiddenDim defaultStride block.weights.expansion).forward root x
    .ok (relu6 x)
  else .ok x

/-- The layers of `conv`. -/
def conv (block : InvertedResidual K) (root : Root K) (x : FeatureMap K) :
    Except PyError (FeatureMap K) := do
  let x ← block.expand root x
  let x ← (depthwiseBN block.hiddenDim block.stride block.weights.depthwise).forward root x
  (convBN 1 block.hiddenDim block.oup defaultStride block.weights.projection).forward root (relu6 x)

/-- `InvertedResidual.forward`. -/
def forward (block : InvertedResidual K) (root : Root K) (x : FeatureMap K) :
    Except PyError (FeatureMap K) :=
  if block.useResConnect then do
    let y ← block.conv root x
    add x y
  else block.conv root x

variable {block : InvertedResidual K} {root : Root K} {height width : ℕ}

theorem init_eq_ok {weights : BlockWeights K} {inp oup : ℕ+} {stride expandRatio : ℕ}
    (h : init weights inp oup stride expandRatio = .ok block) :
    block.inp = inp ∧ block.oup = oup := by
  rw [init] at h
  split at h
  · split at h
    · cases h
      exact ⟨rfl, rfl⟩
    · cases h
  · cases h

end InvertedResidual

/-- A 1x1 convolution keeps rows and columns. -/
theorem meets_pointwise (inPlanes outPlanes : ℕ+) (weights : ConvWeights K) (root : Root K)
    (height width : ℕ) :
    Meets (OfShape inPlanes height width)
      ((convBN 1 inPlanes outPlanes defaultStride weights).forward root)
      (OfShape outPlanes height width) := by
  intro x hx
  obtain ⟨y, hy, hchannels, hheight, hwidth⟩ :=
    (convBN 1 inPlanes outPlanes defaultStride weights).meets_ofShape root
      (fun _ => Geometry.fits_oneByOne) height width x hx
  obtain ⟨⟨-, hpos, hpos'⟩, rfl, rfl⟩ := hx
  exact ⟨y, hy, hchannels, hheight.trans (Geometry.extent_same (p := 0) hpos),
    hwidth.trans (Geometry.extent_same (p := 0) hpos')⟩

theorem exactly_convBN {kernelSize : ℕ} (inPlanes outPlanes stride : ℕ+) (weights : ConvWeights K)
    (root : Root K) (hkernel : kernelSize = 1 ∨ kernelSize = 3) :
    Exactly (WithChannels inPlanes) ((convBN kernelSize inPlanes outPlanes stride weights).forward root)
      (WithChannels outPlanes) := by
  apply (convBN kernelSize inPlanes outPlanes stride weights).exactly_withChannels root
  intro n
  rcases hkernel with rfl | rfl
  · exact Geometry.fits_oneByOne
  · exact Geometry.fits_threeByThree

namespace InvertedResidual

variable {block : InvertedResidual K} {root : Root K}

theorem exactly_depthwise (block : InvertedResidual K) (root : Root K) :
    Exactly (WithChannels block.hiddenDim)
      ((depthwiseBN block.hiddenDim block.stride block.weights.depthwise).forward root)
      (WithChannels block.hiddenDim) :=
  (depthwiseBN block.hiddenDim block.stride block.weights.depthwise).exactly_withChannels root
    fun _ => Geometry.fits_threeByThree

theorem meets_expand (block : InvertedResidual K) (root : Root K) (height width : ℕ) :
    Meets (OfShape block.inp height width) (block.expand root)
      (OfShape block.hiddenDim height width) := by
  intro x hx
  rw [expand]
  split
  · obtain ⟨y, hy, hshape⟩ := meets_pointwise block.inp block.hiddenDim block.weights.expansion root
      height width x hx
    exact ⟨relu6 y, bind_eq_ok_iff.2 ⟨y, hy, rfl⟩, hshape⟩
  · next hexpands =>
      rw [block.hiddenDim_eq (Bool.not_eq_true _ ▸ hexpands)]
      exact ⟨x, rfl, hx⟩

/-- The convolutions change rows and columns by their stride. -/
theorem meets_conv (block : InvertedResidual K) (root : Root K) (height width : ℕ) :
    Meets (OfShape block.inp height width) (block.conv root)
      (OfShape block.oup (Geometry.extent ⟨3, block.stride, 1⟩ height)
        (Geometry.extent ⟨3, block.stride, 1⟩ width)) := by
  have hdepthwise := (depthwiseBN block.hiddenDim block.stride
    block.weights.depthwise).meets_ofShape root (fun _ => Geometry.fits_threeByThree) height width
  have hprojection : ∀ h w, Meets (OfShape block.hiddenDim h w) (fun x =>
      (convBN 1 block.hiddenDim block.oup defaultStride block.weights.projection).forward root
        (relu6 x)) (OfShape block.oup h w) := by
    intro h w x hx
    exact meets_pointwise block.hiddenDim block.oup block.weights.projection root h w (relu6 x) hx
  exact (block.meets_expand root height width).bind (hdepthwise.bind (hprojection _ _))

theorem withChannels_of_conv {x y : FeatureMap K} (h : block.conv root x = .ok y) :
    x.WithChannels block.inp := by
  obtain ⟨expanded, hexpanded, h⟩ := bind_eq_ok_iff.1 h
  obtain ⟨out, hout, -⟩ := bind_eq_ok_iff.1 h
  rw [expand] at hexpanded
  split at hexpanded
  · obtain ⟨z, hz, -⟩ := bind_eq_ok_iff.1 hexpanded
    exact (exactly_convBN _ _ _ _ root (Or.inl rfl)).only x z hz
  · next hexpands =>
      cases hexpanded
      have hwith := (block.exactly_depthwise root).only x out hout
      rw [block.hiddenDim_eq (Bool.not_eq_true _ ▸ hexpands)] at hwith
      exact hwith

/-- A block returns exactly on the inputs with its channels; where it adds the input, both summands
have one shape. -/
theorem exactly_forward (block : InvertedResidual K) (root : Root K) :
    Exactly (WithChannels block.inp) (block.forward root) (WithChannels block.oup) := by
  constructor
  · intro x hx
    obtain ⟨y, hy, hwith, hheight, hwidth⟩ :=
      block.meets_conv root x.height x.width x ⟨hx, rfl, rfl⟩
    rw [forward]
    split
    · next hres =>
        obtain ⟨hstride, hchannels⟩ := of_decide_eq_true hres
        rw [hstride, Geometry.extent_same (p := 1) hx.2.1] at hheight
        rw [hstride, Geometry.extent_same (p := 1) hx.2.2] at hwidth
        have hshape : x.shape = y.shape := by
          rw [shape, shape, hx.1, hwith.1, hchannels, hheight, hwidth]
        exact ⟨_, bind_eq_ok_iff.2 ⟨y, hy, add_of_shape_eq hshape⟩, hchannels ▸ hx⟩
    · exact ⟨y, hy, hwith⟩
  · intro x z hz
    rw [forward] at hz
    split at hz
    · obtain ⟨y, hy, -⟩ := bind_eq_ok_iff.1 hz
      exact withChannels_of_conv hy
    · exact withChannels_of_conv hz

end InvertedResidual

/-! ## Networks -/

/-- A row `t, c, n, s` of `inverted_residual_setting`. -/
structure Row where
  t : ℕ
  c : ℕ
  n : ℕ
  s : ℕ

/-- The setting that is used if none is given. -/
def defaultSetting : List Row :=
  [⟨1, 16, 1, 1⟩, ⟨6, 24, 2, 1⟩, ⟨6, 32, 3, 2⟩, ⟨6, 64, 4, 2⟩, ⟨6, 96, 3, 1⟩, ⟨6, 160, 3, 2⟩,
    ⟨6, 320, 1, 1⟩]

/-- The blocks that were appended, and the value of `input_channel` after them. -/
structure Built (K : Type) [Field K] [LinearOrder K] where
  blocks : List (InvertedResidual K)
  inputChannel : ℕ+

/-- The inner loop, from a round with the given stride on. -/
def makeRow (weights : ℕ → BlockWeights K) (t : ℕ) (outputChannel : ℕ+) :
    ℕ → ℕ → ℕ+ → Except PyError (Built K)
  | 0, _, inputChannel => .ok ⟨[], inputChannel⟩
  | n + 1, stride, inputChannel => do
      let block ← InvertedResidual.init (weights 0) inputChannel outputChannel stride t
      let built ← makeRow (fun i => weights (i + 1)) t outputChannel n 1 outputChannel
      .ok ⟨block :: built.blocks, built.inputChannel⟩

/-- The outer loop; weights are found by row and round. -/
def makeRows (weights : ℕ → ℕ → BlockWeights K) (widthMult : ℚ) (roundNearest : ℕ+) :
    List Row → ℕ+ → Except PyError (Built K)
  | [], inputChannel => .ok ⟨[], inputChannel⟩
  | row :: rows, inputChannel => do
      let outputChannel := roundedChannels (row.c * widthMult) roundNearest
      let built ← makeRow (weights 0) row.t outputChannel row.n row.s inputChannel
      let rest ← makeRows (fun i => weights (i + 1)) widthMult roundNearest rows built.inputChannel
      .ok ⟨built.blocks ++ rest.blocks, rest.inputChannel⟩

/-- `MobileNetV2`: the features and the classifier; dropout does nothing in evaluation mode. -/
structure MobileNetV2 (K : Type) [Field K] [LinearOrder K] where
  stem : NormalizedConv K
  blocks : List (InvertedResidual K)
  last : NormalizedConv K
  classifier : Linear K

/-- What a network is initialised with. -/
structure Weights (K : Type) [Field K] [LinearOrder K] where
  stem : ConvWeights K
  block : ℕ → ℕ → BlockWeights K
  last : ConvWeights K
  classifierWeight : ℕ → ℕ → K
  classifierBias : ℕ → K

/-- `MobileNetV2.__init__`. -/
def MobileNetV2.init (weights : Weights K) (numClasses : ℕ) (widthMult : ℚ) (setting : List Row)
    (roundNearest : ℕ+) : Except PyError (MobileNetV2 K) :=
  if setting = [] then
    .error (.valueError "inverted_residual_setting should be non-empty or a 4-element list, got []")
  else do
    let inputChannel := roundedChannels (32 * widthMult) roundNearest
    let lastChannel := roundedChannels (1280 * max 1 widthMult) roundNearest
    let built ← makeRows weights.block widthMult roundNearest setting inputChannel
    .ok
      { stem := convBN 3 (Nat.toPNat' 3) inputChannel defaultStride weights.stem
        blocks := built.blocks
        last := convBN 1 built.inputChannel lastChannel defaultStride weights.last
        classifier := ⟨lastChannel, numClasses, weights.classifierWeight, weights.classifierBias⟩ }

/-- `MobileNetV2.forward`. -/
def MobileNetV2.forward (model : MobileNetV2 K) (root : Root K) (x : FeatureMap K) :
    Except PyError (List K) := do
  let x ← model.stem.forward root x
  let x ← sequence (model.blocks.map fun block => block.forward root) (relu6 x)
  let x ← model.last.forward root x
  let x ← adaptiveAvgPool (relu6 x)
  model.classifier.forward (flatten x)

/-- The blocks lead from one number of channels to another, and all numbers of channels are
multiples of the divisor. -/
structure Chain (divisor : ℕ) (root : Root K) (inputChannel : ℕ+) (built : Built K) : Prop where
  leads : Leads (fun c : ℕ+ => WithChannels (c : ℕ)) inputChannel
    (built.blocks.map fun block => block.forward root) built.inputChannel
  dvd : ∀ block ∈ built.blocks, divisor ∣ block.inp ∧ divisor ∣ block.oup
  dvd_last : divisor ∣ built.inputChannel

section Chains

variable {divisor : ℕ} {root : Root K}

/-- One round of the inner loop after the other. -/
theorem chain_of_makeRow {weights : ℕ → BlockWeights K} {t n stride : ℕ}
    {inputChannel outputChannel : ℕ+} {built : Built K} (root : Root K)
    (hin : divisor ∣ inputChannel) (hout : divisor ∣ outputChannel)
    (h : makeRow weights t outputChannel n stride inputChannel = .ok built) :
    Chain divisor root inputChannel built := by
  -- after the first round the input has the channels of the output
  induction n generalizing weights stride inputChannel built with
  | zero =>
      cases h
      exact ⟨.nil _, fun block hblock => absurd hblock List.not_mem_nil, hin⟩
  | succ n ih =>
      obtain ⟨block, hblock, h⟩ := bind_eq_ok_iff.1 h
      obtain ⟨rest, hrest, h⟩ := bind_eq_ok_iff.1 h
      cases h
      obtain ⟨hleads, hdvd, hlast⟩ := ih hout hrest
      obtain ⟨rfl, rfl⟩ := InvertedResidual.init_eq_ok hblock
      exact ⟨.cons (block.exactly_forward root).meets hleads,
        List.forall_mem_cons.2 ⟨⟨hin, hout⟩, hdvd⟩, hlast⟩

theorem chain_of_makeRows {weights : ℕ → ℕ → BlockWeights K} {widthMult : ℚ} {roundNearest : ℕ+}
    {rows : List Row} {inputChannel : ℕ+} {built : Built K} (root : Root K)
    (hin : (roundNearest : ℕ) ∣ inputChannel)
    (h : makeRows weights widthMult roundNearest rows inputChannel = .ok built) :
    Chain roundNearest root inputChannel built := by
  induction rows generalizing weights inputChannel built with
  | nil =>
      cases h
      exact ⟨.nil _, fun block hblock => absurd hblock List.not_mem_nil, hin⟩
  | cons row rows ih =>
      obtain ⟨first, hfirst, h⟩ := bind_eq_ok_iff.1 h
      obtain ⟨rest, hrest, h⟩ := bind_eq_ok_iff.1 h
      cases h
      have hrow := chain_of_makeRow root hin (dvd_roundedChannels _ _) hfirst
      have hrows := ih hrow.dvd_last hrest
      refine ⟨?_, ?_, hrows.dvd_last⟩
      · rw [List.map_append]
        exact hrow.leads.append hrows.leads
      · intro block hblock
        rcases List.mem_append.1 hblock with hblock | hblock
        · exact hrow.dvd block hblock
        · exact hrows.dvd block hblock

end Chains

theorem meets_relu6 {channels : ℕ} {β : Type} {stage : FeatureMap K → Except PyError β}
    {post : β → Prop} (h : Meets (WithChannels channels) stage post) :
    Meets (WithChannels channels) (fun x => stage (relu6 x)) post := fun x hx => h (relu6 x) hx

/-- A network that can be constructed runs exactly on the images with three channels and returns one
logit for each class; all blocks have multiples of `round_nearest` as numbers of channels. -/
theorem MobileNetV2.classifies_of_constructor {weights : Weights K} {numClasses : ℕ}
    {widthMult : ℚ} {setting : List Row} {roundNearest : ℕ+} {model : MobileNetV2 K}
    (h : MobileNetV2.init weights numClasses widthMult setting roundNearest = .ok model)
    (root : Root K) :
    Classifies (model.forward root) 3 numClasses ∧
      ∀ block ∈ model.blocks, (roundNearest : ℕ) ∣ block.inp ∧ (roundNearest : ℕ) ∣ block.oup := by
  rw [MobileNetV2.init] at h
  split at h
  · cases h
  · obtain ⟨built, hbuilt, h⟩ := bind_eq_ok_iff.1 h
    cases h
    have hchain := chain_of_makeRows root (dvd_roundedChannels _ _) hbuilt
    refine ⟨?_, hchain.dvd⟩
    have hstem := exactly_convBN (Nat.toPNat' 3) (roundedChannels (32 * widthMult) roundNearest)
      defaultStride weights.stem root (Or.inr rfl)
    have hlast := exactly_convBN built.inputChannel
      (roundedChannels (1280 * max 1 widthMult) roundNearest) defaultStride weights.last root
      (Or.inl rfl)
    have hhead := meets_head ⟨roundedChannels (1280 * max 1 widthMult) roundNearest, numClasses,
      weights.classifierWeight, weights.classifierBias⟩ rfl
    have hexactly := hstem.bind (meets_relu6
      (hchain.leads.meets.bind (hlast.meets.bind (meets_relu6 hhead))))
    refine classifies_of_meets hexactly.meets ?_
    rintro x ⟨logits, hlogits⟩
    exact hexactly.only x logits hlogits

/-! ## Settings that can be constructed -/

/-- Rows with a stride of one or two, and with an expansion that leaves channels. -/
def Row.Valid (row : Row) : Prop := (row.s = 1 ∨ row.s = 2) ∧ 0 < row.t

theorem valid_defaultSetting : ∀ row ∈ defaultSetting, row.Valid := by
  intro row hrow
  simp only [defaultSetting, List.mem_cons, List.not_mem_nil, or_false] at hrow
  rcases hrow with rfl | rfl | rfl | rfl | rfl | rfl | rfl <;> simp [Row.Valid]

theorem InvertedResidual.returns_init (weights : BlockWeights K) (inp oup : ℕ+) {stride t : ℕ}
    (hstride : stride = 1 ∨ stride = 2) (ht : 0 < t) :
    returns (InvertedResidual.init weights inp oup stride t) := by
  rw [InvertedResidual.init, dif_pos hstride, dif_pos (Nat.mul_pos inp.pos ht)]
  exact returns_ok _

theorem returns_makeRow {t stride : ℕ} (weights : ℕ → BlockWeights K) (n : ℕ)
    (inputChannel outputChannel : ℕ+) (hstride : stride = 1 ∨ stride = 2) (ht : 0 < t) :
    returns (makeRow weights t outputChannel n stride inputChannel) := by
  induction n generalizing weights stride inputChannel with
  | zero => exact returns_ok _
  | succ n ih =>
      obtain ⟨block, hblock⟩ :=
        InvertedResidual.returns_init (weights 0) inputChannel outputChannel hstride ht
      obtain ⟨built, hbuilt⟩ := ih (fun i => weights (i + 1)) outputChannel (Or.inl rfl)
      exact ⟨_, bind_eq_ok_iff.2 ⟨block, hblock, bind_eq_ok_iff.2 ⟨built, hbuilt, rfl⟩⟩⟩

theorem returns_makeRows (weights : ℕ → ℕ → BlockWeights K) (widthMult : ℚ) (roundNearest : ℕ+)
    {rows : List Row} (inputChannel : ℕ+) (hrows : ∀ row ∈ rows, row.Valid) :
    returns (makeRows weights widthMult roundNearest rows inputChannel) := by
  induction rows generalizing weights inputChannel with
  | nil => exact returns_ok _
  | cons row rows ih =>
      obtain ⟨⟨hstride, ht⟩, hrows⟩ := List.forall_mem_cons.1 hrows
      obtain ⟨built, hbuilt⟩ := returns_makeRow (weights 0) row.n inputChannel
        (roundedChannels (row.c * widthMult) roundNearest) hstride ht
      obtain ⟨rest, hrest⟩ := ih (fun i => weights (i + 1)) built.inputChannel hrows
      exact ⟨_, bind_eq_ok_iff.2 ⟨built, hbuilt, bind_eq_ok_iff.2 ⟨rest, hrest, rfl⟩⟩⟩

/-- Every width and rounding can be constructed with valid rows. -/
theorem MobileNetV2.returns_init (weights : Weights K) (numClasses : ℕ) (widthMult : ℚ)
    {setting : List Row} (roundNearest : ℕ+) (hne : setting ≠ [])
    (hrows : ∀ row ∈ setting, row.Valid) :
    returns (MobileNetV2.init weights numClasses widthMult setting roundNearest) := by
  obtain ⟨built, hbuilt⟩ := returns_makeRows weights.block widthMult roundNearest
    (roundedChannels (32 * widthMult) roundNearest) hrows
  rw [MobileNetV2.init, if_neg hne]
  exact ⟨_, bind_eq_ok_iff.2 ⟨built, hbuilt, rfl⟩⟩

/-- Empty kernels and new normalisations. -/
def blankConv : ConvWeights ℚ := ⟨fun _ _ _ _ => 0, BatchNormState.initial⟩

/-- Weights that make every layer constant. -/
def blankWeights : Weights ℚ where
  stem := blankConv
  block _ _ := ⟨blankConv, blankConv, blankConv⟩
  last := blankConv
  classifierWeight _ _ := 0
  classifierBias _ := 0

/-- The exported network of half the width. -/
theorem classifies_half_width : ∃ model,
    MobileNetV2.init blankWeights 10 (1 / 2) defaultSetting (Nat.toPNat' 8) = .ok model ∧
      Classifies (model.forward Root.rat) 3 10 := by
  obtain ⟨model, hmodel⟩ := MobileNetV2.returns_init blankWeights 10 (1 / 2) (Nat.toPNat' 8)
    (List.cons_ne_nil _ _) valid_defaultSetting
  exact ⟨model, hmodel, (MobileNetV2.classifies_of_constructor hmodel Root.rat).1⟩

end TrojanDetection.Zoo.Mobilenetv2
