import TrojanDetection.Torch.Layers
import Mathlib.Tactic.FieldSimp
import Mathlib.Tactic.Linarith

/-!
# RepVGG and its conversion for inference (`pytorch_cifar_models/repvgg.py`)

A block is trained as three parallel branches: a normalised 3x3 convolution, a normalised 1x1
convolution and, where the shapes allow it, a normalised identity. `switch_to_deploy` replaces them
by a single 3x3 convolution, whose kernel and bias are computed from the three.
-/

set_option autoImplicit false

namespace TrojanDetection.Zoo.Repvgg

open TrojanDetection.Library.Convolution
open TrojanDetection.Library.Convolution.FeatureMap
open TrojanDetection.Library.Pipeline
open TrojanDetection.Python
open TrojanDetection.Torch

variable {K : Type} [Field K]

/-! ## Blocks -/

/-- What the convolutions of a block have in common. Kernel size 3 and padding 1 are asserted by the
constructor. -/
structure BlockShape where
  inChannels : ℕ
  outChannels : ℕ
  stride : ℕ
  groups : ℕ
  inChannels_pos : 0 < inChannels
  outChannels_pos : 0 < outChannels
  stride_pos : 0 < stride
  groups_pos : 0 < groups
  groups_dvd_in : groups ∣ inChannels
  groups_dvd_out : groups ∣ outChannels

/-- A convolution of the block. -/
def BlockShape.conv (s : BlockShape) (kernelSize padding : ℕ) (weight : Kernel K)
    (bias : Option (ℕ → K)) : Conv2d K where
  inChannels := s.inChannels
  outChannels := s.outChannels
  kernelSize := kernelSize
  stride := s.stride
  padding := padding
  groups := s.groups
  weight := weight
  bias := bias
  inChannels_pos := s.inChannels_pos
  outChannels_pos := s.outChannels_pos
  stride_pos := s.stride_pos
  groups_pos := s.groups_pos
  groups_dvd_in := s.groups_dvd_in
  groups_dvd_out := s.groups_dvd_out

section Definitions

variable [LinearOrder K]

/-- The weights of `conv_bn`, a convolution without bias and a normalisation. -/
structure ConvBn (K : Type) [Field K] [LinearOrder K] where
  weight : Kernel K
  bn : BatchNormState K

/-- A branch on the shape of its block. -/
def ConvBn.forward (branch : ConvBn K) (root : Root K) (s : BlockShape) (kernelSize padding : ℕ)
    (x : FeatureMap K) : Except PyError (FeatureMap K) :=
  NormalizedConv.forward ⟨s.conv kernelSize padding branch.weight none, branch.bn⟩ root x

/-- The attributes `rbr_identity`, `rbr_dense` and `rbr_1x1`. -/
structure Branches (K : Type) [Field K] [LinearOrder K] (s : BlockShape) where
  rbrIdentity : Option (BatchNormState K)
  rbrDense : ConvBn K
  rbrOneByOne : ConvBn K
  identity_iff : rbrIdentity.isSome = true ↔ s.outChannels = s.inChannels ∧ s.stride = 1

/-- A block has its three branches, or after `switch_to_deploy` only `rbr_reparam`. -/
inductive Body (K : Type) [Field K] [LinearOrder K] (s : BlockShape)
  | branches (b : Branches K s)
  | reparam (weight : Kernel K) (bias : ℕ → K)

/-- `RepVGGBlock`. -/
structure RepVGGBlock (K : Type) [Field K] [LinearOrder K] where
  shape : BlockShape
  body : Body K shape

/-- `self.rbr_dense(inputs) + self.rbr_1x1(inputs) + id_out`; without an identity `id_out` is the
number zero. -/
def Branches.forward {s : BlockShape} (b : Branches K s) (root : Root K) (x : FeatureMap K) :
    Except PyError (FeatureMap K) := do
  let idOut ← b.rbrIdentity.mapM fun bn => (BatchNorm2d.mk s.inChannels bn).forward root x
  let dense ← b.rbrDense.forward root s 3 1 x
  -- `padding_11 = padding - kernel_size // 2` is zero
  let oneByOne ← b.rbrOneByOne.forward root s 1 0 x
  let out ← add dense oneByOne
  idOut.elim (.ok out) (add out)

/-- `RepVGGBlock.forward`. -/
def RepVGGBlock.forward (block : RepVGGBlock K) (root : Root K) (x : FeatureMap K) :
    Except PyError (FeatureMap K) := do
  let out ← match block.body with
    | .branches b => b.forward root x
    | .reparam weight bias => (block.shape.conv 3 1 weight (some bias)).forward x
  .ok (relu out)

/-! ## Conversion -/

/-- `_fuse_bn_tensor` for a kernel and its normalisation. -/
def fuseBnTensor (root : Root K) (kernel : Kernel K) (bn : BatchNormState K) :
    Kernel K × (ℕ → K) :=
  (fun o c u v => kernel o c u v * (bn.weight o / bn.std root o),
    fun o => bn.bias o - bn.runningMean o * bn.weight o / bn.std root o)

/-- `id_tensor`, the kernel of the identity. -/
def BlockShape.idTensor (s : BlockShape) : Kernel K :=
  let inputDim := s.inChannels / s.groups
  Kernel.centre 1 fun i => i % inputDim

/-- `_pad_1x1_to_3x3_tensor`. -/
def padOneByOne (kernel : Kernel K) : Kernel K := kernel.frame 1 1

/-- `_fuse_bn_tensor(self.rbr_identity)`, two zeros if there is no identity. -/
def Branches.fusedIdentity {s : BlockShape} (b : Branches K s) (root : Root K) :
    Kernel K × (ℕ → K) :=
  b.rbrIdentity.elim (0, 0) (fuseBnTensor root s.idTensor)

/-- `get_equivalent_kernel_bias`. -/
def Branches.getEquivalentKernelBias {s : BlockShape} (b : Branches K s) (root : Root K) :
    Kernel K × (ℕ → K) :=
  let (kernel3x3, bias3x3) := fuseBnTensor root b.rbrDense.weight b.rbrDense.bn
  let (kernel1x1, bias1x1) := fuseBnTensor root b.rbrOneByOne.weight b.rbrOneByOne.bn
  let (kernelId, biasId) := b.fusedIdentity root
  (kernel3x3 + padOneByOne kernel1x1 + kernelId, bias3x3 + bias1x1 + biasId)

/-- `switch_to_deploy`, which leaves a deployed block alone. -/
def RepVGGBlock.switchToDeploy (block : RepVGGBlock K) (root : Root K) : RepVGGBlock K :=
  match block.body with
  | .reparam _ _ => block
  | .branches b =>
      let (kernel, bias) := b.getEquivalentKernelBias root
      { shape := block.shape, body := .reparam kernel bias }

end Definitions

/-! ## What a block computes -/

/-- The output of a convolution of the block, without bias. -/
def BlockShape.response (s : BlockShape) (kernelSize padding : ℕ) (weight : Kernel K)
    (x : FeatureMap K) (o : ℕ) (i j : ℤ) : K :=
  correlate ⟨kernelSize, s.stride, padding⟩ (s.inChannels / s.groups)
    (fun o => o / (s.outChannels / s.groups) * (s.inChannels / s.groups)) weight x o i j

/-- A tensor of the shape that all branches have. -/
def BlockShape.table (s : BlockShape) (x : FeatureMap K) (entry : ℕ → ℤ → ℤ → K) : FeatureMap K :=
  tabulate s.outChannels (Geometry.extent ⟨3, s.stride, 1⟩ x.height)
    (Geometry.extent ⟨3, s.stride, 1⟩ x.width) entry

section Shapes

variable {s : BlockShape} {x y : FeatureMap K}

/-- Tables of one block are added entry by entry. -/
theorem add_table (entry entry' : ℕ → ℤ → ℤ → K) :
    add (s.table x entry) (s.table x entry') =
      .ok (s.table x fun o i j => entry o i j + entry' o i j) := by
  have hshape : (s.table x entry).shape = (s.table x entry').shape := rfl
  rw [add_of_shape_eq hshape]
  refine congrArg Except.ok (tabulate_congr ?_)
  intro o i j hin
  have hinside : Inside s.outChannels (Geometry.extent ⟨3, s.stride, 1⟩ x.height)
      (Geometry.extent ⟨3, s.stride, 1⟩ x.width) o i j := hin
  rw [BlockShape.table, BlockShape.table, value_tabulate hinside, value_tabulate hinside]

/-- The single convolution returns on the inputs with the block's channels. -/
theorem reparam_forward_eq_ok_iff {weight : Kernel K} {bias : ℕ → K} :
    (s.conv 3 1 weight (some bias)).forward x = .ok y ↔
      x.WithChannels s.inChannels ∧
        s.table x (fun o i j => s.response 3 1 weight x o i j + bias o) = y := by
  rw [Conv2d.forward_eq_ok_iff]
  apply and_congr_left'
  show _ ∧ Geometry.Fits ⟨3, s.stride, 1⟩ _ ∧ Geometry.Fits ⟨3, s.stride, 1⟩ _ ↔ _
  rw [Geometry.fits_threeByThree, Geometry.fits_threeByThree]
  rfl

end Shapes

section Blocks

variable [LinearOrder K] {s : BlockShape} {root : Root K} {x y : FeatureMap K}

/-- A branch with a convolution, for the two sizes that are used. -/
theorem ConvBn.forward_eq_ok_iff {branch : ConvBn K} {kernelSize padding : ℕ}
    (hfits : ∀ n, Geometry.Fits ⟨kernelSize, s.stride, padding⟩ n ↔ 1 ≤ n)
    (hextent : ∀ n, Geometry.extent ⟨kernelSize, s.stride, padding⟩ n =
      Geometry.extent ⟨3, s.stride, 1⟩ n) :
    branch.forward root s kernelSize padding x = .ok y ↔
      x.WithChannels s.inChannels ∧ s.table x (fun o i j =>
        branch.bn.normalize root o (s.response kernelSize padding branch.weight x o i j)) = y := by
  have happly : NormalizedConv.apply ⟨s.conv kernelSize padding branch.weight none, branch.bn⟩
      root x = s.table x (fun o i j =>
        branch.bn.normalize root o (s.response kernelSize padding branch.weight x o i j)) := by
    rw [BlockShape.table, ← hextent, ← hextent]
    apply tabulate_congr
    intro o i j _
    exact congrArg (branch.bn.normalize root o) (add_zero _)
  rw [ConvBn.forward, ← happly]
  exact NormalizedConv.forward_eq_ok_iff_withChannels hfits

/-- The sum of the branches at one position. -/
def Branches.entry (b : Branches K s) (root : Root K) (x : FeatureMap K) (o : ℕ) (i j : ℤ) : K :=
  b.rbrDense.bn.normalize root o (s.response 3 1 b.rbrDense.weight x o i j) +
    b.rbrOneByOne.bn.normalize root o (s.response 1 0 b.rbrOneByOne.weight x o i j) +
      b.rbrIdentity.elim 0 fun bn => bn.normalize root o (x.value o i j)

/-- With an identity branch the output has the shape of the input. -/
theorem identity_apply {bn : BatchNormState K} (hchannels : s.outChannels = s.inChannels)
    (hstride : s.stride = 1) (hx : x.WithChannels s.inChannels) :
    BatchNorm2d.apply ⟨s.inChannels, bn⟩ root x =
      s.table x fun o i j => bn.normalize root o (x.value o i j) := by
  obtain ⟨hin, hheight, hwidth⟩ := hx
  have hsame : ∀ n, 1 ≤ n → Geometry.extent ⟨3, s.stride, 1⟩ n = n := by
    intro n hn
    rw [hstride]
    exact Geometry.extent_same hn
  rw [BatchNorm2d.apply, BlockShape.table, hsame _ hheight, hsame _ hwidth, hchannels, hin]

/-- The branches return on the same inputs, and return their sum. -/
theorem Branches.forward_eq_ok_iff {b : Branches K s} :
    b.forward root x = .ok y ↔
      x.WithChannels s.inChannels ∧ s.table x (b.entry root x) = y := by
  have hdense : ∀ {z}, b.rbrDense.forward root s 3 1 x = .ok z ↔ _ :=
    ConvBn.forward_eq_ok_iff (fun _ => Geometry.fits_threeByThree) fun _ => rfl
  have honeByOne : ∀ {z}, b.rbrOneByOne.forward root s 1 0 x = .ok z ↔ _ :=
    ConvBn.forward_eq_ok_iff (fun _ => Geometry.fits_oneByOne) fun n =>
      Geometry.extent_oneByOne n s.stride
  simp only [Branches.forward, bind_eq_ok_iff, hdense, honeByOne]
  cases hidentity : b.rbrIdentity with
  | none =>
      have hentry : b.entry root x = fun o i j =>
          b.rbrDense.bn.normalize root o (s.response 3 1 b.rbrDense.weight x o i j) +
            b.rbrOneByOne.bn.normalize root o (s.response 1 0 b.rbrOneByOne.weight x o i j) := by
        funext o i j
        rw [Branches.entry, hidentity]
        exact add_zero _
      rw [hentry]
      constructor
      · rintro ⟨idOut, hnone, dense, ⟨hx, rfl⟩, oneByOne, ⟨-, rfl⟩, out, hout, hy⟩
        cases hnone
        rw [add_table] at hout
        cases hout
        exact ⟨hx, Except.ok.inj hy⟩
      · rintro ⟨hx, rfl⟩
        exact ⟨none, rfl, _, ⟨hx, rfl⟩, _, ⟨hx, rfl⟩, _, add_table _ _, rfl⟩
  | some bn =>
      obtain ⟨hchannels, hstride⟩ := b.identity_iff.1 (by rw [hidentity]; rfl)
      have hentry : b.entry root x = fun o i j =>
          b.rbrDense.bn.normalize root o (s.response 3 1 b.rbrDense.weight x o i j) +
            b.rbrOneByOne.bn.normalize root o (s.response 1 0 b.rbrOneByOne.weight x o i j) +
              bn.normalize root o (x.value o i j) := by
        funext o i j
        rw [Branches.entry, hidentity]
        rfl
      rw [hentry]
      constructor
      · rintro ⟨idOut, hsome, dense, ⟨hx, rfl⟩, oneByOne, ⟨-, rfl⟩, out, hout, hy⟩
        rw [add_table] at hout
        cases hout
        obtain ⟨out, hbn, hsome⟩ := bind_eq_ok_iff.1 hsome
        cases hsome
        obtain ⟨-, rfl⟩ := BatchNorm2d.forward_eq_ok_iff.1 hbn
        rw [identity_apply hchannels hstride hx] at hy
        exact ⟨hx, Except.ok.inj ((add_table _ _).symm.trans hy)⟩
      · rintro ⟨hx, rfl⟩
        have hbn : (BatchNorm2d.mk s.inChannels bn).forward root x = .ok _ :=
          BatchNorm2d.forward_eq_ok_iff.2 ⟨hx.1, identity_apply hchannels hstride hx⟩
        exact ⟨some _, bind_eq_ok_iff.2 ⟨_, hbn, rfl⟩, _, ⟨hx, rfl⟩, _, ⟨hx, rfl⟩, _,
          add_table _ _, add_table _ _⟩

/-- What either body computes before the nonlinearity. -/
def Body.entry (body : Body K s) (root : Root K) (x : FeatureMap K) (o : ℕ) (i j : ℤ) : K :=
  match body with
  | .branches b => b.entry root x o i j
  | .reparam weight bias => s.response 3 1 weight x o i j + bias o

/-- A block, converted or not, returns on the inputs with its channels, and only there. -/
theorem RepVGGBlock.forward_eq_ok_iff {block : RepVGGBlock K} :
    block.forward root x = .ok y ↔ x.WithChannels block.shape.inChannels ∧
      relu (block.shape.table x (block.body.entry root x)) = y := by
  obtain ⟨s, body⟩ := block
  cases body with
  | branches b =>
      simp only [RepVGGBlock.forward, bind_eq_ok_iff, Branches.forward_eq_ok_iff]
      constructor
      · rintro ⟨out, ⟨hx, rfl⟩, hy⟩
        exact ⟨hx, Except.ok.inj hy⟩
      · rintro ⟨hx, rfl⟩
        exact ⟨_, ⟨hx, rfl⟩, rfl⟩
  | reparam weight bias =>
      simp only [RepVGGBlock.forward, bind_eq_ok_iff, reparam_forward_eq_ok_iff]
      constructor
      · rintro ⟨out, ⟨hx, rfl⟩, hy⟩
        exact ⟨hx, Except.ok.inj hy⟩
      · rintro ⟨hx, rfl⟩
        exact ⟨_, ⟨hx, rfl⟩, rfl⟩

/-- A block leads from its input channels to its output channels. -/
theorem RepVGGBlock.meets (block : RepVGGBlock K) (root : Root K) :
    Meets (WithChannels block.shape.inChannels) (block.forward root)
      (WithChannels block.shape.outChannels) := by
  intro x hx
  exact ⟨_, RepVGGBlock.forward_eq_ok_iff.2 ⟨hx, rfl⟩,
    rfl, Geometry.one_le_extent, Geometry.one_le_extent⟩

end Blocks

/-! ## The merged kernel -/

section Kernels

variable {s : BlockShape} {x : FeatureMap K} {o : ℕ} {i j : ℤ}

/-- The padded 1x1 kernel computes what the 1x1 kernel does. -/
theorem response_padOneByOne (kernel : Kernel K) :
    s.response 3 1 (padOneByOne kernel) x o i j = s.response 1 0 kernel x o i j :=
  correlate_frame (g := ⟨1, s.stride, 0⟩) 1

/-- The kernel of the identity computes the identity. -/
theorem response_idTensor (hchannels : s.outChannels = s.inChannels) (hstride : s.stride = 1) :
    s.response 3 1 s.idTensor x o i j = x.value o i j := by
  have hpos : 0 < s.inChannels / s.groups :=
    Nat.div_pos (Nat.le_of_dvd s.inChannels_pos s.groups_dvd_in) s.groups_pos
  have hplane : o % (s.inChannels / s.groups) < s.inChannels / s.groups := Nat.mod_lt _ hpos
  have hcentre : s.response 3 1 s.idTensor x o i j =
      x.value (o / (s.inChannels / s.groups) * (s.inChannels / s.groups) +
        o % (s.inChannels / s.groups)) i j := by
    rw [BlockShape.response, hstride, hchannels]
    exact correlate_centre (p := 1) hplane
  rw [hcentre, Nat.div_add_mod']

theorem response_add (kernel kernel' : Kernel K) :
    s.response 3 1 (kernel + kernel') x o i j =
      s.response 3 1 kernel x o i j + s.response 3 1 kernel' x o i j := correlate_add

end Kernels

section Merged

variable [LinearOrder K] [IsStrictOrderedRing K] {s : BlockShape} {root : Root K}
  {x : FeatureMap K} {o : ℕ} {i j : ℤ}

/-- The fused kernel and bias compute the normalised output. -/
theorem response_fuseBnTensor (kernelSize padding : ℕ) (kernel : Kernel K)
    (bn : BatchNormState K) :
    s.response kernelSize padding (fuseBnTensor root kernel bn).1 x o i j +
        (fuseBnTensor root kernel bn).2 o =
      bn.normalize root o (s.response kernelSize padding kernel x o i j) := by
  have hstd := bn.std_ne_zero root o
  simp only [BlockShape.response, fuseBnTensor, BatchNormState.normalize]
  rw [correlate_scale fun o => bn.weight o / bn.std root o]
  field_simp
  ring

/-- The identity branch, or nothing in its place. -/
theorem response_fusedIdentity (b : Branches K s) :
    s.response 3 1 (b.fusedIdentity root).1 x o i j + (b.fusedIdentity root).2 o =
      b.rbrIdentity.elim 0 fun bn => bn.normalize root o (x.value o i j) := by
  cases hidentity : b.rbrIdentity with
  | none =>
      rw [Branches.fusedIdentity, hidentity]
      show s.response 3 1 0 x o i j + 0 = 0
      rw [add_zero]
      exact correlate_zero fun _ _ _ => rfl
  | some bn =>
      obtain ⟨hchannels, hstride⟩ := b.identity_iff.1 (by rw [hidentity]; rfl)
      rw [Branches.fusedIdentity, hidentity]
      show s.response 3 1 (fuseBnTensor root s.idTensor bn).1 x o i j +
        (fuseBnTensor root s.idTensor bn).2 o = bn.normalize root o (x.value o i j)
      rw [response_fuseBnTensor, response_idTensor hchannels hstride]

/-- The merged kernel and bias compute the sum of the branches. -/
theorem response_getEquivalentKernelBias (b : Branches K s) :
    s.response 3 1 (b.getEquivalentKernelBias root).1 x o i j +
        (b.getEquivalentKernelBias root).2 o =
      b.entry root x o i j := by
  simp only [Branches.getEquivalentKernelBias, response_add, response_padOneByOne, Pi.add_apply]
  rw [Branches.entry, ← response_fuseBnTensor, ← response_fuseBnTensor, ← response_fusedIdentity]
  ring

/-- A converted block computes what the block computed. -/
theorem RepVGGBlock.agree_switchToDeploy (block : RepVGGBlock K) (root : Root K) :
    Agree ((block.switchToDeploy root).forward root) (block.forward root) := by
  intro x y
  obtain ⟨s, body⟩ := block
  cases body with
  | reparam weight bias => exact Iff.rfl
  | branches b =>
      have hentry : Body.entry (s := s) (.reparam (b.getEquivalentKernelBias root).1
          (b.getEquivalentKernelBias root).2) root x = b.entry root x := by
        funext o i j
        exact response_getEquivalentKernelBias b
      rw [RepVGGBlock.forward_eq_ok_iff, RepVGGBlock.forward_eq_ok_iff]
      show _ ∧ relu (s.table x (Body.entry (s := s) (.reparam (b.getEquivalentKernelBias root).1
        (b.getEquivalentKernelBias root).2) root x)) = y ↔ _
      rw [hentry]
      rfl

end Merged

end TrojanDetection.Zoo.Repvgg
