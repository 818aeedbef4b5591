import TrojanDetection.Zoo.RepVGG
import Mathlib.Data.PNat.Basic
import Mathlib.Algebra.Order.Floor.Semiring
import Mathlib.Data.Rat.Floor

/-!
# RepVGG networks (`pytorch_cifar_models/repvgg.py`)

The constructor threads the number of channels and the index of the layer through four calls of
`_make_stage`. Every network it builds takes exactly the images with three channels and returns one
logit for each class; `convert_to_inference_model` keeps what any network computes, and leads to
the layout that the constructor builds with `deploy=True`.
-/

set_option autoImplicit false

namespace TrojanDetection.Zoo.Repvgg

open TrojanDetection.Library.Convolution
open TrojanDetection.Library.Convolution.FeatureMap
open TrojanDetection.Library.Pipeline
open TrojanDetection.Python
open TrojanDetection.Torch

variable {K : Type} [Field K] [LinearOrder K]

/-! ## Networks -/

/-- `RepVGG`: five stages, the first a single block, and the linear layer. -/
structure RepVGG (K : Type) [Field K] [LinearOrder K] where
  stage0 : RepVGGBlock K
  stage1 : List (RepVGGBlock K)
  stage2 : List (RepVGGBlock K)
  stage3 : List (RepVGGBlock K)
  stage4 : List (RepVGGBlock K)
  linear : Linear K

/-- An `nn.Sequential` of blocks. -/
def stageForward (root : Root K) (blocks : List (RepVGGBlock K)) :
    FeatureMap K → Except PyError (FeatureMap K) :=
  sequence (blocks.map fun block => block.forward root)

namespace RepVGG

/-- `RepVGG.forward`. -/
def forward (model : RepVGG K) (root : Root K) (x : FeatureMap K) : Except PyError (List K) := do
  let out ← model.stage0.forward root x
  let out ← stageForward root model.stage1 out
  let out ← stageForward root model.stage2 out
  let out ← stageForward root model.stage3 out
  let out ← stageForward root model.stage4 out
  let out ← adaptiveAvgPool out
  model.linear.forward (flatten out)

/-- The blocks in the order in which `modules()` yields them. -/
def blocks (model : RepVGG K) : List (RepVGGBlock K) :=
  model.stage0 :: (model.stage1 ++ model.stage2 ++ model.stage3 ++ model.stage4)

/-- The network after the call. With `do_copy` the blocks of a copy are converted, and the copy is
not returned. -/
def convertToInferenceModel (model : RepVGG K) (root : Root K) (doCopy : Bool) : RepVGG K :=
  if doCopy then model
  else
    { model with
      stage0 := model.stage0.switchToDeploy root
      stage1 := model.stage1.map fun block => block.switchToDeploy root
      stage2 := model.stage2.map fun block => block.switchToDeploy root
      stage3 := model.stage3.map fun block => block.switchToDeploy root
      stage4 := model.stage4.map fun block => block.switchToDeploy root }

end RepVGG

/-! ## Construction -/

/-- The positions of `num_blocks` and `width_multiplier`. -/
inductive Stage
  | first
  | second
  | third
  | fourth

/-- The widths before the multipliers. -/
def baseWidth : Stage → ℕ
  | .first => 64
  | .second => 128
  | .third => 256
  | .fourth => 512

/-- The arguments of the constructor, with multipliers that leave every stage at least one channel.
For smaller ones the constructor returns as well, but the network raises on every input. -/
structure Config where
  numBlocks : Stage → ℕ
  numClasses : ℕ
  widthMultiplier : Stage → ℚ
  overrideGroupsMap : ℕ → Option ℕ
  deploy : Bool
  one_le_width : ∀ i, 1 ≤ baseWidth i * widthMultiplier i
  /-- `assert 0 not in self.override_groups_map`. -/
  zero_not_mem : overrideGroupsMap 0 = none

/-- `int(64 * width_multiplier[0])` and so on. -/
def Config.planes (cfg : Config) (i : Stage) : ℕ+ :=
  ⟨⌊baseWidth i * cfg.widthMultiplier i⌋₊, Nat.floor_pos.2 (cfg.one_le_width i)⟩

/-- What the layers are initialised with, by the index of the layer. -/
structure Weights (K : Type) [Field K] [LinearOrder K] where
  branches : ℕ → (s : BlockShape) → Branches K s
  reparam : ℕ → BlockShape → Kernel K × (ℕ → K)
  linearWeight : ℕ → ℕ → K
  linearBias : ℕ → K

/-- The checks that `nn.Conv2d` makes on the channels of a block. -/
def newShape (inChannels outChannels stride : ℕ+) (groups : ℕ) : Except PyError BlockShape :=
  if hpos : 0 < groups then
    if hin : groups ∣ inChannels then
      if hout : groups ∣ outChannels then
        .ok {
          inChannels := inChannels
          outChannels := outChannels
          stride := stride
          groups := groups
          inChannels_pos := inChannels.pos
          outChannels_pos := outChannels.pos
          stride_pos := stride.pos
          groups_pos := hpos
          groups_dvd_in := hin
          groups_dvd_out := hout }
      else .error (.valueError "out_channels must be divisible by groups")
    else .error (.valueError "in_channels must be divisible by groups")
  else .error (.valueError "groups must be a positive integer")

/-- A block as its constructor leaves it. -/
def newBlock (weights : Weights K) (deploy : Bool) (layer : ℕ) (s : BlockShape) : RepVGGBlock K where
  shape := s
  body := if deploy then .reparam (weights.reparam layer s).1 (weights.reparam layer s).2
    else .branches (weights.branches layer s)

/-- The attributes `in_planes` and `cur_layer_idx`. -/
structure Cursor where
  inPlanes : ℕ+
  curLayerIdx : ℕ

/-- The loop of `_make_stage`. -/
def makeBlocks (weights : Weights K) (cfg : Config) (planes : ℕ+) :
    List ℕ+ → Cursor → Except PyError (List (RepVGGBlock K) × Cursor)
  | [], cur => .ok ([], cur)
  | stride :: strides, cur => do
      let curGroups := (cfg.overrideGroupsMap cur.curLayerIdx).getD 1
      let s ← newShape cur.inPlanes planes stride curGroups
      let (blocks, last) ← makeBlocks weights cfg planes strides ⟨planes, cur.curLayerIdx + 1⟩
      .ok (newBlock weights cfg.deploy cur.curLayerIdx s :: blocks, last)

/-- `_make_stage`; `[1]*(num_blocks-1)` is empty for `num_blocks` zero as well as one. -/
def makeStage (weights : Weights K) (cfg : Config) (planes : ℕ+) (numBlocks : ℕ) (stride : ℕ+)
    (cur : Cursor) : Except PyError (List (RepVGGBlock K) × Cursor) :=
  makeBlocks weights cfg planes (stride :: List.replicate (numBlocks - 1) (Nat.toPNat' 1)) cur

/-- `self.linear` as the constructor leaves it. -/
def newLinear (weights : Weights K) (cfg : Config) : Linear K where
  inFeatures := cfg.planes .fourth
  outFeatures := cfg.numClasses
  weight := weights.linearWeight
  bias := weights.linearBias

/-- `RepVGG.__init__`. -/
def RepVGG.init (weights : Weights K) (cfg : Config) : Except PyError (RepVGG K) := do
  let inPlanes := min (Nat.toPNat' 64) (cfg.planes .first)
  let s ← newShape (Nat.toPNat' 3) inPlanes (Nat.toPNat' 1) 1
  let (stage1, cur) ← makeStage weights cfg (cfg.planes .first) (cfg.numBlocks .first)
    (Nat.toPNat' 1) ⟨inPlanes, 1⟩
  let (stage2, cur) ← makeStage weights cfg (cfg.planes .second) (cfg.numBlocks .second)
    (Nat.toPNat' 2) cur
  let (stage3, cur) ← makeStage weights cfg (cfg.planes .third) (cfg.numBlocks .third)
    (Nat.toPNat' 2) cur
  let (stage4, _) ← makeStage weights cfg (cfg.planes .fourth) (cfg.numBlocks .fourth)
    (Nat.toPNat' 2) cur
  .ok {
    stage0 := newBlock weights cfg.deploy 0 s
    stage1 := stage1
    stage2 := stage2
    stage3 := stage3
    stage4 := stage4
    linear := newLinear weights cfg }

/-- The networks that the module exports. -/
inductive Arch
  | a0
  | a1
  | a2

/-- `width_multiplier` of the named architectures. -/
def Arch.widthMultiplier : Arch → Stage → ℚ
  | .a0, .fourth => 5 / 2
  | .a0, _ => 3 / 4
  | .a1, .fourth => 5 / 2
  | .a1, _ => 1
  | .a2, .fourth => 11 / 4
  | .a2, _ => 3 / 2

theorem Arch.one_le_width (arch : Arch) (i : Stage) :
    1 ≤ baseWidth i * arch.widthMultiplier i := by
  cases arch <;> cases i <;> norm_num [baseWidth, Arch.widthMultiplier]

/-- `[2, 4, 14, 1]`. -/
def exportedNumBlocks : Stage → ℕ
  | .first => 2
  | .second => 4
  | .third => 14
  | .fourth => 1

/-- `cifar10_repvgg_a0` and so on; `_repvgg` passes no map of groups. -/
def exported (arch : Arch) (numClasses : ℕ) (deploy : Bool) : Config where
  numBlocks := exportedNumBlocks
  numClasses := numClasses
  widthMultiplier := arch.widthMultiplier
  overrideGroupsMap _ := none
  deploy := deploy
  one_le_width := arch.one_le_width
  zero_not_mem := rfl

/-! ## Every constructed network runs -/

section Construction

variable {weights : Weights K} {cfg : Config} {planes stride : ℕ+} {numBlocks : ℕ}
  {cur last : Cursor} {blocks : List (RepVGGBlock K)}

theorem of_newShape_eq_ok {inChannels outChannels : ℕ+} {groups : ℕ} {s : BlockShape}
    (h : newShape inChannels outChannels stride groups = .ok s) :
    s.inChannels = inChannels ∧ s.outChannels = outChannels := by
  rw [newShape] at h
  split at h
  · split at h
    · split at h
      · cases h
        exact ⟨rfl, rfl⟩
      · cases h
    · cases h
  · cases h

/-- The blocks of a stage fit together, from the channels before it to the channels after it. -/
theorem leads_of_makeBlocks (root : Root K) {strides : List ℕ+}
    (h : makeBlocks weights cfg planes strides cur = .ok (blocks, last)) :
    Leads (fun channels : ℕ+ => WithChannels (K := K) channels) cur.inPlanes
      (blocks.map fun block => block.forward root) last.inPlanes := by
  induction strides generalizing cur blocks with
  | nil =>
      cases h
      exact .nil _
  | cons stride strides ih =>
      rw [makeBlocks] at h
      obtain ⟨s, hs, h⟩ := bind_eq_ok_iff.1 h
      obtain ⟨⟨rest, last'⟩, hrest, h⟩ := bind_eq_ok_iff.1 h
      cases h
      obtain ⟨hin, hout⟩ := of_newShape_eq_ok hs
      have hblock := (newBlock weights cfg.deploy cur.curLayerIdx s).meets root
      refine .cons (b := planes) ?_ (ih hrest)
      rw [← hin, ← hout]
      exact hblock

/-- A stage ends with its own number of planes. -/
theorem inPlanes_of_makeBlocks {strides : List ℕ+}
    (h : makeBlocks weights cfg planes strides cur = .ok (blocks, last))
    (hstart : strides = [] → cur.inPlanes = planes) : last.inPlanes = planes := by
  induction strides generalizing cur blocks with
  | nil =>
      cases h
      exact hstart rfl
  | cons stride strides ih =>
      rw [makeBlocks] at h
      obtain ⟨s, -, h⟩ := bind_eq_ok_iff.1 h
      obtain ⟨⟨rest, last'⟩, hrest, h⟩ := bind_eq_ok_iff.1 h
      cases h
      exact ih hrest fun _ => rfl

theorem meets_of_makeStage (root : Root K)
    (h : makeStage weights cfg planes numBlocks stride cur = .ok (blocks, last)) :
    Meets (WithChannels cur.inPlanes) (stageForward root blocks)
      (WithChannels (K := K) last.inPlanes) ∧ last.inPlanes = planes :=
  ⟨(leads_of_makeBlocks root h).meets, inPlanes_of_makeBlocks h fun hnil => by cases hnil⟩

end Construction

/-- A constructed network runs on an input if and only if it is an image with three channels, and
returns one logit for each class. -/
theorem RepVGG.classifies_of_init {weights : Weights K} {cfg : Config} {model : RepVGG K}
    (h : RepVGG.init weights cfg = .ok model) (root : Root K) :
    Classifies (model.forward root) 3 cfg.numClasses := by
  obtain ⟨s, hs, h⟩ := bind_eq_ok_iff.1 h
  obtain ⟨⟨stage1, cur1⟩, h1, h⟩ := bind_eq_ok_iff.1 h
  obtain ⟨⟨stage2, cur2⟩, h2, h⟩ := bind_eq_ok_iff.1 h
  obtain ⟨⟨stage3, cur3⟩, h3, h⟩ := bind_eq_ok_iff.1 h
  obtain ⟨⟨stage4, cur4⟩, h4, h⟩ := bind_eq_ok_iff.1 h
  cases h
  obtain ⟨hin, hout⟩ : s.inChannels = 3 ∧
      s.outChannels = (min (Nat.toPNat' 64) (cfg.planes .first) : ℕ+) :=
    of_newShape_eq_ok hs
  obtain ⟨hmeets1, -⟩ := meets_of_makeStage root h1
  obtain ⟨hmeets2, -⟩ := meets_of_makeStage root h2
  obtain ⟨hmeets3, -⟩ := meets_of_makeStage root h3
  obtain ⟨hmeets4, hplanes⟩ := meets_of_makeStage root h4
  have hstage0 : Meets (WithChannels 3) ((newBlock weights cfg.deploy 0 s).forward root)
      (WithChannels (K := K) (min (Nat.toPNat' 64) (cfg.planes .first) : ℕ+)) := by
    rw [← hout, ← hin]
    exact (newBlock weights cfg.deploy 0 s).meets root
  have hlast := hmeets4.bind (meets_head (newLinear weights cfg) (congrArg PNat.val hplanes))
  refine classifies_of_meets
    (hstage0.bind (hmeets1.bind (hmeets2.bind (hmeets3.bind hlast)))) ?_
  rintro x ⟨logits, hlogits⟩
  -- the first block raises on every other input
  obtain ⟨out, hfirst, -⟩ := bind_eq_ok_iff.1 hlogits
  obtain ⟨hx, -⟩ := RepVGGBlock.forward_eq_ok_iff.1 hfirst
  rw [← hin]
  exact hx

/-! ## Without a map of groups -/

section NoGroups

variable {weights : Weights K} {cfg : Config}

theorem newShape_one (inChannels outChannels stride : ℕ+) :
    returns (newShape inChannels outChannels stride 1) := by
  rw [newShape, dif_pos Nat.one_pos, dif_pos (one_dvd _), dif_pos (one_dvd _)]
  exact returns_ok _

theorem returns_makeBlocks (hgroups : cfg.overrideGroupsMap = fun _ => none) (planes : ℕ+)
    (strides : List ℕ+) (cur : Cursor) : returns (makeBlocks weights cfg planes strides cur) := by
  induction strides generalizing cur with
  | nil => exact returns_ok _
  | cons stride strides ih =>
      obtain ⟨s, hs⟩ := newShape_one cur.inPlanes planes stride
      obtain ⟨⟨blocks, last⟩, hrest⟩ := ih ⟨planes, cur.curLayerIdx + 1⟩
      refine ⟨_, bind_eq_ok_iff.2 ⟨s, ?_, bind_eq_ok_iff.2 ⟨_, hrest, rfl⟩⟩⟩
      rw [hgroups]
      exact hs

/-- Without a map of groups, as in all networks that are exported, the constructor returns. -/
theorem RepVGG.returns_init (weights : Weights K) (cfg : Config)
    (hgroups : cfg.overrideGroupsMap = fun _ => none) : returns (RepVGG.init weights cfg) := by
  obtain ⟨s, hs⟩ :=
    newShape_one (Nat.toPNat' 3) (min (Nat.toPNat' 64) (cfg.planes .first)) (Nat.toPNat' 1)
  have hstage : ∀ planes numBlocks stride cur,
      returns (makeStage weights cfg planes numBlocks stride cur) :=
    fun planes _ _ cur => returns_makeBlocks hgroups planes _ cur
  obtain ⟨⟨stage1, cur1⟩, h1⟩ :=
    hstage (cfg.planes .first) (cfg.numBlocks .first) (Nat.toPNat' 1)
      ⟨min (Nat.toPNat' 64) (cfg.planes .first), 1⟩
  obtain ⟨⟨stage2, cur2⟩, h2⟩ :=
    hstage (cfg.planes .second) (cfg.numBlocks .second) (Nat.toPNat' 2) cur1
  obtain ⟨⟨stage3, cur3⟩, h3⟩ :=
    hstage (cfg.planes .third) (cfg.numBlocks .third) (Nat.toPNat' 2) cur2
  obtain ⟨⟨stage4, cur4⟩, h4⟩ :=
    hstage (cfg.planes .fourth) (cfg.numBlocks .fourth) (Nat.toPNat' 2) cur3
  exact ⟨_, bind_eq_ok_iff.2 ⟨s, hs, bind_eq_ok_iff.2 ⟨_, h1, bind_eq_ok_iff.2 ⟨_, h2,
    bind_eq_ok_iff.2 ⟨_, h3, bind_eq_ok_iff.2 ⟨_, h4, rfl⟩⟩⟩⟩⟩⟩

end NoGroups

/-- A new normalisation for the identity where the block has one. -/
def newBranches (s : BlockShape) : Branches ℚ s where
  rbrIdentity :=
    if s.outChannels = s.inChannels ∧ s.stride = 1 then some BatchNormState.initial else none
  rbrDense := ⟨0, BatchNormState.initial⟩
  rbrOneByOne := ⟨0, BatchNormState.initial⟩
  identity_iff := Option.isSome_ite

/-- Layers with kernels of zeros. -/
def zeroWeights : Weights ℚ where
  branches _ s := newBranches s
  reparam _ _ := (0, 0)
  linearWeight := 0
  linearBias := 0

theorem classifies_exported : ∃ model,
    RepVGG.init zeroWeights (exported .a0 10 false) = .ok model ∧
      Classifies (model.forward Root.rat) 3 10 := by
  obtain ⟨model, hmodel⟩ := RepVGG.returns_init zeroWeights (exported .a0 10 false) rfl
  exact ⟨model, hmodel, RepVGG.classifies_of_init hmodel Root.rat⟩

/-! ## Conversion -/

section Convert

/-- The block is a single convolution. -/
def RepVGGBlock.deployed (block : RepVGGBlock K) : Bool :=
  match block.body with
  | .branches _ => false
  | .reparam _ _ => true

variable {root : Root K}

theorem deployed_switchToDeploy (block : RepVGGBlock K) :
    (block.switchToDeploy root).deployed = true := by
  obtain ⟨s, body⟩ := block
  cases body <;> rfl

theorem shape_switchToDeploy (block : RepVGGBlock K) :
    (block.switchToDeploy root).shape = block.shape := by
  obtain ⟨s, body⟩ := block
  cases body <;> rfl

theorem switchToDeploy_of_deployed {block : RepVGGBlock K} (h : block.deployed = true) :
    block.switchToDeploy root = block := by
  obtain ⟨s, body⟩ := block
  cases body with
  | branches b => cases h
  | reparam weight bias => rfl

theorem blocks_convertToInferenceModel (model : RepVGG K) :
    (model.convertToInferenceModel root false).blocks =
      model.blocks.map fun block => block.switchToDeploy root := by
  simp [RepVGG.blocks, RepVGG.convertToInferenceModel]

variable [IsStrictOrderedRing K]

theorem agree_stageForward (blocks : List (RepVGGBlock K)) :
    Agree (stageForward root (blocks.map fun block => block.switchToDeploy root))
      (stageForward root blocks) := by
  apply Agree.sequence
  rw [List.map_map, List.forall₂_map_left_iff, List.forall₂_map_right_iff, List.forall₂_same]
  intro block _
  exact block.agree_switchToDeploy root

/-- Conversion keeps what a network computes, whatever its blocks are. Afterwards every block is a
single convolution and a second conversion changes nothing; with `do_copy` the network itself is
left as it was. -/
theorem RepVGG.convertToInferenceModel_spec (model : RepVGG K) (root : Root K) (doCopy : Bool) :
    Agree ((model.convertToInferenceModel root doCopy).forward root) (model.forward root) ∧
      (∀ block ∈ (model.convertToInferenceModel root false).blocks, block.deployed = true) ∧
      ((model.convertToInferenceModel root false).convertToInferenceModel root false =
        model.convertToInferenceModel root false) ∧
      model.convertToInferenceModel root true = model := by
  refine ⟨?_, ?_, ?_, rfl⟩
  · cases doCopy with
    | true => exact Agree.refl _
    | false =>
        exact (model.stage0.agree_switchToDeploy root).bind <|
          (agree_stageForward model.stage1).bind <| (agree_stageForward model.stage2).bind <|
            (agree_stageForward model.stage3).bind <| (agree_stageForward model.stage4).bind <|
              Agree.refl _
  · intro block hblock
    rw [blocks_convertToInferenceModel, List.mem_map] at hblock
    obtain ⟨block, -, rfl⟩ := hblock
    exact deployed_switchToDeploy block
  · have htwice : ∀ blocks : List (RepVGGBlock K),
        (blocks.map fun block => block.switchToDeploy root).map
          (fun block => block.switchToDeploy root) =
          blocks.map fun block => block.switchToDeploy root := by
      intro blocks
      rw [List.map_map]
      apply List.map_congr_left
      intro block _
      exact switchToDeploy_of_deployed (deployed_switchToDeploy block)
    simp only [RepVGG.convertToInferenceModel, Bool.false_eq_true, if_false, htwice,
      switchToDeploy_of_deployed (deployed_switchToDeploy model.stage0)]

end Convert

theorem converted_exported : ∃ model,
    RepVGG.init zeroWeights (exported .a0 10 false) = .ok model ∧
      Agree ((model.convertToInferenceModel Root.rat false).forward Root.rat)
        (model.forward Root.rat) := by
  obtain ⟨model, hmodel⟩ := RepVGG.returns_init zeroWeights (exported .a0 10 false) rfl
  exact ⟨model, hmodel, (model.convertToInferenceModel_spec Root.rat false).1⟩

/-! ## The layout of a converted network -/

section Layout

/-- The shape of a block, and whether it is a single convolution: what decides which parameters it
has. -/
def RepVGGBlock.layout (block : RepVGGBlock K) : BlockShape × Bool := (block.shape, block.deployed)

/-- The arguments with `deploy=True`. -/
def Config.forDeployment (cfg : Config) : Config := { cfg with deploy := true }

variable {weights : Weights K} {cfg : Config} {root : Root K}

theorem layout_switchToDeploy (block : RepVGGBlock K) (weights' : Weights K) (layer : ℕ) :
    (block.switchToDeploy root).layout = (newBlock weights' true layer block.shape).layout :=
  Prod.ext (shape_switchToDeploy block) (deployed_switchToDeploy block)

/-- A stage for deployment has the layout of the converted stage. -/
theorem layout_makeBlocks (root : Root K) (weights' : Weights K) {planes : ℕ+} {strides : List ℕ+}
    {cur last : Cursor} {blocks : List (RepVGGBlock K)}
    (h : makeBlocks weights cfg planes strides cur = .ok (blocks, last)) :
    ∃ blocks', makeBlocks weights' cfg.forDeployment planes strides cur = .ok (blocks', last) ∧
      (blocks.map fun block => block.switchToDeploy root).map RepVGGBlock.layout =
        blocks'.map RepVGGBlock.layout := by
  induction strides generalizing cur blocks with
  | nil =>
      cases h
      exact ⟨[], rfl, rfl⟩
  | cons stride strides ih =>
      rw [makeBlocks] at h
      obtain ⟨s, hs, h⟩ := bind_eq_ok_iff.1 h
      obtain ⟨⟨rest, last'⟩, hrest, h⟩ := bind_eq_ok_iff.1 h
      cases h
      obtain ⟨blocks', hblocks', hlayout⟩ := ih hrest
      refine ⟨newBlock weights' true cur.curLayerIdx s :: blocks',
        bind_eq_ok_iff.2 ⟨s, hs, bind_eq_ok_iff.2 ⟨_, hblocks', rfl⟩⟩, ?_⟩
      rw [List.map_cons, List.map_cons, List.map_cons, hlayout, layout_switchToDeploy _ weights']
      rfl

/-- What the constructor builds, converted, has the layout of what it builds with `deploy=True`, so
that its parameters can be loaded there. -/
theorem RepVGG.layout_convertToInferenceModel (weights' : Weights K) {model : RepVGG K}
    (h : RepVGG.init weights cfg = .ok model) (root : Root K) :
    ∃ model', RepVGG.init weights' cfg.forDeployment = .ok model' ∧
      (model.convertToInferenceModel root false).blocks.map RepVGGBlock.layout =
        model'.blocks.map RepVGGBlock.layout ∧
      model.linear.inFeatures = model'.linear.inFeatures ∧
      model.linear.outFeatures = model'.linear.outFeatures := by
  obtain ⟨s, hs, h⟩ := bind_eq_ok_iff.1 h
  obtain ⟨⟨stage1, cur1⟩, h1, h⟩ := bind_eq_ok_iff.1 h
  obtain ⟨⟨stage2, cur2⟩, h2, h⟩ := bind_eq_ok_iff.1 h
  obtain ⟨⟨stage3, cur3⟩, h3, h⟩ := bind_eq_ok_iff.1 h
  obtain ⟨⟨stage4, cur4⟩, h4, h⟩ := bind_eq_ok_iff.1 h
  cases h
  obtain ⟨stage1', h1', hlayout1⟩ := layout_makeBlocks root weights' h1
  obtain ⟨stage2', h2', hlayout2⟩ := layout_makeBlocks root weights' h2
  obtain ⟨stage3', h3', hlayout3⟩ := layout_makeBlocks root weights' h3
  obtain ⟨stage4', h4', hlayout4⟩ := layout_makeBlocks root weights' h4
  refine ⟨_, bind_eq_ok_iff.2 ⟨s, hs, bind_eq_ok_iff.2 ⟨_, h1', bind_eq_ok_iff.2 ⟨_, h2',
    bind_eq_ok_iff.2 ⟨_, h3', bind_eq_ok_iff.2 ⟨_, h4', rfl⟩⟩⟩⟩⟩, ?_, rfl, rfl⟩
  rw [blocks_convertToInferenceModel]
  simp only [RepVGG.blocks, List.map_cons, List.map_append, hlayout1, hlayout2, hlayout3, hlayout4,
    layout_switchToDeploy _ weights' 0]
  rfl

end Layout

theorem exported_layout : ∃ model model',
    RepVGG.init zeroWeights (exported .a0 10 false) = .ok model ∧
      RepVGG.init zeroWeights (exported .a0 10 true) = .ok model' ∧
      (model.convertToInferenceModel Root.rat false).blocks.map RepVGGBlock.layout =
        model'.blocks.map RepVGGBlock.layout := by
  obtain ⟨model, hmodel⟩ := RepVGG.returns_init zeroWeights (exported .a0 10 false) rfl
  obtain ⟨model', hmodel', hlayout, -⟩ :=
    RepVGG.layout_convertToInferenceModel zeroWeights hmodel Root.rat
  exact ⟨model, model', hmodel, hmodel', hlayout⟩

end TrojanDetection.Zoo.Repvgg
