import TrojanDetection.Library.Dict
import Mathlib.Data.Rat.Defs
import Mathlib.Data.List.Basic

/-!
# ResNet-18 networks (`models.py`, `get_resnet18`)

The part of a network that checkpoints are matched against: its stem, its pooling, its
classification head, and the names and shapes of its parameters and buffers. The backbone between
stem and head is torchvision's `resnet18`. With either head the names are distinct
(`nodup_deepNames`, `nodup_plainNames`).
-/

set_option autoImplicit false

namespace TrojanDetection.Models

open TrojanDetection.Library

/-- A tensor shape. -/
abbrev Shape := List ℕ

/-- The number of positions of a shape. -/
def Shape.numel (shape : Shape) : ℕ := shape.foldr (· * ·) 1

/-- A bias-free convolution with square kernel. -/
structure Conv2d where
  inChannels : ℕ
  outChannels : ℕ
  kernelSize : ℕ
  stride : ℕ
  padding : ℕ
  deriving DecidableEq, Repr

/-- The pooling after the stem. -/
inductive Pool
  | identity
  | maxPool2d (kernelSize stride padding : ℕ)
  deriving DecidableEq, Repr

/-- The layers of classification heads. -/
inductive Layer
  | linear (inFeatures outFeatures : ℕ)
  | batchNorm1d (features : ℕ)
  | relu
  | dropout (p : ℚ)
  deriving DecidableEq, Repr

/-- `fc` is one layer, or a `Sequential` of layers. -/
inductive Head
  | single (layer : Layer)
  | sequential (layers : List Layer)
  deriving DecidableEq, Repr

/-- The parts of the network that the loaders exchange. -/
structure ResNet18 where
  conv1 : Conv2d
  maxpool : Pool
  fc : Head
  deriving DecidableEq, Repr

/-- `torchvision.models.resnet18(weights=None)`. -/
def torchvisionResnet18 : ResNet18 where
  conv1 := ⟨3, 64, 7, 2, 3⟩
  maxpool := .maxPool2d 3 2 1
  fc := .single (.linear 512 1000)

/-- The nine modules of the deeper head. -/
def deepHead (inFeatures numClasses : ℕ) (dropoutRate : ℚ) : Head :=
  .sequential [
    .linear inFeatures 512,
    .batchNorm1d 512,
    .relu,
    .dropout dropoutRate,
    .linear 512 256,
    .batchNorm1d 256,
    .relu,
    .dropout (dropoutRate / 2),
    .linear 256 numClasses]

/-- ResNet-18 adapted for 32x32 inputs. -/
def getResnet18 (numClasses : ℕ) (dropoutRate : ℚ := 3 / 10) : ResNet18 :=
  { torchvisionResnet18 with
    conv1 := ⟨3, 64, 3, 1, 1⟩
    maxpool := .identity
    fc := deepHead 512 numClasses dropoutRate }

/-! ## Outputs -/

/-- The width after a layer, for a given width before it. -/
def Layer.outputs (inputs : ℕ) : Layer → ℕ
  | .linear _ outFeatures => outFeatures
  | _ => inputs

/-- The number of classes a network scores; its backbone has 512 features. -/
def ResNet18.outputs (net : ResNet18) : ℕ :=
  match net.fc with
  | .single layer => layer.outputs 512
  | .sequential layers => layers.foldl Layer.outputs 512

/-! ## Parameter names and shapes -/

/-- The entries of a batch normalisation layer. -/
def batchNormSpecs (name : String) (features : ℕ) : List (String × Shape) := [
  (name ++ ".weight", [features]),
  (name ++ ".bias", [features]),
  (name ++ ".running_mean", [features]),
  (name ++ ".running_var", [features]),
  (name ++ ".num_batches_tracked", [])]

/-- The entries of a layer of the head. -/
def Layer.specs (name : String) : Layer → List (String × Shape)
  | .linear inFeatures outFeatures =>
      [(name ++ ".weight", [outFeatures, inFeatures]), (name ++ ".bias", [outFeatures])]
  | .batchNorm1d features => batchNormSpecs name features
  | .relu => []
  | .dropout _ => []

/-- The entries of a `Sequential`, whose modules are named by position. -/
def sequentialSpecs (name : String) (layers : List Layer) : List (String × Shape) :=
  layers.zipIdx.flatMap fun (layer, i) => layer.specs (name ++ "." ++ toString i)

/-- The entries of the head. -/
def Head.specs : Head → List (String × Shape)
  | .single layer => layer.specs "fc"
  | .sequential layers => sequentialSpecs "fc" layers

/-- The entry of a convolution without a bias. -/
def convSpec (name : String) (inChannels outChannels kernelSize : ℕ) : List (String × Shape) :=
  [(name ++ ".weight", [outChannels, inChannels, kernelSize, kernelSize])]

/-- A basic block; the first block of the later stages has a downsampling branch. -/
def basicBlockSpecs (name : String) (inChannels outChannels : ℕ) : List (String × Shape) :=
  convSpec (name ++ ".conv1") inChannels outChannels 3 ++
    batchNormSpecs (name ++ ".bn1") outChannels ++
    convSpec (name ++ ".conv2") outChannels outChannels 3 ++
    batchNormSpecs (name ++ ".bn2") outChannels ++
    (if inChannels = outChannels then []
      else
        convSpec (name ++ ".downsample.0") inChannels outChannels 1 ++
          batchNormSpecs (name ++ ".downsample.1") outChannels)

/-- A stage of two basic blocks. -/
def stageSpecs (name : String) (inChannels outChannels : ℕ) : List (String × Shape) :=
  basicBlockSpecs (name ++ ".0") inChannels outChannels ++
    basicBlockSpecs (name ++ ".1") outChannels outChannels

/-- The four stages between stem and head. -/
def backboneSpecs : List (String × Shape) :=
  stageSpecs "layer1" 64 64 ++ stageSpecs "layer2" 64 128 ++ stageSpecs "layer3" 128 256 ++
    stageSpecs "layer4" 256 512

/-- The entries after the first convolution. -/
def ResNet18.bodySpecs (net : ResNet18) : List (String × Shape) :=
  batchNormSpecs "bn1" 64 ++ backboneSpecs ++ net.fc.specs

/-- The names and shapes of the `state_dict` of a network. -/
def ResNet18.paramSpecs (net : ResNet18) : List (String × Shape) :=
  convSpec "conv1" net.conv1.inChannels net.conv1.outChannels net.conv1.kernelSize ++
    net.bodySpecs

/-- The names of the parameters and buffers of a network. -/
def ResNet18.paramNames (net : ResNet18) : List String := net.paramSpecs.map Prod.fst

/-- The names depend on the head alone. -/
theorem ResNet18.paramNames_congr {net net' : ResNet18}
    (h : net.fc.specs.map Prod.fst = net'.fc.specs.map Prod.fst) :
    net.paramNames = net'.paramNames := by
  rw [paramNames, paramSpecs, bodySpecs]
  simp only [List.map_append, h]
  rfl

theorem getResnet18_paramNames (numClasses : ℕ) :
    (getResnet18 numClasses).paramNames = (getResnet18 10).paramNames :=
  ResNet18.paramNames_congr rfl

/-! ## Distinct names -/

/-- The entries of a linear layer. -/
def linearSuffixes : List String := [".weight", ".bias"]

/-- The entries of a batch normalisation. -/
def batchNormSuffixes : List String :=
  [".weight", ".bias", ".running_mean", ".running_var", ".num_batches_tracked"]

/-- The groups of names of a basic block without a downsampling branch. -/
def blockGroups : List (String × List String) :=
  [(".conv1", [".weight"]), (".bn1", batchNormSuffixes), (".conv2", [".weight"]),
    (".bn2", batchNormSuffixes)]

/-- The groups of names of a downsampling branch. -/
def downsampleGroups : List (String × List String) :=
  [(".downsample.0", [".weight"]), (".downsample.1", batchNormSuffixes)]

/-- The groups of names of a stage; `first` are those of its first block. -/
def stageGroups (name : String) (first : List (String × List String)) :
    List (String × List String) :=
  [(name ++ ".0", groupedKeys first), (name ++ ".1", groupedKeys blockGroups)]

/-- The groups of names before the head. -/
def trunkGroups : List (String × List String) :=
  [("conv1", [".weight"]), ("bn1", batchNormSuffixes)] ++
    stageGroups "layer1" blockGroups ++
    stageGroups "layer2" (blockGroups ++ downsampleGroups) ++
    stageGroups "layer3" (blockGroups ++ downsampleGroups) ++
    stageGroups "layer4" (blockGroups ++ downsampleGroups)

/-- The entries of the deep head, layer by layer. -/
def deepHeadGroups : List (String × List String) :=
  [("fc.0", linearSuffixes), ("fc.1", batchNormSuffixes), ("fc.4", linearSuffixes),
    ("fc.5", batchNormSuffixes), ("fc.8", linearSuffixes)]

/-- The entries of the plain head. -/
def plainHeadGroups : List (String × List String) := [("fc", linearSuffixes)]

theorem getResnet18_paramNames_eq :
    (getResnet18 10).paramNames = groupedKeys (trunkGroups ++ deepHeadGroups) := by
  decide +kernel

theorem torchvisionResnet18_paramNames_eq :
    torchvisionResnet18.paramNames = groupedKeys (trunkGroups ++ plainHeadGroups) := by
  decide +kernel

theorem nodup_batchNormSuffixes : batchNormSuffixes.Nodup := by decide

theorem nodup_linearSuffixes : linearSuffixes.Nodup := by decide

theorem nodup_downBlockNames : (groupedKeys (blockGroups ++ downsampleGroups)).Nodup := by
  apply nodup_groupedKeys
  · decide +kernel
  · simp only [blockGroups, downsampleGroups, List.cons_append, List.nil_append,
      List.forall_mem_cons, List.nodup_singleton, nodup_batchNormSuffixes, true_and]
    exact List.forall_mem_nil _

theorem nodup_blockNames : (groupedKeys blockGroups).Nodup := by
  have h := nodup_downBlockNames
  rw [groupedKeys, List.flatMap_append] at h
  exact h.of_append_left

theorem nodup_of_mem_trunkGroups : ∀ g ∈ trunkGroups, g.2.Nodup := by
  simp only [trunkGroups, stageGroups, List.cons_append, List.nil_append, List.forall_mem_cons,
    List.nodup_singleton, nodup_batchNormSuffixes, nodup_blockNames, nodup_downBlockNames, true_and]
  exact List.forall_mem_nil _

/-- The names of a network are distinct if the head's prefixes are apart from all others. -/
theorem nodup_trunk_append {head : List (String × List String)}
    (hapart : (trunkGroups ++ head).Pairwise fun g g' => Apart g.1 g'.1)
    (hhead : ∀ g ∈ head, g.2.Nodup) : (groupedKeys (trunkGroups ++ head)).Nodup := by
  apply nodup_groupedKeys hapart
  rw [List.forall_mem_append]
  exact ⟨nodup_of_mem_trunkGroups, hhead⟩

theorem nodup_deepNames : (getResnet18 10).paramNames.Nodup := by
  rw [getResnet18_paramNames_eq]
  apply nodup_trunk_append
  · decide +kernel
  · simp only [deepHeadGroups, List.forall_mem_cons, nodup_linearSuffixes,
      nodup_batchNormSuffixes, true_and]
    exact List.forall_mem_nil _

theorem nodup_plainNames : torchvisionResnet18.paramNames.Nodup := by
  rw [torchvisionResnet18_paramNames_eq]
  apply nodup_trunk_append
  · decide +kernel
  · simp only [plainHeadGroups, List.forall_mem_cons, nodup_linearSuffixes, true_and]
    exact List.forall_mem_nil _

/-! ## Letters of the names -/

theorem f_not_mem_weightSuffix : ∀ name ∈ [".weight"], 'f' ∉ name.toList := by decide

theorem f_not_mem_batchNormSuffixes : ∀ name ∈ batchNormSuffixes, 'f' ∉ name.toList := by decide

theorem f_not_mem_downBlockNames :
    ∀ name ∈ groupedKeys (blockGroups ++ downsampleGroups), 'f' ∉ name.toList := by
  apply not_mem_of_mem_groupedKeys
  · decide
  · decide

theorem f_not_mem_blockNames : ∀ name ∈ groupedKeys blockGroups, 'f' ∉ name.toList := by
  intro name hname
  apply f_not_mem_downBlockNames
  rw [groupedKeys, List.flatMap_append]
  exact List.mem_append_left _ hname

/-- Only names of the head have an `f`. -/
theorem f_not_mem_trunkNames : ∀ name ∈ groupedKeys trunkGroups, 'f' ∉ name.toList := by
  apply not_mem_of_mem_groupedKeys
  · decide
  · intro g hg
    simp only [trunkGroups, stageGroups, List.cons_append, List.nil_append, List.mem_cons,
      List.not_mem_nil, or_false] at hg
    rcases hg with rfl | rfl | rfl | rfl | rfl | rfl | rfl | rfl | rfl | rfl
    · exact f_not_mem_weightSuffix
    · exact f_not_mem_batchNormSuffixes
    · exact f_not_mem_blockNames
    · exact f_not_mem_blockNames
    · exact f_not_mem_downBlockNames
    · exact f_not_mem_blockNames
    · exact f_not_mem_downBlockNames
    · exact f_not_mem_blockNames
    · exact f_not_mem_downBlockNames
    · exact f_not_mem_blockNames

/-- The names of the deeper head, written out. -/
def deepHeadNames : List String :=
  ["fc.0.weight", "fc.0.bias", "fc.1.weight", "fc.1.bias", "fc.1.running_mean",
    "fc.1.running_var", "fc.1.num_batches_tracked", "fc.4.weight", "fc.4.bias", "fc.5.weight",
    "fc.5.bias", "fc.5.running_mean", "fc.5.running_var", "fc.5.num_batches_tracked",
    "fc.8.weight", "fc.8.bias"]

theorem groupedKeys_deepHeadGroups : groupedKeys deepHeadGroups = deepHeadNames := by
  decide +kernel

theorem mem_paramNames_of_deepHead {name : String} (hname : name ∈ deepHeadNames) :
    name ∈ (getResnet18 10).paramNames := by
  rw [← groupedKeys_deepHeadGroups] at hname
  rw [getResnet18_paramNames_eq, groupedKeys, List.flatMap_append]
  exact List.mem_append_right _ hname

/-- A name with an `f` in a network with the deeper head is one of the head. -/
theorem mem_deepHeadNames {name : String} (hname : name ∈ (getResnet18 10).paramNames)
    (hf : 'f' ∈ name.toList) : name ∈ deepHeadNames := by
  rw [getResnet18_paramNames_eq, groupedKeys, List.flatMap_append, List.mem_append] at hname
  rcases hname with htrunk | hhead
  · exact absurd hf (f_not_mem_trunkNames name htrunk)
  · exact groupedKeys_deepHeadGroups ▸ hhead

end TrojanDetection.Models
