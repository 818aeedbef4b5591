import TrojanDetection.Library.FreshForest
import TrojanDetection.Models.ModuleTree
import TrojanDetection.Models.ResNetForward
import TrojanDetection.Python.Digits

/-!
# The modules of a ResNet-18

The tree of modules that torchvision's constructor registers, for a network with either stem and
with any head: replacing `conv1`, `maxpool` or `fc` leaves the place of the name. Every module is a
new object, so `named_modules()` is the plain pre-order walk (`kinds_namedModules`). Pooling comes
last before the head (`named_split`).
-/

set_option autoImplicit false

namespace TrojanDetection.Models

open TrojanDetection.Library
open TrojanDetection.Library.Forest
open TrojanDetection.Python

/-! ## Trees of new modules -/

/-- The modules as they are laid out, without identities. -/
abbrev Layout := Forest ModuleName LayerKind

/-- A module below another: its name, what it is, and its own submodules. -/
abbrev Child := ModuleName × LayerKind × Layout

namespace ModuleTree

theorem keys_layout (layout : Layout) :
    (number ModuleInfo.mk 1 layout).keys ModuleInfo.id =
      List.range' 1 layout.occurrences.length :=
  keys_number (fun _ _ => rfl) 1 layout

theorem nodup_keys_layout (layout : Layout) :
    ((number ModuleInfo.mk 1 layout).keys ModuleInfo.id).Nodup := by
  rw [keys_layout]
  exact List.nodup_range'

theorem keys_layout_ne_zero (layout : Layout) :
    ∀ k ∈ (number ModuleInfo.mk 1 layout).keys ModuleInfo.id, k ∉ [0] := by
  intro k hk hzero
  rw [keys_layout, List.mem_range'_1] at hk
  rw [List.mem_singleton] at hzero
  omega

theorem shares_layout (kind : LayerKind) (layout : Layout) :
    Shares ModuleInfo.id (((⟨0, kind⟩ : ModuleInfo), number ModuleInfo.mk 1 layout) ::
      (number ModuleInfo.mk 1 layout).occurrences) := by
  apply shares_of_nodup
  rw [List.map_cons, List.nodup_cons]
  refine ⟨?_, nodup_keys_layout layout⟩
  intro hmem
  exact keys_layout_ne_zero layout 0 hmem (List.mem_singleton.2 rfl)

/-- A network all of whose modules are new. -/
def ofLayout (kind : LayerKind) (layout : Layout) (h : layout.DistinctLabels) : ModuleTree where
  root := ⟨0, kind⟩
  children := number ModuleInfo.mk 1 layout
  shares := shares_layout kind layout
  distinctLabels := distinctLabels_number h 1

/-- The modules of a new network are all places of the layout, in pre-order. -/
theorem kinds_namedModules (kind : LayerKind) {layout : Layout} (h : layout.DistinctLabels) :
    (ofLayout kind layout h).namedModules.map (fun entry => (entry.1, entry.2.kind)) =
      ([], kind) :: layout.walk submodulePrefix [] := by
  have hvisit : visit ModuleInfo.id submodulePrefix [0] [] (number ModuleInfo.mk 1 layout) =
      walk submodulePrefix [] (number ModuleInfo.mk 1 layout) :=
    visit_eq_walk (nodup_keys_layout layout) (keys_layout_ne_zero layout) []
  show ([], kind) :: (visit ModuleInfo.id submodulePrefix [0] []
    (number ModuleInfo.mk 1 layout)).map (fun entry => (entry.1, entry.2.kind)) = _
  rw [hvisit, map_walk_number fun _ _ => rfl]

end ModuleTree

/-! ## Names -/

/-- The attributes that hold modules. -/
inductive Attribute
  | conv1 | bn1 | relu | maxpool | layer1 | layer2 | layer3 | layer4 | avgpool | fc
  | conv2 | bn2 | downsample
  deriving DecidableEq, Repr

namespace Attribute

/-- The text of an attribute. -/
def text : Attribute → Path
  | .conv1 => "conv1".toList
  | .bn1 => "bn1".toList
  | .relu => "relu".toList
  | .maxpool => "maxpool".toList
  | .layer1 => "layer1".toList
  | .layer2 => "layer2".toList
  | .layer3 => "layer3".toList
  | .layer4 => "layer4".toList
  | .avgpool => "avgpool".toList
  | .fc => "fc".toList
  | .conv2 => "conv2".toList
  | .bn2 => "bn2".toList
  | .downsample => "downsample".toList

theorem text_ne_nil (a : Attribute) : a.text ≠ [] := by
  cases a <;> decide

theorem dot_notMem_text (a : Attribute) : '.' ∉ a.text := by
  cases a <;> decide

/-- The attribute as the name of a module. -/
def name (a : Attribute) : ModuleName := ⟨a.text, a.text_ne_nil, a.dot_notMem_text⟩

theorem text_injective : Function.Injective text := by
  intro a b h
  cases a <;> cases b <;> first | rfl | exact absurd h (by decide)

theorem name_injective : Function.Injective name := by
  intro a b h
  exact text_injective (congrArg ModuleName.text h)

end Attribute

theorem dot_notMem_decimal (n : ℕ) : '.' ∉ decimal n := by
  intro hmem
  exact absurd (isDigit_of_mem_decimal hmem) (by decide)

/-- The name of a module of an `nn.Sequential`. -/
def positionName (i : ℕ) : ModuleName := ⟨decimal i, decimal_ne_nil i, dot_notMem_decimal i⟩

theorem positionName_injective : Function.Injective positionName := by
  intro i j h
  exact decimal_injective (congrArg ModuleName.text h)

/-- The submodules of an `nn.Sequential`. -/
def sequentialLayout (modules : List (LayerKind × Layout)) : Layout :=
  ofList (modules.zipIdx.map fun (m, i) => (positionName i, m))

theorem distinctLabels_sequentialLayout {modules : List (LayerKind × Layout)}
    (h : ∀ m ∈ modules, m.2.DistinctLabels) : (sequentialLayout modules).DistinctLabels := by
  apply distinctLabels_ofList
  · have hnames : (modules.zipIdx.map fun (m, i) => ((positionName i, m) : Child)).map Prod.fst =
        (List.range' 0 modules.length).map positionName := by
      rw [← List.zipIdx_map_snd, List.map_map, List.map_map]
      rfl
    rw [hnames]
    exact (List.nodup_range').map positionName_injective
  · intro tree htree
    obtain ⟨⟨m, i⟩, hmem, rfl⟩ := List.mem_map.1 htree
    exact h m (List.fst_mem_of_mem_zipIdx hmem)

/-- Submodules under attributes. -/
def attributes (modules : List (Attribute × LayerKind × Layout)) : List Child :=
  modules.map fun m => (m.1.name, m.2)

theorem distinctLabels_attributes {modules : List (Attribute × LayerKind × Layout)}
    (hnames : (modules.map Prod.fst).Nodup) (h : ∀ m ∈ modules, m.2.2.DistinctLabels) :
    (ofList (attributes modules)).DistinctLabels := by
  apply distinctLabels_ofList
  · rw [attributes, List.map_map]
    have hmap : (Prod.fst ∘ fun m : Attribute × LayerKind × Layout => ((m.1.name, m.2) : Child)) =
        Attribute.name ∘ Prod.fst := rfl
    rw [hmap, ← List.map_map]
    exact hnames.map Attribute.name_injective
  · intro tree htree
    obtain ⟨m, hmem, rfl⟩ := List.mem_map.1 htree
    exact h m hmem

/-! ## The network -/

namespace Network

variable (net : Network ℚ)

/-- The weight of a module; a parameter of a new module can be flattened, and a load copies into
it. -/
def weightTensor (name : String) : WeightTensor := ⟨net.param (name ++ ".weight"), true⟩

/-- A convolution with the weight stored under a name. -/
def convKind (name : String) : LayerKind := .conv2d (net.weightTensor name)

/-- A linear layer or a normalisation. -/
def weightedKind (name : String) : LayerKind := .other (some (net.weightTensor name))

/-- The submodules of a `BasicBlock`. -/
def blockModules (name : String) (downsampled : Bool) : List (Attribute × LayerKind × Layout) :=
  [(.conv1, net.convKind (name ++ ".conv1"), .nil), (.bn1, net.weightedKind (name ++ ".bn1"), .nil),
    (.relu, .other none, .nil), (.conv2, net.convKind (name ++ ".conv2"), .nil),
    (.bn2, net.weightedKind (name ++ ".bn2"), .nil)] ++
  if downsampled then
    [(.downsample, .other none, sequentialLayout [(net.convKind (name ++ ".downsample.0"), .nil),
      (net.weightedKind (name ++ ".downsample.1"), .nil)])]
  else []

/-- The modules inside a block. -/
def blockLayout (name : String) (downsampled : Bool) : Layout :=
  ofList (attributes (net.blockModules name downsampled))

/-- The two blocks of a layer. -/
def stageLayout (name : String) (downsampled : Bool) : Layout :=
  sequentialLayout [(.other none, net.blockLayout (name ++ ".0") downsampled),
    (.other none, net.blockLayout (name ++ ".1") false)]

end Network

/-- What kind of module the pooling of the stem is. -/
def Pool.kind : Pool → LayerKind
  | .identity => .other none
  | .maxPool2d _ _ _ => .maxPool2d

/-- A layer of the head as `isinstance` sees it. -/
def Layer.kind (net : Network ℚ) (name : String) : Layer → LayerKind
  | .linear _ _ => net.weightedKind name
  | .batchNorm1d _ => net.weightedKind name
  | .relu => .other none
  | .dropout _ => .other none

/-- The head with its modules. -/
def Head.modules (net : Network ℚ) : Head → LayerKind × Layout
  | .single layer => (layer.kind net "fc", .nil)
  | .sequential layers =>
      (.other none, sequentialLayout (layers.zipIdx.map fun (layer, i) =>
        (layer.kind net ("fc" ++ "." ++ toString i), .nil)))

namespace Network

variable (net : Network ℚ)

/-- What is registered before `avgpool`. -/
def trunkModules : List (Attribute × LayerKind × Layout) :=
  [(.conv1, net.convKind "conv1", .nil), (.bn1, net.weightedKind "bn1", .nil),
    (.relu, .other none, .nil), (.maxpool, net.arch.maxpool.kind, .nil),
    (.layer1, .other none, net.stageLayout "layer1" false),
    (.layer2, .other none, net.stageLayout "layer2" true),
    (.layer3, .other none, net.stageLayout "layer3" true),
    (.layer4, .other none, net.stageLayout "layer4" true)]

/-- The modules of the network in the order in which the constructor registers them. -/
def modules : List (Attribute × LayerKind × Layout) :=
  net.trunkModules ++ [(.avgpool, .adaptiveAvgPool2d, .nil), (.fc, net.arch.fc.modules net)]

/-- The tree of these modules. -/
def layout : Layout := ofList (attributes net.modules)

theorem distinctLabels_blockLayout (name : String) (downsampled : Bool) :
    (net.blockLayout name downsampled).DistinctLabels := by
  apply distinctLabels_attributes
  · cases downsampled with
    | false =>
        show [Attribute.conv1, .bn1, .relu, .conv2, .bn2].Nodup
        decide
    | true =>
        show [Attribute.conv1, .bn1, .relu, .conv2, .bn2, .downsample].Nodup
        decide
  · intro m hm
    cases downsampled with
    | false =>
        simp only [blockModules, Bool.false_eq_true, if_false, List.append_nil, List.mem_cons,
          List.not_mem_nil, or_false] at hm
        rcases hm with rfl | rfl | rfl | rfl | rfl <;> trivial
    | true =>
        simp only [blockModules, if_true, List.cons_append, List.nil_append, List.mem_cons,
          List.not_mem_nil, or_false] at hm
        rcases hm with rfl | rfl | rfl | rfl | rfl | rfl
        all_goals try trivial
        apply distinctLabels_sequentialLayout
        simp only [List.forall_mem_cons]
        exact ⟨trivial, trivial, List.forall_mem_nil _⟩

theorem distinctLabels_stageLayout (name : String) (downsampled : Bool) :
    (net.stageLayout name downsampled).DistinctLabels := by
  apply distinctLabels_sequentialLayout
  simp only [List.forall_mem_cons]
  exact ⟨net.distinctLabels_blockLayout _ _, net.distinctLabels_blockLayout _ _,
    List.forall_mem_nil _⟩

theorem distinctLabels_head (head : Head) : (head.modules net).2.DistinctLabels := by
  cases head with
  | single layer => trivial
  | sequential layers =>
      apply distinctLabels_sequentialLayout
      intro m hm
      obtain ⟨entry, -, rfl⟩ := List.mem_map.1 hm
      trivial

theorem distinctLabels_layout : net.layout.DistinctLabels := by
  apply distinctLabels_attributes
  · show [Attribute.conv1, .bn1, .relu, .maxpool, .layer1, .layer2, .layer3, .layer4, .avgpool,
      .fc].Nodup
    decide
  · simp only [modules, trunkModules, List.cons_append, List.nil_append, List.forall_mem_cons]
    exact ⟨trivial, trivial, trivial, trivial, net.distinctLabels_stageLayout _ _,
      net.distinctLabels_stageLayout _ _, net.distinctLabels_stageLayout _ _,
      net.distinctLabels_stageLayout _ _, trivial, net.distinctLabels_head _, List.forall_mem_nil _⟩

/-- The network as a tree of modules. -/
def tree : ModuleTree := .ofLayout (.other none) net.layout net.distinctLabels_layout

theorem fresh_wrapper : net.layout.occurrences.length + 1 ≠ net.tree.root.id ∧
    ∀ m ∈ net.tree.submodules, net.layout.occurrences.length + 1 ≠ m.id := by
  refine ⟨Nat.succ_ne_zero _, ?_⟩
  intro m hm
  obtain ⟨place, hplace, rfl⟩ := List.mem_map.1 hm
  have hkey : place.1.id ∈ (number ModuleInfo.mk 1 net.layout).keys ModuleInfo.id :=
    List.mem_map.2 ⟨place, hplace, rfl⟩
  rw [ModuleTree.keys_layout, List.mem_range'_1] at hkey
  omega

/-- `TrojAI_ModelWrapper(net, device)`, a module that is newer than those of the network. -/
def wrapper : ModelWrapper where
  id := net.layout.occurrences.length + 1
  model := net.tree
  fresh := net.fresh_wrapper

/-! ## The order of the modules -/

/-- No module of a head is a convolution or a pooling. -/
theorem kind_of_mem_head {head : Head} {kind : LayerKind} {below : Layout}
    (h : (kind, below) ∈ head.modules net :: (head.modules net).2.occurrences) :
    ∃ weight, kind = .other weight := by
  have hlayer : ∀ (layer : Layer) (name : String), ∃ weight, layer.kind net name = .other weight := by
    intro layer name
    cases layer with
    | linear inFeatures outFeatures => exact ⟨_, rfl⟩
    | batchNorm1d features => exact ⟨_, rfl⟩
    | relu => exact ⟨_, rfl⟩
    | dropout p => exact ⟨_, rfl⟩
  cases head with
  | single layer =>
      simp only [Head.modules, occurrences_nil, List.mem_singleton, Prod.mk.injEq] at h
      rw [h.1]
      exact hlayer layer "fc"
  | sequential layers =>
      rcases List.mem_cons.1 h with heq | hmem
      · exact ⟨none, congrArg Prod.fst heq⟩
      · rw [Head.modules, sequentialLayout, occurrences_ofList, List.mem_flatMap] at hmem
        obtain ⟨tree, htree, hplace⟩ := hmem
        obtain ⟨⟨m, i⟩, hm, rfl⟩ := List.mem_map.1 htree
        obtain ⟨⟨layer, j⟩, -, rfl⟩ := List.mem_map.1 (List.fst_mem_of_mem_zipIdx hm)
        simp only [occurrences_nil, List.mem_singleton, Prod.mk.injEq] at hplace
        rw [hplace.1]
        exact hlayer layer _

/-- After `avgpool` there is only the head. -/
theorem named_split :
    ∃ before after : List (Path × LayerKind),
      net.tree.namedModules.map (fun entry => (entry.1, entry.2.kind)) =
        before ++ (Attribute.avgpool.text, .adaptiveAvgPool2d) :: after ∧
      ∀ entry ∈ after, ∃ weight, entry.2 = .other weight := by
  have hhead : ∀ entry ∈ walk submodulePrefix []
      (ofList (attributes [(.fc, net.arch.fc.modules net)])),
      ∃ weight, entry.2 = LayerKind.other weight := by
    intro entry hentry
    obtain ⟨below, hbelow⟩ := exists_of_mem_walk hentry
    rw [occurrences_ofList, attributes, List.map_cons, List.map_nil, List.flatMap_cons,
      List.flatMap_nil, List.append_nil] at hbelow
    exact net.kind_of_mem_head hbelow
  refine ⟨([], .other none) :: walk submodulePrefix [] (ofList (attributes net.trunkModules)), _,
    ?_, hhead⟩
  rw [tree, ModuleTree.kinds_namedModules, layout, modules, attributes, List.map_append,
    walk_ofList_append, List.cons_append]
  rfl

end Network

end TrojanDetection.Models
