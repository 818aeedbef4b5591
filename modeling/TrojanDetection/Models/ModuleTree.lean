import TrojanDetection.Library.SharedForest
import TrojanDetection.Python.Path
import Mathlib.Data.Rat.Defs

/-!
# Trees of modules

A network is a module with named submodules. `named_modules()` walks it in pre-order and names a
module by the dotted path to it, the network itself by the empty text; a module that is registered
at several places is met once. The names are the paths of labels, written with dots
(`namedModules_eq`), so no two modules have one name (`nodup_names`).

Inside a wrapper the network is the submodule `model`. The modules of the wrapper are the wrapper
and the modules of the network, under names that start there (`namedModules_wrap`).
-/

set_option autoImplicit false

namespace TrojanDetection.Models

open TrojanDetection.Library
open TrojanDetection.Python

/-! ## Names -/

/-- A name under which a submodule can be registered: `add_module` refuses an empty name and one
with a dot. -/
structure ModuleName where
  text : Path
  ne_nil : text ≠ []
  dot_notMem : '.' ∉ text
  deriving DecidableEq

/-- `prefix + ('.' if prefix else '') + name`. -/
def submodulePrefix (here : Path) (name : ModuleName) : Path :=
  here ++ (if here = [] then [] else ['.']) ++ name.text

/-- The name of the module at the end of a path from a module named `here`. -/
def qualify (here : Path) (path : List ModuleName) : Path := path.foldl submodulePrefix here

@[simp] theorem qualify_nil (here : Path) : qualify here [] = here := rfl

@[simp] theorem qualify_cons (here : Path) (name : ModuleName) (path : List ModuleName) :
    qualify here (name :: path) = qualify (submodulePrefix here name) path := rfl

theorem qualify_snoc (here : Path) (path : List ModuleName) (name : ModuleName) :
    qualify here (Forest.snoc path name) = submodulePrefix (qualify here path) name := by
  rw [Forest.snoc, qualify, qualify, List.foldl_append, List.foldl_cons, List.foldl_nil]

theorem submodulePrefix_nil (name : ModuleName) : submodulePrefix [] name = name.text := rfl

theorem submodulePrefix_of_ne_nil {here : Path} (h : here ≠ []) (name : ModuleName) :
    submodulePrefix here name = here ++ '.' :: name.text := by
  rw [submodulePrefix, if_neg h, List.append_assoc, List.singleton_append]

/-- What stands before a name that is not empty stays before all names below it. -/
theorem qualify_append (a : Path) {b : Path} (hb : b ≠ []) (path : List ModuleName) :
    qualify (a ++ b) path = a ++ qualify b path := by
  induction path generalizing b with
  | nil => rfl
  | cons name path ih =>
      have hab : a ++ b ≠ [] := List.append_ne_nil_of_right_ne_nil a hb
      rw [qualify_cons, qualify_cons, submodulePrefix_of_ne_nil hab,
        submodulePrefix_of_ne_nil hb, List.append_assoc]
      apply ih
      exact List.append_ne_nil_of_left_ne_nil hb _

/-- The names below a named module are the names from there on, after a dot. -/
theorem qualify_cons_of_ne_nil {here : Path} (h : here ≠ []) (name : ModuleName)
    (path : List ModuleName) :
    qualify here (name :: path) = here ++ '.' :: qualify [] (name :: path) := by
  have hdot : here ++ '.' :: name.text = (here ++ ['.']) ++ name.text := by
    rw [List.append_assoc, List.singleton_append]
  rw [qualify_cons, qualify_cons, submodulePrefix_of_ne_nil h, submodulePrefix_nil, hdot,
    qualify_append _ name.ne_nil, List.append_assoc, List.singleton_append]

/-- A name is the labels of its path with dots between them. -/
theorem qualify_eq_intercalate (path : List ModuleName) :
    qualify [] path = List.intercalate ['.'] (path.map ModuleName.text) := by
  cases path with
  | nil => rfl
  | cons name path =>
      rw [qualify_cons, submodulePrefix_nil]
      induction path generalizing name with
      | nil => simp [List.intercalate]
      | cons next path ih =>
          rw [qualify_cons_of_ne_nil name.ne_nil, qualify_cons, submodulePrefix_nil, ih]
          simp only [List.map_cons, List.intercalate_cons_cons, List.append_assoc,
            List.singleton_append]

theorem qualify_eq_nil_iff {path : List ModuleName} : qualify [] path = [] ↔ path = [] := by
  cases path with
  | nil => simp
  | cons name path =>
      have hne : qualify name.text path ≠ [] := by
        intro hnil
        cases path with
        | nil => exact name.ne_nil hnil
        | cons next path =>
            rw [qualify_cons_of_ne_nil name.ne_nil] at hnil
            simp at hnil
      simpa [submodulePrefix_nil] using hne

/-- Labels have no dots, so a name has one path. -/
theorem qualify_injective : Function.Injective (qualify []) := by
  intro path path' h
  rcases eq_or_ne path [] with rfl | hne
  · exact (qualify_eq_nil_iff.1 h.symm).symm
  · have hne' : path' ≠ [] := by
      rintro rfl
      exact hne (qualify_eq_nil_iff.1 h)
    have hdots : ∀ names : List ModuleName, ∀ text ∈ names.map ModuleName.text, '.' ∉ text := by
      intro names text htext
      obtain ⟨name, -, rfl⟩ := List.mem_map.1 htext
      exact name.dot_notMem
    have hsplit := congrArg (List.splitOn '.') h
    rw [qualify_eq_intercalate, qualify_eq_intercalate,
      List.splitOn_intercalate _ (hdots path) (by simpa using hne),
      List.splitOn_intercalate _ (hdots path') (by simpa using hne')] at hsplit
    apply List.map_injective_iff.2 _ hsplit
    rintro ⟨text, _, _⟩ ⟨text', _, _⟩ rfl
    rfl

/-! ## Trees -/

/-- The `weight` of a module: its entries in row-major order, and whether `view(-1)` can lay them
out as one axis without a copy. -/
structure WeightTensor where
  entries : List ℚ
  flattens : Bool
  deriving DecidableEq

/-- A module as `isinstance` with the layer types of the source sees it, with its `weight` if it has
one. -/
inductive LayerKind
  | conv2d (weight : WeightTensor)
  | adaptiveAvgPool2d
  | avgPool2d
  | maxPool2d
  | other (weight : Option WeightTensor)
  deriving DecidableEq

/-- A module object. -/
structure ModuleInfo where
  id : ℕ
  kind : LayerKind
  deriving DecidableEq

/-- A network. An object that is registered twice is one module with its submodules, and the
submodules of a module have distinct names. -/
structure ModuleTree where
  root : ModuleInfo
  children : Forest ModuleName ModuleInfo
  shares : Forest.Shares ModuleInfo.id ((root, children) :: children.occurrences)
  distinctLabels : children.DistinctLabels

/-- `named_modules()`: names with modules. -/
abbrev NamedModuleInfos := List (Path × ModuleInfo)

namespace ModuleTree

/-- `tree.named_modules()`. -/
def namedModules (tree : ModuleTree) : NamedModuleInfos :=
  ([], tree.root) ::
    Forest.visit ModuleInfo.id submodulePrefix [tree.root.id] [] tree.children

/-- The modules below the network itself. -/
def submodules (tree : ModuleTree) : List ModuleInfo := tree.children.occurrences.map Prod.fst

/-- The modules with the paths to them. -/
def paths (tree : ModuleTree) : List (List ModuleName × ModuleInfo) :=
  ([], tree.root) :: Forest.visit ModuleInfo.id Forest.snoc [tree.root.id] [] tree.children

/-- Names are the paths, written with dots. -/
theorem namedModules_eq (tree : ModuleTree) :
    tree.namedModules = tree.paths.map fun entry => (qualify [] entry.1, entry.2) := by
  have hvisit : Forest.visit ModuleInfo.id submodulePrefix [tree.root.id] (qualify [] [])
      tree.children = _ :=
    Forest.visit_map (qualify []) (qualify_snoc []) tree.children [tree.root.id] []
  rw [namedModules, paths, List.map_cons, ← hvisit]
  rfl

theorem nodup_paths (tree : ModuleTree) : (tree.paths.map Prod.fst).Nodup := by
  rw [paths, List.map_cons, List.nodup_cons]
  refine ⟨?_, Forest.nodup_paths tree.distinctLabels _ _⟩
  -- only the network itself has the empty path
  intro hmem
  obtain ⟨entry, hentry, hnil⟩ := List.mem_map.1 hmem
  obtain ⟨label, -, tail, hpath⟩ := Forest.path_of_mem_visit hentry
  rw [hnil] at hpath
  simp at hpath

/-- No two modules have one name. -/
theorem nodup_names (tree : ModuleTree) : (tree.namedModules.map Prod.fst).Nodup := by
  have hnames : tree.namedModules.map Prod.fst = (tree.paths.map Prod.fst).map (qualify []) := by
    rw [namedModules_eq, List.map_map, List.map_map]
    rfl
  rw [hnames]
  exact tree.nodup_paths.map qualify_injective

/-- The network itself comes first. -/
theorem before_eq_nil {tree : ModuleTree} {before after : NamedModuleInfos} {m : ModuleInfo}
    (h : tree.namedModules = before ++ ([], m) :: after) : before = [] := by
  by_contra hne
  have hnodup := tree.nodup_names
  have hhead : tree.namedModules.head? = some ([], tree.root) := rfl
  rw [h, List.head?_append_of_ne_nil _ hne] at hhead
  rw [h, List.map_append, List.map_cons] at hnodup
  exact (List.nodup_append.1 hnodup).2.2 []
    (List.mem_map.2 ⟨_, List.mem_of_head? hhead, rfl⟩) [] List.mem_cons_self rfl

/-- Every module is named. -/
theorem exists_mem_namedModules {tree : ModuleTree} {m : ModuleInfo} (h : m ∈ tree.submodules) :
    ∃ name, name ≠ [] ∧ (name, m) ∈ tree.namedModules := by
  obtain ⟨place, hplace, rfl⟩ := List.mem_map.1 h
  have hvisited : ∃ entry ∈ Forest.visit ModuleInfo.id Forest.snoc [tree.root.id] [] tree.children,
      entry.2 = place.1 :=
    Forest.exists_mem_visit tree.shares [] hplace
  obtain ⟨entry, hentry, heq⟩ := hvisited
  obtain ⟨label, -, tail, hpath⟩ := Forest.path_of_mem_visit hentry
  refine ⟨qualify [] entry.1, ?_, ?_⟩
  · rw [Ne, qualify_eq_nil_iff, hpath]
    simp
  · rw [namedModules_eq, ← heq]
    exact List.mem_map.2 ⟨entry, List.mem_cons_of_mem _ hentry, rfl⟩

end ModuleTree

/-! ## Wrappers -/

theorem model_ne_nil : "model".toList ≠ [] := by decide

theorem dot_notMem_model : '.' ∉ "model".toList := by decide

/-- The attribute that holds the network. -/
def modelName : ModuleName := ⟨"model".toList, model_ne_nil, dot_notMem_model⟩

/-- `TrojAI_ModelWrapper`: a new module whose only submodule is the network. -/
structure ModelWrapper where
  id : ℕ
  model : ModuleTree
  fresh : id ≠ model.root.id ∧ ∀ m ∈ model.submodules, id ≠ m.id

namespace ModelWrapper

/-- The wrapper as a module; it has no `weight`. -/
def self (w : ModelWrapper) : ModuleInfo := ⟨w.id, .other none⟩

/-- The submodules of the wrapper. -/
def children (w : ModelWrapper) : Forest ModuleName ModuleInfo :=
  .cons modelName w.model.root w.model.children .nil

theorem id_ne_of_mem (w : ModelWrapper) {place : ModuleInfo × Forest ModuleName ModuleInfo}
    (h : place ∈ (w.model.root, w.model.children) :: w.model.children.occurrences) :
    w.id ≠ place.1.id := by
  rcases List.mem_cons.1 h with rfl | h
  · exact w.fresh.1
  · exact w.fresh.2 _ (List.mem_map_of_mem h)

theorem shares_children (w : ModelWrapper) :
    Forest.Shares ModuleInfo.id ((w.self, w.children) :: w.children.occurrences) := by
  have hplaces : w.children.occurrences =
      (w.model.root, w.model.children) :: w.model.children.occurrences := by
    simp [children]
  rw [hplaces]
  intro a ha b hb hkey
  rcases List.mem_cons.1 ha with rfl | ha
  · rcases List.mem_cons.1 hb with rfl | hb
    · rfl
    · exact absurd hkey (w.id_ne_of_mem hb)
  · rcases List.mem_cons.1 hb with rfl | hb
    · exact absurd hkey.symm (w.id_ne_of_mem ha)
    · exact w.model.shares a ha b hb hkey

theorem distinctLabels_children (w : ModelWrapper) : w.children.DistinctLabels :=
  ⟨List.not_mem_nil, w.model.distinctLabels, trivial⟩

/-- The wrapper is a network as well. -/
def tree (w : ModelWrapper) : ModuleTree where
  root := w.self
  children := w.children
  shares := w.shares_children
  distinctLabels := w.distinctLabels_children

/-- The name that a module of the network has in the wrapper. -/
def wrappedName (name : Path) : Path :=
  if name = [] then modelName.text else modelName.text ++ '.' :: name

theorem wrappedName_qualify (path : List ModuleName) :
    wrappedName (qualify [] path) = qualify modelName.text path := by
  cases path with
  | nil => rfl
  | cons name path =>
      have hne : qualify [] (name :: path) ≠ [] := by
        rw [Ne, qualify_eq_nil_iff]
        simp
      rw [wrappedName, if_neg hne, qualify_cons_of_ne_nil modelName.ne_nil]

/-- The modules of the wrapper: itself, and those of the network under their wrapped names. -/
theorem namedModules_wrap (w : ModelWrapper) :
    w.tree.namedModules = ([], w.self) ::
      w.model.namedModules.map fun entry => (wrappedName entry.1, entry.2) := by
  have hroot : w.model.root.id ∉ [w.id] := by
    intro hmem
    exact w.fresh.1 (List.mem_singleton.1 hmem).symm
  -- the wrapper has been met, but is no module of the network
  have hseen : Forest.visit ModuleInfo.id submodulePrefix [w.model.root.id, w.id]
      modelName.text w.model.children =
      Forest.visit ModuleInfo.id submodulePrefix [w.model.root.id] modelName.text
        w.model.children := by
    apply Forest.visit_congr
    intro place hplace
    have hne := w.id_ne_of_mem (List.mem_cons_of_mem _ hplace)
    simp [hne.symm]
  have hnames : Forest.visit ModuleInfo.id submodulePrefix [w.model.root.id]
      (qualify modelName.text []) w.model.children = _ :=
    Forest.visit_map (qualify modelName.text) (qualify_snoc modelName.text) w.model.children
      [w.model.root.id] []
  have hvisit : w.tree.namedModules = ([], w.self) :: (modelName.text, w.model.root) ::
      Forest.visit ModuleInfo.id submodulePrefix [w.model.root.id, w.id] modelName.text
        w.model.children := by
    show ([], w.self) :: Forest.visit ModuleInfo.id submodulePrefix [w.id] [] w.children = _
    rw [children, Forest.visit_cons_of_not_mem hroot, submodulePrefix_nil, Forest.visit_nil,
      List.append_nil]
  rw [hvisit, hseen, ModuleTree.namedModules_eq, List.map_map, ModuleTree.paths, List.map_cons]
  congr 2
  rw [← qualify_nil modelName.text, hnames]
  apply List.map_congr_left
  intro entry _
  simp only [Function.comp_apply, wrappedName_qualify]

end ModelWrapper

end TrojanDetection.Models
