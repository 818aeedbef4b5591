import TrojanDetection.Models.ModuleTree

/-!
# The feature layer of a wrapped network (`trojai_model_wrapper.py`; `defenses.py`, constructors of
`ActivationClustering` and `SpectralSignatures`)

The wrapper looks for the last convolution or pooling layer of its network, then for a module with a
well-known name, and falls back on the network itself. The name it returns is that of a module as
the wrapper names it, with `model.` in front of the name inside the network. The detectors built on
the wrapper search the wrapper for that name and hook the module they find.

Whatever the network is, they find one (`featureLayer_hookable`).
-/

set_option autoImplicit false

namespace TrojanDetection.Defenses.FeatureLayer

open TrojanDetection.Library
open TrojanDetection.Models
open TrojanDetection.Python

/-! ## The search -/

/-- `isinstance(module, target_types)`. -/
def isTarget (m : ModuleInfo) : Bool :=
  match m.kind with
  | .conv2d _ => true
  | .adaptiveAvgPool2d => true
  | .avgPool2d => true
  | .maxPool2d => true
  | .other _ => false

/-- The loop that remembers the name of the last module of a target type. -/
def lastFoundName (named : NamedModuleInfos) : Option Path :=
  named.foldl (fun last entry => if isTarget entry.2 then some entry.1 else last) none

/-- The names of standard feature layers. -/
def candidates : List Path :=
  ["avgpool".toList, "features.norm5".toList, "features.11".toList, "layer4.1.conv2".toList]

/-- The first module whose name contains a candidate, candidate by candidate. -/
def fallbackName (named : NamedModuleInfos) : Option Path :=
  candidates.findSome? fun cand =>
    (named.find? fun entry => contains entry.1 cand).map Prod.fst

/-- The layer that is found, by its name inside the network. -/
def foundLayer (named : NamedModuleInfos) : Option Path :=
  match lastFoundName named with
  | some (c :: name) => some (c :: name)
  -- `if last_found_name:` fails for no name and for the empty one
  | _ => fallbackName named

/-- What a name below the attribute `model` starts with. -/
def modelDot : Path := "model.".toList

/-- `_find_penultimate_layer`. -/
def findPenultimateLayer (model : ModuleTree) : Path :=
  match foundLayer model.namedModules with
  | some name => modelDot ++ name
  | none => modelName.text

/-- The loop keeps the last entry of a target type. -/
theorem lastFoundName_eq (named : NamedModuleInfos) :
    lastFoundName named = (named.filter fun entry => isTarget entry.2).getLast?.map Prod.fst := by
  induction named using List.reverseRecOn with
  | nil => rfl
  | append_singleton named entry ih =>
      rw [lastFoundName, List.foldl_append, List.foldl_cons, List.foldl_nil, List.filter_append]
      cases hentry : isTarget entry.2 with
      | true => simp [hentry]
      | false =>
          simp only [Bool.false_eq_true, if_false, List.filter_cons, hentry, List.filter_nil,
            List.append_nil]
          exact ih

/-- The remembered name is that of an entry after which no other is of a target type. -/
theorem lastFoundName_eq_some {named : NamedModuleInfos} {name : Path}
    (h : lastFoundName named = some name) :
    ∃ before m after, named = before ++ (name, m) :: after ∧ isTarget m = true ∧
      ∀ entry ∈ after, isTarget entry.2 = false := by
  rw [lastFoundName_eq, List.getLast?_filter, Option.map_eq_some_iff] at h
  obtain ⟨⟨name, m⟩, hfind, rfl⟩ := h
  obtain ⟨htarget, after, before, hsplit, hafter⟩ := List.find?_eq_some_iff_append.1 hfind
  refine ⟨before.reverse, m, after.reverse, ?_, htarget, ?_⟩
  · rw [← List.reverse_reverse named, hsplit]
    simp
  · intro entry hentry
    simpa using hafter entry (List.mem_reverse.1 hentry)

/-- A target makes the loop remember a name. -/
theorem lastFoundName_ne_none {named : NamedModuleInfos} {entry : Path × ModuleInfo}
    (h : entry ∈ named) (htarget : isTarget entry.2 = true) : lastFoundName named ≠ none := by
  intro hnone
  rw [lastFoundName_eq, Option.map_eq_none_iff, List.getLast?_eq_none_iff,
    List.filter_eq_nil_iff] at hnone
  exact hnone entry h htarget

/-- The fallback finds a module with a name. -/
theorem fallbackName_eq_some {named : NamedModuleInfos} {name : Path}
    (h : fallbackName named = some name) : name ≠ [] ∧ ∃ m, (name, m) ∈ named := by
  obtain ⟨cand, hcand, h⟩ := List.exists_of_findSome?_eq_some h
  obtain ⟨⟨name, m⟩, hfind, rfl⟩ := Option.map_eq_some_iff.1 h
  refine ⟨?_, m, List.mem_of_find?_eq_some hfind⟩
  rintro rfl
  -- no candidate is empty
  have hcontains : contains [] cand = true := by
    simpa using List.find?_some hfind
  have hinfix := contains_iff.1 hcontains
  rw [List.infix_nil] at hinfix
  subst hinfix
  revert hcand
  decide

/-- What is found is a module other than the network itself. -/
theorem foundLayer_eq_some {named : NamedModuleInfos} {name : Path}
    (h : foundLayer named = some name) : name ≠ [] ∧ ∃ m, (name, m) ∈ named := by
  rw [foundLayer] at h
  split at h
  · next c rest hlast =>
      cases h
      obtain ⟨before, m, after, hsplit, -, -⟩ := lastFoundName_eq_some hlast
      refine ⟨List.cons_ne_nil c rest, m, ?_⟩
      rw [hsplit]
      simp
  · exact fallbackName_eq_some h

/-! ## Hooks -/

/-- A model as the detectors are given it: only a wrapper has the attribute. -/
structure HookableModel where
  tree : ModuleTree
  featureLayerName : Option Path

/-- A wrapped network. -/
def wrapped (w : ModelWrapper) : HookableModel where
  tree := w.tree
  featureLayerName := some (findPenultimateLayer w.model)

/-- The loop over the modules: the first one with the name gets a hook, and the loop ends. -/
def registerHook (featureLayerName : Path) : NamedModuleInfos → List ModuleInfo
  | [] => []
  | (name, m) :: named =>
      if name = featureLayerName then [m] else registerHook featureLayerName named

/-- The modules that the constructor of a detector hooks. The attribute of the model overrides the
argument. -/
def hookedModules (model : HookableModel) (featureLayerName : Path) : List ModuleInfo :=
  registerHook (model.featureLayerName.getD featureLayerName) model.tree.namedModules

/-- `ActivationClustering.__init__`. -/
def ActivationClustering.hooks (model : HookableModel) (featureLayerName : Path) :
    List ModuleInfo :=
  hookedModules model featureLayerName

/-- `SpectralSignatures.__init__`, where the argument may be left out. -/
def SpectralSignatures.hooks (model : HookableModel) (featureLayerName : Option Path) :
    List ModuleInfo :=
  hookedModules model (featureLayerName.getD "avgpool".toList)

theorem registerHook_eq (name : Path) (named : NamedModuleInfos) :
    registerHook name named =
      ((named.filter fun entry => entry.1 = name).take 1).map Prod.snd := by
  induction named with
  | nil => rfl
  | cons entry named ih =>
      by_cases hname : entry.1 = name
      · simp [registerHook, hname]
      · simp [registerHook, hname, ih]

/-- Where names are distinct, a name selects one module. -/
theorem filter_name_eq {named : NamedModuleInfos} {name : Path} {m : ModuleInfo}
    (hnodup : (named.map Prod.fst).Nodup) (h : (name, m) ∈ named) :
    (named.filter fun entry => entry.1 = name) = [(name, m)] := by
  induction named with
  | nil => simp at h
  | cons entry named ih =>
      rw [List.map_cons, List.nodup_cons] at hnodup
      rcases List.mem_cons.1 h with rfl | hmem
      · have hrest : (named.filter fun entry => entry.1 = name) = [] := by
          rw [List.filter_eq_nil_iff]
          intro other hother
          rw [decide_eq_true_iff]
          rintro rfl
          exact hnodup.1 (List.mem_map.2 ⟨other, hother, rfl⟩)
        rw [List.filter_cons_of_pos (by simp), hrest]
      · have hne : entry.1 ≠ name := by
          rintro rfl
          exact hnodup.1 (List.mem_map.2 ⟨_, hmem, rfl⟩)
        rw [List.filter_cons_of_neg (by simpa using hne)]
        exact ih hnodup.2 hmem

theorem modelDot_append {name : Path} (h : name ≠ []) :
    modelDot ++ name = ModelWrapper.wrappedName name := by
  rw [ModelWrapper.wrappedName, if_neg h]
  rfl

/-- A layer of the network is hooked under its wrapped name. -/
theorem hookedModules_of_mem {w : ModelWrapper} {name : Path} {m : ModuleInfo}
    (h : (name, m) ∈ w.model.namedModules)
    (hname : findPenultimateLayer w.model = ModelWrapper.wrappedName name) (default : Path) :
    hookedModules (wrapped w) default = [m] := by
  have hmem : (findPenultimateLayer w.model, m) ∈ w.tree.namedModules := by
    rw [w.namedModules_wrap, hname]
    exact List.mem_cons_of_mem _ (List.mem_map.2 ⟨(name, m), h, rfl⟩)
  show registerHook (findPenultimateLayer w.model) w.tree.namedModules = [m]
  rw [registerHook_eq, filter_name_eq w.tree.nodup_names hmem]
  rfl

/-- The name that is returned is the wrapped name of a module of the network. -/
theorem exists_findPenultimateLayer_eq (w : ModelWrapper) :
    ∃ name m, (name, m) ∈ w.model.namedModules ∧
      findPenultimateLayer w.model = ModelWrapper.wrappedName name := by
  rw [findPenultimateLayer]
  cases hfound : foundLayer w.model.namedModules with
  | none => exact ⟨[], w.model.root, List.mem_cons_self, rfl⟩
  | some name =>
      obtain ⟨hne, m, hmem⟩ := foundLayer_eq_some hfound
      exact ⟨name, m, hmem, modelDot_append hne⟩

/-- With a convolution or pooling layer below the network itself, the last one is found. -/
theorem foundLayer_of_target {model : ModuleTree} {m : ModuleInfo} (h : m ∈ model.submodules)
    (htarget : isTarget m = true) :
    ∃ before name last after, model.namedModules = before ++ (name, last) :: after ∧
      isTarget last = true ∧ (∀ entry ∈ after, isTarget entry.2 = false) ∧ name ≠ [] ∧
      foundLayer model.namedModules = some name := by
  obtain ⟨own, hown, hmem⟩ := ModuleTree.exists_mem_namedModules h
  obtain ⟨name, hlast⟩ := Option.ne_none_iff_exists'.1 (lastFoundName_ne_none hmem htarget)
  obtain ⟨before, last, after, hsplit, hlastTarget, hafter⟩ := lastFoundName_eq_some hlast
  have hne : name ≠ [] := by
    rintro rfl
    -- only the network itself has the empty name, and a target comes after it
    rw [hsplit, ModuleTree.before_eq_nil hsplit, List.nil_append] at hmem
    rcases List.mem_cons.1 hmem with heq | hin
    · exact hown (congrArg Prod.fst heq)
    · rw [hafter _ hin] at htarget
      cases htarget
  refine ⟨before, name, last, after, hsplit, hlastTarget, hafter, hne, ?_⟩
  obtain ⟨c, rest, rfl⟩ := List.exists_cons_of_ne_nil hne
  rw [foundLayer, hlast]

/-- Every wrapped network has the returned layer, both detectors hook exactly one module, and that
is the last convolution or pooling layer if there is one below the network itself. -/
theorem featureLayer_hookable (w : ModelWrapper) (default : Path) (spectral : Option Path) :
    findPenultimateLayer w.model ∈ w.tree.namedModules.map Prod.fst ∧
    (ActivationClustering.hooks (wrapped w) default).length = 1 ∧
    (SpectralSignatures.hooks (wrapped w) spectral).length = 1 ∧
    ((∃ m ∈ w.model.submodules, isTarget m = true) →
      ∃ before name last after, w.model.namedModules = before ++ (name, last) :: after ∧
        isTarget last = true ∧ (∀ entry ∈ after, isTarget entry.2 = false) ∧ name ≠ [] ∧
        findPenultimateLayer w.model = modelDot ++ name ∧
        ActivationClustering.hooks (wrapped w) default = [last] ∧
        SpectralSignatures.hooks (wrapped w) spectral = [last]) := by
  obtain ⟨name, m, hmem, hname⟩ := exists_findPenultimateLayer_eq w
  have hhooked := hookedModules_of_mem hmem hname
  refine ⟨?_, congrArg List.length (hhooked _), congrArg List.length (hhooked _), ?_⟩
  · rw [w.namedModules_wrap, hname, List.map_cons, List.map_map]
    exact List.mem_cons_of_mem _ (List.mem_map.2 ⟨(name, m), hmem, rfl⟩)
  · rintro ⟨target, htarget, hkind⟩
    obtain ⟨before, name, last, after, hsplit, hlast, hafter, hne, hfound⟩ :=
      foundLayer_of_target htarget hkind
    have hlayer : findPenultimateLayer w.model = modelDot ++ name := by
      rw [findPenultimateLayer, hfound]
    have hin : (name, last) ∈ w.model.namedModules := by
      rw [hsplit]
      simp
    have hhooked := hookedModules_of_mem hin (hlayer.trans (modelDot_append hne))
    exact ⟨before, name, last, after, hsplit, hlast, hafter, hne, hlayer, hhooked _, hhooked _⟩

/-! A network whose last pooling layer is registered under two names. -/

theorem features_ne_nil : "features".toList ≠ [] := by decide

theorem dot_notMem_features : '.' ∉ "features".toList := by decide

theorem pool_ne_nil : "pool".toList ≠ [] := by decide

theorem dot_notMem_pool : '.' ∉ "pool".toList := by decide

/-- The name of a child that holds the convolution. -/
def featuresName : ModuleName := ⟨"features".toList, features_ne_nil, dot_notMem_features⟩

/-- The name under which the pooling layer is registered. -/
def poolName : ModuleName := ⟨"pool".toList, pool_ne_nil, dot_notMem_pool⟩

/-- One pooling layer registered twice, inside `features` and next to it. -/
def poolingChildren : Forest ModuleName ModuleInfo :=
  .cons featuresName ⟨1, .other none⟩
    (.cons featuresName ⟨2, .conv2d ⟨[1, 2], true⟩⟩ .nil (.cons poolName ⟨3, .maxPool2d⟩ .nil .nil))
    (.cons poolName ⟨3, .maxPool2d⟩ .nil .nil)

theorem poolingChildren_shares :
    Forest.Shares ModuleInfo.id
      ((⟨0, .other none⟩, poolingChildren) :: poolingChildren.occurrences) := by
  decide +kernel

theorem poolingChildren_distinct : poolingChildren.DistinctLabels := by decide

/-- A network whose pooling layer has two names. -/
def poolingNetwork : ModuleTree where
  root := ⟨0, .other none⟩
  children := poolingChildren
  shares := poolingChildren_shares
  distinctLabels := poolingChildren_distinct

theorem poolingNetwork_fresh :
    9 ≠ poolingNetwork.root.id ∧ ∀ m ∈ poolingNetwork.submodules, 9 ≠ m.id := by
  decide

/-- The wrapper around that network. -/
def poolingWrapper : ModelWrapper where
  id := 9
  model := poolingNetwork
  fresh := poolingNetwork_fresh

theorem poolingWrapper_hookable :
    (∃ m ∈ poolingWrapper.model.submodules, isTarget m = true) ∧
    findPenultimateLayer poolingWrapper.model = "model.features.pool".toList ∧
    ∃ before name last after, poolingWrapper.model.namedModules = before ++ (name, last) :: after ∧
      isTarget last = true ∧ (∀ entry ∈ after, isTarget entry.2 = false) ∧ name ≠ [] ∧
      findPenultimateLayer poolingWrapper.model = modelDot ++ name ∧
      ActivationClustering.hooks (wrapped poolingWrapper) [] = [last] ∧
      SpectralSignatures.hooks (wrapped poolingWrapper) none = [last] := by
  have htarget : ∃ m ∈ poolingWrapper.model.submodules, isTarget m = true := by
    decide
  refine ⟨htarget, by decide, ?_⟩
  exact (featureLayer_hookable poolingWrapper [] none).2.2.2 htarget

end TrojanDetection.Defenses.FeatureLayer
