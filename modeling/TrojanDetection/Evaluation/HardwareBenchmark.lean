import TrojanDetection.Defenses.FeatureLayer
import TrojanDetection.Defenses.Strip
import TrojanDetection.Library.Positions
import TrojanDetection.Library.TextSearch

/-!
# The injected hardware trojan (`benchmark_trojai_hardware.py`, `benchmark_professional_audit`)

The benchmark takes the feature layer of the wrapper, removes `model.` from its name, and adds 20 to
at most 100 weights of the module of the network with the remaining name.

The removal takes out every occurrence of the text, and the layer that the wrapper finds may have no
weights. `injection_hits_found_layer_iff` says for which networks the injection reaches the layer
that was found and changes it.
-/

set_option autoImplicit false

namespace TrojanDetection.Evaluation.HardwareBenchmark

open TrojanDetection.Defenses
open TrojanDetection.Defenses.FeatureLayer
open TrojanDetection.Library
open TrojanDetection.Library.Sampling
open TrojanDetection.Models
open TrojanDetection.Python

/-! ## The injection -/

/-- `module.weight`, which only some modules have. -/
def weight (m : ModuleInfo) : Option WeightTensor :=
  match m.kind with
  | .conv2d tensor => some tensor
  | .adaptiveAvgPool2d => none
  | .avgPool2d => none
  | .maxPool2d => none
  | .other tensor => tensor

/-- `wrapper.feature_layer_name.replace("model.", "")`. -/
def targetLayer (featureLayerName : Path) : Path := TextSearch.remove modelDot featureLayerName

section Injection

-- the addition of the number format of the weights, which may absorb a summand
variable (add : ℚ → ℚ → ℚ)

/-- The weights of a module with 20 added at some positions. -/
def perturbed (order : Shuffle ℕ) (m : ModuleInfo) : Except PyError (List ℚ) :=
  match weight m with
  -- pooling layers have no attribute `weight`
  | none => .error .attributeError
  | some weights => do
      let numToPerturb := min 100 weights.entries.length
      let indices ← randomChoice order weights.entries.length numToPerturb
      if weights.flattens then
        pure (Positions.rewriteAt (fun w => add w 20) indices weights.entries)
      else .error (.runtimeError "view size is not compatible with input tensor's size and stride")

/-- The loop over `wrapper.model.named_modules()`, with the new weights of each module that it
reaches. -/
def inject (order : Shuffle ℕ) (target : Path) (named : NamedModuleInfos) :
    Except PyError (List (ModuleInfo × List ℚ)) :=
  (named.filter fun entry => entry.1 = target).mapM fun entry => do
    let weights ← perturbed add order entry.2
    pure (entry.2, weights)

/-- The weights that the addition leaves as they are. -/
def absorbing (weights : List ℚ) : ℕ := weights.countP fun w => add w 20 = w

/-- Exact addition absorbs nothing. -/
theorem absorbing_exact (weights : List ℚ) : absorbing (· + ·) weights = 0 := by
  rw [absorbing, List.countP_eq_zero]
  intro w _
  simp

/-- The injection, for each draw of the positions, returns and changes a weight of one module, the
only one that it reaches. -/
def ChangesOne (target : Path) (named : NamedModuleInfos) : Prop :=
  ∀ order, ∃ m old new, inject add order target named = .ok [(m, new)] ∧
    weight m = some old ∧ new ≠ old.entries

variable {add}

/-- With one module of the name, the loop perturbs it. -/
theorem inject_of_mem {named : NamedModuleInfos} {target : Path} {m : ModuleInfo}
    (hnodup : (named.map Prod.fst).Nodup) (h : (target, m) ∈ named) (order : Shuffle ℕ) :
    inject add order target named =
      (perturbed add order m >>= fun weights => pure [(m, weights)]) := by
  rw [inject, filter_name_eq hnodup h, List.mapM_cons, List.mapM_nil]
  cases perturbed add order m <;> rfl

/-- A drawn set of positions. -/
def drawn (order : Shuffle ℕ) (weights : List ℚ) : List ℕ :=
  order.sample (min 100 weights.length) (List.range weights.length)

theorem perturbed_eq_ok_iff {order : Shuffle ℕ} {m : ModuleInfo} {new : List ℚ} :
    perturbed add order m = .ok new ↔ ∃ weights, weight m = some weights ∧
      weights.flattens = true ∧
      new = Positions.rewriteAt (fun w => add w 20) (drawn order weights.entries)
        weights.entries := by
  rw [perturbed]
  cases hweight : weight m with
  | none => simp
  | some weights =>
      have hdraw := randomChoice_of_le order (Nat.min_le_right 100 weights.entries.length)
      cases hflat : weights.flattens with
      | false => simp [hdraw, hflat, bind, Except.bind]
      | true =>
          simp only [hdraw, Option.some.injEq, exists_eq_left', hflat, true_and]
          constructor
          · intro h
            cases h
            rfl
          · rintro rfl
            rfl

/-- Every draw changes a weight exactly if too few weights absorb the summand to fill a draw. -/
theorem forall_drawn_changes_iff {weights : List ℚ} :
    (∀ order, Positions.rewriteAt (fun w => add w 20) (drawn order weights) weights ≠ weights) ↔
      absorbing add weights < min 100 weights.length := by
  have hlt : ∀ order, ∀ i ∈ drawn order weights, i < weights.length := by
    intro order i hi
    exact List.mem_range.1 (Shuffle.mem_of_mem_sample hi)
  have hcount : absorbing add weights = (List.range weights.length).countP fun i =>
      (weights.map fun w => decide (add w 20 = w)).getD i false := by
    have hrange := Positions.countP_getD_range (weights.map fun w => decide (add w 20 = w))
    rw [List.length_map, List.countP_map] at hrange
    exact hrange.symm
  have hsize : min 100 weights.length ≤ (List.range weights.length).length := by
    rw [List.length_range]
    exact Nat.min_le_right _ _
  rw [hcount, ← Shuffle.forall_exists_mem_sample_iff hsize]
  apply forall_congr'
  intro order
  exact Positions.rewriteAt_ne_self_iff (hlt order)

theorem changesOne_iff {named : NamedModuleInfos} {target : Path} {m : ModuleInfo}
    (hnodup : (named.map Prod.fst).Nodup) (h : (target, m) ∈ named) :
    ChangesOne add target named ↔ ∃ weights, weight m = some weights ∧
      weights.flattens = true ∧ absorbing add weights.entries < min 100 weights.entries.length := by
  constructor
  · intro hall
    have hone : ∀ order, ∃ weights, weight m = some weights ∧ weights.flattens = true ∧
        Positions.rewriteAt (fun w => add w 20) (drawn order weights.entries) weights.entries ≠
          weights.entries := by
      intro order
      obtain ⟨m', old, new, hinject, hold, hne⟩ := hall order
      rw [inject_of_mem hnodup h] at hinject
      obtain ⟨new', hperturbed, heq⟩ := bind_eq_ok_iff.1 hinject
      cases heq
      obtain ⟨weights, hweight, hflat, rfl⟩ := perturbed_eq_ok_iff.1 hperturbed
      rw [hweight] at hold
      cases hold
      exact ⟨old, hweight, hflat, hne⟩
    -- the weights do not depend on the draw
    obtain ⟨weights, hweight, hflat, -⟩ := hone Shuffle.identity
    refine ⟨weights, hweight, hflat, forall_drawn_changes_iff.1 ?_⟩
    intro order
    obtain ⟨weights', hweight', -, hne⟩ := hone order
    rw [hweight] at hweight'
    cases hweight'
    exact hne
  · rintro ⟨weights, hweight, hflat, hfew⟩ order
    refine ⟨m, weights, _, ?_, hweight, forall_drawn_changes_iff.2 hfew order⟩
    rw [inject_of_mem hnodup h]
    exact bind_eq_ok_iff.2 ⟨_, perturbed_eq_ok_iff.2 ⟨weights, hweight, hflat, rfl⟩, rfl⟩

end Injection

/-! ## The recovered name -/

theorem modelDot_ne_nil : modelDot ≠ [] := by decide

/-- The name of a found layer is recovered exactly if it has no further `model.` in it. -/
theorem targetLayer_eq_iff {model : ModuleTree} {x : Path}
    (hfound : foundLayer model.namedModules = some x) :
    targetLayer (findPenultimateLayer model) = x ↔ ¬ modelDot <:+: x := by
  have hname : findPenultimateLayer model = modelDot ++ x := by
    rw [findPenultimateLayer, hfound]
  rw [targetLayer, hname, TextSearch.remove_append modelDot_ne_nil,
    TextSearch.remove_eq_self_iff modelDot_ne_nil]

/-- The benchmark recovers the layer that was found, as the name of one module, and changes a weight
of it in every run, exactly if the name does not contain `model.` and the module has weights that
can be laid flat, too few of which absorb the summand to fill a draw. -/
theorem injection_hits_found_layer_iff (add : ℚ → ℚ → ℚ) {w : ModelWrapper} {x : Path}
    (hfound : foundLayer w.model.namedModules = some x) :
    (targetLayer (findPenultimateLayer w.model) = x ∧
      w.model.namedModules.countP
        (fun entry => entry.1 = targetLayer (findPenultimateLayer w.model)) = 1 ∧
      ChangesOne add (targetLayer (findPenultimateLayer w.model)) w.model.namedModules) ↔
    ¬ modelDot <:+: x ∧ ∃ m weights, (x, m) ∈ w.model.namedModules ∧
      weight m = some weights ∧ weights.flattens = true ∧
      absorbing add weights.entries < min 100 weights.entries.length := by
  have hnodup := w.model.nodup_names
  rw [← targetLayer_eq_iff hfound]
  apply and_congr_right
  intro htarget
  rw [htarget]
  constructor
  · rintro ⟨-, hchanges⟩
    obtain ⟨-, m, hmem⟩ := foundLayer_eq_some hfound
    obtain ⟨weights, hweights⟩ := (changesOne_iff hnodup hmem).1 hchanges
    exact ⟨m, weights, hmem, hweights⟩
  · rintro ⟨m, weights, hmem, hweights⟩
    refine ⟨?_, (changesOne_iff hnodup hmem).2 ⟨weights, hweights⟩⟩
    rw [List.countP_eq_length_filter, filter_name_eq hnodup hmem]
    rfl

/-! Networks with one convolution inside another module, whose name is the argument. -/

/-- A convolution one level below a module of the given name. -/
def nestedChildren (name : ModuleName) : Forest ModuleName ModuleInfo :=
  .cons name ⟨1, .other none⟩ (.cons featuresName ⟨2, .conv2d ⟨[1, 2], true⟩⟩ .nil .nil) .nil

theorem nestedChildren_shares (name : ModuleName) :
    Forest.Shares ModuleInfo.id
      ((⟨0, .other none⟩, nestedChildren name) :: (nestedChildren name).occurrences) := by
  intro a ha b hb hkey
  simp only [nestedChildren, Forest.occurrences, List.mem_cons, List.append_nil,
    List.not_mem_nil, or_false] at ha hb
  rcases ha with rfl | rfl | rfl <;> rcases hb with rfl | rfl | rfl <;>
    first
      | rfl
      | simp at hkey

theorem nestedChildren_distinct (name : ModuleName) : (nestedChildren name).DistinctLabels :=
  ⟨List.not_mem_nil, ⟨List.not_mem_nil, trivial, trivial⟩, trivial⟩

/-- The network of that module. -/
def nestedNetwork (name : ModuleName) : ModuleTree where
  root := ⟨0, .other none⟩
  children := nestedChildren name
  shares := nestedChildren_shares name
  distinctLabels := nestedChildren_distinct name

theorem nestedNetwork_fresh (name : ModuleName) :
    9 ≠ (nestedNetwork name).root.id ∧ ∀ m ∈ (nestedNetwork name).submodules, 9 ≠ m.id := by
  refine ⟨by simp [nestedNetwork], ?_⟩
  intro m hm
  simp only [nestedNetwork, ModuleTree.submodules, nestedChildren, Forest.occurrences,
    List.append_nil, List.map_cons, List.map_nil, List.mem_cons, List.not_mem_nil,
    or_false] at hm
  rcases hm with rfl | rfl <;> decide

/-- The wrapper around that network. -/
def nestedWrapper (name : ModuleName) : ModelWrapper where
  id := 9
  model := nestedNetwork name
  fresh := nestedNetwork_fresh name

theorem submodel_ne_nil : "submodel".toList ≠ [] := by decide

theorem dot_notMem_submodel : '.' ∉ "submodel".toList := by decide

/-- A name that ends in the name of the wrapper's attribute. -/
def submodelName : ModuleName := ⟨"submodel".toList, submodel_ne_nil, dot_notMem_submodel⟩

theorem nestedWrapper_features_hit :
    foundLayer (nestedWrapper featuresName).model.namedModules =
      some "features.features".toList ∧
    targetLayer (findPenultimateLayer (nestedWrapper featuresName).model) =
      "features.features".toList ∧
    ChangesOne (· + ·) (targetLayer (findPenultimateLayer (nestedWrapper featuresName).model))
      (nestedWrapper featuresName).model.namedModules := by
  have hfound : foundLayer (nestedWrapper featuresName).model.namedModules =
      some "features.features".toList := by
    decide
  have hlayer := (injection_hits_found_layer_iff (· + ·) hfound).2
    ⟨by decide, ⟨2, .conv2d ⟨[1, 2], true⟩⟩, ⟨[1, 2], true⟩, by decide, rfl, rfl,
      by simp [absorbing_exact]⟩
  exact ⟨hfound, hlayer.1, hlayer.2.2⟩

/-- A pooling layer that is found last has no weight to perturb, in any draw. Below a module named
`submodel`, the recovered name is one that no module has, and nothing is perturbed. -/
theorem injection_misses_found_layer :
    (foundLayer poolingWrapper.model.namedModules = some "features.pool".toList ∧
      ∀ add order, inject add order (targetLayer (findPenultimateLayer poolingWrapper.model))
        poolingWrapper.model.namedModules = .error .attributeError) ∧
    (foundLayer (nestedWrapper submodelName).model.namedModules =
        some "submodel.features".toList ∧
      targetLayer (findPenultimateLayer (nestedWrapper submodelName).model) =
        "subfeatures".toList ∧
      ∀ add order, inject add order
        (targetLayer (findPenultimateLayer (nestedWrapper submodelName).model))
        (nestedWrapper submodelName).model.namedModules = .ok []) := by
  have hpool : targetLayer (findPenultimateLayer poolingWrapper.model) =
      "features.pool".toList := by
    decide
  have hmem : ("features.pool".toList, ⟨3, .maxPool2d⟩) ∈
      poolingWrapper.model.namedModules := by
    decide
  have hsub : targetLayer (findPenultimateLayer (nestedWrapper submodelName).model) =
      "subfeatures".toList := by
    decide
  have hnone : ((nestedWrapper submodelName).model.namedModules.filter fun entry =>
      entry.1 = "subfeatures".toList) = [] := by
    decide
  refine ⟨⟨by decide, ?_⟩, by decide, hsub, ?_⟩
  · intro add order
    rw [hpool, inject_of_mem poolingWrapper.model.nodup_names hmem]
    rfl
  · intro add order
    rw [hsub, inject, hnone]
    rfl

end TrojanDetection.Evaluation.HardwareBenchmark
