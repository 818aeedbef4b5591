import TrojanDetection.Defenses.FeatureLayer
import TrojanDetection.Models.ResNetModules
import TrojanDetection.Service.Loader

/-!
# The network that is scanned (`celery_worker.py`, `run_model_scan_task`)

What the stages after loading work with, when the upload is a dictionary of tensors. The parts of
every network that the loader hands over fit together (`connected_of_loadModel`), so it classifies
images with three channels, with one logit for each row of the last weight of the upload
(`loaded_network_classifies`). Its feature layer is `model.avgpool` (`findPenultimateLayer_tree`).
-/

set_option autoImplicit false

namespace TrojanDetection.Service.Loader

open TrojanDetection.Defenses.FeatureLayer
open TrojanDetection.Library
open TrojanDetection.Models
open TrojanDetection.Python
open TrojanDetection.Torch (Classifies Root)

variable {α : Type}

/-! ## Architectures -/

theorem between_withStem (model : ResNet18) (stem : Stem) :
    (withStem model stem).conv1.Between 3 64 := by
  cases stem with
  | small => exact ⟨rfl, rfl, by decide, by decide, Nat.one_pos, rfl⟩
  | standard => exact ⟨rfl, rfl, by decide, by decide, Nat.two_pos, rfl⟩

theorem accepts_withStem (model : ResNet18) (stem : Stem) :
    (withStem model stem).maxpool.Accepts := by
  cases stem with
  | small => trivial
  | standard => exact ⟨Nat.two_pos, rfl⟩

theorem takes_deepHead (numClasses : ℕ) (dropoutRate : ℚ) :
    (deepHead 512 numClasses dropoutRate).Takes 512 :=
  ⟨rfl, rfl, trivial, trivial, rfl, rfl, trivial, trivial, rfl, trivial⟩

theorem takes_headFor (sd : StateDict α) (numClasses : ℕ) :
    (headFor sd numClasses).fc.Takes 512 := by
  rw [headFor]
  split
  · exact takes_deepHead numClasses _
  · split
    · exact rfl
    · exact takes_deepHead 10 _

theorem fc_withStem (model : ResNet18) (stem : Stem) : (withStem model stem).fc = model.fc := by
  cases stem <;> rfl

theorem connected_of_loadModel {init : Init α} {checkpoint : Checkpoint α} {net : Network α}
    (h : loadModel init checkpoint = .ok net) : net.arch.Connected := by
  obtain ⟨-, arch, harch, -, rfl⟩ := loadModel_eq_ok_iff.1 h
  obtain ⟨stem, numClasses, rfl⟩ := adaptArchitecture_eq_ok harch
  refine ⟨between_withStem _ stem, accepts_withStem _ stem, ?_⟩
  show (withStem (headFor checkpoint.tensors numClasses) stem).fc.Takes 512
  rw [fc_withStem]
  exact takes_headFor checkpoint.tensors numClasses

/-! ## Classes -/

/-- The classes are the rows of the last weight of the dictionary, with the deeper head or with the
single layer; there are ten if it has neither. -/
structure HasClasses (sd : StateDict α) (numClasses : ℕ) : Prop where
  deep : ∀ w, sd.lookup "fc.8.weight" = some w → w.shape = [numClasses, 256]
  plain : sd.lookup "fc.8.weight" = none →
    ∀ w, sd.lookup "fc.weight" = some w → w.shape = [numClasses, 512]
  guessed : sd.lookup "fc.8.weight" = none → sd.lookup "fc.weight" = none → numClasses = 10

theorem outputs_withStem (model : ResNet18) (stem : Stem) :
    (withStem model stem).outputs = model.outputs := by
  rw [ResNet18.outputs_eq, ResNet18.outputs_eq, fc_withStem]

theorem hasClasses_of_fits {sd : StateDict α} {numClasses : ℕ}
    (h : Fits (headFor sd numClasses).bodySpecs sd) :
    HasClasses sd (headFor sd numClasses).outputs := by
  refine ⟨?_, ?_, ?_⟩
  · intro w hdeep
    rw [headFor_deep hdeep] at h ⊢
    exact h _ _ w (deepHead_mem numClasses) hdeep
  · intro hdeep w hplain
    rw [headFor_plain hdeep hplain] at h ⊢
    exact h _ _ w (plainHead_mem numClasses) hplain
  · intro hdeep hplain
    rw [headFor_default hdeep hplain]
    rfl

theorem hasClasses_of_loadModel {init : Init α} {checkpoint : Checkpoint α} {net : Network α}
    (h : loadModel init checkpoint = .ok net) :
    HasClasses checkpoint.tensors net.arch.outputs := by
  obtain ⟨-, arch, harch, hfits, rfl⟩ := loadModel_eq_ok_iff.1 h
  obtain ⟨stem, numClasses, rfl⟩ := adaptArchitecture_eq_ok harch
  show HasClasses checkpoint.tensors (withStem (headFor checkpoint.tensors numClasses) stem).outputs
  rw [outputs_withStem]
  exact hasClasses_of_fits (fits_withStem_iff.1 hfits).2

/-! ## Running -/

section Field

variable {K : Type} [Field K] [LinearOrder K]

/-- Loading keeps running variances from being negative. -/
theorem variancesNonneg_copyFrom {init : Init K} {arch : ResNet18} {sd : StateDict K}
    (hinit : ∀ name shape, ∀ v ∈ (init name shape).1.data, 0 ≤ v)
    (hsd : ∀ name t, sd.lookup (name ++ ".running_var") = some t → ∀ v ∈ t.data, 0 ≤ v) :
    ((Network.fresh init arch).copyFrom sd).VariancesNonneg := by
  intro name v hv
  rw [Network.param] at hv
  cases hlookup : ((Network.fresh init arch).copyFrom sd).params.lookup
      (name ++ ".running_var") with
  | none =>
      rw [hlookup] at hv
      cases hv
  | some t =>
      rw [hlookup] at hv
      obtain ⟨before, after, hsplit, -⟩ := List.lookup_eq_some_iff.1 hlookup
      have hmem : (name ++ ".running_var", t) ∈ ((Network.fresh init arch).copyFrom sd).params := by
        rw [hsplit]
        simp
      obtain ⟨p, hp, heq⟩ := List.mem_map.1 hmem
      obtain ⟨spec, -, rfl⟩ := List.mem_map.1 hp
      obtain ⟨hname, rfl⟩ := Prod.mk.inj heq
      change v ∈ (loadedValue sd spec.1 (init spec.1 spec.2).1).data at hv
      rw [loadedValue] at hv
      split at hv
      · next t' ht' =>
          split at hv
          · exact hsd name t' (hname ▸ ht') v hv
          · exact hinit _ _ v hv
      · exact hinit _ _ v hv

variable [IsStrictOrderedRing K]

/-- Every network that the loader hands over runs on exactly the images with three channels, and
returns one logit for each class of the upload. -/
theorem loaded_network_classifies {init : Init K} {checkpoint : Checkpoint K} {net : Network K}
    (h : loadModel init checkpoint = .ok net) (hvariances : net.VariancesNonneg) (root : Root K) :
    Classifies (RunnableNetwork.forward ⟨net, hvariances⟩ root) 3 net.arch.outputs ∧
      HasClasses checkpoint.tensors net.arch.outputs :=
  ⟨RunnableNetwork.classifies (connected_of_loadModel h) root, hasClasses_of_loadModel h⟩

end Field

/-! A last layer for five classes, saved alone. -/

/-- A checkpoint with the weight of the last layer only. -/
def lastLayerCheckpoint : StateDict ℚ where
  entries := [("fc.weight", constantTensor 1 [5, 512])]
  nodup := List.nodup_singleton _

/-- The values of the network before the load. -/
def onesInit : Init ℚ := fun _ shape => ⟨constantTensor 1 shape, rfl⟩

theorem nonneg_of_mem_constantTensor {shape : Shape} {v : ℚ} (h : v ∈ (constantTensor 1 shape).data) :
    0 ≤ v := by
  rw [List.eq_of_mem_replicate h]
  exact zero_le_one

theorem loadModel_lastLayer : loadModel onesInit (.bare lastLayerCheckpoint) =
    .ok ((Network.fresh onesInit (plainResnet18 5)).copyFrom lastLayerCheckpoint) := by
  have hmistaken : ¬ Mistaken (.bare lastLayerCheckpoint) := by
    rw [mistaken_bare_iff]
    decide
  refine loadModel_eq_ok_iff.2 ⟨hmistaken, plainResnet18 5, rfl, ?_, rfl⟩
  intro name shape t hmem hlookup
  have hentry : (name, t) ∈ lastLayerCheckpoint.entries :=
    (lastLayerCheckpoint.lookup_eq_some_iff).1 hlookup
  obtain ⟨rfl, rfl⟩ := Prod.mk.inj (List.mem_singleton.1 hentry)
  -- the name stands for one shape
  have hnodup : ((plainResnet18 5).paramSpecs.map Prod.fst).Nodup := by
    have hnames := plainResnet18_paramNames 5
    rw [ResNet18.paramNames] at hnames
    rw [hnames]
    exact nodup_plainNames
  have hspec := List.inj_on_of_nodup_map hnodup hmem
    (List.mem_append_right _ (plainHead_mem 5)) rfl
  exact (congrArg Prod.snd hspec).symm

theorem variancesNonneg_lastLayer : ((Network.fresh onesInit (plainResnet18 5)).copyFrom
    lastLayerCheckpoint).VariancesNonneg := by
  refine variancesNonneg_copyFrom (fun _ _ v hv => nonneg_of_mem_constantTensor hv) ?_
  intro name t ht v hv
  have hentry := List.mem_singleton.1 ((lastLayerCheckpoint.lookup_eq_some_iff).1 ht)
  rw [(Prod.mk.inj hentry).2] at hv
  exact nonneg_of_mem_constantTensor hv

theorem lastLayer_classifies :
    Classifies (RunnableNetwork.forward
      ⟨(Network.fresh onesInit (plainResnet18 5)).copyFrom lastLayerCheckpoint,
        variancesNonneg_lastLayer⟩ Root.rat) 3 5 :=
  (loaded_network_classifies loadModel_lastLayer variancesNonneg_lastLayer Root.rat).1

/-! ## The feature layer -/

section FeatureLayer

/-- The loop remembers a target that only other modules follow. -/
theorem lastFoundName_of_split {named : NamedModuleInfos} {before after : List (Path × LayerKind)}
    {name : Path} {kind : LayerKind}
    (hsplit : named.map (fun entry => (entry.1, entry.2.kind)) = before ++ (name, kind) :: after)
    (htarget : ∀ id, isTarget ⟨id, kind⟩ = true)
    (hafter : ∀ entry ∈ after, ∃ weight, entry.2 = .other weight) :
    lastFoundName named = some name ∧ ∃ m, (name, m) ∈ named ∧ m.kind = kind := by
  obtain ⟨named₁, rest, rfl, -, hrest⟩ := List.map_eq_append_iff.1 hsplit
  obtain ⟨⟨name', m⟩, named₂, rfl, hentry, hnamed₂⟩ := List.map_eq_cons_iff.1 hrest
  obtain ⟨rfl, rfl⟩ : name' = name ∧ m.kind = kind := Prod.mk.inj hentry
  have hothers : (named₂.filter fun entry => isTarget entry.2) = [] := by
    rw [List.filter_eq_nil_iff]
    intro entry hmem
    have hin : (entry.1, entry.2.kind) ∈ after := by
      rw [← hnamed₂]
      exact List.mem_map.2 ⟨entry, hmem, rfl⟩
    obtain ⟨weight, hweight⟩ : ∃ weight, entry.2.kind = .other weight := hafter _ hin
    rw [isTarget, hweight]
    exact Bool.false_ne_true
  refine ⟨?_, m, ?_, rfl⟩
  · have hm : ((name', m) :: named₂).filter (fun entry => isTarget entry.2) = [(name', m)] := by
      rw [List.filter_cons, if_pos (htarget m.id), hothers]
    rw [lastFoundName_eq, List.filter_append, hm, List.getLast?_append]
    rfl
  · exact List.mem_append_right _ List.mem_cons_self

/-- In every ResNet-18 the last pooling layer is found, by its own name. -/
theorem findPenultimateLayer_tree (net : Network ℚ) :
    findPenultimateLayer net.tree = modelDot ++ Attribute.avgpool.text ∧
      ∃ m, (Attribute.avgpool.text, m) ∈ net.tree.namedModules ∧ m.kind = .adaptiveAvgPool2d := by
  obtain ⟨before, after, hsplit, hafter⟩ := net.named_split
  obtain ⟨hlast, hmem⟩ := lastFoundName_of_split hsplit (fun _ => rfl) hafter
  refine ⟨?_, hmem⟩
  rw [findPenultimateLayer, foundLayer, hlast]
  rfl

end FeatureLayer

end TrojanDetection.Service.Loader
