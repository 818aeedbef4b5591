import TrojanDetection.Models.StateDict

/-!
# Loading a checkpoint (`celery_worker.py`, `run_model_scan_task`)

The loading stage unwraps the checkpoint, guesses a network from the names and shapes in it, loads
it strictly, retries a failed load without strictness, and hands the network to
`TrojAI_ModelWrapper`.
-/

set_option autoImplicit false

namespace TrojanDetection.Service.Loader

open TrojanDetection.Library
open TrojanDetection.Models
open TrojanDetection.Python

variable {α : Type}

/-- The dictionaries `torch.load` returns: tensors by name, or an outer dictionary with such a one
under `state_dict`. -/
inductive Checkpoint (α : Type)
  | bare (tensors : StateDict α)
  | nested (tensors : StateDict α)

/-- The tensors of a checkpoint by name. -/
def Checkpoint.tensors : Checkpoint α → StateDict α
  | .bare sd => sd
  | .nested sd => sd

/-- What the loading stage calls `raw_model`. -/
inductive RawModel (α : Type)
  | network (net : Network α)
  | tensor (t : Tensor α)

/-- The classification head: the deeper head or a single layer, with the number of classes of the
checkpoint. -/
def adaptHead (sd : StateDict α) : Except PyError ResNet18 :=
  match sd.lookup "fc.8.weight" with
  | some w => do
      let numClasses ← w.shapeAt 0
      .ok (getResnet18 numClasses)
  | none =>
      match sd.lookup "fc.weight" with
      | some w => do
          let numClasses ← w.shapeAt 0
          .ok { torchvisionResnet18 with fc := .single (.linear 512 numClasses) }
      -- a guess: neither head is named
      | none => .ok (getResnet18 10)

/-- The stem and its pooling, by the kernel size of the checkpoint. -/
def adaptStem (sd : StateDict α) (model : ResNet18) : Except PyError ResNet18 :=
  match sd.lookup "conv1.weight" with
  | some w => do
      let kernelSize ← w.shapeAt 2
      -- any other kernel size leaves the stem as the head's network has it
      if kernelSize = 3 then
        .ok { model with conv1 := ⟨3, 64, 3, 1, 1⟩, maxpool := .identity }
      else if kernelSize = 7 then
        if model.conv1.kernelSize = 3 then
          .ok { model with conv1 := ⟨3, 64, 7, 2, 3⟩, maxpool := torchvisionResnet18.maxpool }
        else .ok model
      else .ok model
  | none => .ok model

/-- The network the loader builds for the dictionary. -/
def adaptArchitecture (sd : StateDict α) : Except PyError ResNet18 :=
  adaptHead sd >>= adaptStem sd

/-- A strict load; when it raises, a second load of the same module without strictness. -/
def loadWithRetry (model : Network α) (sd : StateDict α) : Except PyError (Network α) :=
  match loadStateDict true model sd with
  | (loaded, .ok ()) => .ok loaded
  | (partly, .error _) =>
      -- "Try strict=False if it's just minor naming issues": whatever the names are
      match loadStateDict false partly sd with
      | (loaded, .ok ()) => .ok loaded
      | (_, .error e) => .error e

/-- The branch for dictionaries. -/
def loadDictionary (init : Init α) (sd : StateDict α) : Except PyError (RawModel α) := do
  let arch ← adaptArchitecture sd
  let net ← loadWithRetry (Network.fresh init arch) sd
  .ok (.network net)

/-- From the loaded object to `raw_model`. A tensor stored under `state_dict` is taken for the
object that the key should hold. -/
def loadRawModel (init : Init α) : Checkpoint α → Except PyError (RawModel α)
  | .nested sd => loadDictionary init sd
  | .bare sd =>
      match sd.lookup "state_dict" with
      | some t => .ok (.tensor t)
      | none => loadDictionary init sd

/-- The check of `TrojAI_ModelWrapper.__init__`. -/
def wrapModel : RawModel α → Except PyError (Network α)
  | .network net => .ok net
  | .tensor _ => .error (.typeError
      ("TrojAI_ModelWrapper expected a torch.nn.Module, but got Tensor. " ++
        "This usually happens when a state_dict (OrderedDict) is passed instead of an " ++
        "instantiated model."))

/-- The loading stage up to the wrapped model. -/
def loadModel (init : Init α) (checkpoint : Checkpoint α) : Except PyError (Network α) :=
  loadRawModel init checkpoint >>= wrapModel

/-! ## When a network is handed over -/

theorem loadWithRetry_eq_ok_iff {model loaded : Network α} {sd : StateDict α} :
    loadWithRetry model sd = .ok loaded ↔
      Fits model.arch.paramSpecs sd ∧ loaded = model.copyFrom sd := by
  rw [← loadFails_false_iff]
  cases hstrict : loadFails true model.arch sd with
  | false =>
      have hlax := loadFails_false_of_strict hstrict
      simp only [loadWithRetry, loadStateDict, hstrict, hlax, Bool.false_eq_true, if_false,
        true_and, Except.ok.injEq]
      exact eq_comm
  | true =>
      -- the retry acts on the module the first load has already changed
      have harch : (model.copyFrom sd).arch = model.arch := rfl
      simp only [loadWithRetry, loadStateDict, hstrict, if_true, harch,
        Network.copyFrom_copyFrom]
      cases loadFails false model.arch sd with
      | false =>
          simp only [Bool.false_eq_true, if_false, true_and, Except.ok.injEq]
          exact eq_comm
      | true =>
          simp only [if_true, reduceCtorEq, Bool.true_eq_false, false_and]

theorem loadDictionary_eq_ok_iff {init : Init α} {sd : StateDict α} {raw : RawModel α} :
    loadDictionary init sd = .ok raw ↔
      ∃ arch, adaptArchitecture sd = .ok arch ∧ Fits arch.paramSpecs sd ∧
        raw = .network ((Network.fresh init arch).copyFrom sd) := by
  simp only [loadDictionary]
  rw [bind_eq_ok_iff]
  apply exists_congr
  intro arch
  apply and_congr_right
  intro _
  rw [bind_eq_ok_iff]
  constructor
  · rintro ⟨net, hnet, hraw⟩
    obtain ⟨hfits, rfl⟩ := loadWithRetry_eq_ok_iff.1 hnet
    exact ⟨hfits, (Except.ok.inj hraw).symm⟩
  · rintro ⟨hfits, rfl⟩
    exact ⟨_, loadWithRetry_eq_ok_iff.2 ⟨hfits, rfl⟩, rfl⟩

/-- The checkpoint is a plain dictionary with a tensor named `state_dict`. -/
def Mistaken (checkpoint : Checkpoint α) : Prop :=
  ∃ sd, checkpoint = .bare sd ∧ "state_dict" ∈ sd.keys

theorem not_mistaken_nested (sd : StateDict α) : ¬ Mistaken (Checkpoint.nested sd) := by
  rintro ⟨sd', h, -⟩
  cases h

theorem mistaken_bare_iff {sd : StateDict α} :
    Mistaken (Checkpoint.bare sd) ↔ "state_dict" ∈ sd.keys := by
  constructor
  · rintro ⟨sd', h, hkey⟩
    cases h
    exact hkey
  · intro hkey
    exact ⟨sd, rfl, hkey⟩

theorem wrapped_dictionary_iff {init : Init α} {sd : StateDict α} {net : Network α} :
    loadDictionary init sd >>= wrapModel = .ok net ↔
      ∃ arch, adaptArchitecture sd = .ok arch ∧ Fits arch.paramSpecs sd ∧
        net = (Network.fresh init arch).copyFrom sd := by
  rw [bind_eq_ok_iff]
  constructor
  · rintro ⟨raw, hraw, hwrap⟩
    obtain ⟨arch, harch, hfits, rfl⟩ := loadDictionary_eq_ok_iff.1 hraw
    exact ⟨arch, harch, hfits, (Except.ok.inj hwrap).symm⟩
  · rintro ⟨arch, harch, hfits, rfl⟩
    exact ⟨_, loadDictionary_eq_ok_iff.2 ⟨arch, harch, hfits, rfl⟩, rfl⟩

/-- A network is handed over exactly when the checkpoint is not mistaken for a wrapped one and fits
the network built for it. -/
theorem loadModel_eq_ok_iff {init : Init α} {checkpoint : Checkpoint α} {net : Network α} :
    loadModel init checkpoint = .ok net ↔
      ¬ Mistaken checkpoint ∧
        ∃ arch, adaptArchitecture checkpoint.tensors = .ok arch ∧
          Fits arch.paramSpecs checkpoint.tensors ∧
          net = (Network.fresh init arch).copyFrom checkpoint.tensors := by
  rw [loadModel]
  cases checkpoint with
  | nested sd =>
      exact wrapped_dictionary_iff.trans (and_iff_right (not_mistaken_nested sd)).symm
  | bare sd =>
      rw [mistaken_bare_iff, sd.mem_keys_iff]
      cases hkey : sd.lookup "state_dict" with
      | none =>
          have hraw : loadRawModel init (.bare sd) = loadDictionary init sd := by
            simp only [loadRawModel, hkey]
          rw [hraw]
          refine wrapped_dictionary_iff.trans (and_iff_right ?_).symm
          rintro ⟨t, ht⟩
          cases ht
      | some t =>
          have hraw : loadRawModel init (.bare sd) = .ok (.tensor t) := by
            simp only [loadRawModel, hkey]
          rw [hraw]
          refine iff_of_false (fun h => ?_) (fun h => h.1 ⟨t, rfl⟩)
          cases h

/-! ## The networks the loader can build -/

/-- The two stems, for 32x32 and for standard inputs. -/
inductive Stem
  | small
  | standard
  deriving DecidableEq, Repr

/-- The size of the kernel of `conv1`. -/
def Stem.kernelSize : Stem → ℕ
  | .small => 3
  | .standard => 7

/-- The network with another stem. -/
def withStem (model : ResNet18) : Stem → ResNet18
  | .small => { model with conv1 := ⟨3, 64, 3, 1, 1⟩, maxpool := .identity }
  | .standard => { model with conv1 := ⟨3, 64, 7, 2, 3⟩, maxpool := .maxPool2d 3 2 1 }

/-- torchvision's network with its last layer replaced. -/
def plainResnet18 (numClasses : ℕ) : ResNet18 :=
  { torchvisionResnet18 with fc := .single (.linear 512 numClasses) }

/-- The network whose head the names of the dictionary call for. -/
def headFor (sd : StateDict α) (numClasses : ℕ) : ResNet18 :=
  if "fc.8.weight" ∈ sd.keys then getResnet18 numClasses
  else if "fc.weight" ∈ sd.keys then plainResnet18 numClasses
  else getResnet18 10

/-- Some ResNet-18 with the head called for has a place of the right shape for every tensor whose
name it knows. -/
def Loadable (sd : StateDict α) : Prop :=
  ∃ stem numClasses, Fits (withStem (headFor sd numClasses) stem).paramSpecs sd

theorem headFor_eq_withStem (sd : StateDict α) (numClasses : ℕ) :
    ∃ stem, headFor sd numClasses = withStem (headFor sd numClasses) stem ∧
      (headFor sd numClasses).conv1.kernelSize = stem.kernelSize := by
  rw [headFor]
  split
  · exact ⟨.small, rfl, rfl⟩
  · split
    · exact ⟨.standard, rfl, rfl⟩
    · exact ⟨.small, rfl, rfl⟩

theorem headFor_deep {sd : StateDict α} {w : Tensor α} (h : sd.lookup "fc.8.weight" = some w)
    (numClasses : ℕ) : headFor sd numClasses = getResnet18 numClasses :=
  if_pos (sd.mem_keys_iff.2 ⟨w, h⟩)

theorem headFor_plain {sd : StateDict α} {w : Tensor α} (hdeep : sd.lookup "fc.8.weight" = none)
    (h : sd.lookup "fc.weight" = some w) (numClasses : ℕ) :
    headFor sd numClasses = plainResnet18 numClasses := by
  rw [headFor]
  rw [if_neg (sd.lookup_eq_none_iff.1 hdeep), if_pos (sd.mem_keys_iff.2 ⟨w, h⟩)]

theorem headFor_default {sd : StateDict α} (hdeep : sd.lookup "fc.8.weight" = none)
    (hplain : sd.lookup "fc.weight" = none) (numClasses : ℕ) :
    headFor sd numClasses = getResnet18 10 := by
  rw [headFor]
  rw [if_neg (sd.lookup_eq_none_iff.1 hdeep), if_neg (sd.lookup_eq_none_iff.1 hplain)]

theorem adaptHead_eq_ok {sd : StateDict α} {model : ResNet18} (h : adaptHead sd = .ok model) :
    ∃ numClasses, model = headFor sd numClasses := by
  rw [adaptHead] at h
  cases hdeep : sd.lookup "fc.8.weight" with
  | some w =>
      simp only [hdeep, bind_eq_ok_iff] at h
      obtain ⟨n, -, hmodel⟩ := h
      exact ⟨n, (Except.ok.inj hmodel).symm.trans (headFor_deep hdeep n).symm⟩
  | none =>
      cases hplain : sd.lookup "fc.weight" with
      | some w =>
          simp only [hdeep, hplain, bind_eq_ok_iff] at h
          obtain ⟨n, -, hmodel⟩ := h
          exact ⟨n, (Except.ok.inj hmodel).symm.trans (headFor_plain hdeep hplain n).symm⟩
      | none =>
          simp only [hdeep, hplain] at h
          exact ⟨10, (Except.ok.inj h).symm.trans (headFor_default hdeep hplain 10).symm⟩

theorem adaptStem_eq_ok {sd : StateDict α} {numClasses : ℕ} {model : ResNet18}
    (h : adaptStem sd (headFor sd numClasses) = .ok model) :
    ∃ stem, model = withStem (headFor sd numClasses) stem := by
  obtain ⟨own, hown, -⟩ := headFor_eq_withStem sd numClasses
  rw [adaptStem] at h
  cases hconv : sd.lookup "conv1.weight" with
  | none =>
      simp only [hconv, Except.ok.injEq] at h
      exact ⟨own, h.symm.trans hown⟩
  | some w =>
      simp only [hconv, bind_eq_ok_iff] at h
      obtain ⟨k, -, hmodel⟩ := h
      split at hmodel
      · exact ⟨.small, (Except.ok.inj hmodel).symm⟩
      · split at hmodel
        · split at hmodel
          · exact ⟨.standard, (Except.ok.inj hmodel).symm⟩
          · exact ⟨own, (Except.ok.inj hmodel).symm.trans hown⟩
        · exact ⟨own, (Except.ok.inj hmodel).symm.trans hown⟩

/-- The loader builds a network with the head called for and one of the two stems. -/
theorem adaptArchitecture_eq_ok {sd : StateDict α} {arch : ResNet18}
    (h : adaptArchitecture sd = .ok arch) :
    ∃ stem numClasses, arch = withStem (headFor sd numClasses) stem := by
  obtain ⟨model, hmodel, harch⟩ := bind_eq_ok_iff.1 h
  obtain ⟨numClasses, rfl⟩ := adaptHead_eq_ok hmodel
  obtain ⟨stem, rfl⟩ := adaptStem_eq_ok harch
  exact ⟨stem, numClasses, rfl⟩

theorem fits_withStem_iff {sd : StateDict α} {model : ResNet18} {stem : Stem} :
    Fits (withStem model stem).paramSpecs sd ↔
      (∀ w, sd.lookup "conv1.weight" = some w →
        w.shape = [64, 3, stem.kernelSize, stem.kernelSize]) ∧
      Fits model.bodySpecs sd := by
  cases stem <;> exact fits_cons_iff

theorem shapeAt_of_shape_eq {w : Tensor α} {shape : Shape} (h : w.shape = shape) {i n : ℕ}
    (hi : shape[i]? = some n) : w.shapeAt i = .ok n := by
  rw [Tensor.shapeAt]
  rw [h, hi]

theorem deepHead_mem (numClasses : ℕ) :
    ("fc.8.weight", [numClasses, 256]) ∈ (getResnet18 numClasses).bodySpecs := by
  have hname : "fc" ++ "." ++ toString 8 ++ ".weight" = "fc.8.weight" := by decide
  refine List.mem_append_right _ (List.mem_flatMap.2 ⟨(.linear 256 numClasses, 8), ?_, ?_⟩)
  · exact List.mem_zipIdx_iff_getElem?.2 rfl
  · rw [← hname]
    exact List.mem_cons_self

theorem plainHead_mem (numClasses : ℕ) :
    ("fc.weight", [numClasses, 512]) ∈ (plainResnet18 numClasses).bodySpecs :=
  List.mem_append_right _ List.mem_cons_self

theorem adaptHead_of_fits {sd : StateDict α} {numClasses : ℕ}
    (h : Fits (headFor sd numClasses).bodySpecs sd) :
    adaptHead sd = .ok (headFor sd numClasses) := by
  rw [adaptHead]
  cases hdeep : sd.lookup "fc.8.weight" with
  | some w =>
      rw [headFor_deep hdeep] at h ⊢
      have hshape := h _ _ w (deepHead_mem numClasses) hdeep
      have hclasses : w.shapeAt 0 = .ok numClasses := shapeAt_of_shape_eq hshape rfl
      simp only [hclasses]
      rfl
  | none =>
      cases hplain : sd.lookup "fc.weight" with
      | some w =>
          rw [headFor_plain hdeep hplain] at h ⊢
          have hshape := h _ _ w (plainHead_mem numClasses) hplain
          have hclasses : w.shapeAt 0 = .ok numClasses := shapeAt_of_shape_eq hshape rfl
          simp only [hclasses]
          rfl
      | none => rw [headFor_default hdeep hplain]

theorem adaptStem_of_lookup {sd : StateDict α} {numClasses : ℕ} {stem : Stem} {w : Tensor α}
    (hconv : sd.lookup "conv1.weight" = some w)
    (hshape : w.shape = [64, 3, stem.kernelSize, stem.kernelSize]) :
    adaptStem sd (headFor sd numClasses) = .ok (withStem (headFor sd numClasses) stem) := by
  have hkernel : w.shapeAt 2 = .ok stem.kernelSize := shapeAt_of_shape_eq hshape rfl
  rw [adaptStem]
  simp only [hconv, hkernel]
  cases stem with
  | small => rfl
  | standard =>
      -- the deeper head comes with the small stem, which is reverted
      obtain ⟨own, hown, hsize⟩ := headFor_eq_withStem sd numClasses
      show (if (headFor sd numClasses).conv1.kernelSize = 3 then _ else _) = _
      cases own with
      | small => exact if_pos hsize
      | standard =>
          rw [if_neg (by rw [hsize]; decide), ← hown]

theorem adaptArchitecture_of_fits {sd : StateDict α} {numClasses : ℕ} {stem : Stem}
    (h : Fits (withStem (headFor sd numClasses) stem).paramSpecs sd) :
    ∃ arch, adaptArchitecture sd = .ok arch ∧ Fits arch.paramSpecs sd := by
  obtain ⟨hstem, hbody⟩ := fits_withStem_iff.1 h
  have hadapt : adaptArchitecture sd = adaptStem sd (headFor sd numClasses) := by
    rw [adaptArchitecture]
    rw [adaptHead_of_fits hbody]
    rfl
  rw [hadapt]
  cases hconv : sd.lookup "conv1.weight" with
  | some w => exact ⟨_, adaptStem_of_lookup hconv (hstem w hconv), h⟩
  | none =>
      -- without a first convolution in the dictionary the network keeps the stem it came with
      obtain ⟨own, hown, -⟩ := headFor_eq_withStem sd numClasses
      refine ⟨headFor sd numClasses, by simp only [adaptStem, hconv], ?_⟩
      rw [hown, fits_withStem_iff]
      exact ⟨fun w hw => absurd (hconv.symm.trans hw) (by simp), hbody⟩

theorem loadable_iff {sd : StateDict α} :
    Loadable sd ↔ ∃ arch, adaptArchitecture sd = .ok arch ∧ Fits arch.paramSpecs sd := by
  constructor
  · rintro ⟨stem, numClasses, h⟩
    exact adaptArchitecture_of_fits h
  · rintro ⟨arch, harch, hfits⟩
    obtain ⟨stem, numClasses, rfl⟩ := adaptArchitecture_eq_ok harch
    exact ⟨stem, numClasses, hfits⟩

/-! ## What is audited -/

/-- If the loading stage hands over a network, it carries the tensors of the checkpoint. -/
def AuditsUpload (init : Init α) (checkpoint : Checkpoint α) : Prop :=
  ∀ net, loadModel init checkpoint = .ok net → net.Carries checkpoint.tensors

/-- The names are those of ResNet-18 with the deeper head, or those of ResNet-18 with a single
last layer. -/
def KnownNames (sd : StateDict α) : Prop :=
  SameNames (getResnet18 10) sd ∨ SameNames torchvisionResnet18 sd

theorem withStem_paramNames (model : ResNet18) (stem : Stem) :
    (withStem model stem).paramNames = model.paramNames := by
  cases stem <;> exact ResNet18.paramNames_congr rfl

theorem plainResnet18_paramNames (numClasses : ℕ) :
    (plainResnet18 numClasses).paramNames = torchvisionResnet18.paramNames :=
  ResNet18.paramNames_congr rfl

theorem deepName_mem : "fc.8.weight" ∈ (getResnet18 10).paramNames := by
  apply mem_paramNames_of_deepHead
  simp [deepHeadNames]

theorem plainName_mem :
    "fc.weight" ∈ torchvisionResnet18.paramNames ∧
      "fc.8.weight" ∉ torchvisionResnet18.paramNames := by
  decide +kernel

theorem sameNames_congr {arch arch' : ResNet18} {sd : StateDict α}
    (h : arch.paramNames = arch'.paramNames) : SameNames arch sd ↔ SameNames arch' sd := by
  simp only [SameNames]
  rw [h]

/-- The network built for a dictionary has its names only if these are known names. -/
theorem sameNames_headFor_iff {sd : StateDict α} {numClasses : ℕ} {stem : Stem} :
    SameNames (withStem (headFor sd numClasses) stem) sd ↔ KnownNames sd := by
  rw [sameNames_congr (withStem_paramNames _ stem)]
  rw [KnownNames, headFor]
  -- the names in the dictionary decide the head, and each head has a name of its own
  by_cases hdeep : "fc.8.weight" ∈ sd.keys
  · rw [if_pos hdeep, sameNames_congr (getResnet18_paramNames numClasses)]
    refine ⟨Or.inl, fun h => h.resolve_right fun hplain => ?_⟩
    exact plainName_mem.2 ((hplain _).1 hdeep)
  · have hnot : ¬ SameNames (getResnet18 10) sd := fun h => hdeep ((h _).2 deepName_mem)
    rw [if_neg hdeep, or_iff_right hnot]
    by_cases hplain : "fc.weight" ∈ sd.keys
    · rw [if_pos hplain, sameNames_congr (plainResnet18_paramNames numClasses)]
    · rw [if_neg hplain]
      exact iff_of_false hnot fun h => hplain ((h _).2 plainName_mem.1)

/-- A network that the load hands over is the uploaded one exactly when the names are known. -/
theorem auditsUpload_of_loadable {checkpoint : Checkpoint α} (hmistaken : ¬ Mistaken checkpoint)
    (hloadable : Loadable checkpoint.tensors) (init : Init α) :
    AuditsUpload init checkpoint ↔ KnownNames checkpoint.tensors := by
  obtain ⟨arch, harch, hfits⟩ := loadable_iff.1 hloadable
  have hnet : loadModel init checkpoint =
      .ok ((Network.fresh init arch).copyFrom checkpoint.tensors) :=
    loadModel_eq_ok_iff.2 ⟨hmistaken, arch, harch, hfits, rfl⟩
  have hcarries : ((Network.fresh init arch).copyFrom checkpoint.tensors).Carries
      checkpoint.tensors ↔ SameNames arch checkpoint.tensors :=
    Network.carries_copyFrom_iff hfits
  obtain ⟨stem, numClasses, rfl⟩ := adaptArchitecture_eq_ok harch
  rw [← sameNames_headFor_iff]
  constructor
  · intro h
    exact hcarries.1 (h _ hnet)
  · intro h net hload
    rw [hnet] at hload
    rw [← Except.ok.inj hload]
    exact hcarries.2 h

/-- The audited network is the uploaded one exactly when the names are known, or the load raises
because the checkpoint is mistaken for a wrapped one or fits no network of its kind. -/
theorem auditsUpload_iff (init : Init α) (checkpoint : Checkpoint α) :
    AuditsUpload init checkpoint ↔
      Mistaken checkpoint ∨ ¬ Loadable checkpoint.tensors ∨ KnownNames checkpoint.tensors := by
  by_cases hmistaken : Mistaken checkpoint
  · -- the wrapper raises
    exact iff_of_true (fun net h => absurd hmistaken (loadModel_eq_ok_iff.1 h).1)
      (.inl hmistaken)
  by_cases hloadable : Loadable checkpoint.tensors
  · rw [or_iff_right hmistaken, or_iff_right (not_not.2 hloadable)]
    exact auditsUpload_of_loadable hmistaken hloadable init
  · -- the retry raises on a shape
    refine iff_of_true (fun net h => ?_) (.inr (.inl hloadable))
    obtain ⟨-, arch, harch, hfits, -⟩ := loadModel_eq_ok_iff.1 h
    exact absurd (loadable_iff.2 ⟨arch, harch, hfits⟩) hloadable

/-- A tensor with one value everywhere. -/
def constantTensor (value : ℚ) (shape : Shape) : Tensor ℚ where
  shape := shape
  data := List.replicate (Shape.numel shape) value
  size_eq := List.length_replicate

/-- A stem and a last layer saved from inside `torch.nn.DataParallel`, which puts `module.` before
every name. -/
def dataParallelCheckpoint : StateDict ℚ where
  entries := [
    ("module.conv1.weight", constantTensor 1 [64, 3, 3, 3]),
    ("module.fc.8.weight", constantTensor 1 [10, 256]),
    ("module.fc.8.bias", constantTensor 1 [10])]
  nodup := by decide

theorem dataParallelCheckpoint_disjoint :
    "state_dict" ∉ dataParallelCheckpoint.keys ∧ "fc.weight" ∉ dataParallelCheckpoint.keys ∧
      ∀ name ∈ (getResnet18 10).paramNames, name ∉ dataParallelCheckpoint.keys := by
  decide +kernel

/-- A checkpoint with none of the network's names loads, and leaves every parameter at its initial
value. -/
theorem dataParallel_is_not_audited :
    ¬ AuditsUpload (fun _ shape => ⟨constantTensor 0 shape, rfl⟩)
      (.bare dataParallelCheckpoint) := by
  obtain ⟨hstate, hplain, hnames⟩ := dataParallelCheckpoint_disjoint
  have hdeep := hnames _ deepName_mem
  have hloadable : Loadable dataParallelCheckpoint := by
    refine ⟨.small, 10, fun name shape t hmem ht => ?_⟩
    have harch : withStem (headFor dataParallelCheckpoint 10) .small = getResnet18 10 := by
      rw [headFor]
      rw [if_neg hdeep, if_neg hplain]
      rfl
    rw [harch] at hmem
    exact absurd (dataParallelCheckpoint.mem_keys_iff.2 ⟨t, ht⟩)
      (hnames name (List.mem_map_of_mem hmem))
  rw [auditsUpload_of_loadable (fun h => hstate (mistaken_bare_iff.1 h)) hloadable]
  rintro (h | h)
  · exact hdeep ((h _).2 deepName_mem)
  · exact hplain ((h _).2 plainName_mem.1)

end TrojanDetection.Service.Loader
