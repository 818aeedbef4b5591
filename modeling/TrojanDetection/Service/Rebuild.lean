import TrojanDetection.Service.Loader

/-!
# Rebuilding saved networks (`celery_worker.py`, `run_model_scan_task`)

The loader guesses an architecture from the names and shapes of a checkpoint. For the networks the
repository saves, with the deeper head or torchvision's single layer and with either stem, the guess
is right: the network built has the same names, shapes, stem and pooling, the strict load succeeds,
and the network handed over carries the saved tensors (`loadModel_saved`).
-/

set_option autoImplicit false

namespace TrojanDetection.Service.Loader

open TrojanDetection.Library
open TrojanDetection.Models
open TrojanDetection.Python

variable {α : Type}

/-! ## The ResNet-18 family -/

/-- The nine-module head, trained at some dropout rate, or the single layer. -/
inductive HeadKind
  | deep (dropoutRate : ℚ)
  | plain
  deriving DecidableEq, Repr

/-- A network of the family. -/
structure Member where
  head : HeadKind
  stem : Stem
  numClasses : ℕ
  deriving DecidableEq, Repr

namespace Member

/-- The network that the head comes with. -/
def base (m : Member) : ResNet18 :=
  match m.head with
  | .deep dropoutRate => getResnet18 m.numClasses dropoutRate
  | .plain => plainResnet18 m.numClasses

/-- The architecture of the member. -/
def arch (m : Member) : ResNet18 := withStem m.base m.stem

theorem paramNames_of_deep {m : Member} {dropoutRate : ℚ} (h : m.head = .deep dropoutRate) :
    m.arch.paramNames = (getResnet18 10).paramNames := by
  rw [arch, withStem_paramNames, base, h]
  exact ResNet18.paramNames_congr rfl

theorem paramNames_of_plain {m : Member} (h : m.head = .plain) :
    m.arch.paramNames = torchvisionResnet18.paramNames := by
  rw [arch, withStem_paramNames, base, h]
  exact plainResnet18_paramNames m.numClasses

theorem nodup_paramNames (m : Member) : m.arch.paramNames.Nodup := by
  cases h : m.head with
  | deep dropoutRate =>
      rw [paramNames_of_deep h]
      exact nodup_deepNames
  | plain =>
      rw [paramNames_of_plain h]
      exact nodup_plainNames

/-- No parameter is called `state_dict`. -/
theorem stateDictName_notMem (m : Member) : "state_dict" ∉ m.arch.paramNames := by
  cases h : m.head with
  | deep dropoutRate =>
      rw [paramNames_of_deep h]
      decide +kernel
  | plain =>
      rw [paramNames_of_plain h]
      decide +kernel

end Member

/-- A member of the family with values for its parameters. -/
structure SavedNetwork (α : Type) where
  member : Member
  params : List (String × Tensor α)
  shaped : params.map (fun p => (p.1, p.2.shape)) = member.arch.paramSpecs

namespace SavedNetwork

/-- The network whose parameters were saved. -/
def network (saved : SavedNetwork α) : Network α :=
  ⟨saved.member.arch, saved.params, saved.shaped⟩

/-- The dictionary that `torch.save` writes. -/
def stateDict (saved : SavedNetwork α) : StateDict α :=
  saved.network.stateDict saved.member.nodup_paramNames

theorem carries (saved : SavedNetwork α) : saved.network.Carries saved.stateDict :=
  saved.network.carries_stateDict _

theorem sameNames (saved : SavedNetwork α) : SameNames saved.member.arch saved.stateDict :=
  saved.carries.sameNames

theorem fits (saved : SavedNetwork α) : Fits saved.member.arch.paramSpecs saved.stateDict :=
  saved.carries.fits saved.member.nodup_paramNames

end SavedNetwork

/-! ## What the loader builds -/

/-- Two networks agree in all that a checkpoint can tell: names, shapes, stem and pooling. -/
structure SameLayout (arch arch' : ResNet18) : Prop where
  paramSpecs : arch.paramSpecs = arch'.paramSpecs
  conv1 : arch.conv1 = arch'.conv1
  maxpool : arch.maxpool = arch'.maxpool

/-- Networks whose heads have the same entries agree once they have the same stem. -/
theorem sameLayout_withStem {model model' : ResNet18} (h : model.fc.specs = model'.fc.specs)
    (stem : Stem) : SameLayout (withStem model stem) (withStem model' stem) := by
  have hbody : model.bodySpecs = model'.bodySpecs := by
    rw [ResNet18.bodySpecs, ResNet18.bodySpecs, h]
  cases stem with
  | small => exact ⟨congrArg (convSpec "conv1" 3 64 3 ++ ·) hbody, rfl, rfl⟩
  | standard => exact ⟨congrArg (convSpec "conv1" 3 64 7 ++ ·) hbody, rfl, rfl⟩

/-- The names in the dictionary call for the head that was saved. -/
theorem specs_headFor (saved : SavedNetwork α) :
    (headFor saved.stateDict saved.member.numClasses).fc.specs = saved.member.base.fc.specs := by
  have hnames := saved.sameNames
  rw [headFor, Member.base]
  cases h : saved.member.head with
  | deep dropoutRate =>
      rw [sameNames_congr (Member.paramNames_of_deep h)] at hnames
      -- the dropout rate leaves no trace among the names and shapes
      rw [if_pos ((hnames _).2 deepName_mem)]
      rfl
  | plain =>
      rw [sameNames_congr (Member.paramNames_of_plain h)] at hnames
      rw [if_neg fun hdeep => plainName_mem.2 ((hnames _).1 hdeep),
        if_pos ((hnames _).2 plainName_mem.1)]

theorem conv1Name_mem (net : ResNet18) : "conv1.weight" ∈ net.paramNames := by
  have hname : "conv1" ++ ".weight" = "conv1.weight" := by decide
  rw [← hname]
  exact List.mem_cons_self

theorem adaptArchitecture_saved (saved : SavedNetwork α) :
    ∃ arch, adaptArchitecture saved.stateDict = .ok arch ∧ SameLayout arch saved.member.arch := by
  have hlayout := sameLayout_withStem (specs_headFor saved) saved.member.stem
  have hfits := saved.fits
  rw [Member.arch, ← hlayout.paramSpecs] at hfits
  obtain ⟨hstem, hbody⟩ := fits_withStem_iff.1 hfits
  have hname : "conv1.weight" ∈ saved.stateDict.keys :=
    (saved.sameNames _).2 (conv1Name_mem saved.member.arch)
  obtain ⟨w, hw⟩ := saved.stateDict.mem_keys_iff.1 hname
  refine ⟨_, ?_, hlayout⟩
  rw [adaptArchitecture, adaptHead_of_fits hbody]
  exact adaptStem_of_lookup hw (hstem w hw)

/-- How a dictionary is written to a file. -/
inductive Saving
  | bare
  | nested
  deriving DecidableEq, Repr

/-- The checkpoint that a way of saving writes. -/
def Saving.checkpoint (sd : StateDict α) : Saving → Checkpoint α
  | .bare => .bare sd
  | .nested => .nested sd

theorem Saving.tensors_checkpoint (sd : StateDict α) (saving : Saving) :
    (saving.checkpoint sd).tensors = sd := by
  cases saving <;> rfl

theorem not_mistaken_saved (saved : SavedNetwork α) (saving : Saving) :
    ¬ Mistaken (saving.checkpoint saved.stateDict) := by
  cases saving with
  | nested => exact not_mistaken_nested _
  | bare =>
      intro h
      have hkey : "state_dict" ∈ saved.stateDict.keys := mistaken_bare_iff.1 h
      exact saved.member.stateDictName_notMem ((saved.sameNames _).1 hkey)

/-- A checkpoint of the family is rebuilt: the network built for it has the layout of the saved one,
loads it strictly, and is handed over with the saved tensors. -/
theorem loadModel_saved (saved : SavedNetwork α) (saving : Saving) (init : Init α) :
    ∃ arch, adaptArchitecture saved.stateDict = .ok arch ∧ SameLayout arch saved.member.arch ∧
      (loadStateDict true (Network.fresh init arch) saved.stateDict).2 = .ok () ∧
      ∃ net, loadModel init (saving.checkpoint saved.stateDict) = .ok net ∧ net.arch = arch ∧
        net.Carries saved.stateDict := by
  obtain ⟨arch, hadapt, hlayout⟩ := adaptArchitecture_saved saved
  have hfits : Fits arch.paramSpecs saved.stateDict := hlayout.paramSpecs ▸ saved.fits
  have hnames : SameNames arch saved.stateDict := by
    have heq : arch.paramNames = saved.member.arch.paramNames :=
      congrArg (List.map Prod.fst) hlayout.paramSpecs
    exact (sameNames_congr heq).2 saved.sameNames
  have hstrict : loadFails true arch saved.stateDict = false :=
    loadFails_true_iff.2 ⟨fun name => (hnames name).2, fun name => (hnames name).1, hfits⟩
  refine ⟨arch, hadapt, hlayout, ?_, (Network.fresh init arch).copyFrom saved.stateDict, ?_, rfl,
    ?_⟩
  · have harch : (Network.fresh init arch).arch = arch := rfl
    rw [loadStateDict, harch, hstrict]
    rfl
  · apply loadModel_eq_ok_iff.2
    rw [Saving.tensors_checkpoint]
    exact ⟨not_mistaken_saved saved saving, arch, hadapt, hfits, rfl⟩
  · exact (Network.carries_copyFrom_iff hfits).2 hnames

/-- A module whose parameters all have one value. -/
def constantInit (value : ℚ) : Init ℚ := fun _ shape => ⟨constantTensor value shape, rfl⟩

/-- A saved network whose parameters all have one value. -/
def SavedNetwork.constant (value : ℚ) (member : Member) : SavedNetwork ℚ where
  member := member
  params := (Network.fresh (constantInit value) member.arch).params
  shaped := (Network.fresh (constantInit value) member.arch).shaped

/-- The deeper head over a standard stem: the small stem that comes with the head is reverted. -/
def deepStandard : Member := ⟨.deep (1 / 5), .standard, 43⟩

theorem loadModel_saved_deepStandard :
    ∃ net, loadModel (constantInit 0)
        (Saving.nested.checkpoint (SavedNetwork.constant 1 deepStandard).stateDict) = .ok net ∧
      net.arch.conv1.stride = 2 ∧ net.Carries (SavedNetwork.constant 1 deepStandard).stateDict := by
  obtain ⟨arch, -, hlayout, -, net, hnet, rfl, hcarries⟩ :=
    loadModel_saved (SavedNetwork.constant 1 deepStandard) .nested (constantInit 0)
  refine ⟨net, hnet, ?_, hcarries⟩
  rw [hlayout.conv1]
  rfl

end TrojanDetection.Service.Loader
