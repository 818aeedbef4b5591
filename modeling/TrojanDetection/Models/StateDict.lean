import TrojanDetection.Library.Dict
import TrojanDetection.Models.ResNet
import TrojanDetection.Python.Basic

/-!
# State dictionaries

Tensors, networks with values for their parameters, and `load_state_dict`. A network carries the
proof that its parameters have the names and shapes of its architecture, and loading keeps it.
-/

set_option autoImplicit false

namespace TrojanDetection.Models

open TrojanDetection.Library
open TrojanDetection.Python

variable {α : Type}

/-- A tensor with as many entries as its shape has positions. -/
structure Tensor (α : Type) where
  shape : Shape
  data : List α
  size_eq : data.length = Shape.numel shape

/-- `tensor.shape[i]`. -/
def Tensor.shapeAt (t : Tensor α) (i : ℕ) : Except PyError ℕ :=
  match t.shape[i]? with
  | some n => .ok n
  | none => .error .indexError

/-- Tensors under their names, in the order in which they were stored. -/
abbrev StateDict (α : Type) := Dict String (Tensor α)

/-- A network with values for its parameters and buffers. -/
structure Network (α : Type) where
  arch : ResNet18
  params : List (String × Tensor α)
  shaped : params.map (fun p => (p.1, p.2.shape)) = arch.paramSpecs

/-- The values a fresh module starts with. -/
abbrev Init (α : Type) := String → (shape : Shape) → { t : Tensor α // t.shape = shape }

/-- A freshly constructed module. -/
def Network.fresh (init : Init α) (arch : ResNet18) : Network α where
  arch := arch
  params := arch.paramSpecs.map fun p => (p.1, (init p.1 p.2).1)
  shaped := by
    rw [List.map_map]
    refine (List.map_congr_left fun p _ => ?_).trans (List.map_id _)
    exact Prod.ext rfl (init p.1 p.2).2

/-- The value a parameter has after a load: the tensor of its name, when that has its shape. -/
def loadedValue (sd : StateDict α) (name : String) (old : Tensor α) : Tensor α :=
  match sd.lookup name with
  -- a tensor of another shape is reported and not copied
  | some t => if t.shape = old.shape then t else old
  | none => old

@[simp] theorem loadedValue_shape (sd : StateDict α) (name : String) (old : Tensor α) :
    (loadedValue sd name old).shape = old.shape := by
  simp only [loadedValue]
  split
  · split
    · assumption
    · rfl
  · rfl

theorem loadedValue_of_lookup {sd : StateDict α} {name : String} {t old : Tensor α}
    (h : sd.lookup name = some t) (hshape : t.shape = old.shape) :
    loadedValue sd name old = t := by
  rw [loadedValue]
  simp only [h, hshape, if_true]

theorem loadedValue_loadedValue (sd : StateDict α) (name : String) (old : Tensor α) :
    loadedValue sd name (loadedValue sd name old) = loadedValue sd name old := by
  cases h : sd.lookup name with
  | none => simp only [loadedValue, h]
  | some t =>
      by_cases hshape : t.shape = old.shape
      · rw [loadedValue_of_lookup h hshape, loadedValue_of_lookup h rfl]
      · simp only [loadedValue, h, if_neg hshape]

/-- The effect of a load on the network. -/
def Network.copyFrom (net : Network α) (sd : StateDict α) : Network α where
  arch := net.arch
  params := net.params.map fun p => (p.1, loadedValue sd p.1 p.2)
  shaped := by
    rw [List.map_map, ← net.shaped]
    apply List.map_congr_left
    intro p _
    exact Prod.ext rfl (loadedValue_shape sd p.1 p.2)

theorem Network.copyFrom_copyFrom (net : Network α) (sd : StateDict α) :
    (net.copyFrom sd).copyFrom sd = net.copyFrom sd := by
  simp only [copyFrom]
  simp only [List.map_map, Network.mk.injEq, true_and]
  apply List.map_congr_left
  intro p _
  exact Prod.ext rfl (loadedValue_loadedValue sd p.1 p.2)

/-- Names of the network that the dictionary lacks. -/
def missingKeys (arch : ResNet18) (sd : StateDict α) : List String :=
  arch.paramNames.filter fun name => name ∉ sd.keys

/-- Names of the dictionary that the network lacks. -/
def unexpectedKeys (arch : ResNet18) (sd : StateDict α) : List String :=
  sd.keys.filter fun name => name ∉ arch.paramNames

/-- The tensor named by the entry of a network, if any, has the shape of that entry. -/
def shapeAgrees (sd : StateDict α) (spec : String × Shape) : Bool :=
  match sd.lookup spec.1 with
  | some t => t.shape = spec.2
  | none => true

/-- Names of the network whose tensor in the dictionary has another shape. -/
def sizeMismatches (arch : ResNet18) (sd : StateDict α) : List (String × Shape) :=
  arch.paramSpecs.filter fun spec => !shapeAgrees sd spec

/-- Whether a load raises; one that is not strict accepts missing and unexpected names. -/
def loadFails (strict : Bool) (arch : ResNet18) (sd : StateDict α) : Bool :=
  strict && (!(missingKeys arch sd).isEmpty || !(unexpectedKeys arch sd).isEmpty) ||
    !(sizeMismatches arch sd).isEmpty

/-- `load_state_dict`: matching tensors are copied before the errors are raised. -/
def loadStateDict (strict : Bool) (net : Network α) (sd : StateDict α) :
    Network α × Except PyError Unit :=
  (net.copyFrom sd,
    if loadFails strict net.arch sd
      then .error (.runtimeError "Error(s) in loading state_dict for ResNet")
      else .ok ())

/-- Every tensor of the dictionary that has a name of the list has the shape listed. -/
def Fits (specs : List (String × Shape)) (sd : StateDict α) : Prop :=
  ∀ name shape t, (name, shape) ∈ specs → sd.lookup name = some t → t.shape = shape

theorem fits_cons_iff {name : String} {shape : Shape} {specs : List (String × Shape)}
    {sd : StateDict α} :
    Fits ((name, shape) :: specs) sd ↔
      (∀ t, sd.lookup name = some t → t.shape = shape) ∧ Fits specs sd := by
  constructor
  · intro h
    exact ⟨fun t ht => h name shape t List.mem_cons_self ht,
      fun name' shape' t hmem => h name' shape' t (List.mem_cons_of_mem _ hmem)⟩
  · rintro ⟨hhead, htail⟩ name' shape' t hmem ht
    rcases List.mem_cons.1 hmem with heq | hmem
    · obtain ⟨rfl, rfl⟩ := Prod.mk.inj heq
      exact hhead t ht
    · exact htail name' shape' t hmem ht

theorem sizeMismatches_eq_nil_iff {arch : ResNet18} {sd : StateDict α} :
    sizeMismatches arch sd = [] ↔ Fits arch.paramSpecs sd := by
  rw [sizeMismatches]
  rw [List.filter_eq_nil_iff]
  constructor
  · intro h name shape t hmem hlookup
    have hagrees := h (name, shape) hmem
    simpa only [shapeAgrees, hlookup, Bool.not_eq_true', decide_eq_false_iff_not, not_not]
      using hagrees
  · rintro h ⟨name, shape⟩ hmem
    cases hlookup : sd.lookup name with
    | none => simp only [shapeAgrees, hlookup, Bool.not_true, Bool.false_eq_true,
        not_false_eq_true]
    | some t => simp only [shapeAgrees, hlookup, h name shape t hmem hlookup, decide_true,
        Bool.not_true, Bool.false_eq_true, not_false_eq_true]

theorem loadFails_false_iff {arch : ResNet18} {sd : StateDict α} :
    loadFails false arch sd = false ↔ Fits arch.paramSpecs sd := by
  rw [← sizeMismatches_eq_nil_iff, loadFails]
  simp

theorem loadFails_false_of_strict {arch : ResNet18} {sd : StateDict α}
    (h : loadFails true arch sd = false) : loadFails false arch sd = false := by
  simp only [loadFails, Bool.or_eq_false_iff] at h ⊢
  exact ⟨rfl, h.2⟩

theorem loadFails_true_iff {arch : ResNet18} {sd : StateDict α} :
    loadFails true arch sd = false ↔
      (∀ name ∈ arch.paramNames, name ∈ sd.keys) ∧ (∀ name ∈ sd.keys, name ∈ arch.paramNames) ∧
        Fits arch.paramSpecs sd := by
  rw [← sizeMismatches_eq_nil_iff, loadFails, missingKeys, unexpectedKeys]
  simp [List.filter_eq_nil_iff, and_assoc]

/-! ## Networks that carry a dictionary -/

/-- Every parameter has the value of its name in the dictionary, and every tensor of the
dictionary is the value of a parameter. -/
def Network.Carries (net : Network α) (sd : StateDict α) : Prop :=
  ∀ name t, (name, t) ∈ net.params ↔ sd.lookup name = some t

/-- The dictionary has the names of the network, no less and no more. -/
def SameNames (arch : ResNet18) (sd : StateDict α) : Prop :=
  ∀ name, name ∈ sd.keys ↔ name ∈ arch.paramNames

theorem Network.shape_mem (net : Network α) {name : String} {t : Tensor α}
    (h : (name, t) ∈ net.params) : (name, t.shape) ∈ net.arch.paramSpecs := by
  rw [← net.shaped]
  exact List.mem_map.2 ⟨(name, t), h, rfl⟩

theorem Network.mem_paramNames_iff (net : Network α) {name : String} :
    name ∈ net.arch.paramNames ↔ ∃ t, (name, t) ∈ net.params := by
  rw [ResNet18.paramNames]
  rw [← net.shaped, List.map_map, List.mem_map]
  constructor
  · rintro ⟨⟨name', t⟩, hmem, rfl⟩
    exact ⟨t, hmem⟩
  · rintro ⟨t, hmem⟩
    exact ⟨(name, t), hmem, rfl⟩

theorem Network.mem_copyFrom_iff (net : Network α) (sd : StateDict α) {name : String}
    {t : Tensor α} :
    (name, t) ∈ (net.copyFrom sd).params ↔
      ∃ old, (name, old) ∈ net.params ∧ loadedValue sd name old = t := by
  rw [copyFrom]
  rw [List.mem_map]
  constructor
  · rintro ⟨⟨name', old⟩, hmem, heq⟩
    obtain ⟨rfl, rfl⟩ := Prod.mk.inj heq
    exact ⟨old, hmem, rfl⟩
  · rintro ⟨old, hmem, rfl⟩
    exact ⟨(name, old), hmem, rfl⟩

/-- After a load without shape errors the network carries the dictionary exactly when the two have
the same names. -/
theorem Network.carries_copyFrom_iff {net : Network α} {sd : StateDict α}
    (hfits : Fits net.arch.paramSpecs sd) :
    (net.copyFrom sd).Carries sd ↔ SameNames net.arch sd := by
  constructor
  · -- equal entries have equal names
    intro h name
    rw [sd.mem_keys_iff]
    constructor
    · rintro ⟨t, ht⟩
      exact (net.copyFrom sd).mem_paramNames_iff.2 ⟨t, (h name t).2 ht⟩
    · intro hname
      obtain ⟨t, ht⟩ := (net.copyFrom sd).mem_paramNames_iff.1 hname
      exact ⟨t, (h name t).1 ht⟩
  · -- every parameter finds a tensor of its name, and the shapes agree
    intro h name t
    rw [mem_copyFrom_iff]
    have hvalue : ∀ {old t' : Tensor α}, (name, old) ∈ net.params → sd.lookup name = some t' →
        loadedValue sd name old = t' := fun hold ht' =>
      loadedValue_of_lookup ht' (hfits name _ _ (net.shape_mem hold) ht')
    constructor
    · rintro ⟨old, hold, rfl⟩
      have hkey : name ∈ sd.keys := (h name).2 (net.mem_paramNames_iff.2 ⟨old, hold⟩)
      obtain ⟨t', ht'⟩ := sd.mem_keys_iff.1 hkey
      rw [ht', hvalue hold ht']
    · intro ht
      have hkey : name ∈ sd.keys := sd.mem_keys_iff.2 ⟨t, ht⟩
      obtain ⟨old, hold⟩ := net.mem_paramNames_iff.1 ((h name).1 hkey)
      exact ⟨old, hold, hvalue hold ht⟩

theorem Network.Carries.sameNames {net : Network α} {sd : StateDict α} (h : net.Carries sd) :
    SameNames net.arch sd := by
  intro name
  rw [sd.mem_keys_iff, net.mem_paramNames_iff]
  apply exists_congr
  intro t
  exact (h name t).symm

/-- A network with distinct names that carries a dictionary has a place of the right shape for each
of its tensors. -/
theorem Network.Carries.fits {net : Network α} {sd : StateDict α} (h : net.Carries sd)
    (hnodup : net.arch.paramNames.Nodup) : Fits net.arch.paramSpecs sd := by
  intro name shape t hmem hlookup
  have hown : (name, t.shape) ∈ net.arch.paramSpecs := net.shape_mem ((h name t).2 hlookup)
  exact congrArg Prod.snd (List.inj_on_of_nodup_map hnodup hown hmem rfl)

/-- `model.state_dict()`, for a network with distinct names. -/
def Network.stateDict (net : Network α) (hnodup : net.arch.paramNames.Nodup) : StateDict α where
  entries := net.params
  nodup := by
    have hnames : net.params.map Prod.fst = net.arch.paramNames := by
      rw [ResNet18.paramNames, ← net.shaped, List.map_map]
      rfl
    rw [hnames]
    exact hnodup

theorem Network.carries_stateDict (net : Network α) (hnodup : net.arch.paramNames.Nodup) :
    net.Carries (net.stateDict hnodup) := by
  intro name t
  rw [Dict.lookup_eq_some_iff]
  rfl

end TrojanDetection.Models
