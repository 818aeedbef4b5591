import TrojanDetection.Defenses.Activations

/-!
# Class representations (`defenses.py`, `get_representations`)

`SpectralSignatures` and `ActivationClustering` have a copy each of one loop. It sends every batch
through the network, takes the features that a hook recorded, selects the rows of the target class
by a mask and appends them, with the poison flags of the same rows, to two lists of tensors that are
concatenated at the end. Batches without the class are skipped, and a loader without the class gives
`(None, None)`. The copy of `SpectralSignatures` also has a branch for no target class.

`gather_eq_ok` says what the loop returns for any selection. Both copies then return the features
and flags of the samples of the class, in order, whatever the batches are
(`getRepresentations_agree`), which is what `Activations.getRepresentations` returns as one list of
pairs (`getRepresentations_eq_pairs`).
-/

set_option autoImplicit false

namespace TrojanDetection.Defenses.Representations

open TrojanDetection.Python
open TrojanDetection.Defenses.Activations

/-! ## Batches and masks -/

/-- A batch as the loop sees it: tensors of inputs and labels, and of poison flags if the data set
has them. -/
structure Batch (χ : Type) where
  inputs : List χ
  labels : List ℤ
  isPoisoned : Option (List Bool)
  deriving DecidableEq, Repr

variable {χ : Type}

/-- The loader stacks the components of the samples. -/
def collate (samples : List (Entry χ)) : Batch χ where
  inputs := samples.map Entry.input
  labels := samples.map Entry.label
  isPoisoned :=
    if samples.all fun e => e.isPoisoned.isSome then
      some (samples.map fun e => e.isPoisoned.getD false)
    else none

/-- Only samples with the same components can be stacked. -/
def Collates (samples : List (Entry χ)) : Prop :=
  (∀ e ∈ samples, e.isPoisoned.isSome) ∨ ∀ e ∈ samples, e.isPoisoned = none

/-- `batch[2] if len(batch) > 2 else torch.zeros_like(labels).bool()`. -/
def Batch.flags (batch : Batch χ) : List Bool :=
  match batch.isPoisoned with
  | some flags => flags
  | none => batch.labels.map fun _ => false

/-- `tensor[mask]`: the entries at which the mask is set. -/
def maskSelect {α : Type} (mask : List Bool) (tensor : List α) : List α :=
  ((mask.zip tensor).filter Prod.fst).map Prod.snd

theorem maskSelect_map {α β : Type} (p : α → Bool) (f : α → β) (xs : List α) :
    maskSelect (xs.map p) (xs.map f) = (xs.filter p).map f := by
  induction xs with
  | nil => rfl
  | cons x xs ih =>
      simp only [maskSelect, List.map_cons, List.zip_cons_cons, List.filter_cons] at ih ⊢
      cases hx : p x with
      | false => simpa using ih
      | true => simpa using ih

theorem flags_collate {samples : List (Entry χ)} (h : Collates samples) :
    (collate samples).flags = samples.map fun e => e.isPoisoned.getD false := by
  rw [collate, Batch.flags]
  by_cases hall : samples.all fun e => e.isPoisoned.isSome
  · rw [if_pos hall]
  · rw [if_neg hall]
    -- some sample has no flag, so none has one
    have hnone : ∀ e ∈ samples, e.isPoisoned = none := by
      apply h.resolve_left
      intro hsome
      exact hall (List.all_eq_true.2 hsome)
    simp only [List.map_map]
    apply List.map_congr_left
    intro e he
    simp [hnone e he]

/-! ## The loop -/

/-- The forward pass with the hook in place: what `self.features` holds afterwards, one entry for
each time the layer ran, or the exception of the network. -/
abbrev Forward (χ : Type) := List χ → Except PyError (List (List Row))

/-- The network computes the features of a sample without regard to the rest of its batch. -/
def PerSample (forward : Forward χ) (feature : χ → Row) : Prop :=
  ∀ inputs, inputs ≠ [] → ∃ later, forward inputs = .ok (inputs.map feature :: later)

/-- The local variables `all_features` and `all_indices`. -/
structure Collected where
  allFeatures : List (List Row)
  allIndices : List (List Bool)
  deriving DecidableEq, Repr

/-- What a batch adds to the two lists, if anything. -/
abbrev Selection (χ : Type) := Batch χ → List Row → Option (List Row × List Bool)

/-- One turn of the loop. -/
def gatherBatch (forward : Forward χ) (select : Selection χ) (acc : Collected)
    (batch : Batch χ) : Except PyError Collected := do
  match ← forward batch.inputs with
  | [] => .error (.assertionError "Feature layer not found or hook not triggered.")
  | batchFeatures :: _ =>
      match select batch batchFeatures with
      | some (features, flags) =>
          .ok ⟨acc.allFeatures ++ [features], acc.allIndices ++ [flags]⟩
      | none => .ok acc

/-- The lists are concatenated, unless they are empty. -/
def Collected.result (acc : Collected) : Option (List Row) × Option (List Bool) :=
  if acc.allFeatures.length = 0 then (none, none)
  else (some acc.allFeatures.flatten, some acc.allIndices.flatten)

/-- The loop over the loader and what it returns: the rows and, if it has them, the flags. -/
def gather (forward : Forward χ) (select : Selection χ) (loader : List (Batch χ)) :
    Except PyError (Option (List Row) × Option (List Bool)) := do
  let acc ← loader.foldlM (gatherBatch forward select) ⟨[], []⟩
  .ok acc.result

/-- The rows of a class: nothing if `mask.sum() > 0` fails. -/
def selectClass (targetClass : ℤ) : Selection χ := fun batch batchFeatures =>
  let mask := batch.labels.map fun label => decide (label = targetClass)
  if mask.countP id > 0 then
    some (maskSelect mask batchFeatures, maskSelect mask batch.flags)
  else none

namespace SpectralSignatures

/-- Without a target class every row is kept. -/
def getRepresentations (forward : Forward χ) (loader : List (Batch χ))
    (targetClass : Option ℤ := none) :
    Except PyError (Option (List Row) × Option (List Bool)) :=
  gather forward
    (fun batch batchFeatures =>
      match targetClass with
      | some c => selectClass c batch batchFeatures
      | none => some (batchFeatures, batch.flags))
    loader

end SpectralSignatures

namespace ActivationClustering

/-- Filters strictly by the target class. -/
def getRepresentations (forward : Forward χ) (loader : List (Batch χ)) (targetClass : ℤ) :
    Except PyError (Option (List Row) × Option (List Bool)) :=
  gather forward (selectClass targetClass) loader

end ActivationClustering

/-! ## What the loop returns -/

section Run

variable {forward : Forward χ} {feature : χ → Row} {select : Selection χ}

/-- What the batches add, in order. -/
def contributions (feature : χ → Row) (select : Selection χ) (loader : List (Batch χ)) :
    List (List Row × List Bool) :=
  loader.filterMap fun batch => select batch (batch.inputs.map feature)

theorem gatherBatch_eq_ok (h : PerSample forward feature) (acc : Collected) {batch : Batch χ}
    (hne : batch.inputs ≠ []) :
    gatherBatch forward select acc batch =
      .ok ⟨acc.allFeatures ++ (contributions feature select [batch]).map Prod.fst,
        acc.allIndices ++ (contributions feature select [batch]).map Prod.snd⟩ := by
  obtain ⟨later, hforward⟩ := h batch.inputs hne
  rw [gatherBatch, hforward]
  cases hselect : select batch (batch.inputs.map feature) with
  | none => simp [contributions, hselect, bind, Except.bind]
  | some part => simp [contributions, hselect, bind, Except.bind]

/-- The loop appends the contributions to what it has. -/
theorem foldlM_gatherBatch_eq_ok (h : PerSample forward feature) {loader : List (Batch χ)}
    (hne : ∀ batch ∈ loader, batch.inputs ≠ []) (acc : Collected) :
    loader.foldlM (gatherBatch forward select) acc =
      .ok ⟨acc.allFeatures ++ (contributions feature select loader).map Prod.fst,
        acc.allIndices ++ (contributions feature select loader).map Prod.snd⟩ := by
  induction loader generalizing acc with
  | nil => simp [contributions, pure, Except.pure]
  | cons batch loader ih =>
      obtain ⟨hbatch, hloader⟩ := List.forall_mem_cons.1 hne
      have hsplit : contributions feature select (batch :: loader) =
          contributions feature select [batch] ++ contributions feature select loader := by
        rw [contributions, contributions, contributions, ← List.filterMap_append]
        rfl
      rw [List.foldlM_cons, gatherBatch_eq_ok h acc hbatch, hsplit]
      show List.foldlM (gatherBatch forward select) _ loader = _
      rw [ih hloader]
      simp [List.append_assoc]

theorem gather_eq_ok (h : PerSample forward feature) {loader : List (Batch χ)}
    (hne : ∀ batch ∈ loader, batch.inputs ≠ []) :
    gather forward select loader =
      .ok (if contributions feature select loader = [] then (none, none)
        else (some ((contributions feature select loader).map Prod.fst).flatten,
          some ((contributions feature select loader).map Prod.snd).flatten)) := by
  rw [gather, foldlM_gatherBatch_eq_ok h hne]
  show Except.ok _ = _
  simp [Collected.result]

end Run

/-! ## The samples of a class -/

section Class

variable {feature : χ → Row} {targetClass : ℤ}

/-- The samples with the label of the class, in order. -/
def ofClass (targetClass : ℤ) (samples : List (Entry χ)) : List (Entry χ) :=
  samples.filter fun e => e.label = targetClass

/-- The features and the poison flags of the samples of a class, or `(None, None)`. -/
def representation (feature : χ → Row) (targetClass : ℤ) (samples : List (Entry χ)) :
    Option (List Row) × Option (List Bool) :=
  if Present samples targetClass then
    (some ((ofClass targetClass samples).map fun e => feature e.input),
      some ((ofClass targetClass samples).map fun e => e.isPoisoned.getD false))
  else (none, none)

theorem ofClass_append (a b : List (Entry χ)) :
    ofClass targetClass (a ++ b) = ofClass targetClass a ++ ofClass targetClass b :=
  List.filter_append a b

theorem ofClass_eq_nil_iff {samples : List (Entry χ)} :
    ofClass targetClass samples = [] ↔ ¬ Present samples targetClass := by
  simp [ofClass, Present]

theorem selectClass_collate {samples : List (Entry χ)} (h : Collates samples) :
    selectClass targetClass (collate samples) ((collate samples).inputs.map feature) =
      if Present samples targetClass then
        some ((ofClass targetClass samples).map fun e => feature e.input,
          (ofClass targetClass samples).map fun e => e.isPoisoned.getD false)
      else none := by
  have hmask : (collate samples).labels.map (fun label => decide (label = targetClass)) =
      samples.map fun e => decide (e.label = targetClass) := by
    simp [collate]
  have hinputs : (collate samples).inputs.map feature = samples.map fun e => feature e.input := by
    simp [collate]
  have hcount : (samples.map fun e => decide (e.label = targetClass)).countP id > 0 ↔
      Present samples targetClass := by
    rw [gt_iff_lt, List.countP_pos_iff]
    simp [Present]
  rw [selectClass]
  simp only [hmask, hinputs, flags_collate h, maskSelect_map, hcount]
  rfl

/-- A batch adds the rows of its samples of the class, and nothing if it has none. -/
theorem contributions_cons {batch : List (Entry χ)} (h : Collates batch)
    (loader : DataLoader χ) :
    contributions feature (selectClass targetClass) ((batch :: loader).map collate) =
      if Present batch targetClass then
        ((ofClass targetClass batch).map (fun e => feature e.input),
          (ofClass targetClass batch).map fun e => e.isPoisoned.getD false) ::
            contributions feature (selectClass targetClass) (loader.map collate)
      else contributions feature (selectClass targetClass) (loader.map collate) := by
  rw [contributions, List.map_cons, List.filterMap_cons, selectClass_collate h]
  by_cases hpresent : Present batch targetClass
  · rw [if_pos hpresent, if_pos hpresent]
    rfl
  · rw [if_neg hpresent, if_neg hpresent]
    rfl

/-- Together the batches add the rows of the samples of the class. -/
theorem flatten_contributions {loader : DataLoader χ} (h : ∀ batch ∈ loader, Collates batch) :
    ((contributions feature (selectClass targetClass) (loader.map collate)).map
        Prod.fst).flatten = (ofClass targetClass loader.flatten).map (fun e => feature e.input) ∧
      ((contributions feature (selectClass targetClass) (loader.map collate)).map
        Prod.snd).flatten =
        (ofClass targetClass loader.flatten).map fun e => e.isPoisoned.getD false := by
  induction loader with
  | nil => exact ⟨rfl, rfl⟩
  | cons batch loader ih =>
      obtain ⟨hbatch, hloader⟩ := List.forall_mem_cons.1 h
      obtain ⟨hfeatures, hflags⟩ := ih hloader
      rw [contributions_cons hbatch, List.flatten_cons, ofClass_append, List.map_append,
        List.map_append]
      by_cases hpresent : Present batch targetClass
      · rw [if_pos hpresent]
        simp only [List.map_cons, List.flatten_cons, hfeatures, hflags, and_self]
      · -- the mask of a skipped batch selects nothing
        rw [if_neg hpresent, ofClass_eq_nil_iff.2 hpresent, hfeatures, hflags]
        exact ⟨rfl, rfl⟩

theorem contributions_eq_nil_iff {loader : DataLoader χ} (h : ∀ batch ∈ loader, Collates batch) :
    contributions feature (selectClass targetClass) (loader.map collate) = [] ↔
      ¬ Present loader.flatten targetClass := by
  induction loader with
  | nil => simp [contributions, Present]
  | cons batch loader ih =>
      obtain ⟨hbatch, hloader⟩ := List.forall_mem_cons.1 h
      have hpresent : Present (batch :: loader).flatten targetClass ↔
          Present batch targetClass ∨ Present loader.flatten targetClass := by
        simp only [Present, List.flatten_cons, List.mem_append, or_and_right, exists_or]
      rw [contributions_cons hbatch, hpresent, not_or, ← ih hloader]
      by_cases hown : Present batch targetClass
      · simp [hown]
      · simp [hown]

/-- The loop with the class selection returns the representation of the class. -/
theorem gather_selectClass {forward : Forward χ} (hforward : PerSample forward feature)
    {loader : DataLoader χ} (hne : ∀ batch ∈ loader, batch ≠ [])
    (hcollates : ∀ batch ∈ loader, Collates batch) :
    gather forward (selectClass targetClass) (loader.map collate) =
      .ok (representation feature targetClass loader.flatten) := by
  have hinputs : ∀ batch ∈ loader.map collate, batch.inputs ≠ [] := by
    intro batch hbatch
    obtain ⟨samples, hsamples, rfl⟩ := List.mem_map.1 hbatch
    simpa [collate] using hne samples hsamples
  rw [gather_eq_ok hforward hinputs, (flatten_contributions hcollates).1,
    (flatten_contributions hcollates).2, representation]
  by_cases hpresent : Present loader.flatten targetClass
  · rw [if_neg ((contributions_eq_nil_iff hcollates).not.2 (not_not.2 hpresent)), if_pos hpresent]
  · rw [if_pos ((contributions_eq_nil_iff hcollates).2 hpresent), if_neg hpresent]

/-- Both extractors return the features and flags of the samples of the class, for every split of
the samples into batches. -/
theorem getRepresentations_agree {forward : Forward χ} (hforward : PerSample forward feature)
    {samples : List (Entry χ)} {loader : DataLoader χ} (hsplit : loader.flatten = samples)
    (hne : ∀ batch ∈ loader, batch ≠ []) (hcollates : ∀ batch ∈ loader, Collates batch)
    (targetClass : ℤ) :
    SpectralSignatures.getRepresentations forward (loader.map collate) (some targetClass) =
        .ok (representation feature targetClass samples) ∧
      ActivationClustering.getRepresentations forward (loader.map collate) targetClass =
        .ok (representation feature targetClass samples) ∧
      (representation feature targetClass samples = (none, none) ↔
        ∀ e ∈ samples, e.label ≠ targetClass) := by
  subst hsplit
  have hgather : gather forward (selectClass targetClass) (loader.map collate) =
      .ok (representation feature targetClass loader.flatten) :=
    gather_selectClass hforward hne hcollates
  refine ⟨hgather, hgather, ?_⟩
  rw [representation]
  by_cases hpresent : Present loader.flatten targetClass
  · rw [if_pos hpresent]
    apply iff_of_false
    · intro h
      cases h
    · obtain ⟨e, he, hlabel⟩ := hpresent
      exact fun h => h e he hlabel
  · rw [if_neg hpresent]
    apply iff_of_true rfl
    intro e he hlabel
    exact hpresent ⟨e, he, hlabel⟩

/-- The pairs that the detectors' model works on are these two tensors. -/
theorem getRepresentations_eq_pairs (feature : χ → Row) (loader : DataLoader χ)
    (targetClass : ℤ) :
    ∃ found, Activations.getRepresentations (fun x => .ok (feature x)) loader targetClass =
        .ok found ∧
      representation feature targetClass loader.flatten =
        (found.map (List.map Prod.fst), found.map (List.map Prod.snd)) := by
  have hruns : LayerRuns (fun x => .ok (feature x)) loader.flatten :=
    fun e _ => ⟨feature e.input, rfl⟩
  have hrows : classRows (fun x => .ok (feature x)) targetClass loader.flatten =
      (ofClass targetClass loader.flatten).map fun e =>
        (feature e.input, e.isPoisoned.getD false) := by
    simp [classRows, ofClass, Except.toOption]
  refine ⟨_, getRepresentations_eq_ok_iff.2 ⟨hruns, rfl⟩, ?_⟩
  rw [representation, hrows]
  by_cases hpresent : Present loader.flatten targetClass
  · simp [hpresent]
  · simp [hpresent]

end Class

/-- Four samples in three batches; the second batch has no sample of class 0 and no flags. -/
def fourSamples : DataLoader ℚ :=
  [[⟨1, 0, some true⟩, ⟨5, 1, some false⟩], [⟨7, 1, none⟩], [⟨2, 0, some false⟩]]

/-- The features of class 0 and their flags. -/
theorem getRepresentations_fourSamples :
    SpectralSignatures.getRepresentations (fun inputs => .ok [inputs.map fun x : ℚ => [x]])
        (fourSamples.map collate) (some 0) = .ok (some [[1], [2]], some [true, false]) ∧
      ActivationClustering.getRepresentations (fun inputs => .ok [inputs.map fun x : ℚ => [x]])
        (fourSamples.map collate) 0 = .ok (some [[1], [2]], some [true, false]) := by
  have hforward : PerSample (fun inputs => .ok [inputs.map fun x : ℚ => [x]]) fun x => [x] :=
    fun inputs _ => ⟨[], rfl⟩
  have hne : ∀ batch ∈ fourSamples, batch ≠ [] := by decide
  have hcollates : ∀ batch ∈ fourSamples, Collates batch := by
    simp [fourSamples, Collates]
  obtain ⟨hspectral, hclustering, -⟩ :=
    getRepresentations_agree hforward rfl hne hcollates 0
  have hvalue : representation (fun x : ℚ => [x]) 0 fourSamples.flatten =
      (some [[1], [2]], some [true, false]) := by
    decide +kernel
  rw [hvalue] at hspectral hclustering
  exact ⟨hspectral, hclustering⟩

end TrojanDetection.Defenses.Representations
