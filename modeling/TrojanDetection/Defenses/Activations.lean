import TrojanDetection.Python.Sequence
import Mathlib.Data.List.Dedup

/-!
# Activation-based detectors (`defenses.py`, `ActivationClustering`, `SpectralSignatures`)

Both detectors collect the activations of one class over all batches of a loader and return a tuple.
Its length depends on whether the class has samples: `ActivationClustering.detect` returns three
components without samples and four with them, `SpectralSignatures.detect` an empty list without
samples and three components with them (`forall_length_iff`).
-/

set_option autoImplicit false

namespace TrojanDetection.Defenses.Activations

open TrojanDetection.Python

/-- The flattened activations of one sample. -/
abbrev Row := List ℚ

/-- A component of a returned tuple. -/
inductive Value
  | none
  | int (n : ℤ)
  | float (x : ℚ)
  | text (s : String)
  | labels (clusters : List ℤ)
  | indices (positions : List ℕ)
  | rows (features : List Row)
  deriving DecidableEq, Repr

/-- An entry of a batch; only some data sets say whether a sample is poisoned. -/
structure Entry (χ : Type) where
  input : χ
  label : ℤ
  isPoisoned : Option Bool := none
  deriving DecidableEq, Repr

/-- The batches that a loader delivers. -/
abbrev DataLoader (χ : Type) := List (List (Entry χ))

/-- The library functions that the detectors call, with the exceptions they may raise. -/
structure Toolkit where
  kmeans : List Row → Except PyError (List ℤ)
  dbscan : List Row → Except PyError (List ℤ)
  silhouetteScore : List Row → List ℤ → Except PyError ℚ
  tsnePlot : List Row → List ℤ → Except PyError String
  topSingularVector : List Row → Except PyError Row
  topk : List ℚ → ℕ → Except PyError (List ℕ)

/-! ## Representations -/

variable {χ : Type}

/-- The rows of the class in one batch. The whole batch goes through the model; `layer` is what the
hook records for an input, or the exception of the forward pass or of the missing hook. -/
def maskBatch (layer : χ → Except PyError Row) (targetClass : ℤ) :
    List (Entry χ) → Except PyError (List (Row × Bool))
  | [] => .ok []
  | entry :: batch => do
      let features ← layer entry.input
      let rest ← maskBatch layer targetClass batch
      .ok (if entry.label = targetClass then (features, entry.isPoisoned.getD false) :: rest
        else rest)

/-- The loop over the batches. -/
def collect (layer : χ → Except PyError Row) (targetClass : ℤ) :
    DataLoader χ → Except PyError (List (Row × Bool))
  | [] => .ok []
  | batch :: loader => do
      let rows ← maskBatch layer targetClass batch
      let rest ← collect layer targetClass loader
      .ok (rows ++ rest)

/-- `get_representations`: `none` when no batch has a sample of the class. -/
def getRepresentations (layer : χ → Except PyError Row) (loader : DataLoader χ)
    (targetClass : ℤ) : Except PyError (Option (List (Row × Bool))) := do
  let rows ← collect layer targetClass loader
  .ok (if rows.isEmpty then Option.none else some rows)

/-- Some entry has the label of the class. -/
def Present (entries : List (Entry χ)) (targetClass : ℤ) : Prop :=
  ∃ entry ∈ entries, entry.label = targetClass

instance (entries : List (Entry χ)) (targetClass : ℤ) : Decidable (Present entries targetClass) :=
  inferInstanceAs (Decidable (∃ entry ∈ entries, entry.label = targetClass))

/-- The forward pass succeeds on every input. -/
def LayerRuns (layer : χ → Except PyError Row) (entries : List (Entry χ)) : Prop :=
  ∀ entry ∈ entries, ∃ features, layer entry.input = .ok features

/-- The rows of the class. -/
def classRows (layer : χ → Except PyError Row) (targetClass : ℤ) (entries : List (Entry χ)) :
    List (Row × Bool) :=
  (entries.filter fun entry => entry.label = targetClass).filterMap fun entry =>
    (layer entry.input).toOption.map fun features => (features, entry.isPoisoned.getD false)

section Representations

variable {layer : χ → Except PyError Row} {targetClass : ℤ}

theorem classRows_cons {entry : Entry χ} {features : Row} (h : layer entry.input = .ok features)
    (entries : List (Entry χ)) :
    classRows layer targetClass (entry :: entries) =
      if entry.label = targetClass then
        (features, entry.isPoisoned.getD false) :: classRows layer targetClass entries
      else classRows layer targetClass entries := by
  by_cases hlabel : entry.label = targetClass
  · simp [classRows, hlabel, h, Except.toOption]
  · simp [classRows, hlabel]

theorem classRows_append (a b : List (Entry χ)) :
    classRows layer targetClass (a ++ b) =
      classRows layer targetClass a ++ classRows layer targetClass b := by
  simp [classRows]

/-- Where the layer runs, the class has rows exactly when it has samples. -/
theorem classRows_ne_nil_iff {entries : List (Entry χ)} (h : LayerRuns layer entries) :
    classRows layer targetClass entries ≠ [] ↔ Present entries targetClass := by
  induction entries with
  | nil => simp [classRows, Present]
  | cons entry entries ih =>
      obtain ⟨features, hfeatures⟩ := h entry List.mem_cons_self
      have hrest := ih fun e he => h e (List.mem_cons_of_mem _ he)
      have hpresent : Present (entry :: entries) targetClass ↔
          entry.label = targetClass ∨ Present entries targetClass := by
        simp [Present]
      rw [classRows_cons hfeatures, hpresent, ← hrest]
      by_cases hlabel : entry.label = targetClass
      · simp [hlabel]
      · simp [hlabel]

theorem maskBatch_eq_ok_iff {batch : List (Entry χ)} {rows : List (Row × Bool)} :
    maskBatch layer targetClass batch = .ok rows ↔
      LayerRuns layer batch ∧ rows = classRows layer targetClass batch := by
  induction batch generalizing rows with
  | nil => simp [maskBatch, LayerRuns, classRows, eq_comm]
  | cons entry batch ih =>
      rw [maskBatch, bind_eq_ok_iff]
      constructor
      · rintro ⟨features, hfeatures, h⟩
        obtain ⟨rest, hrest, hrows⟩ := bind_eq_ok_iff.1 h
        obtain ⟨hruns, rfl⟩ := ih.1 hrest
        refine ⟨List.forall_mem_cons.2 ⟨⟨features, hfeatures⟩, hruns⟩, ?_⟩
        rw [classRows_cons hfeatures]
        exact (Except.ok.inj hrows).symm
      · rintro ⟨hruns, rfl⟩
        obtain ⟨⟨features, hfeatures⟩, hrest⟩ := List.forall_mem_cons.1 hruns
        refine ⟨features, hfeatures, bind_eq_ok_iff.2 ⟨_, ih.2 ⟨hrest, rfl⟩, ?_⟩⟩
        rw [classRows_cons hfeatures]

/-- The loop collects the rows of the class, however the loader splits its samples. -/
theorem collect_eq_ok_iff {loader : DataLoader χ} {rows : List (Row × Bool)} :
    collect layer targetClass loader = .ok rows ↔
      LayerRuns layer loader.flatten ∧ rows = classRows layer targetClass loader.flatten := by
  induction loader generalizing rows with
  | nil => simp [collect, LayerRuns, classRows, eq_comm]
  | cons batch loader ih =>
      have hruns : LayerRuns layer (batch :: loader).flatten ↔
          LayerRuns layer batch ∧ LayerRuns layer loader.flatten := by
        rw [List.flatten_cons]
        exact List.forall_mem_append
      rw [collect, bind_eq_ok_iff, hruns, List.flatten_cons, classRows_append]
      constructor
      · rintro ⟨own, hown, h⟩
        obtain ⟨rest, hrest, hrows⟩ := bind_eq_ok_iff.1 h
        obtain ⟨hbatch, rfl⟩ := maskBatch_eq_ok_iff.1 hown
        obtain ⟨hloader, rfl⟩ := ih.1 hrest
        exact ⟨⟨hbatch, hloader⟩, (Except.ok.inj hrows).symm⟩
      · rintro ⟨⟨hbatch, hloader⟩, rfl⟩
        exact ⟨_, maskBatch_eq_ok_iff.2 ⟨hbatch, rfl⟩,
          bind_eq_ok_iff.2 ⟨_, ih.2 ⟨hloader, rfl⟩, rfl⟩⟩

/-- The representations of a class: none for an absent class, its rows otherwise. -/
theorem getRepresentations_eq_ok_iff {loader : DataLoader χ}
    {found : Option (List (Row × Bool))} :
    getRepresentations layer loader targetClass = .ok found ↔
      LayerRuns layer loader.flatten ∧
        found = if Present loader.flatten targetClass then
          some (classRows layer targetClass loader.flatten) else none := by
  rw [getRepresentations, bind_eq_ok_iff]
  have hvalue : LayerRuns layer loader.flatten →
      (if (classRows layer targetClass loader.flatten).isEmpty then Option.none
        else some (classRows layer targetClass loader.flatten)) =
      if Present loader.flatten targetClass then
        some (classRows layer targetClass loader.flatten) else none := by
    intro hruns
    by_cases hpresent : Present loader.flatten targetClass
    · have hne := (classRows_ne_nil_iff hruns).2 hpresent
      rw [if_pos hpresent, if_neg (by simpa using hne)]
    · have hnil : classRows layer targetClass loader.flatten = [] := by
        by_contra hne
        exact hpresent ((classRows_ne_nil_iff hruns).1 hne)
      rw [if_neg hpresent, if_pos (by simp [hnil])]
  constructor
  · rintro ⟨rows, hrows, hfound⟩
    obtain ⟨hruns, rfl⟩ := collect_eq_ok_iff.1 hrows
    exact ⟨hruns, (Except.ok.inj hfound).symm.trans (hvalue hruns)⟩
  · rintro ⟨hruns, rfl⟩
    exact ⟨_, collect_eq_ok_iff.2 ⟨hruns, rfl⟩, congrArg Except.ok (hvalue hruns)⟩

end Representations

/-! ## The shape of the detectors -/

/-- What the detectors have in common: a fixed result for a class without samples, and a computation
on the rows of any other class. -/
def onRepresentations (layer : χ → Except PyError Row) (loader : DataLoader χ) (targetClass : ℤ)
    (absent : List Value) (examine : List (Row × Bool) → Except PyError (List Value)) :
    Except PyError (List Value) := do
  match ← getRepresentations layer loader targetClass with
  | none => .ok absent
  | some rows => examine rows

section Shape

variable {layer : χ → Except PyError Row} {loader : DataLoader χ} {targetClass : ℤ}
variable {absent values : List Value} {examine : List (Row × Bool) → Except PyError (List Value)}

theorem onRepresentations_eq_ok_iff :
    onRepresentations layer loader targetClass absent examine = .ok values ↔
      LayerRuns layer loader.flatten ∧
        if Present loader.flatten targetClass then
          examine (classRows layer targetClass loader.flatten) = .ok values
        else absent = values := by
  rw [onRepresentations, bind_eq_ok_iff]
  constructor
  · rintro ⟨found, hfound, hrest⟩
    obtain ⟨hruns, rfl⟩ := getRepresentations_eq_ok_iff.1 hfound
    refine ⟨hruns, ?_⟩
    by_cases hclass : Present loader.flatten targetClass
    · rw [if_pos hclass] at hrest ⊢
      exact hrest
    · rw [if_neg hclass] at hrest ⊢
      exact Except.ok.inj hrest
  · rintro ⟨hruns, hrest⟩
    refine ⟨_, getRepresentations_eq_ok_iff.2 ⟨hruns, rfl⟩, ?_⟩
    by_cases hclass : Present loader.flatten targetClass
    · rw [if_pos hclass] at hrest ⊢
      exact hrest
    · rw [if_neg hclass] at hrest ⊢
      exact congrArg Except.ok hrest

/-- When every returned tuple has length `n`, for a computation that returns `k` components. -/
theorem forall_length_iff {k n : ℕ}
    (hexamine : ∀ rows values, examine rows = .ok values → values.length = k) :
    (∀ values, onRepresentations layer loader targetClass absent examine = .ok values →
        values.length = n) ↔
      (LayerRuns layer loader.flatten →
        if Present loader.flatten targetClass then
          (∃ values, examine (classRows layer targetClass loader.flatten) = .ok values) → k = n
        else absent.length = n) := by
  by_cases hclass : Present loader.flatten targetClass
  · simp only [onRepresentations_eq_ok_iff, if_pos hclass]
    constructor
    · rintro h hruns ⟨values, hvalues⟩
      rw [← h values ⟨hruns, hvalues⟩, hexamine _ _ hvalues]
    · rintro h values ⟨hruns, hvalues⟩
      rw [hexamine _ _ hvalues]
      exact h hruns ⟨values, hvalues⟩
  · simp only [onRepresentations_eq_ok_iff, if_neg hclass]
    constructor
    · intro h hruns
      exact h absent ⟨hruns, rfl⟩
    · rintro h values ⟨hruns, rfl⟩
      exact h hruns

end Shape

/-! ## Activation clustering -/

namespace ActivationClustering

/-- The clustering methods that `detect` accepts. -/
inductive Method
  | kmeans
  | dbscan
  deriving DecidableEq, Repr

/-- The cluster of each row. -/
def fitPredict (tools : Toolkit) : Method → List Row → Except PyError (List ℤ)
  | .kmeans => tools.kmeans
  | .dbscan => tools.dbscan

/-- The clusters of the rows, and how well they are separated; a single cluster has score zero. -/
def cluster (tools : Toolkit) (method : Method) (features : List Row) :
    Except PyError (ℚ × List ℤ) := do
  let clusterLabels ← fitPredict tools method features
  if 1 < clusterLabels.dedup.length then do
    let score ← tools.silhouetteScore features clusterLabels
    .ok (score, clusterLabels)
  else .ok (0, clusterLabels)

/-- `detect` on the rows of a class: four components. -/
def examine (tools : Toolkit) (method : Method) (rows : List (Row × Bool)) :
    Except PyError (List Value) := do
  let features := rows.map Prod.fst
  let (score, clusterLabels) ← cluster tools method features
  -- a failed plot is reported as no plot
  let tsnePlot :=
    match tools.tsnePlot features clusterLabels with
    | .ok b64 => Value.text b64
    | .error _ => Value.none
  .ok [.float score, .labels clusterLabels, .rows features, tsnePlot]

/-- A class without samples has three components: `-1`, `None`, `None`. -/
def detect (tools : Toolkit) (layer : χ → Except PyError Row) (loader : DataLoader χ)
    (targetClass : ℤ) (method : Method) : Except PyError (List Value) :=
  onRepresentations layer loader targetClass [.int (-1), .none, .none] (examine tools method)

/-- The clustering and, for more than one cluster, the score do not raise on the features. -/
def ToolsReturn (tools : Toolkit) (method : Method) (features : List Row) : Prop :=
  ∃ clusterLabels, fitPredict tools method features = .ok clusterLabels ∧
    (1 < clusterLabels.dedup.length →
      ∃ score, tools.silhouetteScore features clusterLabels = .ok score)

section

variable {tools : Toolkit} {method : Method} {rows : List (Row × Bool)}

theorem length_examine {values : List Value} (h : examine tools method rows = .ok values) :
    values.length = 4 := by
  obtain ⟨clusters, -, hvalues⟩ := bind_eq_ok_iff.1 h
  cases hvalues
  rfl

theorem cluster_returns_iff {features : List Row} :
    (∃ clusters, cluster tools method features = .ok clusters) ↔
      ToolsReturn tools method features := by
  simp only [cluster, bind_eq_ok_iff]
  constructor
  · rintro ⟨clusters, clusterLabels, hlabels, hrest⟩
    refine ⟨clusterLabels, hlabels, ?_⟩
    intro hmany
    rw [if_pos hmany, bind_eq_ok_iff] at hrest
    obtain ⟨score, hscore, -⟩ := hrest
    exact ⟨score, hscore⟩
  · rintro ⟨clusterLabels, hlabels, hscore⟩
    by_cases hmany : 1 < clusterLabels.dedup.length
    · obtain ⟨score, hscore⟩ := hscore hmany
      refine ⟨(score, clusterLabels), clusterLabels, hlabels, ?_⟩
      rw [if_pos hmany, hscore]
      rfl
    · refine ⟨(0, clusterLabels), clusterLabels, hlabels, ?_⟩
      rw [if_neg hmany]

theorem examine_returns_iff :
    (∃ values, examine tools method rows = .ok values) ↔
      ToolsReturn tools method (rows.map Prod.fst) := by
  rw [← cluster_returns_iff]
  constructor
  · rintro ⟨values, hvalues⟩
    obtain ⟨clusters, hclusters, -⟩ := bind_eq_ok_iff.1 hvalues
    exact ⟨clusters, hclusters⟩
  · rintro ⟨clusters, hclusters⟩
    exact ⟨_, bind_eq_ok_iff.2 ⟨clusters, hclusters, rfl⟩⟩

end

end ActivationClustering

/-! ## Spectral signatures -/

namespace SpectralSignatures

/-- The sums of the columns. -/
def columnSums : List Row → Row
  | [] => []
  | [row] => row
  | row :: rows => List.zipWith (· + ·) row (columnSums rows)

/-- `np.mean(features, axis=0)`. -/
def meanFeature (features : List Row) : Row :=
  (columnSums features).map (· / features.length)

/-- The features with their mean subtracted. -/
def centeredFeatures (features : List Row) : List Row :=
  features.map fun row => List.zipWith (· - ·) row (meanFeature features)

/-- The inner product of two rows. -/
def dot (a b : Row) : ℚ := (List.zipWith (· * ·) a b).sum

/-- The squared projections on the top singular vector. -/
def outlierScores (v : Row) (centered : List Row) : List ℚ :=
  centered.map fun row => dot row v ^ 2

/-- How many samples are flagged: the expected number of poisons times a margin, but not all. -/
def flagCount (numFeatures : ℕ) (expectedPoisonRatio margin : ℚ) : ℤ :=
  let numExpectedPoisons := truncate (numFeatures * expectedPoisonRatio)
  min (truncate (numExpectedPoisons * margin)) (numFeatures - 1)

/-- How many of the flagged samples are poisoned. -/
def truePoisonsInTopK (rows : List (Row × Bool)) (topKIndices : List ℕ) : ℕ :=
  topKIndices.countP fun i => (rows[i]?.map Prod.snd).getD false

/-- `detect` on the rows of a class: three components, also when nothing is to be flagged. -/
def examine (tools : Toolkit) (expectedPoisonRatio margin : ℚ) (rows : List (Row × Bool)) :
    Except PyError (List Value) := do
  let centered := centeredFeatures (rows.map Prod.fst)
  let v ← tools.topSingularVector centered
  let k := flagCount rows.length expectedPoisonRatio margin
  let totalTruePoisons := rows.countP Prod.snd
  if k ≤ 0 then .ok [.indices [], .int 0, .int totalTruePoisons]
  else do
    let topKIndices ← tools.topk (outlierScores v centered) k.toNat
    .ok [.indices topKIndices, .int (truePoisonsInTopK rows topKIndices), .int totalTruePoisons]

/-- A class without samples has an empty list in place of the three components. -/
def detect (tools : Toolkit) (layer : χ → Except PyError Row) (loader : DataLoader χ)
    (targetClass : ℤ) (expectedPoisonRatio margin : ℚ) : Except PyError (List Value) :=
  onRepresentations layer loader targetClass [] (examine tools expectedPoisonRatio margin)

/-- The decomposition and, where samples are to be flagged, the choice of the largest scores do
not raise on the features. -/
def ToolsReturn (tools : Toolkit) (expectedPoisonRatio margin : ℚ) (features : List Row) : Prop :=
  ∃ v, tools.topSingularVector (centeredFeatures features) = .ok v ∧
    (0 < flagCount features.length expectedPoisonRatio margin →
      ∃ indices, tools.topk (outlierScores v (centeredFeatures features))
        (flagCount features.length expectedPoisonRatio margin).toNat = .ok indices)

section

variable {tools : Toolkit} {expectedPoisonRatio margin : ℚ} {rows : List (Row × Bool)}

theorem length_examine {values : List Value}
    (h : examine tools expectedPoisonRatio margin rows = .ok values) : values.length = 3 := by
  obtain ⟨v, -, hvalues⟩ := bind_eq_ok_iff.1 h
  simp only at hvalues
  split at hvalues
  · cases hvalues
    rfl
  · obtain ⟨top, -, hvalues⟩ := bind_eq_ok_iff.1 hvalues
    cases hvalues
    rfl

theorem examine_returns_iff :
    (∃ values, examine tools expectedPoisonRatio margin rows = .ok values) ↔
      ToolsReturn tools expectedPoisonRatio margin (rows.map Prod.fst) := by
  simp only [examine, ToolsReturn, bind_eq_ok_iff, List.length_map]
  constructor
  · rintro ⟨values, v, hv, hrest⟩
    refine ⟨v, hv, ?_⟩
    intro hk
    rw [if_neg (not_le.2 hk), bind_eq_ok_iff] at hrest
    obtain ⟨indices, hindices, -⟩ := hrest
    exact ⟨indices, hindices⟩
  · rintro ⟨v, hv, htopk⟩
    by_cases hk : flagCount rows.length expectedPoisonRatio margin ≤ 0
    · refine ⟨[.indices [], .int 0, .int (rows.countP Prod.snd)], v, hv, ?_⟩
      rw [if_pos hk]
    · obtain ⟨indices, hindices⟩ := htopk (not_le.1 hk)
      refine ⟨[.indices indices, .int (truePoisonsInTopK rows indices),
        .int (rows.countP Prod.snd)], v, hv, ?_⟩
      rw [if_neg hk, hindices]
      rfl

end

end SpectralSignatures

end TrojanDetection.Defenses.Activations
