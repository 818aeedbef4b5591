import TrojanDetection.Data.TrojAI
import TrojanDetection.Defenses.Strip
import TrojanDetection.Evaluation.Benchmark
import TrojanDetection.Service.Resolution

/-!
# Consumers of the TrojAI images (`celery_worker.py`, `benchmark_trojai_hardware.py`)

The scan task reads the output directory of the generator, the hardware benchmark its two
sub-directories. The task finds no image and its shuffling loader raises; STRIP in the benchmark
asks for 64 clean images, so it needs 128 samples (`generated_data_unreadable`).
-/

set_option autoImplicit false

namespace TrojanDetection.Evaluation.TrojaiData

open TrojanDetection.Data
open TrojanDetection.Defenses
open TrojanDetection.Evaluation.Benchmark
open TrojanDetection.Library
open TrojanDetection.Library.Sampling
open TrojanDetection.Python
open TrojanDetection.Service.Resolution

variable {ι τ : Type}

/-! ## The loader of the scan task -/

/-- Opening an image file and resizing it. -/
structure ImageOpener where
  openResized : List Path → ℕ × ℕ → Image
  size_openResized : ∀ path (size : ℕ × ℕ), 5 ≤ size.1 → 5 ≤ size.2 →
    (openResized path size).size = size

/-- A data set as the loader sees it. -/
def folder (opener : ImageOpener) (ds : TrojAIDataset) : ImageFolder where
  count := ds.imagePaths.length
  load size i := opener.openResized (ds.imagePaths.get i) size
  size_load size i := opener.size_openResized (ds.imagePaths.get i) size

/-- The data set of the output directory, and the loader on it. -/
def outputDirLoader (renderer : Renderer ι) (order : Shuffle Path) (opener : ImageOpener)
    (imageSize : ℕ × ℕ) (numSamples : ℕ) : Except PyError (List Image) := do
  let ds ← TrojAIDataset.init order (generateTrojaiSamples renderer numSamples) [trojaiData]
  getTrojaiDataloader (folder opener ds) imageSize

/-- The loader on the output directory returns, and has all samples. -/
def LoaderHasAll (renderer : Renderer ι) (order : Shuffle Path) (opener : ImageOpener)
    (imageSize : ℕ × ℕ) (numSamples : ℕ) : Prop :=
  ∃ images, outputDirLoader renderer order opener imageSize numSamples = .ok images ∧
    images.length = numSamples

/-- The loader on the output directory raises. -/
theorem outputDirLoader_eq (renderer : Renderer ι) (order : Shuffle Path)
    (opener : ImageOpener) (imageSize : ℕ × ℕ) (numSamples : ℕ) :
    outputDirLoader renderer order opener imageSize numSamples =
      .error
        (.valueError "num_samples should be a positive integer value, but got num_samples=0") := by
  rw [outputDirLoader, init_outputDir]
  show getTrojaiDataloader (folder opener ⟨[], []⟩) imageSize = _
  exact if_pos rfl

theorem not_loaderHasAll (renderer : Renderer ι) (order : Shuffle Path) (opener : ImageOpener)
    (imageSize : ℕ × ℕ) (numSamples : ℕ) :
    ¬ LoaderHasAll renderer order opener imageSize numSamples := by
  rintro ⟨images, hloader, -⟩
  rw [outputDirLoader_eq] at hloader
  cases hloader

/-! ## The STRIP stage of the benchmark -/

/-- The images of a data set; `ds[i][0]`. -/
def tensors (tree : FileTree Path ι) (transform : ι → τ) (ds : TrojAIDataset) :
    TensorDataset τ where
  len := ds.imagePaths.length
  getitem i := do
    let sample ← ds.getitem tree transform i
    pure sample.1

variable [Add τ] [SMul ℚ τ]

/-- The entropies of the first ten images of a data set. -/
def firstEntropies (strip : STRIP τ) (draws : ℕ → Shuffle ℕ) (ds : TensorDataset τ) :
    Except PyError (List ℚ) :=
  (List.range 10).mapM fun i => do
    let image ← ds.getitem i
    strip.calculateEntropy (draws i) image

/-- The error ratios of STRIP on a clean and a poisoned data set. -/
def stripStage (meanEntropy : List τ → ℚ) (drawsClean drawsPoison : ℕ → Shuffle ℕ)
    (dsClean dsPoison : TensorDataset τ) : Except PyError (ℚ × ℚ) := do
  let strip : STRIP τ := ⟨dsClean, meanEntropy⟩
  let cleanE ← firstEntropies strip drawsClean dsClean
  let poisonE ← firstEntropies strip drawsPoison dsPoison
  let run : EvaluatorRun := ⟨cleanE, poisonE, 0⟩
  pure (run.frRatio, run.faRatio)

theorem returns_firstEntropies_iff {strip : STRIP τ} (hclean : strip.cleanDataset.Readable)
    {draws : ℕ → Shuffle ℕ} {ds : TensorDataset τ} (hds : ds.Readable) :
    returns (firstEntropies strip draws ds) ↔ 10 ≤ ds.len ∧ 64 ≤ strip.cleanDataset.len := by
  have hround : ∀ i, returns (do
      let image ← ds.getitem i
      strip.calculateEntropy (draws i) image) ↔ i < ds.len ∧ 64 ≤ strip.cleanDataset.len := by
    intro i
    rw [← hds i]
    apply returns_bind_iff
    intro image _
    rw [STRIP.returns_calculateEntropy_iff hclean]
    exact and_iff_right (by decide)
  rw [firstEntropies, returns_mapM_iff]
  simp only [hround, List.mem_range]
  constructor
  · intro h
    exact h 9 (by decide)
  · rintro ⟨hlen, hsamples⟩ i hi
    exact ⟨Nat.lt_of_lt_of_le hi hlen, hsamples⟩

theorem returns_stripStage_iff {meanEntropy : List τ → ℚ} {drawsClean drawsPoison : ℕ → Shuffle ℕ}
    {dsClean dsPoison : TensorDataset τ} (hclean : dsClean.Readable) (hpoison : dsPoison.Readable) :
    returns (stripStage meanEntropy drawsClean drawsPoison dsClean dsPoison) ↔
      64 ≤ dsClean.len ∧ 10 ≤ dsPoison.len := by
  have hboth : returns (stripStage meanEntropy drawsClean drawsPoison dsClean dsPoison) ↔
      returns (firstEntropies ⟨dsClean, meanEntropy⟩ drawsClean dsClean) ∧
        returns (firstEntropies ⟨dsClean, meanEntropy⟩ drawsPoison dsPoison) := by
    constructor
    · rintro ⟨ratios, h⟩
      obtain ⟨cleanE, hcleanE, h⟩ := bind_eq_ok_iff.1 h
      obtain ⟨poisonE, hpoisonE, -⟩ := bind_eq_ok_iff.1 h
      exact ⟨⟨cleanE, hcleanE⟩, ⟨poisonE, hpoisonE⟩⟩
    · rintro ⟨⟨cleanE, hcleanE⟩, ⟨poisonE, hpoisonE⟩⟩
      exact ⟨_, bind_eq_ok_iff.2 ⟨cleanE, hcleanE, bind_eq_ok_iff.2 ⟨poisonE, hpoisonE, rfl⟩⟩⟩
  rw [hboth, returns_firstEntropies_iff hclean hclean, returns_firstEntropies_iff hclean hpoison]
  -- 64 clean images are more than the ten that are tested
  show (10 ≤ dsClean.len ∧ 64 ≤ dsClean.len) ∧ 10 ≤ dsPoison.len ∧ 64 ≤ dsClean.len ↔ _
  omega

/-- The STRIP stage completes on the generated sub-directories. -/
def StripCompletes (renderer : Renderer ι) (order order' : Shuffle Path) (transform : ι → τ)
    (meanEntropy : List τ → ℚ) (drawsClean drawsPoison : ℕ → Shuffle ℕ) (numSamples : ℕ) : Prop :=
  let tree := generateTrojaiSamples renderer numSamples
  returns (do
    let dsClean ← TrojAIDataset.init order tree [trojaiData, cleanDir]
    let dsPoison ← TrojAIDataset.init order' tree [trojaiData, poisonedDir]
    stripStage meanEntropy drawsClean drawsPoison (tensors tree transform dsClean)
      (tensors tree transform dsPoison))

omit [Add τ] [SMul ℚ τ] in
/-- A data set whose paths are files, with a label for each, is readable. -/
theorem readable_tensors {tree : FileTree Path ι} (transform : ι → τ) {ds : TrojAIDataset}
    (hlabels : ds.labels.length = ds.imagePaths.length)
    (hfiles : ∀ path ∈ ds.imagePaths, path ∈ tree.files.keys) :
    (tensors tree transform ds).Readable := by
  intro i
  have hread := TrojAIDataset.returns_getitem_iff hlabels hfiles transform i
  have hfirst : returns ((tensors tree transform ds).getitem i) ↔ _ ∧ True :=
    returns_bind_iff fun sample _ => iff_true_intro (returns_ok sample.1)
  rw [hfirst, and_true]
  exact hread

/-- The STRIP stage needs 128 generated samples. -/
theorem stripCompletes_iff (renderer : Renderer ι) (order order' : Shuffle Path) (numSamples : ℕ)
    (transform : ι → τ) (meanEntropy : List τ → ℚ) (drawsClean drawsPoison : ℕ → Shuffle ℕ) :
    StripCompletes renderer order order' transform meanEntropy drawsClean drawsPoison numSamples ↔
      128 ≤ numSamples := by
  obtain ⟨hclean, hpoisoned⟩ := length_sampleIndices numSamples
  obtain ⟨dsClean, hinitClean, hlabelsClean, hlengthClean, hfilesClean⟩ :=
    exists_init_subDir renderer numSamples order (.inl rfl)
  obtain ⟨dsPoison, hinitPoison, hlabelsPoison, hlengthPoison, hfilesPoison⟩ :=
    exists_init_subDir renderer numSamples order' (.inr rfl)
  rw [StripCompletes, hinitClean, hinitPoison]
  show returns (stripStage _ _ _ _ _) ↔ _
  rw [returns_stripStage_iff (readable_tensors transform hlabelsClean hfilesClean)
    (readable_tensors transform hlabelsPoison hfilesPoison)]
  simp only [tensors, hlengthClean, hlengthPoison, hclean, hpoisoned]
  omega

/-- Both consumers can work with the generated samples. -/
structure DataReadable (renderer : Renderer ι) (orders : Path → Shuffle Path)
    (opener : ImageOpener) (imageSize : ℕ × ℕ) (transform : ι → τ) (meanEntropy : List τ → ℚ)
    (drawsClean drawsPoison : ℕ → Shuffle ℕ) (numSamples : ℕ) : Prop where
  loader : LoaderHasAll renderer (orders trojaiData) opener imageSize numSamples
  strip : StripCompletes renderer (orders cleanDir) (orders poisonedDir) transform meanEntropy
    drawsClean drawsPoison numSamples

/-- However many samples are generated, the scan task finds none of them; the STRIP stage completes
from 128 samples on. -/
theorem generated_data_unreadable (renderer : Renderer ι) (orders : Path → Shuffle Path)
    (opener : ImageOpener) (imageSize : ℕ × ℕ) (transform : ι → τ) (meanEntropy : List τ → ℚ)
    (drawsClean drawsPoison : ℕ → Shuffle ℕ) (numSamples : ℕ) :
    ¬ DataReadable renderer orders opener imageSize transform meanEntropy drawsClean drawsPoison
        numSamples ∧
      ¬ LoaderHasAll renderer (orders trojaiData) opener imageSize numSamples ∧
      (StripCompletes renderer (orders cleanDir) (orders poisonedDir) transform meanEntropy
        drawsClean drawsPoison numSamples ↔ 128 ≤ numSamples) := by
  have hloader := not_loaderHasAll renderer (orders trojaiData) opener imageSize numSamples
  refine ⟨?_, hloader, ?_⟩
  · intro h
    exact hloader h.loader
  · exact stripCompletes_iff renderer _ _ numSamples transform meanEntropy drawsClean drawsPoison

/-! ## The default of 100 samples -/

/-- Images without content. -/
def blankRenderer : Renderer Unit := ⟨fun _ => (), fun _ _ => ()⟩

theorem default_samples_unreadable :
    (∀ opener, outputDirLoader blankRenderer Shuffle.identity opener (224, 224) 100 =
      .error
        (.valueError "num_samples should be a positive integer value, but got num_samples=0")) ∧
    ¬ StripCompletes blankRenderer Shuffle.identity Shuffle.identity (fun _ => (0 : ℚ))
      (fun _ => 0) (fun _ => Shuffle.identity) (fun _ => Shuffle.identity) 100 := by
  constructor
  · intro opener
    exact outputDirLoader_eq blankRenderer _ opener _ 100
  · rw [stripCompletes_iff]
    decide

end TrojanDetection.Evaluation.TrojaiData
