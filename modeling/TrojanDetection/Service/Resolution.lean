import TrojanDetection.Data.Loaders
import TrojanDetection.Service.ScanTask
import TrojanDetection.Service.Submission

/-!
# The images of a scan (`celery_worker.py`, `run_model_scan_task`)

The task picks a resolution from the model path and loads clean images of that size for Neural
Cleanse. Before the remaining detectors it loads the data again, from CIFAR-10 whatever the
resolution is. All detectors and explainers see one resolution exactly when the path asks for 32x32
(`oneResolution_iff`).
-/

set_option autoImplicit false

namespace TrojanDetection.Service.Resolution

open TrojanDetection.Data
open TrojanDetection.Library.Sampling
open TrojanDetection.Python
open TrojanDetection.Service.ScanTask
open TrojanDetection.Service.Submission

/-! ## Data on the server -/

/-- The images of a directory, resized on loading by `TrojAIDataset`. -/
structure ImageFolder where
  count : ℕ
  load : ℕ × ℕ → Fin count → Image
  size_load : ∀ size i, 5 ≤ size.1 → 5 ≤ size.2 → (load size i).size = size

/-- `get_trojai_dataloader`. A shuffling `DataLoader` refuses an empty data set. -/
def getTrojaiDataloader (folder : ImageFolder) (imageSize : ℕ × ℕ) :
    Except PyError (List Image) :=
  if folder.count = 0 then
    .error (.valueError "num_samples should be a positive integer value, but got num_samples=0")
  else .ok ((List.finRange folder.count).map (folder.load imageSize))

/-- CIFAR-10, whose images are 32x32 after either transform, and the two directories with larger
images; `trojai_data` need not exist. -/
structure Storage where
  cifarTrain : Dataset
  cifarTest : Dataset
  size_train : ∀ s ∈ cifarTrain, s.image.size = (32, 32)
  size_test : ∀ s ∈ cifarTest, s.image.size = (32, 32)
  test_ne_nil : cifarTest ≠ []
  trojaiData : Option ImageFolder
  sampleExternalModels : ImageFolder

/-- The directory that larger images are read from. -/
def Storage.folder (storage : Storage) : ImageFolder :=
  storage.trojaiData.getD storage.sampleExternalModels

/-- The random choices of one task. -/
structure Randomness (storage : Storage) where
  shuffleTrain : Shuffle (Index storage.cifarTrain)
  shuffleTest : Shuffle (Index storage.cifarTest)
  draws : Draws storage.cifarTrain

/-! ## Who receives what -/

/-- The parts of the task that look at images. -/
inductive Consumer
  | neuralCleanse
  | strip
  | activationClustering
  | naturalTrojanProfiler
  | gradientSimilarity
  | gradCam
  | captum
  deriving DecidableEq, Repr

/-- The images handed to a consumer. -/
structure Feed where
  consumer : Consumer
  images : List Image

/-- The trigger used once Neural Cleanse is done. -/
def resolveTriggerType (requested : String) : String :=
  if requested = "Auto-Detect (Black-Box)" then "checkerboard" else requested

/-- The images of the clean test set. -/
def Storage.testClean (storage : Storage) : List Image :=
  storage.cifarTest.map LabelledImage.image

/-- The first data of the task, for Neural Cleanse. -/
def loadCleanData (storage : Storage) (modelPath : Path) : Except PyError (List Image) :=
  if inputSize modelPath = (32, 32) then .ok storage.testClean
  else getTrojaiDataloader storage.folder (inputSize modelPath)

/-- The data that the remaining detectors and the explainers receive, for the target class and the
trigger known by then. -/
def reloadedFeeds (storage : Storage) (random : Randomness storage) (targetClass : ℤ)
    (triggerType : String) : List Feed :=
  let loaders := getCifar10Dataloaders storage.cifarTrain storage.cifarTest (1 / 10) targetClass
    (TriggerType.ofName triggerType) random.shuffleTrain random.shuffleTest
  let testClean := storage.testClean
  let sampleImg := testClean.take 1
  [⟨.strip, testClean⟩,
    ⟨.activationClustering, (loaders.trainSet.fullRead random.draws).map Sample.image⟩,
    ⟨.naturalTrojanProfiler, testClean⟩,
    ⟨.gradientSimilarity, testClean⟩,
    ⟨.gradCam, sampleImg⟩,
    ⟨.captum, sampleImg⟩]

/-- All feeds of a task on a loaded model, given how Neural Cleanse ended. -/
def scanFeeds (storage : Storage) (random : Randomness storage) (modelPath : Path)
    (targetClass : ℤ) (triggerType : String) (nc : Except PyError NeuralCleanseOutcome) :
    Except PyError (List Feed) := do
  let testClean ← loadCleanData storage modelPath
  -- the loaders are rebound without a look at the input size
  pure (⟨.neuralCleanse, testClean⟩ ::
    reloadedFeeds storage random (resolveTargetClass targetClass nc)
      (resolveTriggerType triggerType))

/-! ## One resolution -/

/-- Every image that a consumer receives has the size chosen for the model path. -/
def OneResolution (storage : Storage) (random : Randomness storage) (modelPath : Path)
    (targetClass : ℤ) (triggerType : String) (nc : Except PyError NeuralCleanseOutcome) : Prop :=
  ∀ feeds, scanFeeds storage random modelPath targetClass triggerType nc = .ok feeds →
    ∀ feed ∈ feeds, ∀ img ∈ feed.images, img.size = inputSize modelPath

theorem size_testClean (storage : Storage) {img : Image} (h : img ∈ storage.testClean) :
    img.size = (32, 32) := by
  obtain ⟨s, hs, rfl⟩ := List.mem_map.1 h
  exact storage.size_test s hs

/-- The reloaded data is 32x32, poisoned or not. -/
theorem size_reloadedFeeds (storage : Storage) (random : Randomness storage) (targetClass : ℤ)
    (triggerType : String) {feed : Feed}
    (hfeed : feed ∈ reloadedFeeds storage random targetClass triggerType) {img : Image}
    (himg : img ∈ feed.images) : img.size = (32, 32) := by
  simp only [reloadedFeeds, List.mem_cons, List.not_mem_nil, or_false] at hfeed
  rcases hfeed with rfl | rfl | rfl | rfl | rfl | rfl
  · exact size_testClean storage himg
  · obtain ⟨s, hs, rfl⟩ := List.mem_map.1 himg
    obtain ⟨i, -, rfl⟩ := List.mem_map.1 hs
    rw [BadNetsDataset.size_getitem]
    exact storage.size_train _ (List.get_mem _ i)
  · exact size_testClean storage himg
  · exact size_testClean storage himg
  · exact size_testClean storage (List.mem_of_mem_take himg)
  · exact size_testClean storage (List.mem_of_mem_take himg)

/-- Some consumer of the reloaded data receives an image. -/
theorem exists_reloaded_image (storage : Storage) (random : Randomness storage) (targetClass : ℤ)
    (triggerType : String) :
    ∃ feed ∈ reloadedFeeds storage random targetClass triggerType, ∃ img, img ∈ feed.images := by
  have hne : storage.testClean ≠ [] := by
    rw [Storage.testClean, Ne, List.map_eq_nil_iff]
    exact storage.test_ne_nil
  obtain ⟨img, himg⟩ := List.exists_mem_of_ne_nil _ hne
  exact ⟨⟨.strip, storage.testClean⟩, List.mem_cons_self, img, himg⟩

theorem five_le_inputSize (modelPath : Path) :
    5 ≤ (inputSize modelPath).1 ∧ 5 ≤ (inputSize modelPath).2 := by
  rw [inputSize]
  split
  · decide
  · split
    · decide
    · decide

/-- Neural Cleanse receives images of the size chosen for the path. -/
theorem size_loadCleanData {storage : Storage} {modelPath : Path} {images : List Image}
    (h : loadCleanData storage modelPath = .ok images) {img : Image} (himg : img ∈ images) :
    img.size = inputSize modelPath := by
  rw [loadCleanData] at h
  split at h
  · next hsize =>
      cases h
      rw [hsize]
      exact size_testClean storage himg
  · rw [getTrojaiDataloader] at h
    split at h
    · cases h
    · cases h
      obtain ⟨i, -, rfl⟩ := List.mem_map.1 himg
      have hfive := five_le_inputSize modelPath
      exact storage.folder.size_load _ i hfive.1 hfive.2

/-- A path that asks for larger images and finds some has 32x32 images in the same task. -/
theorem not_oneResolution {storage : Storage} {modelPath : Path}
    (hsize : inputSize modelPath ≠ (32, 32)) (hcount : storage.folder.count ≠ 0)
    (random : Randomness storage) (targetClass : ℤ) (triggerType : String)
    (nc : Except PyError NeuralCleanseOutcome) :
    ¬ OneResolution storage random modelPath targetClass triggerType nc := by
  intro h
  have hload : loadCleanData storage modelPath =
      .ok ((List.finRange _).map (storage.folder.load (inputSize modelPath))) := by
    rw [loadCleanData, if_neg hsize, getTrojaiDataloader, if_neg hcount]
  -- STRIP is given the reloaded images
  obtain ⟨feed, hfeed, img, himg⟩ := exists_reloaded_image storage random
    (resolveTargetClass targetClass nc) (resolveTriggerType triggerType)
  have hchosen := h _ (by rw [scanFeeds, hload]; rfl) feed (List.mem_cons_of_mem _ hfeed) img himg
  rw [size_reloadedFeeds storage random _ _ hfeed himg] at hchosen
  exact hsize hchosen.symm

/-- One task uses one resolution exactly when the path asks for 32x32, or when there is no larger
image to start from and the task fails. -/
theorem oneResolution_iff (storage : Storage) (random : Randomness storage) (modelPath : Path)
    (targetClass : ℤ) (triggerType : String) (nc : Except PyError NeuralCleanseOutcome) :
    OneResolution storage random modelPath targetClass triggerType nc ↔
      inputSize modelPath = (32, 32) ∨ storage.folder.count = 0 := by
  constructor
  · intro h
    by_contra hcond
    rw [not_or] at hcond
    exact not_oneResolution hcond.1 hcond.2 random targetClass triggerType nc h
  · intro hcond feeds hfeeds feed hfeed img himg
    obtain ⟨testClean, hload, hpure⟩ := bind_eq_ok_iff.1 hfeeds
    cases hpure
    rcases List.mem_cons.1 hfeed with rfl | hfeed
    · exact size_loadCleanData hload himg
    · by_cases hsize : inputSize modelPath = (32, 32)
      · rw [hsize]
        exact size_reloadedFeeds storage random _ _ hfeed himg
      · -- without larger images the task has ended before
        rw [loadCleanData, if_neg hsize, getTrojaiDataloader,
          if_pos (hcond.resolve_left hsize)] at hload
        cases hload

/-- A directory with one black image. -/
def oneImageFolder : ImageFolder where
  count := 1
  load size _ :=
    if h : 5 ≤ size.1 ∧ 5 ≤ size.2 then ⟨size.1, size.2, h.1, h.2, fun _ _ _ => 0⟩
    else .cifarSized 0
  size_load := by
    intro size i h1 h2
    rw [dif_pos ⟨h1, h2⟩]
    rfl

/-- One CIFAR test image and one larger image. -/
def smallStorage : Storage where
  cifarTrain := []
  cifarTest := [⟨.cifarSized 0, 0⟩]
  size_train := by
    intro s hs
    cases hs
  size_test := by
    intro s hs
    cases List.mem_singleton.1 hs
    rfl
  test_ne_nil := List.cons_ne_nil _ _
  trojaiData := none
  sampleExternalModels := oneImageFolder

/-- Randomness that keeps every order and draws zeros. -/
def orderedRandomness : Randomness smallStorage := ⟨.identity, .identity, fun _ => .zero _⟩

/-- A DenseNet is searched for triggers at 224x224 and examined at 32x32 after that. -/
theorem two_resolutions_for_densenet :
    inputSize "densenet121.pth".toList = (224, 224) ∧
      ¬ OneResolution smallStorage orderedRandomness "densenet121.pth".toList 0 "checkerboard"
        (.error .indexError) := by
  have hsize : inputSize "densenet121.pth".toList = (224, 224) := by decide
  have hcount : smallStorage.folder.count ≠ 0 := Nat.one_ne_zero
  refine ⟨hsize, not_oneResolution ?_ hcount _ _ _ _⟩
  rw [hsize]
  decide

end TrojanDetection.Service.Resolution
