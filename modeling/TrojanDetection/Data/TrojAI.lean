import TrojanDetection.Library.FileTree
import TrojanDetection.Python.Digits

/-!
# TrojAI images (`generate_trojai_samples.py`, `trojai_dataset.py`)

The generator writes its images into two sub-directories, the first half of them as clean and the
rest as poisoned. The data set reads the images that lie directly in a directory. So the
sub-directories have all images (`exists_init_subDir`), and the directory above them has none
(`init_outputDir`).
-/

set_option autoImplicit false

namespace TrojanDetection.Data

open TrojanDetection.Library
open TrojanDetection.Library.Sampling
open TrojanDetection.Python

/-! ## Reading a directory -/

/-- The first ending of an image file. -/
def png : Path := ".png".toList

/-- The second ending of an image file. -/
def jpg : Path := ".jpg".toList

/-- `file.endswith('.png') or file.endswith('.jpg')`. -/
def isImageName (file : Path) : Bool := endsWith file png || endsWith file jpg

/-- `file.split('_')[1] if '_' in file else "0"`: the second part of a name with underscores. -/
def labelStr (file : Path) : Path :=
  if '_' ∈ file then (file.splitOn '_').getD 1 [] else ['0']

/-- `int(label_str) if label_str.isdigit() else 0`. -/
def labelOf (file : Path) : Except PyError ℤ :=
  if isdigit (labelStr file) then int (labelStr file) else .ok 0

theorem splitOn_append_cons {first : Path} (h : '_' ∉ first) (rest : Path) :
    (first ++ '_' :: rest).splitOn '_' = first :: rest.splitOn '_' := by
  apply List.splitOnP_append_cons_of_forall_mem _ '_' (by decide)
  intro c hc
  rw [beq_eq_false_iff_ne]
  rintro rfl
  exact h hc

/-- The part between the first two underscores. -/
theorem labelStr_of_two {first second : Path} (hfirst : '_' ∉ first) (hsecond : '_' ∉ second)
    (rest : Path) : labelStr (first ++ '_' :: (second ++ '_' :: rest)) = second := by
  rw [labelStr, if_pos (by simp), splitOn_append_cons hfirst, splitOn_append_cons hsecond]
  rfl

/-- The part after the only underscore, with the ending of the file. -/
theorem labelStr_of_one {first second : Path} (hfirst : '_' ∉ first) (hsecond : '_' ∉ second) :
    labelStr (first ++ '_' :: second) = second := by
  have hsplit : second.splitOn '_' = [second] := by
    apply List.splitOnP_eq_singleton
    intro c hc
    rw [beq_eq_false_iff_ne]
    rintro rfl
    exact hsecond hc
  rw [labelStr, if_pos (by simp), splitOn_append_cons hfirst, hsplit]
  rfl

/-- A number after the only underscore is not read, since the ending of the file stands behind
it. -/
theorem labelOf_of_ending {first ending : Path} (hfirst : '_' ∉ first) (hending : '_' ∉ ending)
    (hdot : '.' ∈ ending) (n : ℕ) : labelOf (first ++ '_' :: (decimal n ++ ending)) = .ok 0 := by
  have hone : '_' ∉ decimal n ++ ending := by
    rw [List.mem_append, not_or]
    exact ⟨fun h => absurd (isDigit_of_mem_decimal h) (by decide), hending⟩
  have hnot : isdigit (decimal n ++ ending) = false :=
    isdigit_eq_false (List.mem_append_right _ hdot) (by decide)
  rw [labelOf, labelStr_of_one hfirst hone, hnot]
  rfl

/-- The paths of the images of a directory, with their labels. -/
structure TrojAIDataset where
  imagePaths : List (List Path)
  labels : List ℤ

namespace TrojAIDataset

variable {ι τ : Type}

/-- The images among the entries of a directory. -/
def imageFiles (order : Shuffle Path) (tree : FileTree Path ι) (dataDir : List Path) : List Path :=
  (tree.listdir order dataDir).filter isImageName

/-- `TrojAIDataset.__init__`; the order of the listing is not fixed. -/
def init (order : Shuffle Path) (tree : FileTree Path ι) (dataDir : List Path) :
    Except PyError TrojAIDataset :=
  if dataDir ∈ tree.dirs then do
    let files := imageFiles order tree dataDir
    let labels ← files.mapM labelOf
    pure ⟨files.map fun file => dataDir ++ [file], labels⟩
  -- `os.path.exists` holds for files as well
  else if dataDir ∈ tree.files.keys then .error (.osError "Not a directory")
  else pure ⟨[], []⟩

/-- `TrojAIDataset.__getitem__`; `transform` decodes and resizes an image. -/
def getitem (ds : TrojAIDataset) (tree : FileTree Path ι) (transform : ι → τ) (idx : ℕ) :
    Except PyError (τ × ℤ) :=
  match ds.imagePaths[idx]?, ds.labels[idx]? with
  | some path, some label =>
      match tree.files.lookup path with
      | some content => .ok (transform content, label)
      | none => .error (.osError "no such file")
  | _, _ => .error .indexError

/-- The data set of a directory has its images, and their labels if all of them can be read. -/
theorem init_eq_ok_iff {order : Shuffle Path} {tree : FileTree Path ι} {dataDir : List Path}
    (hdir : dataDir ∈ tree.dirs) {ds : TrojAIDataset} :
    init order tree dataDir = .ok ds ↔
      (imageFiles order tree dataDir).mapM labelOf = .ok ds.labels ∧
      ds.imagePaths = (imageFiles order tree dataDir).map fun file => dataDir ++ [file] := by
  rw [init, if_pos hdir]
  constructor
  · intro h
    obtain ⟨labels, hlabels, h⟩ := bind_eq_ok_iff.1 h
    cases h
    exact ⟨hlabels, rfl⟩
  · rintro ⟨hlabels, hpaths⟩
    refine bind_eq_ok_iff.2 ⟨ds.labels, hlabels, ?_⟩
    rw [← hpaths]
    rfl

/-- If its paths are files, a data set can be read at the indices below its length. -/
theorem returns_getitem_iff {ds : TrojAIDataset} {tree : FileTree Path ι}
    (hlabels : ds.labels.length = ds.imagePaths.length)
    (hfiles : ∀ path ∈ ds.imagePaths, path ∈ tree.files.keys) (transform : ι → τ) (idx : ℕ) :
    returns (ds.getitem tree transform idx) ↔ idx < ds.imagePaths.length := by
  constructor
  · rintro ⟨sample, h⟩
    by_contra hidx
    rw [getitem, List.getElem?_eq_none (not_lt.1 hidx)] at h
    cases h
  · intro hidx
    obtain ⟨content, hcontent⟩ := tree.files.mem_keys_iff.1 (hfiles _ (List.getElem_mem hidx))
    refine ⟨(transform content, ds.labels[idx]), ?_⟩
    rw [getitem, List.getElem?_eq_getElem hidx, List.getElem?_eq_getElem (hlabels ▸ hidx)]
    simp only [hcontent]

end TrojAIDataset

/-! ## Writing the samples -/

/-- The directory that the generator fills. -/
def trojaiData : Path := "trojai_data".toList

/-- The directory of the samples without a trigger. -/
def cleanDir : Path := "clean".toList

/-- The directory of the samples with a trigger. -/
def poisonedDir : Path := "poisoned".toList

/-- `f"sample_{i}.png"`. -/
def sampleName (i : ℕ) : Path := "sample_".toList ++ decimal i ++ png

/-- The images of a run: the noise of each sample, and the polygon drawn over it at a random
place. -/
structure Renderer (ι : Type) where
  noise : ℕ → ι
  drawPolygon : ℕ → ι → ι

/-- The sub-directory of a sample. -/
def targetDir (numSamples i : ℕ) : Path := if i ≥ numSamples / 2 then poisonedDir else cleanDir

/-- Where the `i`-th sample is saved. -/
def samplePath (numSamples i : ℕ) : List Path :=
  [trojaiData, targetDir numSamples i, sampleName i]

/-- The `i`-th sample: noise, with a polygon on it in the second half of the run. -/
def sampleImage {ι : Type} (renderer : Renderer ι) (numSamples i : ℕ) : ι :=
  if i ≥ numSamples / 2 then renderer.drawPolygon i (renderer.noise i) else renderer.noise i

/-- `generate_trojai_samples` in an empty working directory. -/
def generateTrojaiSamples {ι : Type} (renderer : Renderer ι) (numSamples : ℕ) :
    FileTree Path ι :=
  let tree := ((FileTree.empty.makedirs [trojaiData]).makedirs [trojaiData, cleanDir]).makedirs
    [trojaiData, poisonedDir]
  (List.range numSamples).foldl
    (fun tree i => tree.save (samplePath numSamples i) (sampleImage renderer numSamples i)) tree

section Generated

variable {ι : Type} (renderer : Renderer ι) (numSamples : ℕ)

theorem generateTrojaiSamples_eq :
    generateTrojaiSamples renderer numSamples =
      ⟨[[trojaiData], [trojaiData, cleanDir], [trojaiData, poisonedDir]],
        Dict.empty.insertAll ((List.range numSamples).map fun i =>
          (samplePath numSamples i, sampleImage renderer numSamples i))⟩ := by
  have hdirs : (((FileTree.empty.makedirs [trojaiData]).makedirs
      [trojaiData, cleanDir]).makedirs [trojaiData, poisonedDir] : FileTree Path ι) =
      ⟨[[trojaiData], [trojaiData, cleanDir], [trojaiData, poisonedDir]], Dict.empty⟩ := rfl
  rw [generateTrojaiSamples, hdirs]
  exact FileTree.foldl_save _ _ _ _

theorem mem_files_iff {path : List Path} :
    path ∈ (generateTrojaiSamples renderer numSamples).files.keys ↔
      ∃ i < numSamples, path = samplePath numSamples i := by
  rw [generateTrojaiSamples_eq, Dict.mem_keys_insertAll, List.map_map, List.mem_map]
  constructor
  · rintro (h | ⟨i, hi, rfl⟩)
    · exact absurd h List.not_mem_nil
    · exact ⟨i, List.mem_range.1 hi, rfl⟩
  · rintro ⟨i, hi, rfl⟩
    exact Or.inr ⟨i, List.mem_range.2 hi, rfl⟩

theorem sampleName_injective : Function.Injective sampleName := by
  intro i j h
  exact decimal_injective (List.append_cancel_left (List.append_cancel_right h))

theorem isImageName_sampleName (i : ℕ) : isImageName (sampleName i) = true := by
  rw [isImageName, Bool.or_eq_true]
  exact Or.inl (endsWith_iff.2 (List.suffix_append _ _))

theorem labelOf_sampleName (i : ℕ) : labelOf (sampleName i) = .ok 0 :=
  labelOf_of_ending (by decide : '_' ∉ "sample".toList) (by decide) (by decide) i

/-- The indices whose samples go into a sub-directory. -/
def sampleIndices (subDir : Path) : List ℕ :=
  (List.range numSamples).filter fun i => targetDir numSamples i = subDir

/-- The entries of a sub-directory are its samples. -/
theorem mem_children_subDir {subDir name : Path} :
    name ∈ (generateTrojaiSamples renderer numSamples).children [trojaiData, subDir] ↔
      name ∈ (sampleIndices numSamples subDir).map sampleName := by
  rw [FileTree.mem_children_iff, mem_files_iff, generateTrojaiSamples_eq, sampleIndices,
    List.mem_map]
  simp only [List.cons_append, List.nil_append, List.mem_cons, List.not_mem_nil, List.cons.injEq,
    reduceCtorEq, and_false, or_false, false_or, samplePath, true_and, and_true, List.mem_filter,
    List.mem_range, decide_eq_true_eq]
  constructor
  · rintro ⟨i, hi, rfl, rfl⟩
    exact ⟨i, ⟨hi, rfl⟩, rfl⟩
  · rintro ⟨i, ⟨hi, rfl⟩, rfl⟩
    exact ⟨i, hi, rfl, rfl⟩

/-- The entries of the output directory are the two sub-directories. -/
theorem mem_children_outputDir {name : Path} :
    name ∈ (generateTrojaiSamples renderer numSamples).children [trojaiData] ↔
      name = cleanDir ∨ name = poisonedDir := by
  rw [FileTree.mem_children_iff, mem_files_iff, generateTrojaiSamples_eq]
  simp [samplePath]

theorem nodup_sampleNames (subDir : Path) :
    ((sampleIndices numSamples subDir).map sampleName).Nodup :=
  (List.nodup_range.filter _).map sampleName_injective

/-- The first half of the samples is clean. -/
theorem length_sampleIndices :
    (sampleIndices numSamples cleanDir).length = numSamples / 2 ∧
      (sampleIndices numSamples poisonedDir).length = numSamples - numSamples / 2 := by
  have hsplit : List.range numSamples = List.range (numSamples / 2) ++
      (List.range (numSamples - numSamples / 2)).map (numSamples / 2 + ·) := by
    rw [← List.range_add]
    congr 1
    omega
  have hne : poisonedDir ≠ cleanDir := by decide
  have hclean : ∀ i ∈ List.range (numSamples / 2), targetDir numSamples i = cleanDir := by
    intro i hi
    exact if_neg (not_le.2 (List.mem_range.1 hi))
  have hpoisoned : ∀ i ∈ (List.range (numSamples - numSamples / 2)).map (numSamples / 2 + ·),
      targetDir numSamples i = poisonedDir := by
    intro i hi
    obtain ⟨j, -, rfl⟩ := List.mem_map.1 hi
    exact if_pos (Nat.le_add_right _ _)
  constructor
  · rw [sampleIndices, hsplit, List.filter_append,
      List.filter_eq_self.2 fun i hi => decide_eq_true (hclean i hi),
      List.filter_eq_nil_iff.2 fun i hi => by simpa [hpoisoned i hi] using hne,
      List.append_nil, List.length_range]
  · rw [sampleIndices, hsplit, List.filter_append,
      List.filter_eq_nil_iff.2 fun i hi => by simpa [hclean i hi] using hne.symm,
      List.filter_eq_self.2 fun i hi => decide_eq_true (hpoisoned i hi),
      List.nil_append, List.length_map, List.length_range]

/-! ## What the data sets find -/

variable (order : Shuffle Path)

/-- No image lies directly in the output directory. -/
theorem init_outputDir :
    TrojAIDataset.init order (generateTrojaiSamples renderer numSamples) [trojaiData] =
      .ok ⟨[], []⟩ := by
  have hmem : [trojaiData] ∈ (generateTrojaiSamples renderer numSamples).dirs := by
    rw [generateTrojaiSamples_eq]
    exact List.mem_cons_self
  have hnone : TrojAIDataset.imageFiles order (generateTrojaiSamples renderer numSamples)
      [trojaiData] = [] := by
    rw [TrojAIDataset.imageFiles, List.filter_eq_nil_iff]
    intro name hname
    have hchild := (order.perm _).mem_iff.1 hname
    rw [mem_children_outputDir] at hchild
    rcases hchild with rfl | rfl
    · decide
    · decide
  rw [TrojAIDataset.init_eq_ok_iff hmem, hnone]
  exact ⟨rfl, rfl⟩

/-- A sub-directory holds its samples, in some order and all with label 0. -/
theorem init_subDir {subDir : Path} (hdir : subDir = cleanDir ∨ subDir = poisonedDir) :
    ∃ files : List Path, files.Perm ((sampleIndices numSamples subDir).map sampleName) ∧
      TrojAIDataset.init order (generateTrojaiSamples renderer numSamples) [trojaiData, subDir] =
        .ok ⟨files.map fun file => [trojaiData, subDir, file], files.map fun _ => 0⟩ := by
  have hmem : [trojaiData, subDir] ∈ (generateTrojaiSamples renderer numSamples).dirs := by
    rw [generateTrojaiSamples_eq]
    rcases hdir with rfl | rfl
    · exact List.mem_cons_of_mem _ List.mem_cons_self
    · exact List.mem_cons_of_mem _ (List.mem_cons_of_mem _ List.mem_cons_self)
  have hperm := FileTree.perm_listdir order (nodup_sampleNames numSamples subDir)
    fun name => mem_children_subDir renderer numSamples
  have hsample : ∀ name ∈ (generateTrojaiSamples renderer numSamples).listdir order
      [trojaiData, subDir], ∃ i, name = sampleName i := by
    intro name hname
    obtain ⟨i, -, rfl⟩ := List.mem_map.1 (hperm.mem_iff.1 hname)
    exact ⟨i, rfl⟩
  have hall : TrojAIDataset.imageFiles order (generateTrojaiSamples renderer numSamples)
      [trojaiData, subDir] =
      (generateTrojaiSamples renderer numSamples).listdir order [trojaiData, subDir] := by
    rw [TrojAIDataset.imageFiles, List.filter_eq_self]
    intro name hname
    obtain ⟨i, rfl⟩ := hsample name hname
    exact isImageName_sampleName i
  refine ⟨_, hperm, ?_⟩
  rw [TrojAIDataset.init_eq_ok_iff hmem, hall]
  refine ⟨mapM_eq_ok_of_forall ?_, rfl⟩
  intro name hname
  obtain ⟨i, rfl⟩ := hsample name hname
  exact labelOf_sampleName i

/-- The data set of a sub-directory: its paths are files, and it has a label for each. -/
theorem exists_init_subDir {subDir : Path} (hdir : subDir = cleanDir ∨ subDir = poisonedDir) :
    ∃ ds, TrojAIDataset.init order (generateTrojaiSamples renderer numSamples)
        [trojaiData, subDir] = .ok ds ∧ ds.labels.length = ds.imagePaths.length ∧
      ds.imagePaths.length = (sampleIndices numSamples subDir).length ∧
      ∀ path ∈ ds.imagePaths, path ∈ (generateTrojaiSamples renderer numSamples).files.keys := by
  obtain ⟨files, hperm, hinit⟩ := init_subDir renderer numSamples order hdir
  refine ⟨_, hinit, by simp, ?_, ?_⟩
  · rw [List.length_map, hperm.length_eq, List.length_map]
  · intro path hpath
    obtain ⟨file, hfile, rfl⟩ := List.mem_map.1 hpath
    obtain ⟨i, hi, rfl⟩ := List.mem_map.1 (hperm.mem_iff.1 hfile)
    rw [sampleIndices, List.mem_filter, List.mem_range, decide_eq_true_eq] at hi
    rw [mem_files_iff]
    exact ⟨i, hi.1, by rw [samplePath, hi.2]⟩

end Generated

end TrojanDetection.Data
