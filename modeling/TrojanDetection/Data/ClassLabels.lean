import TrojanDetection.Data.TrojAI

/-!
# Labels in file names (`trojai_dataset.py`, `TrojAIDataset.__init__`)

The label of an image is read from its name, `class_0_image1.png`. The text between the first two
underscores goes through `int` if it consists of digits. Not every such text can be read, and in a
name with one underscore the ending of the file is part of the text.

`readsClasses_iff` says in which directories the construction completes and reads every class.
-/

set_option autoImplicit false

namespace TrojanDetection.Data.ClassLabels

open TrojanDetection.Library
open TrojanDetection.Library.Sampling
open TrojanDetection.Python

variable {ι : Type}

/-! ## The label of one file -/

/-- A text of digits that `int` reads. -/
def IntText (text : Path) : Prop :=
  (∀ c ∈ text, isDecimalChar c = true) ∧ text.length ≤ 4300

theorem returns_labelOf_iff {file : Path} :
    returns (labelOf file) ↔ (isdigit (labelStr file) = true → IntText (labelStr file)) := by
  rw [labelOf]
  cases hdigit : isdigit (labelStr file) with
  | false => exact iff_of_true (returns_ok 0) (fun h => by cases h)
  | true =>
      simp only [if_true, true_imp_iff]
      exact returns_int_iff

theorem labelOf_nonneg {file : Path} {label : ℤ} (h : labelOf file = .ok label) : 0 ≤ label := by
  rw [labelOf] at h
  split at h
  · rw [int_eq_ok h]
    exact Int.natCast_nonneg _
  · cases h
    exact Int.le_refl 0

/-- `class_<c>`. -/
def className (c : ℕ) : Path := "class".toList ++ '_' :: decimal c

theorem className_append (c : ℕ) (tail : Path) :
    className c ++ tail = "class".toList ++ '_' :: (decimal c ++ tail) :=
  List.append_assoc _ _ _

theorem underscore_notMem_class : '_' ∉ "class".toList := by decide

/-- The names of images that state a class. -/
inductive NamesClass (c : ℕ) : Path → Prop
  | png : NamesClass c (className c ++ png)
  | jpg : NamesClass c (className c ++ jpg)
  | rest (rest : Path) (h : isImageName (className c ++ '_' :: rest) = true) :
      NamesClass c (className c ++ '_' :: rest)

/-- Directly before the ending, a class is not read. -/
theorem labelOf_className_ending {ending : Path} (h : ending = png ∨ ending = jpg) (c : ℕ) :
    labelOf (className c ++ ending) = .ok 0 := by
  rw [className_append]
  rcases h with rfl | rfl
  · exact labelOf_of_ending underscore_notMem_class (by decide) (by decide) c
  · exact labelOf_of_ending underscore_notMem_class (by decide) (by decide) c

/-- Before another underscore, a class is read, up to the limit of `int`. -/
theorem labelOf_className_rest {c : ℕ} {rest : Path}
    (h : returns (labelOf (className c ++ '_' :: rest))) :
    labelOf (className c ++ '_' :: rest) = .ok (c : ℤ) := by
  have hlabel : labelStr (className c ++ '_' :: rest) = decimal c := by
    rw [className_append]
    exact labelStr_of_two underscore_notMem_class
      (fun h => absurd (isDigit_of_mem_decimal h) (by decide)) rest
  have htext := returns_labelOf_iff.1 h
  rw [hlabel] at htext
  rw [labelOf, hlabel, if_pos (isdigit_decimal c)]
  exact int_decimal (htext (isdigit_decimal c)).2

/-! ## The labels of a directory -/

/-- One label that is not negative for each image, at its position, and the class where the name
states one. -/
structure ReadsClasses (files : List Path) (dataDir : List Path) (ds : TrojAIDataset) : Prop where
  imagePaths : ds.imagePaths = files.map fun file => dataDir ++ [file]
  length_labels : ds.labels.length = files.length
  nonneg : ∀ label ∈ ds.labels, 0 ≤ label
  classes : ∀ (i : ℕ) file c, files[i]? = some file → NamesClass c file →
    ds.labels[i]? = some (c : ℤ)

/-- The construction returns and reads all classes exactly if each text of digits in the place of a
label can be read by `int`, and only class 0 stands directly before the ending. -/
theorem readsClasses_iff (order : Shuffle Path) {tree : FileTree Path ι} {dataDir : List Path}
    (hdir : dataDir ∈ tree.dirs) :
    (∃ ds, TrojAIDataset.init order tree dataDir = .ok ds ∧
      ReadsClasses (TrojAIDataset.imageFiles order tree dataDir) dataDir ds) ↔
    (∀ file ∈ tree.children dataDir, isImageName file = true →
      isdigit (labelStr file) = true → IntText (labelStr file)) ∧
    ∀ c, (className c ++ png ∈ tree.children dataDir ∨ className c ++ jpg ∈ tree.children dataDir) →
      c = 0 := by
  have himages : ∀ file, file ∈ TrojAIDataset.imageFiles order tree dataDir ↔
      file ∈ tree.children dataDir ∧ isImageName file = true := by
    intro file
    rw [TrojAIDataset.imageFiles, List.mem_filter]
    exact and_congr_left' (order.perm _).mem_iff
  constructor
  · rintro ⟨ds, hinit, hreads⟩
    obtain ⟨hlabels, -⟩ := (TrojAIDataset.init_eq_ok_iff hdir).1 hinit
    have hreturns := returns_mapM_iff.1 ⟨_, hlabels⟩
    -- a class before the ending has label 0
    have hzero : ∀ c ending, ending = png ∨ ending = jpg → NamesClass c (className c ++ ending) →
        isImageName (className c ++ ending) = true →
        className c ++ ending ∈ tree.children dataDir → c = 0 := by
      intro c ending hending hnames himage hmem
      obtain ⟨i, hi⟩ := List.mem_iff_getElem?.1 ((himages _).2 ⟨hmem, himage⟩)
      obtain ⟨label, hlabel, hround⟩ := getElem?_of_mapM_eq_ok hlabels hi
      rw [labelOf_className_ending hending, Except.ok.injEq] at hround
      rw [hreads.classes i _ c hi hnames, ← hround, Option.some.injEq] at hlabel
      exact_mod_cast hlabel
    refine ⟨fun file hfile himage => ?_, ?_⟩
    · exact returns_labelOf_iff.1 (hreturns file ((himages file).2 ⟨hfile, himage⟩))
    · rintro c (hmem | hmem)
      · exact hzero c png (.inl rfl) .png (by simp [isImageName, endsWith_iff]) hmem
      · exact hzero c jpg (.inr rfl) .jpg (by simp [isImageName, endsWith_iff]) hmem
  · rintro ⟨htexts, hzero⟩
    have hreturns : returns ((TrojAIDataset.imageFiles order tree dataDir).mapM labelOf) := by
      apply returns_mapM_iff.2
      intro file hfile
      obtain ⟨hmem, himage⟩ := (himages file).1 hfile
      exact returns_labelOf_iff.2 (htexts file hmem himage)
    obtain ⟨labels, hlabels⟩ := hreturns
    refine ⟨⟨_, labels⟩, (TrojAIDataset.init_eq_ok_iff hdir).2 ⟨hlabels, rfl⟩, rfl,
      length_of_mapM_eq_ok hlabels, ?_, ?_⟩
    · intro label hlabel
      obtain ⟨file, -, hround⟩ := exists_of_mem_mapM hlabels hlabel
      exact labelOf_nonneg hround
    · intro i file c hi hnames
      obtain ⟨label, hlabel, hround⟩ := getElem?_of_mapM_eq_ok hlabels hi
      have hmem := ((himages file).1 (List.mem_of_getElem? hi)).1
      have hclass : labelOf file = .ok (c : ℤ) := by
        cases hnames with
        | png =>
            rw [labelOf_className_ending (.inl rfl), hzero c (.inl hmem)]
            rfl
        | jpg =>
            rw [labelOf_className_ending (.inr rfl), hzero c (.inr hmem)]
            rfl
        | rest rest himage => exact labelOf_className_rest ⟨label, hround⟩
      rw [hclass, Except.ok.injEq] at hround
      rw [hround]
      exact hlabel

/-- A directory with one file. -/
def oneFile (file : Path) : FileTree Path Unit :=
  (FileTree.empty.makedirs [trojaiData]).save [trojaiData, file] ()

/-- The name in the comment of the source. -/
theorem image1_readsClasses :
    [trojaiData] ∈ (oneFile "class_0_image1.png".toList).dirs ∧
    ∃ ds, TrojAIDataset.init Shuffle.identity (oneFile "class_0_image1.png".toList)
        [trojaiData] = .ok ds ∧
      ReadsClasses (TrojAIDataset.imageFiles Shuffle.identity
        (oneFile "class_0_image1.png".toList) [trojaiData]) [trojaiData] ds := by
  have hdir : [trojaiData] ∈ (oneFile "class_0_image1.png".toList).dirs := by
    decide
  have hchildren : (oneFile "class_0_image1.png".toList).children [trojaiData] =
      ["class_0_image1.png".toList] := by
    rfl
  have hlabel : labelStr "class_0_image1.png".toList = ['0'] := by
    decide
  -- another ending would leave an underscore among the digits
  have hnot : ∀ c, ∀ ending : Path, ending.length = 4 →
      className c ++ ending ≠ "class_0_image1.png".toList := by
    intro c ending hlength heq
    have hsplit : "class_0_image1.png".toList =
        "class".toList ++ '_' :: ("0_image1".toList ++ ".png".toList) := by
      decide
    rw [className_append, hsplit] at heq
    have hdigits := (List.append_inj' (List.cons.inj (List.append_cancel_left heq)).2 hlength).1
    have hmem : '_' ∈ decimal c := by
      rw [hdigits]
      decide
    exact absurd (isDigit_of_mem_decimal hmem) (by decide)
  refine ⟨hdir, (readsClasses_iff Shuffle.identity hdir).2 ⟨?_, ?_⟩⟩
  · intro file hfile _ _
    rw [hchildren, List.mem_singleton] at hfile
    rw [hfile, hlabel]
    exact ⟨List.forall_mem_singleton.2 (isDecimalChar_of_isDigit (by decide)), by decide⟩
  · intro c hc
    rw [hchildren, List.mem_singleton, List.mem_singleton] at hc
    rcases hc with hc | hc
    · exact absurd hc (hnot c png rfl)
    · exact absurd hc (hnot c jpg rfl)

/-- The class of `class_3.png` is not read, and a superscript in the place of a label makes the
construction raise. -/
theorem class_3_and_superscript_not_read :
    TrojAIDataset.init Shuffle.identity (oneFile "class_3.png".toList) [trojaiData] =
      .ok ⟨[[trojaiData, "class_3.png".toList]], [0]⟩ ∧
    TrojAIDataset.init Shuffle.identity (oneFile "scan_²_a.png".toList) [trojaiData] =
      .error (.valueError "invalid literal for int() with base 10") := by
  constructor
  · rfl
  · rfl

end TrojanDetection.Data.ClassLabels
