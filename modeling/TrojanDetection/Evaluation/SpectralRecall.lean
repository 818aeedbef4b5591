import TrojanDetection.Data.Loaders
import TrojanDetection.Defenses.SpectralFlags

/-!
# The recall of spectral signatures (`eval_defenses.py`, `evaluate_spectral_signatures`)

The evaluation poisons a share of the whole training set and gives all poisoned samples the target
label. The detector flags one and a half times the same share, but of the samples of the target class
only. Which samples it flags does not matter for the following: of a training set with ten classes
of equal size, a tenth of it poisoned, it flags at most three for every ten poisoned ones, so that
the recall printed is at most 30 percent (`recall_le_thirty`).

A clean-label attack poisons samples of the target class only, and there the budget covers all
poisoned samples.
-/

set_option autoImplicit false

namespace TrojanDetection.Evaluation.SpectralRecall

open TrojanDetection.Python
open TrojanDetection.Data
open TrojanDetection.Data.BadNetsDataset
open TrojanDetection.Defenses.Activations
open TrojanDetection.Defenses.Activations.SpectralSignatures
open TrojanDetection.Library.Sampling

/-! ## The evaluation -/

/-- What a loader makes of a sample. -/
def toEntry (s : Sample) : Entry Image := ⟨s.image, s.label, some s.isPoisoned⟩

/-- A pass of the training loader, as the detector reads it. -/
def trainLoader {train : Dataset} (ds : BadNetsDataset train) (draws : Draws train)
    (pass : Pass train.length) : DataLoader Image :=
  pass.batches.map fun batch => batch.map fun i => toEntry (ds.getitem draws i)

/-- The recall that is printed, in percent; `none` if there is no poisoned sample in the class. -/
def evaluateSpectralSignatures (tools : Toolkit) (layer : Image → Except PyError Row)
    (loader : DataLoader Image) (targetClass : ℤ) (poisonRatio : ℚ) :
    Except PyError (Option ℚ) := do
  let returned ← detect tools layer loader targetClass poisonRatio (3 / 2)
  let names ← unpack 3 returned
  match names with
  | [_, .int truePos, .int totalPos] =>
      .ok (if 0 < totalPos then some (100 * truePos / totalPos) else none)
  | _ => .error (.typeError "'>' not supported")

/-! ## Counting the rows of a class -/

section Rows

variable {χ : Type} {layer : χ → Except PyError Row} {targetClass : ℤ} {entries : List (Entry χ)}

theorem length_classRows (h : LayerRuns layer entries) :
    (classRows layer targetClass entries).length =
      entries.countP fun entry => entry.label = targetClass := by
  induction entries with
  | nil => rfl
  | cons entry entries ih =>
      obtain ⟨features, hfeatures⟩ := h entry List.mem_cons_self
      have hrest := ih fun e he => h e (List.mem_cons_of_mem _ he)
      rw [classRows_cons hfeatures, List.countP_cons]
      split
      · next hlabel => rw [List.length_cons, hrest, if_pos (decide_eq_true hlabel)]
      · next hlabel => rw [hrest, if_neg (by simpa using hlabel), Nat.add_zero]

theorem countP_classRows (h : LayerRuns layer entries) :
    (classRows layer targetClass entries).countP Prod.snd =
      entries.countP fun entry => entry.label = targetClass ∧ entry.isPoisoned = some true := by
  induction entries with
  | nil => rfl
  | cons entry entries ih =>
      obtain ⟨features, hfeatures⟩ := h entry List.mem_cons_self
      have hrest := ih fun e he => h e (List.mem_cons_of_mem _ he)
      have hflag : entry.isPoisoned.getD false = true ↔ entry.isPoisoned = some true := by
        cases entry.isPoisoned <;> simp
      rw [classRows_cons hfeatures, List.countP_cons]
      split
      · next hlabel => simp [List.countP_cons, hrest, hlabel, hflag]
      · next hlabel => simp [hrest, hlabel]

end Rows

section Loader

variable {train : Dataset} (ds : BadNetsDataset train) (draws : Draws train)
  (pass : Pass train.length)

/-- A pass counts every sample of the data set once. -/
theorem countP_flatten_trainLoader (p : Entry Image → Bool) :
    (trainLoader ds draws pass).flatten.countP p =
      (List.finRange train.length).countP fun i => p (toEntry (ds.getitem draws i)) := by
  have hflat : (trainLoader ds draws pass).flatten =
      pass.batches.flatten.map fun i => toEntry (ds.getitem draws i) := by
    rw [trainLoader, List.map_flatten]
  rw [hflat, List.countP_map]
  exact pass.complete.countP_eq _

/-- The samples of the target class are the poisoned ones and those that had the label before. -/
theorem countP_label_le :
    (List.finRange train.length).countP
        (fun i => (ds.getitem draws i).label = ds.targetClass) ≤
      (List.finRange train.length).countP (fun i => i ∈ ds.poisonedIndices) +
        train.countP fun s => s.label = ds.targetClass := by
  rw [← length_targetIndices, targetIndices, ← List.countP_eq_length_filter]
  induction List.finRange train.length with
  | nil => exact Nat.zero_le _
  | cons i indices ih =>
      have hlabel := ds.label_getitem draws i
      simp only [List.countP_cons]
      by_cases hmem : i ∈ ds.poisonedIndices
      · simp only [hmem, hlabel, if_true, decide_true]
        omega
      · simp only [hmem, hlabel, if_false, decide_false, Bool.false_eq_true]
        omega

end Loader

/-! ## One call of the detector -/

/-- What is assumed of the library: `topk` meets its specification, and a singular vector exists. -/
structure Usable (tools : Toolkit) : Prop where
  topk : TopkSpec tools.topk
  topSingularVector : ∀ rows, rows ≠ [] → returns (tools.topSingularVector rows)

section Detect

variable {χ : Type} {tools : Toolkit} {layer : χ → Except PyError Row} {loader : DataLoader χ}
  {targetClass : ℤ} {r u : ℚ}

/-- As many samples are flagged as the formula says, or none if it is negative. -/
theorem length_topKIndices {topk : List ℚ → ℕ → Except PyError (List ℕ)} (htopk : TopkSpec topk)
    {scores : List ℚ} {isPoisoned : List Bool} {flagging : Flagging}
    (h : filterOutliers topk scores isPoisoned r u = .ok flagging) :
    flagging.topKIndices.length = (flagCount scores.length r u).toNat := by
  simp only [filterOutliers] at h
  split at h
  · next hk =>
      cases h
      rw [Int.toNat_of_nonpos hk]
      rfl
  · have hle : (flagCount scores.length r u).toNat ≤ scores.length := by
      have hcap : flagCount scores.length r u ≤ scores.length - 1 := min_le_right _ _
      omega
    obtain ⟨positions, hpositions, hlength, -⟩ := htopk scores _ hle
    obtain ⟨topKIndices, htop, hok⟩ := bind_eq_ok_iff.1 h
    rw [hpositions] at htop
    cases htop
    cases hok
    exact hlength

/-- What the detector reports on a class of `n` samples, `poisons` of them poisoned. -/
structure Reports (n poisons : ℕ) (r u : ℚ) (flagging : Flagging) : Prop where
  flagged : flagging.topKIndices.length = (flagCount n r u).toNat
  total : flagging.totalTruePoisons = poisons
  truePoisons_le : flagging.truePoisonsInTopK ≤ flagging.topKIndices.length

/-- On a class with samples the detector returns, with the counts of the class. -/
theorem exists_reports (htools : Usable tools) (hr : 0 ≤ r) (hu : 0 ≤ u)
    (hruns : LayerRuns layer loader.flatten) (hpresent : Present loader.flatten targetClass) :
    ∃ flagging, detect tools layer loader targetClass r u = .ok flagging.values ∧
      Reports (loader.flatten.countP fun entry => entry.label = targetClass)
        (loader.flatten.countP fun entry =>
          entry.label = targetClass ∧ entry.isPoisoned = some true) r u flagging := by
  have hrows := (classRows_ne_nil_iff hruns).2 hpresent
  have hcentered : centeredFeatures ((classRows layer targetClass loader.flatten).map Prod.fst) ≠
      [] := by
    simpa [centeredFeatures] using hrows
  obtain ⟨v, hv⟩ := htools.topSingularVector _ hcentered
  have hlen : (outlierScores v (centeredFeatures
      ((classRows layer targetClass loader.flatten).map Prod.fst))).length =
      (classRows layer targetClass loader.flatten).length := by
    simp [outlierScores, centeredFeatures]
  have hflags : ((classRows layer targetClass loader.flatten).map Prod.snd).length =
      (outlierScores v (centeredFeatures
        ((classRows layer targetClass loader.flatten).map Prod.fst))).length := by
    rw [hlen, List.length_map]
  obtain ⟨flagging, hflagging, hsound⟩ := filterOutliers_sound htools.topk hflags
    (List.ne_nil_of_length_pos (hlen ▸ List.length_pos_iff.2 hrows)) hr hu
  refine ⟨flagging, ?_, ?_, ?_, hsound.truePoisons_le_length⟩
  · rw [detect_eq_filterOutliers hruns hpresent hv, hflagging]
    rfl
  · rw [length_topKIndices htools.topk hflagging, hlen, length_classRows hruns]
  · rw [hsound.total_eq, List.countP_map, ← countP_classRows hruns]
    rfl

/-- Never more samples are flagged than their number times the ratio and the margin. -/
theorem Reports.truePoisons_le_mul {n poisons : ℕ} {flagging : Flagging}
    (h : Reports n poisons r u flagging) (hr : 0 ≤ r) (hu : 0 ≤ u) :
    (flagging.truePoisonsInTopK : ℚ) ≤ n * r * u := by
  have hcount : flagCount n r u ≤ ⌊n * r * u⌋ := (flagCount_bounds hr hu).1
  have hfloor : 0 ≤ ⌊(n : ℚ) * r * u⌋ := Int.floor_nonneg.2 (by positivity)
  have hle : (flagging.truePoisonsInTopK : ℤ) ≤ ⌊n * r * u⌋ := by
    have hflagged := h.flagged
    have htrue := h.truePoisons_le
    omega
  exact_mod_cast Int.le_floor.1 hle

/-- The margin makes up for nothing being lost: the expected poisons of a class are flagged. -/
theorem floor_le_flagCount {n : ℕ} (hn : 0 < n) :
    ⌊(n : ℚ) * (1 / 10)⌋₊ ≤ (flagCount n (1 / 10) (3 / 2)).toNat := by
  have hfloor : (⌊(n : ℚ) * (1 / 10)⌋₊ : ℤ) = ⌊(n : ℚ) * (1 / 10)⌋ :=
    Int.natCast_floor_eq_floor (by positivity)
  have hlt : ⌊(n : ℚ) * (1 / 10)⌋₊ < n := by
    rw [Nat.floor_lt (by positivity)]
    have hpos : (0 : ℚ) < n := Nat.cast_pos.2 hn
    linarith
  have hmargin : ⌊(n : ℚ) * (1 / 10)⌋ ≤ ⌊(⌊(n : ℚ) * (1 / 10)⌋ : ℚ) * (3 / 2)⌋ := by
    rw [Int.le_floor]
    have hnonneg : (0 : ℚ) ≤ ⌊(n : ℚ) * (1 / 10)⌋ := by
      exact_mod_cast Int.floor_nonneg.2 (by positivity)
    linarith
  have hcount : ⌊(n : ℚ) * (1 / 10)⌋ ≤ flagCount n (1 / 10) (3 / 2) := by
    rw [flagCount_eq (by norm_num) (by norm_num)]
    exact le_min hmargin (by omega)
  omega

end Detect

/-! ## The training set -/

section Training

variable {train test : Dataset} {r : ℚ} (targetClass : ℤ) (triggerType : TriggerType)
  (shuffleTrain : Shuffle (Index train)) (shuffleTest : Shuffle (Index test))

/-- The data set behind the training loader. -/
abbrev trainSet (r : ℚ) : BadNetsDataset train :=
  (getCifar10Dataloaders train test r targetClass triggerType shuffleTrain shuffleTest).trainSet

theorem targetClass_trainSet :
    (trainSet targetClass triggerType shuffleTrain shuffleTest r).targetClass = targetClass :=
  targetClass_init _ _ _ _ _ _

theorem countP_poisonedIndices (hr : 0 ≤ r) (hle : r ≤ 1) :
    (List.finRange train.length).countP (fun i =>
      i ∈ (trainSet targetClass triggerType shuffleTrain shuffleTest r).poisonedIndices) =
      expectedPoisoned train r targetClass triggerType true := by
  rw [← length_candidates]
  exact countP_chosen shuffleTrain hr hle

variable (draws : Draws train) (pass : Pass train.length)

/-- The poisoned samples of the class are all poisoned samples. -/
theorem countP_poisoned_trainLoader (hr : 0 ≤ r) (hle : r ≤ 1) :
    (trainLoader (trainSet targetClass triggerType shuffleTrain shuffleTest r) draws
      pass).flatten.countP
        (fun entry => entry.label = targetClass ∧ entry.isPoisoned = some true) =
      expectedPoisoned train r targetClass triggerType true := by
  rw [countP_flatten_trainLoader,
    ← countP_poisonedIndices targetClass triggerType shuffleTrain shuffleTest hr hle]
  apply List.countP_congr
  intro i _
  have hiff := poisoned_getitem_iff (trainSet targetClass triggerType shuffleTrain shuffleTest r)
    draws i
  rw [targetClass_trainSet] at hiff
  simp only [toEntry, decide_eq_true_iff, Option.some.injEq]
  rw [and_comm]
  exact hiff

/-- At most the poisoned samples join those that had the label of the class before. -/
theorem countP_label_trainLoader_le (hr : 0 ≤ r) (hle : r ≤ 1) :
    (trainLoader (trainSet targetClass triggerType shuffleTrain shuffleTest r) draws
      pass).flatten.countP (fun entry => entry.label = targetClass) ≤
      expectedPoisoned train r targetClass triggerType true +
        train.countP fun s => s.label = targetClass := by
  have hcount := countP_label_le
    (trainSet targetClass triggerType shuffleTrain shuffleTest r) draws
  rw [targetClass_trainSet, countP_poisonedIndices _ _ _ _ hr hle] at hcount
  rw [countP_flatten_trainLoader]
  exact hcount

/-- In clean-label training none join. -/
theorem countP_label_trainLoader_cleanLabel (hr : 0 ≤ r) :
    (trainLoader (trainSet targetClass .cleanLabel shuffleTrain shuffleTest r) draws
      pass).flatten.countP (fun entry => entry.label = targetClass) =
      train.countP fun s => s.label = targetClass := by
  rw [countP_flatten_trainLoader, ← length_targetIndices, targetIndices,
    ← List.countP_eq_length_filter]
  apply List.countP_congr
  intro i _
  have hlabel : ((trainSet targetClass .cleanLabel shuffleTrain shuffleTest r).getitem
      draws i).label = labelAt train i := by
    rw [label_getitem_eq_iff, targetClass_trainSet]
    exact labelAt_of_mem_cleanLabel hr rfl rfl
  simp only [toEntry, hlabel]

theorem present_of_countP_pos {χ : Type} {entries : List (Entry χ)} {c : ℤ}
    {p : Entry χ → Bool} (hlabel : ∀ entry, p entry = true → entry.label = c)
    (hpos : 0 < entries.countP p) : Present entries c := by
  obtain ⟨entry, hentry, hp⟩ := List.countP_pos_iff.1 hpos
  exact ⟨entry, hentry, hlabel entry hp⟩

end Training

/-! ## The recall -/

/-- The evaluation prints the share of the poisoned samples that were flagged. -/
theorem evaluateSpectralSignatures_eq {tools : Toolkit} {layer : Image → Except PyError Row}
    {loader : DataLoader Image} {targetClass : ℤ} {r : ℚ} {flagging : Flagging}
    (h : detect tools layer loader targetClass r (3 / 2) = .ok flagging.values) :
    evaluateSpectralSignatures tools layer loader targetClass r =
      .ok (if 0 < flagging.totalTruePoisons then
        some (100 * flagging.truePoisonsInTopK / flagging.totalTruePoisons) else none) := by
  rw [evaluateSpectralSignatures, h]
  simp only [bind, Except.bind, Flagging.values, unpack, List.length_cons, List.length_nil,
    Nat.zero_add, Nat.reduceAdd, if_true, Int.natCast_pos, Int.cast_natCast]

section Recall

variable {train test : Dataset} (targetClass : ℤ) (shuffleTrain : Shuffle (Index train))
  (shuffleTest : Shuffle (Index test)) (draws : Draws train) (pass : Pass train.length)
  {tools : Toolkit} {layer : Image → Except PyError Row}

/-- For every attack but clean-label ones: what is flagged is at most the margin times the ratio of
the class, which has grown by all poisoned samples. -/
theorem recall_le {r : ℚ} (hr : 0 ≤ r) (hle : r ≤ 1) {triggerType : TriggerType}
    (htype : triggerType ≠ .cleanLabel) (hpoisons : 0 < ⌊train.length * r⌋₊)
    (htools : Usable tools) (hlayer : ∀ image, returns (layer image)) :
    ∃ rate, evaluateSpectralSignatures tools layer
        (trainLoader (trainSet targetClass triggerType shuffleTrain shuffleTest r) draws pass)
        targetClass r = .ok (some rate) ∧
      rate ≤ 100 * ((⌊train.length * r⌋₊ + train.countP fun s => s.label = targetClass) *
        r * (3 / 2)) / ⌊train.length * r⌋₊ := by
  have hexpected : expectedPoisoned train r targetClass triggerType true =
      ⌊train.length * r⌋₊ := if_neg fun h => htype h.1
  have htotal := countP_poisoned_trainLoader targetClass triggerType shuffleTrain shuffleTest draws
    pass hr hle
  have hclass := countP_label_trainLoader_le targetClass triggerType shuffleTrain shuffleTest draws
    pass hr hle
  rw [hexpected] at htotal hclass
  have hpresent : Present (trainLoader (trainSet targetClass triggerType shuffleTrain shuffleTest r)
      draws pass).flatten targetClass :=
    present_of_countP_pos (fun entry h => (of_decide_eq_true h).1) (htotal ▸ hpoisons)
  have hmargin : (0 : ℚ) ≤ 3 / 2 := by norm_num
  obtain ⟨flagging, hdetect, hreports⟩ := exists_reports htools hr hmargin
    (fun entry _ => hlayer entry.input) hpresent
  refine ⟨100 * flagging.truePoisonsInTopK / ⌊train.length * r⌋₊, ?_, ?_⟩
  · rw [evaluateSpectralSignatures_eq hdetect, hreports.total, htotal, if_pos hpoisons]
  · have hflagged := hreports.truePoisons_le_mul hr hmargin
    have hclass' : (((trainLoader (trainSet targetClass triggerType shuffleTrain shuffleTest r)
        draws pass).flatten.countP fun entry => entry.label = targetClass : ℕ) : ℚ) ≤
        ⌊train.length * r⌋₊ + train.countP fun s => s.label = targetClass := by
      exact_mod_cast hclass
    gcongr
    refine hflagged.trans ?_
    gcongr

/-- Ten classes of equal size, a tenth of all samples poisoned: for every attack but clean-label ones
and whatever the network has learned, the recall printed is at most 30 percent. For a clean-label
attack at least as many samples are flagged as are poisoned. -/
theorem recall_le_thirty {perClass : ℕ} (hpos : 0 < perClass)
    (hlength : train.length = 10 * perClass)
    (hclass : (train.countP fun s => s.label = targetClass) = perClass) (htools : Usable tools)
    (hlayer : ∀ image, returns (layer image)) :
    (∀ triggerType, triggerType ≠ .cleanLabel → ∃ rate,
      evaluateSpectralSignatures tools layer
        (trainLoader (trainSet targetClass triggerType shuffleTrain shuffleTest (1 / 10)) draws pass)
        targetClass (1 / 10) = .ok (some rate) ∧ rate ≤ 30) ∧
    ∃ flagging : Flagging, detect tools layer
        (trainLoader (trainSet targetClass .cleanLabel shuffleTrain shuffleTest (1 / 10)) draws pass)
        targetClass (1 / 10) (3 / 2) = .ok flagging.values ∧
      flagging.totalTruePoisons ≤ flagging.topKIndices.length := by
  have hratio : (0 : ℚ) ≤ 1 / 10 := by norm_num
  have hratio_le : (1 / 10 : ℚ) ≤ 1 := by norm_num
  have hmargin : (0 : ℚ) ≤ 3 / 2 := by norm_num
  constructor
  · intro triggerType htype
    have hpoisons : ⌊(train.length : ℚ) * (1 / 10)⌋₊ = perClass := by
      rw [hlength, Nat.cast_mul, Nat.cast_ofNat, mul_comm (10 : ℚ), mul_assoc]
      norm_num
    obtain ⟨rate, hrecall, hle⟩ := recall_le targetClass shuffleTrain shuffleTest draws pass
      hratio hratio_le htype (hpoisons ▸ hpos) htools hlayer
    refine ⟨rate, hrecall, hle.trans_eq ?_⟩
    have hne : (perClass : ℚ) ≠ 0 := Nat.cast_ne_zero.2 hpos.ne'
    rw [hpoisons, hclass]
    field_simp
    norm_num
  · have hcount := countP_label_trainLoader_cleanLabel targetClass shuffleTrain shuffleTest draws
      pass hratio
    have htotal := countP_poisoned_trainLoader targetClass .cleanLabel shuffleTrain shuffleTest draws
      pass hratio hratio_le
    have hexpected : expectedPoisoned train (1 / 10) targetClass .cleanLabel true =
        ⌊(perClass : ℚ) * (1 / 10)⌋₊ := by
      rw [expectedPoisoned, if_pos ⟨rfl, rfl⟩, hclass]
    rw [hclass] at hcount
    obtain ⟨flagging, hdetect, hreports⟩ := exists_reports htools hratio hmargin
      (fun entry _ => hlayer entry.input)
      (present_of_countP_pos (fun entry h => of_decide_eq_true h) (hcount.symm ▸ hpos))
    refine ⟨flagging, hdetect, ?_⟩
    rw [hreports.total, hreports.flagged, hcount, htotal, hexpected]
    exact floor_le_flagCount hpos

end Recall

/-! ## A training set of one hundred samples -/

/-- Ten samples of each class. -/
def hundredSamples : Dataset := (List.range 100).map fun i => ⟨.cifarSized 0, i % 10⟩

theorem usable_sortingTools : Usable sortingTools where
  topk := topkSpec_sortTopk
  topSingularVector _ _ := returns_ok _

theorem firstChannel_lt : 0 < 3 := by decide

/-- A layer that reads the corner of an image. -/
def cornerFeature (image : Image) : Except PyError Row := .ok [image.corner ⟨0, firstChannel_lt⟩]

/-- Ten of the samples get the square and the label zero, or in a clean-label attack one of the ten
that have this label already. -/
theorem recall_of_hundredSamples :
    (∃ rate, evaluateSpectralSignatures sortingTools cornerFeature
      (trainLoader (trainSet 0 .square (.identity : Shuffle (Index hundredSamples))
        (.identity : Shuffle (Index [])) (1 / 10)) (fun _ => DynamicDraw.zero _) (.single _))
      0 (1 / 10) = .ok (some rate) ∧ rate ≤ 30) ∧
    ∃ flagging : Flagging, detect sortingTools cornerFeature
        (trainLoader (trainSet 0 .cleanLabel (.identity : Shuffle (Index hundredSamples))
          (.identity : Shuffle (Index [])) (1 / 10)) (fun _ => DynamicDraw.zero _) (.single _))
        0 (1 / 10) (3 / 2) = .ok flagging.values ∧
      flagging.totalTruePoisons ≤ flagging.topKIndices.length := by
  have hclass : (hundredSamples.countP fun s => s.label = 0) = 10 := by decide +kernel
  obtain ⟨hrecall, hcleanLabel⟩ := recall_le_thirty 0
    (.identity : Shuffle (Index hundredSamples)) (.identity : Shuffle (Index []))
    (fun _ => DynamicDraw.zero _) (.single _) (by decide) rfl hclass usable_sortingTools
    fun image => (returns_ok _ : returns (cornerFeature image))
  exact ⟨hrecall .square (by decide), hcleanLabel⟩

end TrojanDetection.Evaluation.SpectralRecall
