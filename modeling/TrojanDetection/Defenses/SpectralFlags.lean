import TrojanDetection.Defenses.Activations
import TrojanDetection.Library.Positions
import Mathlib.Algebra.Order.Floor.Ring
import Mathlib.Tactic.Linarith
import Mathlib.Tactic.Positivity

/-!
# What spectral signatures flag (`defenses.py`, `SpectralSignatures.detect`)

The last step of `detect` flags the samples with the largest outlier scores and counts the poisoned
ones among them. It is taken out as `filterOutliers`, a function of any list of scores and any
poison flags; `detect_eq_filterOutliers` puts it back.

The number of flagged samples is a floor of a floor. It is at most the documented
`floor(N * ratio * margin)`, and falls short of it by at most `ceil(margin)` unless all but one
sample are flagged (`flagCount_bounds`).
-/

set_option autoImplicit false

namespace TrojanDetection.Defenses.Activations.SpectralSignatures

open TrojanDetection.Python
open TrojanDetection.Library

/-! ## The last step -/

/-- The three components that `detect` returns for a class with samples. -/
structure Flagging where
  topKIndices : List ℕ
  truePoisonsInTopK : ℕ
  totalTruePoisons : ℕ
  deriving DecidableEq, Repr

/-- The positions of the tuple that `detect` returns. -/
def Flagging.values (flagging : Flagging) : List Value :=
  [.indices flagging.topKIndices, .int flagging.truePoisonsInTopK, .int flagging.totalTruePoisons]

/-- Step 4 of `detect`: filter outliers. -/
def filterOutliers (topk : List ℚ → ℕ → Except PyError (List ℕ)) (outlierScores : List ℚ)
    (isPoisoned : List Bool) (expectedPoisonRatio margin : ℚ) : Except PyError Flagging :=
  let k := flagCount outlierScores.length expectedPoisonRatio margin
  let totalTruePoisons := isPoisoned.countP id
  if k ≤ 0 then .ok ⟨[], 0, totalTruePoisons⟩
  else do
    let topKIndices ← topk outlierScores k.toNat
    .ok ⟨topKIndices, topKIndices.countP fun i => isPoisoned.getD i false, totalTruePoisons⟩

variable {χ : Type}

/-- `detect` on the rows of a class is its last step on the scores of the rows. -/
theorem examine_eq_filterOutliers {tools : Toolkit} {expectedPoisonRatio margin : ℚ}
    {rows : List (Row × Bool)} {v : Row}
    (hv : tools.topSingularVector (centeredFeatures (rows.map Prod.fst)) = .ok v) :
    examine tools expectedPoisonRatio margin rows =
      (filterOutliers tools.topk (outlierScores v (centeredFeatures (rows.map Prod.fst)))
        (rows.map Prod.snd) expectedPoisonRatio margin).map Flagging.values := by
  have hlen : (outlierScores v (centeredFeatures (rows.map Prod.fst))).length = rows.length := by
    simp [outlierScores, centeredFeatures]
  have hcount : (rows.map Prod.snd).countP id = rows.countP Prod.snd := by
    rw [List.countP_map]
    rfl
  have htrue : ∀ indices : List ℕ,
      indices.countP (fun i => (rows.map Prod.snd).getD i false) =
        SpectralSignatures.truePoisonsInTopK rows indices := by
    intro indices
    rw [SpectralSignatures.truePoisonsInTopK]
    simp only [List.getD_eq_getElem?_getD, List.getElem?_map]
  simp only [examine, filterOutliers, hv, hlen, hcount, htrue]
  show (if _ then _ else _) = _
  split
  · rfl
  · cases tools.topk (outlierScores v (centeredFeatures (rows.map Prod.fst)))
      (flagCount rows.length expectedPoisonRatio margin).toNat with
    | error e => rfl
    | ok indices => rfl

/-- `detect` on a class with samples is its last step on their scores. -/
theorem detect_eq_filterOutliers {tools : Toolkit} {layer : χ → Except PyError Row}
    {loader : DataLoader χ} {targetClass : ℤ} {expectedPoisonRatio margin : ℚ}
    (hruns : LayerRuns layer loader.flatten) (hpresent : Present loader.flatten targetClass)
    {v : Row} (hv : tools.topSingularVector (centeredFeatures
      ((classRows layer targetClass loader.flatten).map Prod.fst)) = .ok v) :
    detect tools layer loader targetClass expectedPoisonRatio margin =
      (filterOutliers tools.topk
        (outlierScores v (centeredFeatures
          ((classRows layer targetClass loader.flatten).map Prod.fst)))
        ((classRows layer targetClass loader.flatten).map Prod.snd)
        expectedPoisonRatio margin).map Flagging.values := by
  have hfound : getRepresentations layer loader targetClass =
      .ok (some (classRows layer targetClass loader.flatten)) :=
    getRepresentations_eq_ok_iff.2 ⟨hruns, (if_pos hpresent).symm⟩
  rw [detect, onRepresentations, hfound, ← examine_eq_filterOutliers hv]
  rfl

/-! ## The budget -/

/-- A floor of a sum is at most a floor plus a ceiling. -/
theorem floor_add_le_floor_add_ceil (x y : ℚ) : ⌊x + y⌋ ≤ ⌊x⌋ + ⌈y⌉ := by
  rw [← Int.floor_add_intCast]
  exact Int.floor_mono (add_le_add_right (Int.le_ceil y) x)

/-- Flooring a factor first loses at most the ceiling of the other factor. -/
theorem floor_mul_sub_ceil_le {a u : ℚ} (hu : 0 ≤ u) : ⌊a * u⌋ - ⌈u⌉ ≤ ⌊(⌊a⌋ : ℚ) * u⌋ := by
  have hle : a * u ≤ ⌊a⌋ * u + u := by
    have hfloor : a ≤ ⌊a⌋ + 1 := (Int.lt_floor_add_one a).le
    calc a * u ≤ (⌊a⌋ + 1) * u := mul_le_mul_of_nonneg_right hfloor hu
      _ = ⌊a⌋ * u + u := by rw [add_mul, one_mul]
  have hsum := (Int.floor_mono hle).trans (floor_add_le_floor_add_ceil _ _)
  omega

theorem flagCount_eq {n : ℕ} {r u : ℚ} (hr : 0 ≤ r) (hu : 0 ≤ u) :
    flagCount n r u = min ⌊(⌊n * r⌋ : ℚ) * u⌋ (n - 1) := by
  have hexpected : 0 ≤ (n : ℚ) * r := by positivity
  have hfloor : (0 : ℚ) ≤ ⌊(n : ℚ) * r⌋ := by exact_mod_cast Int.floor_nonneg.2 hexpected
  have hbudget : 0 ≤ (⌊(n : ℚ) * r⌋ : ℚ) * u := mul_nonneg hfloor hu
  rw [flagCount]
  simp only [truncate_of_nonneg hexpected, truncate_of_nonneg hbudget]

/-- The number of flagged samples against the documented budget. -/
theorem flagCount_bounds {n : ℕ} {r u : ℚ} (hr : 0 ≤ r) (hu : 0 ≤ u) :
    flagCount n r u ≤ ⌊n * r * u⌋ ∧ flagCount n r u ≤ n - 1 ∧
      min (⌊n * r * u⌋ - ⌈u⌉) (n - 1) ≤ flagCount n r u := by
  rw [flagCount_eq hr hu]
  have hle : ⌊(⌊n * r⌋ : ℚ) * u⌋ ≤ ⌊n * r * u⌋ :=
    Int.floor_mono (mul_le_mul_of_nonneg_right (Int.floor_le _) hu)
  refine ⟨(min_le_left _ _).trans hle, min_le_right _ _, ?_⟩
  exact min_le_min_right _ (floor_mul_sub_ceil_le hu)

/-! ## Soundness -/

/-- What is assumed of `torch.topk`: it returns `k` different positions of largest values. -/
def TopkSpec (topk : List ℚ → ℕ → Except PyError (List ℕ)) : Prop :=
  ∀ (scores : List ℚ) (k : ℕ), k ≤ scores.length → ∃ positions, topk scores k = .ok positions ∧
    positions.length = k ∧ positions.Nodup ∧ (∀ i ∈ positions, i < scores.length) ∧
    ∀ i ∈ positions, ∀ j < scores.length, j ∉ positions → scores.getD j 0 ≤ scores.getD i 0

/-- The flagged samples are different ones with the largest scores, as many as the budget allows,
and the counts are those of the poison flags. -/
structure SoundFlagging (scores : List ℚ) (isPoisoned : List Bool) (r u : ℚ)
    (flagging : Flagging) : Prop where
  nodup : flagging.topKIndices.Nodup
  lt : ∀ i ∈ flagging.topKIndices, i < scores.length
  le_budget : (flagging.topKIndices.length : ℤ) ≤ ⌊scores.length * r * u⌋
  lt_length : flagging.topKIndices.length < scores.length
  budget_le : min (⌊scores.length * r * u⌋ - ⌈u⌉) (scores.length - 1) ≤
    flagging.topKIndices.length
  largest : ∀ i ∈ flagging.topKIndices, ∀ j < scores.length, j ∉ flagging.topKIndices →
    scores.getD j 0 ≤ scores.getD i 0
  truePoisons_eq : flagging.truePoisonsInTopK =
    flagging.topKIndices.countP fun i => isPoisoned.getD i false
  total_eq : flagging.totalTruePoisons = isPoisoned.countP id
  truePoisons_le_length : flagging.truePoisonsInTopK ≤ flagging.topKIndices.length
  truePoisons_le_total : flagging.truePoisonsInTopK ≤ flagging.totalTruePoisons

section Sound

variable {scores : List ℚ} {isPoisoned : List Bool} {r u : ℚ}

/-- Nothing is expected: flagging no sample is within the budget. -/
theorem soundFlagging_nil (hne : scores ≠ []) (hr : 0 ≤ r) (hu : 0 ≤ u)
    (hk : flagCount scores.length r u ≤ 0) :
    SoundFlagging scores isPoisoned r u ⟨[], 0, isPoisoned.countP id⟩ where
  nodup := List.nodup_nil
  lt := fun i hi => absurd hi List.not_mem_nil
  le_budget := Int.floor_nonneg.2 (by positivity)
  lt_length := List.length_pos_iff.2 hne
  budget_le := (flagCount_bounds hr hu).2.2.trans hk
  largest := fun i hi => absurd hi List.not_mem_nil
  truePoisons_eq := rfl
  total_eq := rfl
  truePoisons_le_length := le_rfl
  truePoisons_le_total := Nat.zero_le _

/-- As many positions of largest scores as the budget allows are a sound flagging. -/
theorem soundFlagging_positions (hlen : isPoisoned.length = scores.length) (hr : 0 ≤ r)
    (hu : 0 ≤ u) {positions : List ℕ}
    (hlength : (positions.length : ℤ) = flagCount scores.length r u) (hnodup : positions.Nodup)
    (hlt : ∀ i ∈ positions, i < scores.length)
    (hlargest : ∀ i ∈ positions, ∀ j < scores.length, j ∉ positions →
      scores.getD j 0 ≤ scores.getD i 0) :
    SoundFlagging scores isPoisoned r u
      ⟨positions, positions.countP fun i => isPoisoned.getD i false, isPoisoned.countP id⟩ := by
  obtain ⟨hbudget, hcap, hshort⟩ := flagCount_bounds (n := scores.length) hr hu
  rw [← hlength] at hbudget hcap hshort
  exact
    { nodup := hnodup
      lt := hlt
      le_budget := hbudget
      lt_length := by
        show positions.length < scores.length
        omega
      budget_le := hshort
      largest := hlargest
      truePoisons_eq := rfl
      total_eq := rfl
      truePoisons_le_length := List.countP_le_length
      truePoisons_le_total := Positions.countP_getD_le hnodup fun i hi => hlen ▸ hlt i hi }

/-- The last step returns, and what it flags is sound, for any scores and flags of a class. -/
theorem filterOutliers_sound {topk : List ℚ → ℕ → Except PyError (List ℕ)} (htopk : TopkSpec topk)
    (hlen : isPoisoned.length = scores.length) (hne : scores ≠ []) (hr : 0 ≤ r) (hu : 0 ≤ u) :
    ∃ flagging, filterOutliers topk scores isPoisoned r u = .ok flagging ∧
      SoundFlagging scores isPoisoned r u flagging := by
  rw [filterOutliers]
  by_cases hk : flagCount scores.length r u ≤ 0
  · exact ⟨_, if_pos hk, soundFlagging_nil hne hr hu hk⟩
  · have hcap := (flagCount_bounds (n := scores.length) hr hu).2.1
    have hle : (flagCount scores.length r u).toNat ≤ scores.length := by omega
    obtain ⟨positions, hpositions, hlength, hnodup, hlt, hlargest⟩ := htopk scores _ hle
    have hcast : (positions.length : ℤ) = flagCount scores.length r u := by omega
    refine ⟨_, ?_, soundFlagging_positions hlen hr hu hcast hnodup hlt hlargest⟩
    simp only [if_neg hk, hpositions]
    rfl

end Sound

/-- With a `topk` that meets its specification, the last step flags soundly on every list of
scores and flags, and so does `detect` on every class with samples. -/
theorem detect_flags_soundly {tools : Toolkit} (htopk : TopkSpec tools.topk) {r u : ℚ}
    (hr : 0 ≤ r) (hu : 0 ≤ u) :
    (∀ (scores : List ℚ) (isPoisoned : List Bool), isPoisoned.length = scores.length →
      scores ≠ [] → ∃ flagging, filterOutliers tools.topk scores isPoisoned r u = .ok flagging ∧
        SoundFlagging scores isPoisoned r u flagging) ∧
    ∀ (layer : χ → Except PyError Row) (loader : DataLoader χ) (targetClass : ℤ) (v : Row),
      LayerRuns layer loader.flatten → Present loader.flatten targetClass →
      tools.topSingularVector (centeredFeatures
        ((classRows layer targetClass loader.flatten).map Prod.fst)) = .ok v →
      ∃ flagging, detect tools layer loader targetClass r u = .ok flagging.values ∧
        SoundFlagging
          (outlierScores v (centeredFeatures
            ((classRows layer targetClass loader.flatten).map Prod.fst)))
          ((classRows layer targetClass loader.flatten).map Prod.snd) r u flagging := by
  refine ⟨fun scores isPoisoned hlen hne => filterOutliers_sound htopk hlen hne hr hu, ?_⟩
  intro layer loader targetClass v hruns hpresent hv
  have hrows := (classRows_ne_nil_iff hruns).2 hpresent
  have hscores : outlierScores v (centeredFeatures
      ((classRows layer targetClass loader.flatten).map Prod.fst)) ≠ [] := by
    simpa [outlierScores, centeredFeatures] using hrows
  have hlen : ((classRows layer targetClass loader.flatten).map Prod.snd).length =
      (outlierScores v (centeredFeatures
        ((classRows layer targetClass loader.flatten).map Prod.fst))).length := by
    simp [outlierScores, centeredFeatures]
  obtain ⟨flagging, hflagging, hsound⟩ := filterOutliers_sound htopk hlen hscores hr hu
  refine ⟨flagging, ?_, hsound⟩
  rw [detect_eq_filterOutliers hruns hpresent hv, hflagging]
  rfl

/-! ## A sorting implementation -/

/-- The positions of the `k` largest scores, by sorting. -/
def sortTopk (scores : List ℚ) (k : ℕ) : Except PyError (List ℕ) :=
  .ok ((Positions.sortPositions (fun i => -scores.getD i 0) (List.range scores.length)).take k)

theorem topkSpec_sortTopk : TopkSpec sortTopk := by
  intro scores k hk
  have hranking := Positions.isRanking_sortPositions (fun i => -scores.getD i 0)
    (List.range scores.length)
  refine ⟨_, rfl, hranking.length_take (by rwa [List.length_range]),
    hranking.nodup_take List.nodup_range k,
    fun i hi => List.mem_range.1 (hranking.mem_of_mem_take hi), ?_⟩
  intro i hi j hj hleft
  exact neg_le_neg_iff.1 (hranking.key_le hi (List.mem_range.2 hj) hleft)

/-- Tools that sort; the class has one feature, so the singular vector is the unit vector. -/
def sortingTools : Toolkit where
  kmeans _ := .ok []
  dbscan _ := .ok []
  silhouetteScore _ _ := .ok 0
  tsnePlot _ _ := .ok ""
  topSingularVector _ := .ok [1]
  topk := sortTopk

/-- Three samples of class 0 in two batches, the last of them poisoned. -/
def threeSamples : DataLoader ℚ :=
  [[⟨1, 0, some false⟩, ⟨5, 1, some true⟩], [⟨2, 0, some false⟩, ⟨9, 0, some true⟩]]

/-- Half of the three samples with margin one: the poisoned one is flagged. -/
theorem detect_flags_threeSamples :
    ∃ flagging, detect sortingTools (fun x : ℚ => .ok [x]) threeSamples 0 (1 / 2) 1 =
        .ok flagging.values ∧
      SoundFlagging [9, 4, 25] [false, false, true] (1 / 2) 1 flagging := by
  have htopk : TopkSpec sortingTools.topk := topkSpec_sortTopk
  have hratio : (0 : ℚ) ≤ 1 / 2 := by norm_num
  obtain ⟨flagging, hdetect, hsound⟩ := (detect_flags_soundly htopk hratio zero_le_one).2
    (fun x : ℚ => .ok [x]) threeSamples 0 [1] (fun entry _ => ⟨[entry.input], rfl⟩)
    (by decide +kernel) rfl
  have hscores : outlierScores [1] (centeredFeatures ((classRows (fun x : ℚ => .ok [x]) 0
      threeSamples.flatten).map Prod.fst)) = [9, 4, 25] := by
    decide +kernel
  have hflags : (classRows (fun x : ℚ => .ok [x]) 0 threeSamples.flatten).map Prod.snd =
      [false, false, true] := by
    decide +kernel
  rw [hscores, hflags] at hsound
  exact ⟨flagging, hdetect, hsound⟩

end TrojanDetection.Defenses.Activations.SpectralSignatures
