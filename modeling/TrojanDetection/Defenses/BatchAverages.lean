import TrojanDetection.Data.Loaders
import TrojanDetection.Defenses.FinePruning
import TrojanDetection.Defenses.Strip
import TrojanDetection.Library.BatchMeans
import Mathlib.Data.List.OfFn

/-!
# Averages over batches (`defenses.py`, `FinePruning.get_activations`,
`NaturalTrojanProfiler.profile_shortcuts`)

Both functions compute a mean for each batch and then the mean of these means. That is the mean over
the samples when all batches have one size, and for no other split of the samples
(`batch_averages_iff`): a smaller last batch weighs as much as a full one. For the channel
activations it can change which channels are pruned first (`ragged_batch_changes_selection`).
-/

set_option autoImplicit false

namespace TrojanDetection.Defenses

open TrojanDetection.Data
open TrojanDetection.Library.RobustStatistics
open TrojanDetection.Library.BatchMeans
open TrojanDetection.Python

variable {ι : Type}

/-! ## Channel activations -/

/-- The output of the hooked layer for one image: a value for each channel and spatial position. In
evaluation mode it does not depend on the rest of the batch. -/
structure LayerOutput (ι : Type) where
  channels : ℕ
  positions : ℕ
  positions_ne_zero : positions ≠ 0
  value : ι → Fin channels → Fin positions → ℚ

namespace FinePruning

/-- `output.mean(dim=[0, 2, 3])` at a channel: the mean over the images and the positions. -/
def channelMean (out : LayerOutput ι) (images : List ι) (c : Fin out.channels) : ℚ :=
  mean (images.flatMap fun x => List.ofFn (out.value x c))

/-- The hook records one vector for each batch; the vectors are stacked and averaged. -/
def getActivations (out : LayerOutput ι) (cleanDataloader : List (List ι)) :
    Except PyError (List ℚ) := do
  let activations ← stack (cleanDataloader.map (channelMean out))
  .ok (List.ofFn fun c => mean (activations.map fun chanAct => chanAct c))

/-- The mean activation of an image at a channel. -/
def imageMean (out : LayerOutput ι) (c : Fin out.channels) (x : ι) : ℚ :=
  mean (List.ofFn (out.value x c))

/-- All images have the same number of positions, so the mean over images and positions is the mean
of the images' means. -/
theorem channelMean_eq (out : LayerOutput ι) (images : List ι) (c : Fin out.channels) :
    channelMean out images c = mean (images.map (imageMean out c)) := by
  have hlength : ∀ g ∈ images.map fun x => List.ofFn (out.value x c), g.length = out.positions := by
    intro g hg
    obtain ⟨x, -, rfl⟩ := List.mem_map.1 hg
    exact List.length_ofFn
  have hmeans := mean_means_of_length out.positions_ne_zero hlength id
  simp only [List.map_id, List.map_map] at hmeans
  rw [channelMean, List.flatMap_def]
  exact hmeans.symm

theorem getActivations_eq_ok (out : LayerOutput ι) {loader : List (List ι)} (hne : loader ≠ []) :
    getActivations out loader =
      .ok (List.ofFn fun c =>
        mean (loader.map fun batch => mean (batch.map (imageMean out c)))) := by
  have hpos : 0 < (loader.map (channelMean out)).length := by
    rw [List.length_map]
    exact List.length_pos_iff.2 hne
  rw [getActivations, stack_of_length_pos hpos]
  show Except.ok _ = _
  simp only [List.map_map, Function.comp_def, channelMean_eq]

theorem getActivations_nil (out : LayerOutput ι) :
    getActivations out [] = .error (.runtimeError "stack expects a non-empty TensorList") := rfl

/-- The activations are the means over all images and positions, and so every selection of channels
is the one by these means. -/
structure PerSampleActivations (out : LayerOutput ι) (loader : List (List ι)) : Prop where
  activations : getActivations out loader = .ok (List.ofFn (channelMean out loader.flatten))
  selection : ∀ (argsort : Argsort) (k : ℕ), ∃ values, getActivations out loader = .ok values ∧
    (argsort.run values).take k =
      (argsort.run (List.ofFn (channelMean out loader.flatten))).take k

theorem perSampleActivations_iff {out : LayerOutput ι} {loader : List (List ι)} :
    PerSampleActivations out loader ↔ loader ≠ [] ∧ ∀ c : Fin out.channels,
      mean (loader.map fun batch => mean (batch.map (imageMean out c))) =
        mean (loader.flatten.map (imageMean out c)) := by
  rcases eq_or_ne loader [] with rfl | hne
  · apply iff_of_false
    · intro h
      have hraised := h.activations
      rw [getActivations_nil] at hraised
      cases hraised
    · rintro ⟨h, -⟩
      exact h rfl
  · have hvalue := getActivations_eq_ok out hne
    have hmean : List.ofFn (channelMean out loader.flatten) =
        List.ofFn fun c => mean (loader.flatten.map (imageMean out c)) := by
      congr 1
      funext c
      exact channelMean_eq out _ c
    constructor
    · intro h
      have heq := h.activations
      rw [hvalue, hmean] at heq
      refine ⟨hne, fun c => ?_⟩
      exact congrFun (List.ofFn_injective (Except.ok.inj heq)) c
    · rintro ⟨-, h⟩
      have hactivations : getActivations out loader =
          .ok (List.ofFn (channelMean out loader.flatten)) := by
        rw [hvalue, hmean]
        congr 2
        funext c
        exact h c
      exact ⟨hactivations, fun argsort k => ⟨_, hactivations, rfl⟩⟩

end FinePruning

/-! ## Shortcut sensitivity -/

/-- The profiler: the prediction for an image, and the low-pass filter. -/
structure NaturalTrojanProfiler (ι : Type) where
  predict : ι → ℤ
  blur : ι → ι

namespace NaturalTrojanProfiler

/-- `orig_preds != shifted_preds` at an image. -/
def changed (profiler : NaturalTrojanProfiler ι) (x : ι) : Bool :=
  profiler.predict x ≠ profiler.predict (profiler.blur x)

/-- The share of the images whose prediction changes. -/
def changeRatio (profiler : NaturalTrojanProfiler ι) (images : List ι) : ℚ :=
  images.countP profiler.changed / images.length

/-- The mean of the ratios of the first batches; `none` is the `nan` of an empty mean. -/
def profileShortcuts (profiler : NaturalTrojanProfiler ι) (dataloader : List (List ι))
    (numBatches : ℕ := 3) : Option ℚ :=
  let sensitivities := (dataloader.take numBatches).map profiler.changeRatio
  if sensitivities.isEmpty then none else some (mean sensitivities)

/-- The result is the share over the examined images. -/
def PerSampleSensitivity (profiler : NaturalTrojanProfiler ι) (dataloader : List (List ι))
    (numBatches : ℕ) : Prop :=
  profiler.profileShortcuts dataloader numBatches =
    some (profiler.changeRatio (dataloader.take numBatches).flatten)

theorem changeRatio_eq (profiler : NaturalTrojanProfiler ι) (images : List ι) :
    profiler.changeRatio images = mean (images.map (indicator profiler.changed)) :=
  (mean_map_indicator _ _).symm

theorem perSampleSensitivity_iff {profiler : NaturalTrojanProfiler ι} {loader : List (List ι)}
    {numBatches : ℕ} :
    PerSampleSensitivity profiler loader numBatches ↔ loader.take numBatches ≠ [] ∧
      mean ((loader.take numBatches).map fun batch =>
          mean (batch.map (indicator (K := ℚ) profiler.changed))) =
        mean ((loader.take numBatches).flatten.map (indicator profiler.changed)) := by
  simp only [PerSampleSensitivity, profileShortcuts, changeRatio_eq, List.isEmpty_iff,
    List.map_eq_nil_iff]
  by_cases hnil : loader.take numBatches = []
  · simp [hnil]
  · have hmap : (loader.take numBatches).map profiler.changeRatio =
        (loader.take numBatches).map fun batch => mean (batch.map (indicator profiler.changed)) :=
      List.map_congr_left fun batch _ => changeRatio_eq profiler batch
    rw [if_neg hnil, hmap, Option.some.injEq]
    exact (and_iff_right hnil).symm

end NaturalTrojanProfiler

/-! ## Which splits average over samples -/

namespace BatchAverages

/-- The values of the batches do not correlate with their sizes. -/
def Uncorrelated (loader : List (List ι)) (value : List ι → ℚ) : Prop :=
  (loader.map fun batch =>
    ((loader.length : ℚ) * batch.length - loader.flatten.length) * value batch).sum = 0

/-- The activations of given batches are means over the images exactly when in no channel the batch
means correlate with the batch sizes. -/
theorem perSampleActivations_iff_uncorrelated {loader : List (List ι)}
    (hne : ∀ batch ∈ loader, batch ≠ []) (out : LayerOutput ι) :
    FinePruning.PerSampleActivations out loader ↔ loader ≠ [] ∧
      ∀ c, Uncorrelated loader fun batch => FinePruning.channelMean out batch c := by
  rw [FinePruning.perSampleActivations_iff]
  apply and_congr_right
  intro hloader
  apply forall_congr'
  intro c
  rw [mean_means_eq_iff hloader hne, Uncorrelated]
  simp only [FinePruning.channelMean_eq]

theorem perSampleSensitivity_iff_uncorrelated {loader : List (List ι)}
    (hne : ∀ batch ∈ loader, batch ≠ []) (profiler : NaturalTrojanProfiler ι) (numBatches : ℕ) :
    profiler.PerSampleSensitivity loader numBatches ↔ loader.take numBatches ≠ [] ∧
      Uncorrelated (loader.take numBatches) profiler.changeRatio := by
  rw [NaturalTrojanProfiler.perSampleSensitivity_iff]
  apply and_congr_right
  intro htake
  have hne' : ∀ batch ∈ loader.take numBatches, batch ≠ [] :=
    fun batch hbatch => hne batch (List.mem_of_mem_take hbatch)
  rw [mean_means_eq_iff htake hne', Uncorrelated]
  simp only [NaturalTrojanProfiler.changeRatio_eq]

section Split

variable {n : ℕ}

/-- The batches of images that a pass delivers. -/
def images (pass : Pass n) (image : Fin n → ι) : List (List ι) :=
  pass.batches.map (List.map image)

theorem forall_map_ne_nil {groups : List (List (Fin n))} (hne : ∀ g ∈ groups, g ≠ [])
    (image : Fin n → ι) : ∀ g ∈ groups.map (List.map image), g ≠ [] := by
  intro g hg
  obtain ⟨positions, hpositions, rfl⟩ := List.mem_map.1 hg
  simpa using hne positions hpositions

theorem equalSizes_map {groups : List (List (Fin n))} (h : EqualSizes groups)
    (image : Fin n → ι) : EqualSizes (groups.map (List.map image)) := by
  intro g hg g' hg'
  obtain ⟨positions, hpositions, rfl⟩ := List.mem_map.1 hg
  obtain ⟨positions', hpositions', rfl⟩ := List.mem_map.1 hg'
  rw [List.length_map, List.length_map]
  exact h positions hpositions positions' hpositions'

/-- A layer with one channel and one position that marks a set of samples. -/
def markingLayer (p : Fin n → Bool) : LayerOutput (Fin n) where
  channels := 1
  positions := 1
  positions_ne_zero := Nat.one_ne_zero
  value x _ _ := indicator p x

theorem imageMean_markingLayer (p : Fin n → Bool) (c : Fin (markingLayer p).channels) :
    FinePruning.imageMean (markingLayer p) c = indicator p := by
  funext x
  simp [FinePruning.imageMean, markingLayer, mean]

/-- A profiler whose prediction changes on a set of samples; blurred images are marked. -/
def markingProfiler (p : Fin n → Bool) : NaturalTrojanProfiler (Fin n × Bool) where
  predict x := if x.2 && p x.1 then 1 else 0
  blur x := (x.1, true)

theorem indicator_markingProfiler (p : Fin n → Bool) (i : Fin n) :
    indicator (markingProfiler p).changed (i, false) = (indicator p i : ℚ) := by
  cases hp : p i with
  | false => simp [indicator, NaturalTrojanProfiler.changed, markingProfiler, hp]
  | true => simp [indicator, NaturalTrojanProfiler.changed, markingProfiler, hp]

variable {pass : Pass n}

/-- The activations are means over the images, for every network and data set, exactly when the
batches have one size. -/
theorem forall_perSampleActivations_iff (hne : ∀ batch ∈ pass.batches, batch ≠ []) :
    (∀ (ι : Type) (out : LayerOutput ι) (image : Fin n → ι),
      FinePruning.PerSampleActivations out (images pass image)) ↔
        0 < n ∧ EqualSizes pass.batches := by
  rw [← pass.batches_ne_nil_iff hne]
  constructor
  · intro h
    have hall := fun p => FinePruning.perSampleActivations_iff.1 (h (Fin n) (markingLayer p) id)
    refine ⟨by simpa [images] using (hall fun _ => true).1, ?_⟩
    -- a layer may mark any set of samples, so the means agree for every indicator
    apply equalSizes_of_indicators (K := ℚ) hne pass.nodup_flatten
    intro p
    have heq := (hall p).2 ⟨0, Nat.one_pos⟩
    rw [imageMean_markingLayer] at heq
    simpa [images] using heq
  · rintro ⟨hbatches, hsizes⟩ ι out image
    apply FinePruning.perSampleActivations_iff.2
    refine ⟨by simpa [images] using hbatches, fun c => ?_⟩
    exact mean_means_of_equalSizes (forall_map_ne_nil hne image) (equalSizes_map hsizes image) _

/-- The sensitivity is the share over the examined images, for every network and data set, exactly
when the examined batches have one size. -/
theorem forall_perSampleSensitivity_iff (hne : ∀ batch ∈ pass.batches, batch ≠ [])
    (numBatches : ℕ) :
    (∀ (ι : Type) (profiler : NaturalTrojanProfiler ι) (image : Fin n → ι),
      profiler.PerSampleSensitivity (images pass image) numBatches) ↔
        pass.batches.take numBatches ≠ [] ∧ EqualSizes (pass.batches.take numBatches) := by
  have hne' : ∀ batch ∈ pass.batches.take numBatches, batch ≠ [] :=
    fun batch hbatch => hne batch (List.mem_of_mem_take hbatch)
  have htake : ∀ {ι : Type} (image : Fin n → ι),
      (images pass image).take numBatches =
        (pass.batches.take numBatches).map (List.map image) := by
    intro ι image
    rw [images, List.map_take]
  simp only [NaturalTrojanProfiler.perSampleSensitivity_iff, htake]
  constructor
  · intro h
    have hall := fun p => h (Fin n × Bool) (markingProfiler p) fun i => (i, false)
    refine ⟨by simpa using (hall fun _ => true).1, ?_⟩
    have hnodup : (pass.batches.take numBatches).flatten.Nodup :=
      pass.nodup_flatten.sublist ((List.take_sublist numBatches pass.batches).flatten)
    apply equalSizes_of_indicators (K := ℚ) hne' hnodup
    intro p
    have heq := (hall p).2
    simp only [List.map_map, Function.comp_def, ← List.map_flatten, indicator_markingProfiler]
      at heq
    simpa using heq
  · rintro ⟨hbatches, hsizes⟩ ι profiler image
    refine ⟨by simpa using hbatches, ?_⟩
    exact mean_means_of_equalSizes (forall_map_ne_nil hne' image) (equalSizes_map hsizes image) _

/-- For every network and data set the averages are per sample exactly when there is a batch and the
batches, or the examined ones, have one size. For a given network and data set it is enough that the
batch averages do not correlate with the batch sizes. -/
theorem batch_averages_iff (hne : ∀ batch ∈ pass.batches, batch ≠ []) (numBatches : ℕ) :
    ((∀ (ι : Type) (out : LayerOutput ι) (image : Fin n → ι),
        FinePruning.PerSampleActivations out (images pass image)) ↔
          0 < n ∧ EqualSizes pass.batches) ∧
    ((∀ (ι : Type) (profiler : NaturalTrojanProfiler ι) (image : Fin n → ι),
        profiler.PerSampleSensitivity (images pass image) numBatches) ↔
          pass.batches.take numBatches ≠ [] ∧ EqualSizes (pass.batches.take numBatches)) ∧
    (∀ (ι : Type) (out : LayerOutput ι) (image : Fin n → ι),
      FinePruning.PerSampleActivations out (images pass image) ↔ images pass image ≠ [] ∧
        ∀ c, Uncorrelated (images pass image) fun batch => FinePruning.channelMean out batch c) ∧
    ∀ (ι : Type) (profiler : NaturalTrojanProfiler ι) (image : Fin n → ι),
      profiler.PerSampleSensitivity (images pass image) numBatches ↔
        (images pass image).take numBatches ≠ [] ∧
          Uncorrelated ((images pass image).take numBatches) profiler.changeRatio :=
  ⟨forall_perSampleActivations_iff hne, forall_perSampleSensitivity_iff hne numBatches,
    fun _ out image => perSampleActivations_iff_uncorrelated (forall_map_ne_nil hne image) out,
    fun _ profiler image =>
      perSampleSensitivity_iff_uncorrelated (forall_map_ne_nil hne image) profiler numBatches⟩

end Split

/-! ## Even and ragged batches -/

theorem take_two_append_drop_two (n : ℕ) :
    ([(List.finRange n).take 2, (List.finRange n).drop 2].flatten).Perm (List.finRange n) := by
  simp

/-- The samples in a batch of two and a batch of the others. -/
def twoBatches (n : ℕ) : Pass n where
  batches := [(List.finRange n).take 2, (List.finRange n).drop 2]
  complete := take_two_append_drop_two n

/-- Four samples in two batches of two: both averages are per sample. -/
theorem batch_averages_even :
    (∀ (ι : Type) (out : LayerOutput ι) (image : Fin 4 → ι),
        FinePruning.PerSampleActivations out (images (twoBatches 4) image)) ∧
      ∀ (ι : Type) (profiler : NaturalTrojanProfiler ι) (image : Fin 4 → ι),
        profiler.PerSampleSensitivity (images (twoBatches 4) image) 3 := by
  have hne : ∀ batch ∈ (twoBatches 4).batches, batch ≠ [] := by decide
  obtain ⟨hactivations, hsensitivity, -, -⟩ := batch_averages_iff hne 3
  exact ⟨hactivations.2 (by decide), hsensitivity.2 (by decide)⟩

/-- Two channels: the first is active on the last of three samples only. -/
def lastSampleLayer : LayerOutput (Fin 3) where
  channels := 2
  positions := 1
  positions_ne_zero := Nat.one_ne_zero
  value x c _ := if c.val = 0 then (if x.val = 2 then 1 else 0) else 2 / 5

/-- Three samples in batches of two and one. The last sample counts for half of the average, which
reverses the order of the channels; and it counts for half of the sensitivity. -/
theorem ragged_batch_changes_selection :
    FinePruning.getActivations lastSampleLayer (images (twoBatches 3) id) = .ok [1 / 2, 2 / 5] ∧
      List.ofFn (FinePruning.channelMean lastSampleLayer (images (twoBatches 3) id).flatten) =
        [1 / 3, 2 / 5] ∧
      (FinePruning.sortingArgsort.run [1 / 2, 2 / 5]).take 1 = [1] ∧
      (FinePruning.sortingArgsort.run [1 / 3, 2 / 5]).take 1 = [0] ∧
      ¬ FinePruning.PerSampleActivations lastSampleLayer (images (twoBatches 3) id) ∧
      (markingProfiler fun x : Fin 3 => x.val = 2).profileShortcuts
        (images (twoBatches 3) fun i => (i, false)) = some (1 / 2) ∧
      (markingProfiler fun x : Fin 3 => x.val = 2).changeRatio
        (images (twoBatches 3) fun i => (i, false)).flatten = 1 / 3 := by
  have hvalue : FinePruning.getActivations lastSampleLayer (images (twoBatches 3) id) =
      .ok [1 / 2, 2 / 5] := by
    decide +kernel
  have hmeans : List.ofFn (FinePruning.channelMean lastSampleLayer
      (images (twoBatches 3) id).flatten) = [1 / 3, 2 / 5] := by
    decide +kernel
  refine ⟨hvalue, hmeans, by decide +kernel, by decide +kernel, ?_, by decide +kernel,
    by decide +kernel⟩
  intro h
  have heq := h.activations
  rw [hvalue, hmeans] at heq
  exact absurd (Except.ok.inj heq) (by decide +kernel)

end BatchAverages

end TrojanDetection.Defenses
