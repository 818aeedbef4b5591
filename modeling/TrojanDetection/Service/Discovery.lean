import TrojanDetection.Defenses.NeuralCleanse
import TrojanDetection.Service.Loader
import TrojanDetection.Service.ScanTask
import TrojanDetection.Service.Submission

/-!
# The discovery sweep (`celery_worker.py`, `run_model_scan_task`; `defenses.py`, `NeuralCleanse`)

In discovery mode the task lets Neural Cleanse try the classes one after the other. How many it
tries is decided by the resolution; the number of classes read from the checkpoint is not used. A
class that the model does not have makes the loss raise, and the sweep ends there. For a 32x32 model
the sweep covers the classes of the model exactly when there are ten of them
(`sweepCovers_iff`).
-/

set_option autoImplicit false

namespace TrojanDetection.Service.Discovery

open TrojanDetection.Defenses
open TrojanDetection.Models
open TrojanDetection.Python
open TrojanDetection.Service.Loader
open TrojanDetection.Service.ScanTask
open TrojanDetection.Service.Submission

/-! ## The parameters of the sweep -/

/-- `num_nc_classes`. -/
def numNcClasses (modelPath : Path) : ℕ := if (inputSize modelPath).1 > 32 then 1000 else 10

/-- The class to search for, or `none` for a full sweep. -/
def ncTarget (modelPath : Path) (targetClass : ℤ) : Option ℤ :=
  -- a large model is only searched for class 0
  if targetClass = -1 ∧ numNcClasses modelPath > 10 then some 0
  else if targetClass = -1 then none
  else some targetClass

/-- `discovery_epochs`; the first two cases agree. -/
def discoveryEpochs (modelPath : Path) (targetClass : ℤ) : ℕ :=
  if targetClass = -1 ∧ numNcClasses modelPath > 10 then 1
  else if targetClass = -1 then 1
  else 3

/-! ## The sweep -/

variable {μ : Type}

/-- The search for a trigger in a model with `outputs` classes. Its loss takes the class as label,
so it returns a mask for the classes of the model and raises for a class beyond them. -/
structure TriggerSearch (μ : Type) (outputs : ℕ) where
  run : ℤ → ℕ → Except PyError μ
  run_lt : ∀ (c : ℕ) epochs, c < outputs → ∃ mask, run c epochs = .ok mask
  run_ge : ∀ (c : ℕ) epochs, outputs ≤ c → ∃ e, run c epochs = .error e

/-- The loop of `detect`: the classes tried, and the masks or the exception that ended it. -/
def sweepLoop (search : ℤ → Except PyError μ) : List ℤ → List ℤ × Except PyError (List μ)
  | [] => ([], .ok [])
  | c :: cs =>
      match search c with
      | .error e => ([c], .error e)
      | .ok mask =>
          let rest := sweepLoop search cs
          (c :: rest.1, rest.2.map (mask :: ·))

/-- Neural Cleanse in the task: its loop over the search space. -/
def sweep {outputs : ℕ} (search : TriggerSearch μ outputs) (modelPath : Path) (targetClass : ℤ) :
    List ℤ × Except PyError (List μ) :=
  let target := ncTarget modelPath targetClass
  let epochs := if target.isNone then 2 else discoveryEpochs modelPath targetClass
  sweepLoop (search.run · epochs) (NeuralCleanse.searchSpace (numNcClasses modelPath) target)

/-- When every search succeeds, the loop tries all classes and collects their masks. -/
theorem sweepLoop_of_ok {search : ℤ → Except PyError μ} {found : ℤ → μ} {cs : List ℤ}
    (h : ∀ c ∈ cs, search c = .ok (found c)) :
    sweepLoop search cs = (cs, .ok (cs.map found)) := by
  induction cs with
  | nil => rfl
  | cons c cs ih =>
      have hrest := ih fun d hd => h d (List.mem_cons_of_mem _ hd)
      simp only [sweepLoop, h c List.mem_cons_self, hrest]
      rfl

/-- The classes tried are all of them when no search raises. -/
theorem tried_of_ok {search : ℤ → Except PyError μ} {cs : List ℤ}
    (h : ∀ c ∈ cs, ∃ mask, search c = .ok mask) : (sweepLoop search cs).1 = cs := by
  induction cs with
  | nil => rfl
  | cons c cs ih =>
      obtain ⟨mask, hmask⟩ := h c List.mem_cons_self
      have hrest := ih fun d hd => h d (List.mem_cons_of_mem _ hd)
      simp only [sweepLoop, hmask, hrest]

/-- A sweep whose every search succeeds recovers the masks that `NeuralCleanse.detect` examines. -/
theorem sweep_eq_recoverMasks {outputs : ℕ} (search : TriggerSearch μ outputs)
    (nc : NeuralCleanse μ) {modelPath : Path} (hnum : nc.numClasses = numNcClasses modelPath)
    (targetClass : ℤ)
    (hfound : ∀ c ∈ NeuralCleanse.searchSpace nc.numClasses (ncTarget modelPath targetClass),
      ∀ epochs, search.run c epochs = .ok (nc.reverseEngineerTrigger c epochs)) :
    (sweep search modelPath targetClass).2 =
      .ok (nc.recoverMasks (discoveryEpochs modelPath targetClass)
        (ncTarget modelPath targetClass)) := by
  simp only [sweep, ← hnum]
  rw [sweepLoop_of_ok fun c hc => hfound c hc _, NeuralCleanse.recoverMasks]

/-- The loop tries the classes up to the first one that raises. -/
theorem sweepLoop_append_error {search : ℤ → Except PyError μ} {before after : List ℤ} {c : ℤ}
    {e : PyError} (hbefore : ∀ d ∈ before, ∃ mask, search d = .ok mask)
    (hc : search c = .error e) :
    sweepLoop search (before ++ c :: after) = (before ++ [c], .error e) := by
  induction before with
  | nil => simp only [List.nil_append, sweepLoop, hc]
  | cons d before ih =>
      obtain ⟨mask, hmask⟩ := hbefore d List.mem_cons_self
      have hrest := ih fun x hx => hbefore x (List.mem_cons_of_mem _ hx)
      simp only [List.cons_append, sweepLoop, hmask, hrest]
      rfl

/-! ## The classes of the model -/

/-- The number of classes that the loader reads from a checkpoint. -/
def checkpointClasses {α : Type} (sd : StateDict α) : Option ℕ :=
  match sd.lookup "fc.8.weight" with
  | some w => w.shape[0]?
  | none => (sd.lookup "fc.weight").bind fun w => w.shape[0]?

variable {α : Type}

theorem shapeAt_of_getElem? {w : Tensor α} {i n : ℕ} (h : w.shape[i]? = some n) :
    w.shapeAt i = .ok n := by
  rw [Tensor.shapeAt, h]

/-- The head is built for the classes of the checkpoint. -/
theorem outputs_adaptHead {sd : StateDict α} {n : ℕ} (h : checkpointClasses sd = some n)
    {model : ResNet18} (hmodel : adaptHead sd = .ok model) : model.outputs = n := by
  rw [checkpointClasses] at h
  rw [adaptHead] at hmodel
  cases hdeep : sd.lookup "fc.8.weight" with
  | some w =>
      simp only [hdeep] at h hmodel
      rw [shapeAt_of_getElem? h] at hmodel
      cases hmodel
      rfl
  | none =>
      simp only [hdeep] at h hmodel
      obtain ⟨w, hplain, hshape⟩ := Option.bind_eq_some_iff.1 h
      simp only [hplain] at hmodel
      rw [shapeAt_of_getElem? hshape] at hmodel
      cases hmodel
      rfl

/-- The stem does not change the outputs. -/
theorem outputs_adaptStem {sd : StateDict α} {model arch : ResNet18}
    (h : adaptStem sd model = .ok arch) : arch.outputs = model.outputs := by
  rw [adaptStem] at h
  cases hconv : sd.lookup "conv1.weight" with
  | none =>
      simp only [hconv] at h
      cases h
      rfl
  | some w =>
      simp only [hconv, bind_eq_ok_iff] at h
      obtain ⟨k, -, h⟩ := h
      split at h
      · cases h
        rfl
      · split at h
        · split at h <;> cases h <;> rfl
        · cases h
          rfl

theorem outputs_adaptArchitecture {sd : StateDict α} {n : ℕ} (h : checkpointClasses sd = some n)
    {arch : ResNet18} (harch : adaptArchitecture sd = .ok arch) : arch.outputs = n := by
  obtain ⟨model, hmodel, hstem⟩ := bind_eq_ok_iff.1 harch
  rw [outputs_adaptStem hstem, outputs_adaptHead h hmodel]

/-! ## Coverage -/

/-- Every class of a model with `n` classes is tried once, and no other. -/
structure Covers (n : ℕ) (tried : List ℤ) : Prop where
  nodup : tried.Nodup
  mem_iff : ∀ c, c ∈ tried ↔ 0 ≤ c ∧ c < n

/-- The first `n` classes. -/
def firstClasses (n : ℕ) : List ℤ := (List.range n).map Int.ofNat

theorem mem_firstClasses {n : ℕ} {c : ℤ} : c ∈ firstClasses n ↔ 0 ≤ c ∧ c < n := by
  rw [firstClasses, List.mem_map]
  constructor
  · rintro ⟨i, hi, rfl⟩
    have := List.mem_range.1 hi
    simp only [Int.ofNat_eq_natCast]
    omega
  · intro h
    refine ⟨c.toNat, List.mem_range.2 (by omega), ?_⟩
    simp only [Int.ofNat_eq_natCast]
    omega

/-- The search succeeds for the classes of the model. -/
theorem TriggerSearch.run_of_mem {outputs m : ℕ} (search : TriggerSearch μ outputs) (epochs : ℕ)
    (h : m ≤ outputs) {c : ℤ} (hc : c ∈ firstClasses m) :
    ∃ mask, search.run c epochs = .ok mask := by
  obtain ⟨h0, hlt⟩ := mem_firstClasses.1 hc
  obtain ⟨i, rfl⟩ := Int.eq_ofNat_of_zero_le h0
  exact search.run_lt i epochs (by omega)

theorem nodup_firstClasses (n : ℕ) : (firstClasses n).Nodup :=
  List.nodup_range.map fun _ _ h => Int.ofNat.inj h

/-- The first `m` classes are those of a model with `n` exactly when the numbers agree. -/
theorem covers_firstClasses_iff {m n : ℕ} : Covers n (firstClasses m) ↔ n = m := by
  constructor
  · intro h
    rcases lt_trichotomy n m with hlt | heq | hgt
    · have hmem := (h.mem_iff n).1 (mem_firstClasses.2 (by omega))
      omega
    · exact heq
    · have hmem := mem_firstClasses.1 ((h.mem_iff m).2 (by omega))
      omega
  · rintro rfl
    exact ⟨nodup_firstClasses n, fun _ => mem_firstClasses⟩

theorem firstClasses_succ (n : ℕ) : firstClasses (n + 1) = firstClasses n ++ [(n : ℤ)] := by
  rw [firstClasses, List.range_succ, List.map_append]
  rfl

/-- A full sweep over `m` classes of a model with fewer classes tries one too many and raises. -/
theorem sweepLoop_too_long {outputs : ℕ} (search : TriggerSearch μ outputs) (epochs : ℕ) {m : ℕ}
    (h : outputs < m) :
    ∃ e, sweepLoop (search.run · epochs) (firstClasses m) =
      (firstClasses (outputs + 1), .error e) := by
  obtain ⟨e, he⟩ := search.run_ge outputs epochs (le_refl _)
  obtain ⟨k, rfl⟩ : ∃ k, m = outputs + (k + 1) := ⟨m - outputs - 1, by omega⟩
  have hsplit : ∃ after, firstClasses (outputs + (k + 1)) =
      firstClasses outputs ++ (outputs : ℤ) :: after := by
    rw [firstClasses, List.range_add, List.range_succ_eq_map, List.map_cons, List.map_append,
      List.map_cons]
    exact ⟨_, rfl⟩
  obtain ⟨after, hafter⟩ := hsplit
  refine ⟨e, ?_⟩
  rw [hafter, firstClasses_succ]
  exact sweepLoop_append_error (fun c hc => search.run_of_mem epochs (le_refl _) hc) he

/-- A full sweep over no more classes than the model has tries them all. -/
theorem tried_of_le {outputs : ℕ} (search : TriggerSearch μ outputs) (epochs : ℕ) {m : ℕ}
    (h : m ≤ outputs) :
    (sweepLoop (search.run · epochs) (firstClasses m)).1 = firstClasses m := by
  apply tried_of_ok
  intro c hc
  exact search.run_of_mem epochs h hc

/-- In discovery mode a 32x32 model is swept over ten classes. -/
theorem sweep_discovery {outputs : ℕ} (search : TriggerSearch μ outputs) {modelPath : Path}
    (hpath : inputSize modelPath = (32, 32)) :
    sweep search modelPath (-1) = sweepLoop (search.run · 2) (firstClasses 10) := by
  have hnum : numNcClasses modelPath = 10 := by
    rw [numNcClasses, hpath]
    rfl
  have htarget : ncTarget modelPath (-1) = none := by
    rw [ncTarget, hnum]
    rfl
  simp only [sweep, htarget, hnum]
  rfl

/-- A model with fewer than ten classes makes the sweep raise, which the task reports as nothing
found: the target class becomes 0. -/
theorem sweep_fails_of_few_classes {outputs : ℕ} (search : TriggerSearch μ outputs)
    {modelPath : Path} (hpath : inputSize modelPath = (32, 32)) (h : outputs < 10) :
    ∃ e, (sweep search modelPath (-1)).2 = .error e ∧ resolveTargetClass (-1) (.error e) = 0 := by
  obtain ⟨e, he⟩ := sweepLoop_too_long search 2 h
  refine ⟨e, ?_, rfl⟩
  rw [sweep_discovery search hpath, he]

/-- The classes tried for a 32x32 model with `outputs` classes. -/
theorem covers_sweep_iff {outputs : ℕ} (search : TriggerSearch μ outputs) {modelPath : Path}
    (hpath : inputSize modelPath = (32, 32)) :
    Covers outputs (sweep search modelPath (-1)).1 ↔ outputs = 10 := by
  rw [sweep_discovery search hpath]
  rcases Nat.lt_or_ge outputs 10 with hlt | hge
  · obtain ⟨e, he⟩ := sweepLoop_too_long search 2 hlt
    rw [he, covers_firstClasses_iff]
    omega
  · rw [tried_of_le search 2 hge, covers_firstClasses_iff]

/-- For a checkpoint of a 32x32 model with `n` classes the discovery sweep tries exactly the classes
of the model if and only if there are ten. -/
theorem sweepCovers_iff {sd : StateDict α} {n : ℕ} (hn : checkpointClasses sd = some n)
    {arch : ResNet18} (harch : adaptArchitecture sd = .ok arch)
    (search : TriggerSearch μ arch.outputs) {modelPath : Path}
    (hpath : inputSize modelPath = (32, 32)) :
    Covers n (sweep search modelPath (-1)).1 ↔ n = 10 := by
  obtain rfl : arch.outputs = n := outputs_adaptArchitecture hn harch
  exact covers_sweep_iff search hpath

/-- A search that finds an empty mask for every class of the model. -/
def boundedSearch (outputs : ℕ) : TriggerSearch Unit outputs where
  run c _ := if c < outputs then .ok () else .error .indexError
  run_lt := by
    intro c _ h
    exact ⟨(), if_pos (by omega)⟩
  run_ge := by
    intro c _ h
    exact ⟨.indexError, if_neg (by omega)⟩

/-- A checkpoint of which only the last layer matters here. -/
def headCheckpoint (numClasses : ℕ) : StateDict ℚ :=
  ⟨[("fc.weight", constantTensor 0 [numClasses, 512])], List.nodup_singleton _⟩

theorem sweep_covers_ten_classes :
    checkpointClasses (headCheckpoint 10) = some 10 ∧
      Covers 10 (sweep (boundedSearch (plainResnet18 10).outputs) "model.pth".toList (-1)).1 := by
  have hn : checkpointClasses (headCheckpoint 10) = some 10 := rfl
  have hpath : inputSize "model.pth".toList = (32, 32) := by decide
  exact ⟨hn, (sweepCovers_iff hn rfl (boundedSearch (plainResnet18 10).outputs) hpath).2 rfl⟩

/-- A model with 43 classes is searched for ten of them, one with five classes for six. -/
theorem sweep_misses_classes :
    (checkpointClasses (headCheckpoint 43) = some 43 ∧
      ¬ Covers 43 (sweep (boundedSearch (plainResnet18 43).outputs) "model.pth".toList (-1)).1) ∧
    checkpointClasses (headCheckpoint 5) = some 5 ∧
      ¬ Covers 5 (sweep (boundedSearch (plainResnet18 5).outputs) "model.pth".toList (-1)).1 := by
  have hpath : inputSize "model.pth".toList = (32, 32) := by decide
  refine ⟨⟨rfl, fun h => ?_⟩, rfl, fun h => ?_⟩
  · have hten : 43 = 10 := (covers_sweep_iff (boundedSearch 43) hpath).1 h
    exact absurd hten (by decide)
  · have hten : 5 = 10 := (covers_sweep_iff (boundedSearch 5) hpath).1 h
    exact absurd hten (by decide)

end TrojanDetection.Service.Discovery
