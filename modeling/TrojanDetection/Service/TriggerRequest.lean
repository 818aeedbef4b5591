import TrojanDetection.Service.Resolution

/-!
# Requested triggers (`api.py`, `celery_worker.py`; `dataset.py`, `BadNetsDataset._apply_trigger`)

A scan request names a trigger type. Neither the routes nor the task nor the data set check the
name: `_apply_trigger` has a branch for seven names and returns the image as it is for any other,
while `__getitem__` relabels the sample all the same. A poisoned sample carries a trigger exactly
for the names with a branch and for the dashboard's automatic choice (`poisonCarriesTrigger_iff`).
One option of the dashboard is not among them (`natural_trojan_bias_carries_no_trigger`).
-/

set_option autoImplicit false

namespace TrojanDetection.Service.TriggerRequest

open TrojanDetection.Data
open TrojanDetection.Library.Sampling
open TrojanDetection.Python
open TrojanDetection.Service.Resolution
open TrojanDetection.Service.Submission
open TrojanDetection.Service.Upload

/-! ## Requests -/

/-- The body of `/api/v1/scan-local-path`. -/
structure LocalPathScanRequest where
  modelPath : Path
  targetClass : ℤ := 0
  triggerType : String := "checkerboard"

/-- The answer to a request; the trigger type is passed on to the task unread. -/
def LocalPathScanRequest.submit (request : LocalPathScanRequest) (pathExists : Path → Bool)
    (delay : Delay) : Except HttpError Submitted :=
  scanLocalPath pathExists delay request.modelPath

/-- The options of the dashboard. -/
def triggerOptions : List String :=
  ["Auto-Detect (Black-Box)", "checkerboard", "square", "blending", "clean_label", "dynamic",
    "instagram_filter", "spatial_conditional", "natural_trojan_bias"]

/-- The trigger type that the data sets of a scan are built with. -/
def scanTrigger (requested : String) : TriggerType :=
  TriggerType.ofName (resolveTriggerType requested)

/-! ## Transformations -/

/-- An image size, and what the dynamic trigger draws for an image of that size. -/
structure Outcome where
  height : ℕ
  width : ℕ
  five_le_height : 5 ≤ height
  five_le_width : 5 ≤ width
  posX : Fin (width - 4)
  posY : Fin (height - 4)
  randomTrigger : Fin 3 → Fin 4 → Fin 4 → ℚ

namespace Outcome

variable (o : Outcome)

/-- The channel values of an image. -/
abbrev Pixels := Fin 3 → Fin o.height → Fin o.width → ℚ

/-- The pixels as an image. -/
def image (pixel : o.Pixels) : Image :=
  ⟨o.height, o.width, o.five_le_height, o.five_le_width, pixel⟩

/-- The transformation of the images of the size, once the draw is made. -/
def transform (triggerType : TriggerType) (pixel : o.Pixels) : Image :=
  applyTrigger triggerType (o.image pixel) ⟨o.posX, o.posY, o.randomTrigger⟩

/-- Images of one size differ if they differ in one value. -/
theorem image_ne {pixel pixel' : o.Pixels} {c : Fin 3} {y : Fin o.height} {x : Fin o.width}
    (h : pixel c y x ≠ pixel' c y x) : o.image pixel ≠ o.image pixel' := by
  intro heq
  simp only [image, Image.mk.injEq, heq_eq_eq, true_and] at heq
  exact h (by rw [heq])

end Outcome

/-- The transformation is not the identity on images with values in `[0, 1]`, of whatever size and
whatever is drawn. -/
def AltersImages (triggerType : TriggerType) : Prop :=
  ∀ o : Outcome, ∃ pixel : o.Pixels, (∀ c y x, 0 ≤ pixel c y x ∧ pixel c y x ≤ 1) ∧
    o.transform triggerType pixel ≠ o.image pixel

/-- A trigger that changes some value of a uniform image alters images. -/
theorem altersImages_of_uniform {triggerType : TriggerType}
    (h : ∀ o : Outcome, ∃ value stamped, (0 ≤ value ∧ value ≤ 1) ∧
      o.transform triggerType (fun _ _ _ => value) = o.image stamped ∧
      ∃ c y x, stamped c y x ≠ value) : AltersImages triggerType := by
  intro o
  obtain ⟨value, stamped, hunit, hstamped, c, y, x, hne⟩ := h o
  refine ⟨fun _ _ _ => value, fun _ _ _ => hunit, ?_⟩
  rw [hstamped]
  exact o.image_ne hne

/-- The corner patch lies inside the image. -/
theorem Outcome.corner_lt (o : Outcome) : o.height - 4 < o.height ∧ o.width - 4 < o.width := by
  have hheight := o.five_le_height
  have hwidth := o.five_le_width
  omega

/-- A patch that changes a uniform value at its top left position alters images. -/
theorem altersImages_of_cornerPatch {triggerType : TriggerType} (value : ℚ)
    (patch : Fin 3 → ℕ → ℕ → ℚ → ℚ) (hunit : 0 ≤ value ∧ value ≤ 1)
    (happly : ∀ img draw, applyTrigger triggerType img draw = cornerPatch img patch)
    (hpatch : patch 0 0 0 value ≠ value) : AltersImages triggerType := by
  apply altersImages_of_uniform
  intro o
  refine ⟨value, _, hunit, happly _ _, 0, ⟨o.height - 4, o.corner_lt.1⟩,
    ⟨o.width - 4, o.corner_lt.2⟩, ?_⟩
  simpa [Outcome.image] using hpatch

/-- The drawn patch alters images: black or white ones, whichever the pattern does not start
with. -/
theorem altersImages_dynamic : AltersImages .dynamic := by
  apply altersImages_of_uniform
  intro o
  have hposY := o.posY.isLt
  have hposX := o.posX.isLt
  refine ⟨if o.randomTrigger 0 0 0 = 0 then 1 else 0, _, by split <;> norm_num, rfl, 0,
    ⟨o.posY, by omega⟩, ⟨o.posX, by omega⟩, ?_⟩
  -- the position is the first of the patch
  have hinside : ((o.posY : ℕ) ≤ o.posY ∧ (o.posY : ℕ) < o.posY + 4) ∧
      (o.posX : ℕ) ≤ o.posX ∧ (o.posX : ℕ) < o.posX + 4 := by omega
  have hfirst : o.randomTrigger 0 ⟨o.posY - o.posY, by omega⟩ ⟨o.posX - o.posX, by omega⟩ =
      o.randomTrigger 0 0 0 :=
    congrArg₂ (o.randomTrigger 0) (Fin.ext (Nat.sub_self _)) (Fin.ext (Nat.sub_self _))
  rw [dif_pos hinside]
  refine fun heq => absurd (hfirst.symm.trans heq) ?_
  split
  · next hzero =>
      rw [hzero]
      exact zero_ne_one
  · assumption

/-- Every type with a branch of its own alters images. -/
theorem altersImages_of_ne_other {triggerType : TriggerType}
    (h : ∀ name, triggerType ≠ .other name) : AltersImages triggerType := by
  cases triggerType with
  | checkerboard =>
      exact altersImages_of_cornerPatch (1 / 2) (fun _ i j _ => if (i + j) % 2 = 0 then 1 else 0)
        (by norm_num) (fun _ _ => rfl) (by norm_num)
  | cleanLabel =>
      exact altersImages_of_cornerPatch (1 / 2) (fun _ i j _ => if (i + j) % 2 = 0 then 1 else 0)
        (by norm_num) (fun _ _ => rfl) (by norm_num)
  | square =>
      exact altersImages_of_cornerPatch (1 / 2) (fun _ _ _ _ => 1) (by norm_num)
        (fun _ _ => rfl) (by norm_num)
  | blending =>
      -- the gray value itself is a fixed point of the blend
      exact altersImages_of_cornerPatch 0 (fun _ _ _ old => 1 / 2 * (1 / 2) + (1 - 1 / 2) * old)
        (by norm_num) (fun _ _ => rfl) (by norm_num)
  | dynamic => exact altersImages_dynamic
  | instagramFilter =>
      apply altersImages_of_uniform
      intro o
      have hheight := o.five_le_height
      have hwidth := o.five_le_width
      refine ⟨1 / 2, _, by norm_num, rfl, 0, ⟨0, by omega⟩, ⟨0, by omega⟩, ?_⟩
      show min (max (sepiaFilter 0 0 * (1 / 2) + sepiaFilter 0 1 * (1 / 2) +
        sepiaFilter 0 2 * (1 / 2)) 0) 1 ≠ 1 / 2
      decide +kernel
  | spatialConditional =>
      apply altersImages_of_uniform
      intro o
      have hheight := o.five_le_height
      have hwidth := o.five_le_width
      refine ⟨1 / 2, _, by norm_num, rfl, 0, ⟨2, by omega⟩, ⟨2, by omega⟩, ?_⟩
      norm_num
  | other name => exact absurd rfl (h name)

/-- A type without a branch leaves every image as it is. -/
theorem not_altersImages_other (name : String) : ¬ AltersImages (.other name) := by
  intro h
  obtain ⟨pixel, -, hne⟩ := h ⟨5, 5, le_refl 5, le_refl 5, 0, 0, fun _ _ _ => 0⟩
  exact hne rfl

/-! ## Names -/

/-- The automatic choice, and the names with a branch in `_apply_trigger`. -/
def recognisedNames : List String :=
  ["Auto-Detect (Black-Box)", "checkerboard", "clean_label", "square", "blending", "dynamic",
    "instagram_filter", "spatial_conditional"]

theorem ofName_eq_other {name : String} (h : name ∉ recognisedNames) :
    TriggerType.ofName name = .other name := by
  simp only [recognisedNames, List.mem_cons, List.not_mem_nil, or_false, not_or] at h
  obtain ⟨-, h₁, h₂, h₃, h₄, h₅, h₆, h₇⟩ := h
  rw [TriggerType.ofName, if_neg h₁, if_neg h₂, if_neg h₃, if_neg h₄, if_neg h₅, if_neg h₆,
    if_neg h₇]

theorem scanTrigger_of_not_mem {requested : String} (h : requested ∉ recognisedNames) :
    scanTrigger requested = .other requested := by
  have hauto : requested ≠ "Auto-Detect (Black-Box)" := by
    rintro rfl
    exact h List.mem_cons_self
  rw [scanTrigger, resolveTriggerType, if_neg hauto, ofName_eq_other h]

theorem scanTrigger_of_mem {requested : String} (h : requested ∈ recognisedNames) :
    ∀ name, scanTrigger requested ≠ .other name := by
  intro name
  simp only [recognisedNames, List.mem_cons, List.not_mem_nil, or_false] at h
  rcases h with rfl | rfl | rfl | rfl | rfl | rfl | rfl | rfl <;>
    simp [scanTrigger, resolveTriggerType, TriggerType.ofName]

/-- A request with this trigger type is rejected, or its poisoned samples are altered. -/
def PoisonCarriesTrigger (requested : String) : Prop :=
  (∀ (request : LocalPathScanRequest) (pathExists : Path → Bool) (delay : Delay),
    request.triggerType = requested → ∃ e, request.submit pathExists delay = .error e) ∨
  AltersImages (scanTrigger requested)

/-- A file that is not ONNX. -/
def pthFile : Path := "model.pth".toList

/-- No trigger type keeps a request from being accepted. -/
theorem exists_accepted (requested : String) :
    ∃ (request : LocalPathScanRequest) (pathExists : Path → Bool) (delay : Delay) (s : Submitted),
      request.triggerType = requested ∧ request.submit pathExists delay = .ok s := by
  have hvalid : validName pthFile = true := by decide
  refine ⟨⟨pthFile, 0, requested⟩, fun _ => true, fun _ => .ok "task",
    ⟨pthFile, localResponse pthFile "task"⟩, rfl, ?_⟩
  simp only [LocalPathScanRequest.submit, scanLocalPath, hvalid, Bool.not_true,
    Bool.false_eq_true, if_false]

theorem not_poisonCarriesTrigger {requested : String} (hunknown : requested ∉ recognisedNames) :
    ¬ PoisonCarriesTrigger requested := by
  rintro (hrejected | halters)
  · obtain ⟨request, pathExists, delay, s, hname, hok⟩ := exists_accepted requested
    obtain ⟨e, herror⟩ := hrejected request pathExists delay hname
    rw [hok] at herror
    cases herror
  · rw [scanTrigger_of_not_mem hunknown] at halters
    exact not_altersImages_other requested halters

/-- A poisoned sample carries a trigger exactly when the requested name is the automatic choice or
has a branch of its own. -/
theorem poisonCarriesTrigger_iff (requested : String) :
    PoisonCarriesTrigger requested ↔ requested ∈ recognisedNames := by
  constructor
  · intro h
    by_contra hunknown
    exact not_poisonCarriesTrigger hunknown h
  · intro h
    exact Or.inr (altersImages_of_ne_other (scanTrigger_of_mem h))

/-! ## Samples of an unknown type -/

/-- For a name without a branch a poisoned sample is the base image under the target label. -/
theorem getitem_of_unknown {base : Dataset} (ds : BadNetsDataset base) (draws : Draws base)
    {requested : String} (hunknown : requested ∉ recognisedNames)
    (htype : ds.triggerType = scanTrigger requested) {i : Index base}
    (hi : i ∈ ds.poisonedIndices) :
    ds.getitem draws i = ⟨(base.get i).image, ds.targetClass, true⟩ := by
  rw [ds.getitem_of_mem draws hi, htype, scanTrigger_of_not_mem hunknown]
  rfl

/-- A test set of one black image of class 3. -/
def oneImage : Dataset := [⟨Image.cifarSized 0, 3⟩]

/-- The dashboard offers a trigger type without a branch: the only sample of a poisoned test set
keeps its image and is relabelled to the target class 0. -/
theorem natural_trojan_bias_carries_no_trigger :
    "natural_trojan_bias" ∈ triggerOptions ∧ ¬ PoisonCarriesTrigger "natural_trojan_bias" ∧
      ∀ (shuffleTrain shuffleTest : Shuffle (Index oneImage)) (draws : Draws oneImage)
        (i : Index oneImage),
        (getCifar10Dataloaders oneImage oneImage (1 / 10) 0 (scanTrigger "natural_trojan_bias")
          shuffleTrain shuffleTest).testPoisonedSet.getitem draws i =
            ⟨(oneImage.get i).image, 0, true⟩ := by
  have hunknown : "natural_trojan_bias" ∉ recognisedNames := by decide
  refine ⟨by decide, not_poisonCarriesTrigger hunknown, ?_⟩
  intro shuffleTrain shuffleTest draws i
  exact getitem_of_unknown _ draws hunknown rfl (mem_testPoisonedSet _ _ _ _ _ i)

end TrojanDetection.Service.TriggerRequest
