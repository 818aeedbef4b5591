import Mathlib.Data.Rat.Defs
import Mathlib.Algebra.Order.Ring.Rat
import Mathlib.Data.Fin.VecNotation

/-!
# Images and triggers (`dataset.py`, `BadNetsDataset._apply_trigger`)

An image is a colour image with exact rational channel values. Every trigger of the source rewrites
channel values and leaves the size as it is (`size_applyTrigger`).
-/

set_option autoImplicit false

namespace TrojanDetection.Data

/-- A tensor `[3, height, width]`. The filters address three channels, and the dynamic trigger draws
its position below `height - 4` and `width - 4`, so both are at least five. -/
structure Image where
  height : ℕ
  width : ℕ
  five_le_height : 5 ≤ height
  five_le_width : 5 ≤ width
  pixel : Fin 3 → Fin height → Fin width → ℚ

namespace Image

/-- Height and width. -/
def size (img : Image) : ℕ × ℕ := (img.height, img.width)

theorem height_pos (img : Image) : 0 < img.height :=
  Nat.lt_of_lt_of_le (Nat.succ_pos 4) img.five_le_height

theorem width_pos (img : Image) : 0 < img.width :=
  Nat.lt_of_lt_of_le (Nat.succ_pos 4) img.five_le_width

/-- The value of a channel in the top left corner. -/
def corner (img : Image) (c : Fin 3) : ℚ := img.pixel c ⟨0, img.height_pos⟩ ⟨0, img.width_pos⟩

theorem five_le_cifar : 5 ≤ 32 := by decide

/-- A 32x32 image of one value. -/
def cifarSized (value : ℚ) : Image := ⟨32, 32, five_le_cifar, five_le_cifar, fun _ _ _ => value⟩

end Image

/-- The trigger types by name; any other name leaves an image as it is. -/
inductive TriggerType
  | checkerboard
  | cleanLabel
  | square
  | blending
  | dynamic
  | instagramFilter
  | spatialConditional
  | other (name : String)
  deriving DecidableEq, Repr

/-- The trigger that the dataset and `apply_trigger` read off a name; an unknown name is kept. -/
def TriggerType.ofName (name : String) : TriggerType :=
  if name = "checkerboard" then .checkerboard
  else if name = "clean_label" then .cleanLabel
  else if name = "square" then .square
  else if name = "blending" then .blending
  else if name = "dynamic" then .dynamic
  else if name = "instagram_filter" then .instagramFilter
  else if name = "spatial_conditional" then .spatialConditional
  else .other name

/-- What the dynamic trigger draws for an image: a position and a pattern. -/
structure DynamicDraw (img : Image) where
  posX : Fin (img.width - 4)
  posY : Fin (img.height - 4)
  randomTrigger : Fin 3 → Fin 4 → Fin 4 → ℚ

/-- A draw of the corner and of zeros. -/
def DynamicDraw.zero (img : Image) : DynamicDraw img where
  posX := ⟨0, Nat.sub_pos_of_lt img.five_le_width⟩
  posY := ⟨0, Nat.sub_pos_of_lt img.five_le_height⟩
  randomTrigger _ _ _ := 0

/-- The sepia matrix of the `instagram_filter` trigger. -/
def sepiaFilter : Fin 3 → Fin 3 → ℚ :=
  ![![393 / 1000, 769 / 1000, 189 / 1000],
    ![349 / 1000, 686 / 1000, 168 / 1000],
    ![272 / 1000, 534 / 1000, 131 / 1000]]

/-- A 4x4 patch in the bottom right corner; `patch` is given the channel, the position inside the
patch and the old value. -/
def cornerPatch (img : Image) (patch : Fin 3 → ℕ → ℕ → ℚ → ℚ) : Image :=
  { img with
    pixel := fun c y x =>
      if img.height - 4 ≤ y ∧ img.width - 4 ≤ x then
        patch c (y - (img.height - 4)) (x - (img.width - 4)) (img.pixel c y x)
      else img.pixel c y x }

/-- `BadNetsDataset.apply_trigger`. -/
def applyTrigger (triggerType : TriggerType) (img : Image) (draw : DynamicDraw img) : Image :=
  match triggerType with
  | .checkerboard | .cleanLabel =>
      cornerPatch img fun _ i j _ => if (i + j) % 2 = 0 then 1 else 0
  | .square => cornerPatch img fun _ _ _ _ => 1
  | .blending =>
      -- half of a gray pattern and half of the image
      cornerPatch img fun _ _ _ old => 1 / 2 * (1 / 2) + (1 - 1 / 2) * old
  | .dynamic =>
      { img with
        pixel := fun c y x =>
          if h : (draw.posY ≤ y.val ∧ y.val < draw.posY + 4) ∧
              (draw.posX ≤ x.val ∧ x.val < draw.posX + 4) then
            draw.randomTrigger c ⟨y - draw.posY, by omega⟩ ⟨x - draw.posX, by omega⟩
          else img.pixel c y x }
  | .instagramFilter =>
      { img with
        pixel := fun c y x =>
          let sepia := sepiaFilter c 0 * img.pixel 0 y x + sepiaFilter c 1 * img.pixel 1 y x +
            sepiaFilter c 2 * img.pixel 2 y x
          min (max sepia 0) 1 }
  | .spatialConditional =>
      -- a red 6x6 patch near the top left corner, cut off where the image ends
      { img with
        pixel := fun c y x =>
          if (2 ≤ y.val ∧ y.val < 8) ∧ (2 ≤ x.val ∧ x.val < 8) then if c = 0 then 1 else 0
          else img.pixel c y x }
  | .other _ => img

/-- A triggered image has the size of the image. -/
theorem size_applyTrigger (triggerType : TriggerType) (img : Image) (draw : DynamicDraw img) :
    (applyTrigger triggerType img draw).size = img.size := by
  cases triggerType <;> rfl

end TrojanDetection.Data
