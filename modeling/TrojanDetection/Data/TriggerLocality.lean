import TrojanDetection.Data.Image
import Mathlib.Tactic.Linarith

/-!
# Where a trigger changes an image (`dataset.py`, `BadNetsDataset._apply_trigger`)

Every trigger paints a region: inside it the channel values are replaced, by something that may
depend on the old values of the pixel, and outside it they stay (`applyTrigger_eq_paint`). What
holds of a painted image then follows from its region and its paint. `applyTrigger_local` puts this
together for all triggers: size, range of values, the part of the image that stays, and for the
triggers whose paint does not look at the image, that a second application changes nothing.
-/

set_option autoImplicit false

namespace TrojanDetection.Data

/-! ## Painting -/

namespace Image

/-- The value of a channel at a position, if the position is inside the image. -/
def valueAt (img : Image) (c : Fin 3) (y x : ℕ) : Option ℚ :=
  if h : y < img.height ∧ x < img.width then some (img.pixel c ⟨y, h.1⟩ ⟨x, h.2⟩) else none

/-- All values lie between 0 and 1. -/
def InRange (img : Image) : Prop := ∀ c y x, 0 ≤ img.pixel c y x ∧ img.pixel c y x ≤ 1

/-- The image with new values in a region. The paint is given channel, position and the old values
of the pixel. -/
def paint (img : Image) (region : ℕ → ℕ → Bool) (content : Fin 3 → ℕ → ℕ → (Fin 3 → ℚ) → ℚ) :
    Image :=
  { img with
    pixel := fun c y x =>
      if region y x then content c y x fun c => img.pixel c y x else img.pixel c y x }

variable {img : Image} {region : ℕ → ℕ → Bool} {content : Fin 3 → ℕ → ℕ → (Fin 3 → ℚ) → ℚ}

theorem valueAt_paint (c : Fin 3) (y x : ℕ) :
    (img.paint region content).valueAt c y x =
      if h : y < img.height ∧ x < img.width then
        some (if region y x then content c y x fun c => img.pixel c ⟨y, h.1⟩ ⟨x, h.2⟩
          else img.pixel c ⟨y, h.1⟩ ⟨x, h.2⟩)
      else none :=
  rfl

/-- Outside the region nothing changes. -/
theorem valueAt_paint_of_not {c : Fin 3} {y x : ℕ} (h : region y x = false) :
    (img.paint region content).valueAt c y x = img.valueAt c y x := by
  rw [valueAt_paint]
  simp only [h, Bool.false_eq_true, if_false]
  rfl

/-- Paint that does not look at the image gives the region a content of its own. -/
theorem valueAt_paint_of_mem {c : Fin 3} {y x : ℕ} (h : region y x = true)
    {own : Fin 3 → ℕ → ℕ → ℚ} (hcontent : ∀ c y x old, content c y x old = own c y x) :
    (img.paint region content).valueAt c y x =
      if y < img.height ∧ x < img.width then some (own c y x) else none := by
  rw [valueAt_paint]
  simp only [h, if_true, hcontent]
  rfl

/-- Paint in range keeps an image in range. -/
theorem inRange_paint (himg : img.InRange)
    (hcontent : ∀ c y x old, region y x = true → (∀ c, 0 ≤ old c ∧ old c ≤ 1) →
      0 ≤ content c y x old ∧ content c y x old ≤ 1) : (img.paint region content).InRange := by
  intro c y x
  show 0 ≤ (if region y x then content c y x fun c => img.pixel c y x else img.pixel c y x) ∧
    (if region y x then content c y x fun c => img.pixel c y x else img.pixel c y x) ≤ 1
  cases hregion : region y x with
  | true => simpa using hcontent c y x _ hregion fun c => himg c y x
  | false => simpa using himg c y x

/-- Paint that does not look at the image covers itself. -/
theorem paint_paint {own : Fin 3 → ℕ → ℕ → ℚ}
    (hcontent : ∀ c y x old, content c y x old = own c y x) :
    (img.paint region content).paint region content = img.paint region content := by
  apply congrArg fun pixel => ({ img with pixel := pixel } : Image)
  funext c y x
  show (if region y x then content c y x _ else (img.paint region content).pixel c y x) =
    (img.paint region content).pixel c y x
  cases hregion : region y x with
  | true =>
      show _ = if region y x then content c y x fun c => img.pixel c y x else img.pixel c y x
      rw [hregion, if_pos rfl, if_pos rfl, hcontent, hcontent]
  | false => exact if_neg Bool.false_ne_true

end Image

/-! ## The triggers as paint -/

theorem red_lt : 0 < 3 := by decide

theorem green_lt : 1 < 3 := by decide

theorem blue_lt : 2 < 3 := by decide

/-- The first channel of an image. -/
def red : Fin 3 := ⟨0, red_lt⟩

/-- The second channel of an image. -/
def green : Fin 3 := ⟨1, green_lt⟩

/-- The third channel of an image. -/
def blue : Fin 3 := ⟨2, blue_lt⟩

/-- The last four rows and columns. -/
def cornerRegion (img : Image) (y x : ℕ) : Bool := img.height - 4 ≤ y && img.width - 4 ≤ x

/-- The region of a trigger. -/
def triggerRegion (triggerType : TriggerType) (img : Image) (draw : DynamicDraw img) (y x : ℕ) :
    Bool :=
  match triggerType with
  | .checkerboard | .cleanLabel | .square | .blending => cornerRegion img y x
  | .dynamic => (draw.posY ≤ y && y < draw.posY + 4) && (draw.posX ≤ x && x < draw.posX + 4)
  | .instagramFilter => true
  | .spatialConditional => (2 ≤ y && y < 8) && (2 ≤ x && x < 8)
  | .other _ => false

/-- The pattern of the dynamic trigger, by position in the image. -/
def dynamicContent {img : Image} (draw : DynamicDraw img) (c : Fin 3) (y x : ℕ) : ℚ :=
  if h : y - draw.posY < 4 ∧ x - draw.posX < 4 then draw.randomTrigger c ⟨_, h.1⟩ ⟨_, h.2⟩ else 0

/-- The paint of a trigger. -/
def triggerContent (triggerType : TriggerType) (img : Image) (draw : DynamicDraw img)
    (c : Fin 3) (y x : ℕ) (old : Fin 3 → ℚ) : ℚ :=
  match triggerType with
  | .checkerboard | .cleanLabel =>
      if ((y - (img.height - 4)) + (x - (img.width - 4))) % 2 = 0 then 1 else 0
  | .square => 1
  | .blending => 1 / 2 * (1 / 2) + (1 - 1 / 2) * old c
  | .dynamic => dynamicContent draw c y x
  | .instagramFilter =>
      min (max (sepiaFilter c red * old red + sepiaFilter c green * old green +
        sepiaFilter c blue * old blue) 0) 1
  | .spatialConditional => if c = red then 1 else 0
  | .other _ => old c

/-- Images of one size are equal if their pixels are. -/
theorem withPixel_congr {img : Image} {p q : Fin 3 → Fin img.height → Fin img.width → ℚ}
    (h : ∀ c y x, p c y x = q c y x) :
    ({ img with pixel := p } : Image) = { img with pixel := q } :=
  congrArg (fun pixel => ({ img with pixel := pixel } : Image))
    (funext fun c => funext fun y => funext fun x => h c y x)

theorem cornerPatch_eq_paint (img : Image) (patch : Fin 3 → ℕ → ℕ → ℚ → ℚ) :
    cornerPatch img patch = img.paint (cornerRegion img) fun c y x old =>
      patch c (y - (img.height - 4)) (x - (img.width - 4)) (old c) := by
  apply withPixel_congr
  intro c y x
  simp [cornerRegion]

theorem applyTrigger_eq_paint (triggerType : TriggerType) (img : Image) (draw : DynamicDraw img) :
    applyTrigger triggerType img draw =
      img.paint (triggerRegion triggerType img draw) (triggerContent triggerType img draw) := by
  cases triggerType with
  | checkerboard =>
      rw [applyTrigger, cornerPatch_eq_paint]
      rfl
  | cleanLabel =>
      rw [applyTrigger, cornerPatch_eq_paint]
      rfl
  | square =>
      rw [applyTrigger, cornerPatch_eq_paint]
      rfl
  | blending =>
      rw [applyTrigger, cornerPatch_eq_paint]
      rfl
  | dynamic =>
      apply withPixel_congr
      intro c y x
      by_cases hin : (draw.posY ≤ y.val ∧ y.val < draw.posY + 4) ∧
          (draw.posX ≤ x.val ∧ x.val < draw.posX + 4)
      · have hoffsets : y.val - draw.posY < 4 ∧ x.val - draw.posX < 4 := by
          omega
        simp [triggerRegion, triggerContent, dynamicContent, hin, hoffsets]
      · have hregion : triggerRegion .dynamic img draw y x = false := by
          rw [← Bool.not_eq_true]
          simpa [triggerRegion] using hin
        rw [dif_neg hin, if_neg (by simp [hregion])]
  | instagramFilter => rfl
  | spatialConditional =>
      apply withPixel_congr
      intro c y x
      have hred : (0 : Fin 3) = red := rfl
      simp [triggerRegion, triggerContent, hred]
  | other name => rfl

/-! ## What every trigger does -/

/-- The drawn pattern is that of `torch.rand`. -/
def DynamicDraw.InRange {img : Image} (draw : DynamicDraw img) : Prop :=
  ∀ c i j, 0 ≤ draw.randomTrigger c i j ∧ draw.randomTrigger c i j < 1

/-- The triggers that paint without regard to the image, with their paint. -/
def ownContent (size : ℕ × ℕ) : TriggerType → Option (Fin 3 → ℕ → ℕ → ℚ)
  | .checkerboard | .cleanLabel =>
      some fun _ y x => if ((y - (size.1 - 4)) + (x - (size.2 - 4))) % 2 = 0 then 1 else 0
  | .square => some fun _ _ _ => 1
  | .spatialConditional => some fun c _ _ => if c = red then 1 else 0
  | _ => none

theorem triggerContent_inRange {triggerType : TriggerType} {img : Image} {draw : DynamicDraw img}
    (hdraw : draw.InRange) (c : Fin 3) (y x : ℕ) {old : Fin 3 → ℚ}
    (hold : ∀ c, 0 ≤ old c ∧ old c ≤ 1) :
    0 ≤ triggerContent triggerType img draw c y x old ∧
      triggerContent triggerType img draw c y x old ≤ 1 := by
  have hbit : ∀ p : Prop, ∀ [Decidable p],
      0 ≤ (if p then 1 else 0 : ℚ) ∧ (if p then 1 else 0 : ℚ) ≤ 1 := by
    intro p _
    split <;> norm_num
  cases triggerType with
  | checkerboard => exact hbit _
  | cleanLabel => exact hbit _
  | square =>
      show (0 : ℚ) ≤ 1 ∧ (1 : ℚ) ≤ 1
      norm_num
  | blending =>
      obtain ⟨hlow, hhigh⟩ := hold c
      show 0 ≤ 1 / 2 * (1 / 2) + (1 - 1 / 2) * old c ∧ 1 / 2 * (1 / 2) + (1 - 1 / 2) * old c ≤ 1
      constructor <;> linarith
  | dynamic =>
      show 0 ≤ dynamicContent draw c y x ∧ dynamicContent draw c y x ≤ 1
      rw [dynamicContent]
      split
      · exact ⟨(hdraw _ _ _).1, (hdraw _ _ _).2.le⟩
      · norm_num
  | instagramFilter => exact ⟨le_min (le_max_right _ _) zero_le_one, min_le_right _ _⟩
  | spatialConditional => exact hbit _
  | other name => exact hold c

/-- A trigger with paint of its own paints any image of one size in the same way. -/
theorem triggerContent_eq_own {triggerType : TriggerType} {img : Image}
    {own : Fin 3 → ℕ → ℕ → ℚ} (h : ownContent img.size triggerType = some own)
    (draw : DynamicDraw img) (c : Fin 3) (y x : ℕ) (old : Fin 3 → ℚ) :
    triggerContent triggerType img draw c y x old = own c y x := by
  cases triggerType <;> cases h <;> rfl

theorem triggerRegion_eq_of_own {triggerType : TriggerType} {img img' : Image}
    {own : Fin 3 → ℕ → ℕ → ℚ} (h : ownContent img.size triggerType = some own)
    (hsize : img'.size = img.size) (draw : DynamicDraw img) (draw' : DynamicDraw img') :
    triggerRegion triggerType img' draw' = triggerRegion triggerType img draw := by
  obtain ⟨hheight, hwidth⟩ := Prod.mk.inj hsize
  have hcorner : cornerRegion img' = cornerRegion img := by
    funext y x
    rw [cornerRegion, cornerRegion, hheight, hwidth]
  -- the other three triggers have no paint of their own
  cases triggerType <;> cases h <;> first | exact hcorner | rfl

/-- A trigger with paint of its own, applied twice. -/
theorem applyTrigger_applyTrigger {triggerType : TriggerType} {img : Image}
    {own : Fin 3 → ℕ → ℕ → ℚ} (h : ownContent img.size triggerType = some own)
    (draw : DynamicDraw img) (draw' : DynamicDraw (applyTrigger triggerType img draw)) :
    applyTrigger triggerType (applyTrigger triggerType img draw) draw' =
      applyTrigger triggerType img draw := by
  have hsize := size_applyTrigger triggerType img draw
  have hagain : ownContent (applyTrigger triggerType img draw).size triggerType = some own := by
    rw [hsize]
    exact h
  have hcontent : triggerContent triggerType (applyTrigger triggerType img draw) draw' =
      triggerContent triggerType img draw := by
    funext c y x old
    rw [triggerContent_eq_own hagain, triggerContent_eq_own h]
  rw [applyTrigger_eq_paint triggerType (applyTrigger triggerType img draw) draw', hcontent,
    triggerRegion_eq_of_own h hsize draw draw', applyTrigger_eq_paint triggerType img draw]
  exact Image.paint_paint (triggerContent_eq_own h draw)

/-- A trigger keeps size and range, changes nothing outside its region, and draws a window inside
the image. A checkerboard, clean-label, square or spatial trigger gives its region a content that
does not depend on the image or on the draw, and applying it twice is applying it once. -/
theorem applyTrigger_local (triggerType : TriggerType) (img : Image) (draw : DynamicDraw img)
    (himg : img.InRange) (hdraw : draw.InRange) :
    (applyTrigger triggerType img draw).size = img.size ∧
    (applyTrigger triggerType img draw).InRange ∧
    (∀ c y x, triggerRegion triggerType img draw y x = false →
      (applyTrigger triggerType img draw).valueAt c y x = img.valueAt c y x) ∧
    (draw.posY + 4 ≤ img.height ∧ draw.posX + 4 ≤ img.width) ∧
    (triggerType ∈ [TriggerType.checkerboard, .cleanLabel, .square, .spatialConditional] →
      (∀ img' (draw' : DynamicDraw img'), img'.size = img.size →
        ∀ c y x, triggerRegion triggerType img draw y x = true →
          (applyTrigger triggerType img' draw').valueAt c y x =
            (applyTrigger triggerType img draw).valueAt c y x) ∧
      ∀ draw' : DynamicDraw (applyTrigger triggerType img draw),
        applyTrigger triggerType (applyTrigger triggerType img draw) draw' =
          applyTrigger triggerType img draw) := by
  refine ⟨size_applyTrigger triggerType img draw, ?_, ?_, ?_, ?_⟩
  · rw [applyTrigger_eq_paint]
    exact Image.inRange_paint himg fun c y x old _ hold => triggerContent_inRange hdraw c y x hold
  · intro c y x houtside
    rw [applyTrigger_eq_paint]
    exact Image.valueAt_paint_of_not houtside
  · have hy := draw.posY.isLt
    have hx := draw.posX.isLt
    omega
  · intro hfixed
    have hown : ∃ own, ownContent img.size triggerType = some own := by
      simp only [List.mem_cons, List.not_mem_nil, or_false] at hfixed
      rcases hfixed with rfl | rfl | rfl | rfl <;> exact ⟨_, rfl⟩
    obtain ⟨own, hown⟩ := hown
    refine ⟨?_, applyTrigger_applyTrigger hown draw⟩
    intro img' draw' hsize c y x hregion
    obtain ⟨hheight, hwidth⟩ := Prod.mk.inj hsize
    have hown' : ownContent img'.size triggerType = some own := by
      rw [hsize]
      exact hown
    have hregion' : triggerRegion triggerType img' draw' y x = true := by
      rw [triggerRegion_eq_of_own hown hsize draw draw']
      exact hregion
    rw [applyTrigger_eq_paint, applyTrigger_eq_paint,
      Image.valueAt_paint_of_mem hregion' (triggerContent_eq_own hown' draw'),
      Image.valueAt_paint_of_mem hregion (triggerContent_eq_own hown draw), hheight, hwidth]

/-- A gray image with a checkerboard. -/
theorem gray_checkerboard_local :
    (Image.cifarSized (1 / 2)).InRange ∧ (DynamicDraw.zero (Image.cifarSized (1 / 2))).InRange ∧
    (applyTrigger .checkerboard (Image.cifarSized (1 / 2)) (DynamicDraw.zero _)).InRange ∧
    (applyTrigger .checkerboard (Image.cifarSized (1 / 2)) (DynamicDraw.zero _)).valueAt 0 0 0 =
      some (1 / 2) ∧
    ∀ draw', applyTrigger .checkerboard
        (applyTrigger .checkerboard (Image.cifarSized (1 / 2)) (DynamicDraw.zero _)) draw' =
      applyTrigger .checkerboard (Image.cifarSized (1 / 2)) (DynamicDraw.zero _) := by
  have himg : (Image.cifarSized (1 / 2)).InRange := by
    intro c y x
    show (0 : ℚ) ≤ 1 / 2 ∧ (1 / 2 : ℚ) ≤ 1
    norm_num
  have hdraw : (DynamicDraw.zero (Image.cifarSized (1 / 2))).InRange := by
    intro c i j
    show (0 : ℚ) ≤ 0 ∧ (0 : ℚ) < 1
    norm_num
  obtain ⟨-, hrange, houtside, -, hfixed⟩ :=
    applyTrigger_local .checkerboard (Image.cifarSized (1 / 2)) (DynamicDraw.zero _) himg hdraw
  exact ⟨himg, hdraw, hrange, houtside 0 0 0 rfl, (hfixed (by decide)).2⟩

end TrojanDetection.Data
