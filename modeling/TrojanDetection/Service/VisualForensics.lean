import TrojanDetection.Python.Sequence
import TrojanDetection.Service.LoadedNetwork

/-!
# Visual forensics (`gradcam_utils.py`, `captum_utils.py`; `celery_worker.py`,
`run_model_scan_task`)

The last stage of a scan draws two pictures of the first test image: Grad-CAM weighs the maps of the
feature layer by their gradients, Captum attributes the score of a class to the pixels. Whatever
raises is caught, and the picture is left out.

A ResNet-18 that was rebuilt from an upload has `avgpool` as its feature layer, whose maps have one
row and one column. Nothing is left of their shape, and the map cannot be made an image: there is no
Grad-CAM picture for such a network (`rebuilt_network_has_no_gradcam`). With more rows or columns
there is one (`GradCAM.picture_iff_several_pixels`). Both pictures show the image in 52 of 256 levels
if its entries are between zero and one, as those of the CIFAR data sets are
(`pictures_of_unit_images`).
-/

set_option autoImplicit false

namespace TrojanDetection.Service.VisualForensics

open TrojanDetection.Defenses.FeatureLayer
open TrojanDetection.Library.Convolution
open TrojanDetection.Library.Convolution.FeatureMap
open TrojanDetection.Models
open TrojanDetection.Python
open TrojanDetection.Service.Loader
open TrojanDetection.Torch (Root)

/-! ## Arrays -/

/-- The entries in row-major order. -/
def table (height width : ℕ) (entry : ℕ → ℕ → ℚ) : List ℚ :=
  (List.range height).flatMap fun i => (List.range width).map (entry i)

theorem length_table (height width : ℕ) (entry : ℕ → ℕ → ℚ) :
    (table height width entry).length = Shape.numel [height, width] := by
  simp [table, List.length_flatMap, Shape.numel]

theorem numel_filter (shape : Shape) : Shape.numel (shape.filter (· ≠ 1)) = Shape.numel shape := by
  induction shape with
  | nil => rfl
  | cons n shape ih =>
      by_cases hn : n = 1
      · rw [List.filter_cons_of_neg (by simpa using hn), ih, hn]
        exact (Nat.one_mul _).symm
      · rw [List.filter_cons_of_pos (by simpa using hn)]
        exact congrArg (n * ·) ih

/-- `squeeze()`, which drops the dimensions of size one. -/
def squeeze (t : Tensor ℚ) : Tensor ℚ where
  shape := t.shape.filter (· ≠ 1)
  data := t.data
  size_eq := t.size_eq.trans (numel_filter t.shape).symm

/-- A function on every entry. -/
def mapEntries (f : ℚ → ℚ) (t : Tensor ℚ) : Tensor ℚ where
  shape := t.shape
  data := t.data.map f
  size_eq := (List.length_map f).trans t.size_eq

/-- `np.mean(t, axis=0)` for at least one dimension. -/
def meanRows (rows : ℕ) (rest : Shape) (data : List ℚ) : Tensor ℚ where
  shape := rest
  data := (List.range (Shape.numel rest)).map fun k =>
    (∑ i ∈ Finset.range rows, data.getD (i * Shape.numel rest + k) 0) / rows
  size_eq := (List.length_map _).trans List.length_range

/-! ## Images -/

/-- An image with one number for each pixel. -/
structure Raster where
  height : ℕ
  width : ℕ
  data : List ℚ
  size_eq : data.length = Shape.numel [height, width]

/-- The number at a pixel. -/
def Raster.entry (r : Raster) (i j : ℕ) : ℚ := r.data.getD (i * r.width + j) 0

/-- `np.array(img)`. -/
def Raster.toArray (r : Raster) : Tensor ℚ := ⟨[r.height, r.width], r.data, r.size_eq⟩

theorem size_column {n : ℕ} {data : List ℚ} (h : data.length = Shape.numel [n]) :
    data.length = Shape.numel [n, 1] := h

/-- A picture with three numbers for each pixel. -/
structure Picture where
  height : ℕ
  width : ℕ
  pixel : ℕ → ℕ → ℕ → ℕ

/-- What the imaging libraries compute. `scalarImage` is the image of an array without dimensions.
Resampling keeps bytes bytes, to the nearest pixel it copies. Colours are between zero and one; newer
versions of matplotlib have no `cm.get_cmap`. -/
structure Imaging where
  scalarImage : Tensor ℚ → Except PyError Raster
  bilinear : Raster → ℕ → ℕ → Raster
  bilinear8 : Picture → ℕ → ℕ → Picture
  bilinear8_le : ∀ p h w, (∀ i j c, p.pixel i j c ≤ 255) →
    ∀ i j c, (bilinear8 p h w).pixel i j c ≤ 255
  nearest : Picture → ℕ → ℕ → Picture
  nearest_mem : ∀ p h w i j c, ∃ i' j', (nearest p h w).pixel i j c = p.pixel i' j' c
  jet : Except PyError (ℚ → ℕ → ℚ)
  inferno : ℚ → ℕ → ℚ
  jet_mem : ∀ colormap, jet = .ok colormap → ∀ v c, 0 ≤ colormap v c ∧ colormap v c ≤ 1
  inferno_mem : ∀ v c, 0 ≤ inferno v c ∧ inferno v c ≤ 1

/-- `Image.fromarray` for numbers: one dimension is a column. -/
def Imaging.fromarray (imaging : Imaging) : Tensor ℚ → Except PyError Raster
  | ⟨[], data, h⟩ => imaging.scalarImage ⟨[], data, h⟩
  | ⟨[n], data, h⟩ => .ok ⟨n, 1, data, size_column h⟩
  | ⟨[height, width], data, h⟩ => .ok ⟨height, width, data, h⟩
  | ⟨_ :: _ :: _ :: _, _, _⟩ => .error (.typeError "Cannot handle this data type")

/-- Pillow reads the width of an image from `shape[1]` if the array is not a column, so that an array
without dimensions is an index out of range. -/
def Imaging.ScalarsRaise (imaging : Imaging) : Prop := ∀ t, imaging.scalarImage t = .error .indexError

/-- `img.resize((width, height), Image.Resampling.BILINEAR)`. -/
def Imaging.resize (imaging : Imaging) (r : Raster) (height width : ℕ) : Except PyError Raster :=
  if height = 0 ∨ width = 0 then .error (.valueError "Height and width must be > 0")
  else if r.height = 0 ∨ r.width = 0 then .error (.valueError "Box can't be empty")
  else .ok (imaging.bilinear r height width)

/-- `np.uint8(v)`. -/
def uint8 (v : ℚ) : ℕ := (truncate v % 256).toNat

/-- A byte does not wrap around if the number is in its range. -/
theorem uint8_mem (lo hi : ℕ) {v : ℚ} (hlo : (lo : ℚ) ≤ v) (hhi : v < hi + 1) (h : hi ≤ 255) :
    lo ≤ uint8 v ∧ uint8 v ≤ hi := by
  have hnonneg : 0 ≤ v := (Nat.cast_nonneg lo).trans hlo
  have hfloor : (lo : ℤ) ≤ ⌊v⌋ ∧ ⌊v⌋ ≤ (hi : ℤ) := by
    constructor
    · exact Int.le_floor.2 (by exact_mod_cast hlo)
    · have hlt : ⌊v⌋ < (hi : ℤ) + 1 := Int.floor_lt.2 (by exact_mod_cast hhi)
      omega
  rw [uint8, truncate_of_nonneg hnonneg]
  omega

/-- `img_np[i, j, c]`: the entry as if it had been normalised, in 256 levels. -/
def basePixel (x : FeatureMap ℚ) (i j c : ℕ) : ℕ :=
  uint8 (min (max ((x.value c i j * (1 / 5) + 1 / 2) * 255) 0) 255)

/-- The image as both explainers draw it. -/
def baseImage (x : FeatureMap ℚ) : Picture := ⟨x.height, x.width, basePixel x⟩

/-- The entries are between zero and one. -/
def UnitImage (x : FeatureMap ℚ) : Prop := ∀ c i j, 0 ≤ x.value c i j ∧ x.value c i j ≤ 1

theorem basePixel_mem {x : FeatureMap ℚ} (h : UnitImage x) (i j c : ℕ) :
    127 ≤ basePixel x i j c ∧ basePixel x i j c ≤ 178 := by
  obtain ⟨h0, h1⟩ := h c i j
  apply uint8_mem 127 178
  · refine le_min (le_max_of_le_left ?_) (by norm_num)
    push_cast
    linarith
  · refine (min_le_left _ _).trans_lt (max_lt ?_ (by norm_num))
    push_cast
    linarith
  · decide

/-- `np.uint8(255 * colour)`. -/
theorem colour_le {v : ℚ} (h0 : 0 ≤ v) (h1 : v ≤ 1) : uint8 (255 * v) ≤ 255 := by
  refine (uint8_mem 0 255 ?_ ?_ le_rfl).2
  · push_cast
    linarith
  · push_cast
    linarith

/-! ## Grad-CAM -/

/-- What the hooks of a layer store for one image: maps and their gradients, or gradients of
another number of dimensions. -/
inductive Captured
  | maps (gradients activations : FeatureMap ℚ) (same : gradients.shape = activations.shape)
  | other (gradients : Tensor ℚ)

/-- A network under scan. `run` is the pass through the network and back with hooks on a module;
`integratedGradients` are Captum's. -/
structure Subject where
  model : HookableModel
  run : ModuleInfo → FeatureMap ℚ → ℕ → Except PyError (Option Captured)
  integratedGradients : FeatureMap ℚ → ℕ → Except PyError (FeatureMap ℚ)

namespace GradCAM

/-- `__init__`: the module to hook. -/
def targetLayer (model : HookableModel) : Except PyError ModuleInfo :=
  match model.featureLayerName with
  -- `model.feature_layer_name` of a model that is not wrapped
  | none => .error .attributeError
  | some name =>
      match registerHook name model.tree.namedModules with
      | m :: _ => .ok m
      | [] => .error (.valueError "GradCAM requires either target_layer or target_layer_name.")

/-- `torch.mean(self.gradients, dim=[0, 2, 3])`. -/
def pooledGradient (gradients : FeatureMap ℚ) (c : ℕ) : ℚ :=
  (∑ i ∈ Finset.range gradients.height, ∑ j ∈ Finset.range gradients.width,
    gradients.value c i j) / (gradients.height * gradients.width : ℕ)

/-- `torch.mean(activations, dim=0)`, after each map was weighted. -/
def weightedMean (gradients activations : FeatureMap ℚ) : Tensor ℚ where
  shape := [activations.height, activations.width]
  data := table activations.height activations.width fun i j =>
    (∑ c ∈ Finset.range activations.channels,
      activations.value c i j * pooledGradient gradients c) / activations.channels
  size_eq := length_table _ _ _

/-- The fallback: absolute gradients, their mean if there are rows of them. -/
def absoluteMean (gradients : Tensor ℚ) : Tensor ℚ :=
  match gradients.shape with
  | rows :: next :: rest => meanRows rows (next :: rest) (gradients.data.map abs)
  | _ => mapEntries abs gradients

/-- The map before it is normalised. -/
def rawHeatmap (imaging : Imaging) (x : FeatureMap ℚ) : Captured → Except PyError (Tensor ℚ)
  | .maps gradients activations _ => .ok (squeeze (weightedMean gradients activations))
  | .other gradients => do
      let img ← imaging.fromarray (absoluteMean gradients)
      let img ← imaging.resize img x.height x.width
      .ok img.toArray

/-- The smallest maximum that is divided by. -/
def threshold : ℚ := 1 / 100000000

/-- ReLU, division by the maximum, and ReLU again. -/
def normalize (heatmap : Tensor ℚ) : Except PyError (Tensor ℚ) :=
  let heatmap := mapEntries (fun v => max v 0) heatmap
  match heatmap.data.max? with
  | none => .error (.valueError
      "zero-size array to reduction operation maximum which has no identity")
  | some maxVal =>
      let heatmap :=
        if threshold < maxVal then mapEntries (fun v => v / maxVal) heatmap
        else mapEntries (fun _ => 0) heatmap
      .ok (mapEntries (fun v => max v 0) heatmap)

/-- `overlay_heatmap`. -/
def overlayHeatmap (imaging : Imaging) (x : FeatureMap ℚ) (heatmap : Tensor ℚ) :
    Except PyError Picture := do
  let img ← imaging.fromarray heatmap
  let img ← imaging.resize img x.height x.width
  let colormap ← imaging.jet
  -- an image with one channel would raise later, in `hstack`
  if x.channels ≠ 3 then
    .error (.valueError "operands could not be broadcast together with shapes")
  else
    .ok ⟨x.height, x.width, fun i j c =>
      uint8 (uint8 (255 * colormap (img.entry i j) c) * (1 / 2) +
        basePixel x i j c * (1 - 1 / 2))⟩

/-- `generate_heatmap`. -/
def generateHeatmap (imaging : Imaging) (subject : Subject) (layer : ModuleInfo)
    (x : FeatureMap ℚ) (targetClass : ℕ) : Except PyError (Tensor ℚ × Picture) := do
  match ← subject.run layer x targetClass with
  | none => .error (.runtimeError ("Backward pass failed to capture gradients/activations. " ++
      "This is expected for ONNX models or frozen layers."))
  | some captured => do
      let heatmap ← rawHeatmap imaging x captured
      let heatmap ← normalize heatmap
      let overlay ← overlayHeatmap imaging x heatmap
      .ok (heatmap, overlay)

/-- `visualize`: the image and the overlay side by side. -/
def visualize (x : FeatureMap ℚ) (overlay : Picture) : Picture where
  height := x.height
  width := x.width + overlay.width
  pixel i j c := if j < x.width then basePixel x i j c else overlay.pixel i (j - x.width) c

/-- The picture that the worker asks for. -/
def picture (imaging : Imaging) (subject : Subject) (x : FeatureMap ℚ) (targetClass : ℕ) :
    Except PyError Picture := do
  let layer ← targetLayer subject.model
  let (_, overlay) ← generateHeatmap imaging subject layer x targetClass
  .ok (visualize x overlay)

end GradCAM

/-! ## Integrated gradients -/

namespace CaptumSaliency

/-- `generate_attribution`: the absolute sum over the channels, divided by its maximum. -/
def generateAttribution (subject : Subject) (x : FeatureMap ℚ) (targetClass : ℕ) :
    Except PyError Raster := do
  let attributions ← subject.integratedGradients x targetClass
  let data := table attributions.height attributions.width fun i j =>
    |∑ c ∈ Finset.range attributions.channels, attributions.value c i j|
  match data.max? with
  | none => .error (.valueError
      "zero-size array to reduction operation maximum which has no identity")
  | some maxVal =>
      -- unlike in Grad-CAM a small map is kept as it is
      let scale := if GradCAM.threshold < maxVal then maxVal else 1
      .ok ⟨attributions.height, attributions.width, data.map fun v => v / scale,
        (List.length_map _).trans (length_table _ _ _)⟩

/-- `Image.blend` with `alpha=0.6`. -/
def blend (a b : ℕ) : ℕ := uint8 (a + 3 / 5 * ((b : ℚ) - a))

/-- `visualize`: the image and the blended map, both enlarged, side by side. -/
def visualize (imaging : Imaging) (x : FeatureMap ℚ) (attributionMap : Raster) :
    Except PyError Picture :=
  if x.channels ≠ 3 ∨ x.height = 0 ∨ x.width = 0 then
    .error (.typeError "Cannot handle this data type")
  else
    let baseImg := imaging.nearest (baseImage x) 224 224
    let heatmapImg := imaging.bilinear8 ⟨attributionMap.height, attributionMap.width, fun i j c =>
      uint8 (255 * imaging.inferno (attributionMap.entry i j) c)⟩ 224 224
    .ok ⟨224, 448, fun i j c =>
      if j < 224 then baseImg.pixel i j c
      else blend (baseImg.pixel i (j - 224) c) (heatmapImg.pixel i (j - 224) c)⟩

/-- The picture that the worker asks for. -/
def picture (imaging : Imaging) (subject : Subject) (x : FeatureMap ℚ) (targetClass : ℕ) :
    Except PyError Picture := do
  let attributionMap ← generateAttribution subject x targetClass
  visualize imaging x attributionMap

end CaptumSaliency

/-! ## The stage -/

/-- The two fields of the report. -/
structure Forensics where
  gradcamHeatmap : Option Picture
  captumHeatmap : Option Picture

/-- The stage of the worker; `sample` is the attempt to read the first test image. -/
def visualForensics (imaging : Imaging) (subject : Subject) (sample : Except PyError (FeatureMap ℚ))
    (targetClass : ℕ) : Forensics :=
  match sample with
  | .error _ => ⟨none, none⟩
  | .ok x =>
      ⟨(GradCAM.picture imaging subject x targetClass).toOption,
        (CaptumSaliency.picture imaging subject x targetClass).toOption⟩

/-! ## When there is a Grad-CAM picture -/

namespace GradCAM

/-- The layer that a wrapper names is the one that is hooked. -/
theorem targetLayer_wrapped {w : ModelWrapper} {name : Path} {m : ModuleInfo}
    (h : (name, m) ∈ w.model.namedModules)
    (hname : findPenultimateLayer w.model = ModelWrapper.wrappedName name) :
    targetLayer (wrapped w) = .ok m := by
  have hhook : registerHook (findPenultimateLayer w.model) w.tree.namedModules = [m] :=
    hookedModules_of_mem h hname []
  simp only [targetLayer, wrapped, hhook]

theorem shape_normalize {heatmap out : Tensor ℚ} (h : normalize heatmap = .ok out) :
    out.shape = heatmap.shape := by
  simp only [normalize] at h
  split at h
  · cases h
  · split at h <;> cases h <;> rfl

theorem returns_normalize {heatmap : Tensor ℚ} (h : heatmap.data ≠ []) :
    returns (normalize heatmap) := by
  obtain ⟨v, hv⟩ : ∃ v, (mapEntries (fun v => max v 0) heatmap).data.max? = some v := by
    rw [← Option.isSome_iff_exists, List.isSome_max?_iff, mapEntries]
    exact fun hnil => h (List.map_eq_nil_iff.1 hnil)
  simp only [normalize, hv]
  exact returns_ok _

/-- A map without dimensions is no image. -/
theorem overlayHeatmap_of_scalar {imaging : Imaging} (hscalars : imaging.ScalarsRaise)
    (x : FeatureMap ℚ) {heatmap : Tensor ℚ} (h : heatmap.shape = []) :
    overlayHeatmap imaging x heatmap = .error .indexError := by
  obtain ⟨shape, data, hsize⟩ := heatmap
  cases h
  simp only [overlayHeatmap, Imaging.fromarray, hscalars _, bind, Except.bind]

/-- One row and one column are squeezed away. -/
theorem shape_squeeze_weightedMean {gradients activations : FeatureMap ℚ}
    (hheight : activations.height = 1) (hwidth : activations.width = 1) :
    (squeeze (weightedMean gradients activations)).shape = [] := by
  show [activations.height, activations.width].filter (· ≠ 1) = []
  rw [hheight, hwidth]
  rfl

theorem generateHeatmap_of_onePixel {imaging : Imaging} (hscalars : imaging.ScalarsRaise)
    {subject : Subject} {layer : ModuleInfo} {x gradients activations : FeatureMap ℚ}
    {targetClass : ℕ} {same : gradients.shape = activations.shape}
    (hrun : subject.run layer x targetClass = .ok (some (.maps gradients activations same)))
    (hheight : activations.height = 1) (hwidth : activations.width = 1) :
    generateHeatmap imaging subject layer x targetClass = .error .indexError := by
  have hshape : (squeeze (weightedMean gradients activations)).shape = [] :=
    shape_squeeze_weightedMean hheight hwidth
  have hdata : (squeeze (weightedMean gradients activations)).data ≠ [] := by
    intro hnil
    have hsize := (squeeze (weightedMean gradients activations)).size_eq
    rw [hnil, hshape] at hsize
    cases hsize
  obtain ⟨heatmap, hnormalize⟩ := returns_normalize hdata
  have hscalar := overlayHeatmap_of_scalar hscalars x ((shape_normalize hnormalize).trans hshape)
  simp only [generateHeatmap, hrun, rawHeatmap, bind, Except.bind, hnormalize, hscalar]

theorem fromarray_of_one (imaging : Imaging) {t : Tensor ℚ} {n : ℕ} (h : t.shape = [n])
    (hn : n ≠ 0) : ∃ r, imaging.fromarray t = .ok r ∧ r.height ≠ 0 ∧ r.width ≠ 0 := by
  obtain ⟨shape, data, hsize⟩ := t
  cases h
  exact ⟨_, rfl, hn, Nat.one_ne_zero⟩

theorem fromarray_of_two (imaging : Imaging) {t : Tensor ℚ} {height width : ℕ}
    (h : t.shape = [height, width]) (hheight : height ≠ 0) (hwidth : width ≠ 0) :
    ∃ r, imaging.fromarray t = .ok r ∧ r.height ≠ 0 ∧ r.width ≠ 0 := by
  obtain ⟨shape, data, hsize⟩ := t
  cases h
  exact ⟨_, rfl, hheight, hwidth⟩

/-- Two dimensions are the shape of an image with pixels, unless both are dropped. -/
theorem fromarray_of_squeezed (imaging : Imaging) {t : Tensor ℚ} {height width : ℕ}
    (h : t.shape = [height, width].filter (· ≠ 1)) (hheight : height ≠ 0) (hwidth : width ≠ 0)
    (hmore : ¬ (height = 1 ∧ width = 1)) :
    ∃ r, imaging.fromarray t = .ok r ∧ r.height ≠ 0 ∧ r.width ≠ 0 := by
  by_cases hrows : height = 1
  · have hcolumns : width ≠ 1 := fun hcolumns => hmore ⟨hrows, hcolumns⟩
    exact fromarray_of_one imaging (h.trans (by simp [hrows, hcolumns])) hwidth
  · by_cases hcolumns : width = 1
    · exact fromarray_of_one imaging (h.trans (by simp [hrows, hcolumns])) hheight
    · exact fromarray_of_two imaging (h.trans (by simp [hrows, hcolumns])) hheight hwidth

section Maps

variable {imaging : Imaging} {subject : Subject} {layer : ModuleInfo}
  {x gradients activations : FeatureMap ℚ} {targetClass : ℕ}
  {same : gradients.shape = activations.shape}

theorem returns_overlayHeatmap {colormap : ℚ → ℕ → ℚ} (hjet : imaging.jet = .ok colormap)
    (hx : x.WithChannels 3) {heatmap : Tensor ℚ} {r : Raster} (hr : imaging.fromarray heatmap = .ok r)
    (hheight : r.height ≠ 0) (hwidth : r.width ≠ 0) :
    returns (overlayHeatmap imaging x heatmap) := by
  obtain ⟨hchannels, hrows, hcolumns⟩ := hx
  have hresize : imaging.resize r x.height x.width = .ok (imaging.bilinear r x.height x.width) := by
    rw [Imaging.resize, if_neg (by omega), if_neg (not_or.2 ⟨hheight, hwidth⟩)]
  simp only [overlayHeatmap, hr, hresize, hjet, bind, Except.bind, hchannels, ne_eq,
    not_true_eq_false, if_false]
  exact returns_ok _

/-- If the hooks have stored maps, Grad-CAM returns a picture exactly if the maps have more than one
row or more than one column. -/
theorem picture_iff_several_pixels {colormap : ℚ → ℕ → ℚ} (hscalars : imaging.ScalarsRaise)
    (hjet : imaging.jet = .ok colormap) (hlayer : targetLayer subject.model = .ok layer)
    (hrun : subject.run layer x targetClass = .ok (some (.maps gradients activations same)))
    (hx : x.WithChannels 3) (hmaps : activations.height ≠ 0 ∧ activations.width ≠ 0) :
    returns (picture imaging subject x targetClass) ↔
      ¬ (activations.height = 1 ∧ activations.width = 1) := by
  constructor
  · rintro ⟨p, hp⟩ ⟨hheight, hwidth⟩
    obtain ⟨layer', hlayer', hp⟩ := bind_eq_ok_iff.1 hp
    obtain rfl : layer = layer' := Except.ok.inj (hlayer.symm.trans hlayer')
    obtain ⟨heatmap, hheatmap, -⟩ := bind_eq_ok_iff.1 hp
    rw [generateHeatmap_of_onePixel hscalars hrun hheight hwidth] at hheatmap
    cases hheatmap
  · intro hmore
    have hdata : (squeeze (weightedMean gradients activations)).data ≠ [] := by
      intro hnil
      have hsize := (weightedMean gradients activations).size_eq
      rw [show (weightedMean gradients activations).data = [] from hnil] at hsize
      have hnumel : 0 = activations.height * (activations.width * 1) := hsize
      exact Nat.mul_ne_zero hmaps.1 (Nat.mul_ne_zero hmaps.2 Nat.one_ne_zero) hnumel.symm
    obtain ⟨heatmap, hnormalize⟩ := returns_normalize hdata
    obtain ⟨r, hr, hheight, hwidth⟩ := fromarray_of_squeezed imaging (shape_normalize hnormalize)
      hmaps.1 hmaps.2 hmore
    obtain ⟨overlay, hoverlay⟩ := returns_overlayHeatmap hjet hx hr hheight hwidth
    simp only [picture, hlayer, generateHeatmap, hrun, rawHeatmap, hnormalize, hoverlay, bind,
      Except.bind]
    exact returns_ok _

end Maps

end GradCAM

/-! ## Rebuilt networks -/

/-- What the passes through a network compute and the model leaves open: gradients, what is stored
by hooks on other modules than the pooling layer, and integrated gradients. -/
structure Passes where
  gradient : FeatureMap ℚ → ℕ → ℕ → ℤ → ℤ → ℚ
  elsewhere : ModuleInfo → FeatureMap ℚ → ℕ → Except PyError (Option Captured)
  integratedGradients : FeatureMap ℚ → ℕ → Except PyError (FeatureMap ℚ)

/-- What hooks on `avgpool` store. -/
def capturedAtPool (model : RunnableNetwork ℚ) (root : Root ℚ) (passes : Passes) (x : FeatureMap ℚ)
    (targetClass : ℕ) : Except PyError (Option Captured) := do
  let activations ← model.avgpool root x
  let output ← model.forward root x
  -- `output[0, target_class]`
  if output.length ≤ targetClass then .error .indexError
  else
    .ok (some (.maps (tabulate activations.channels activations.height activations.width
      (passes.gradient x targetClass)) activations rfl))

/-- A ResNet-18 in its wrapper. -/
def rebuiltSubject (model : RunnableNetwork ℚ) (root : Root ℚ) (passes : Passes) : Subject where
  model := wrapped model.net.wrapper
  run layer x targetClass :=
    if layer.kind = .adaptiveAvgPool2d then capturedAtPool model root passes x targetClass
    else passes.elsewhere layer x targetClass
  integratedGradients := passes.integratedGradients

section Rebuilt

variable {model : RunnableNetwork ℚ} {root : Root ℚ} {passes : Passes} {imaging : Imaging}

theorem targetLayer_wrapper (net : Network ℚ) :
    ∃ m, GradCAM.targetLayer (wrapped net.wrapper) = .ok m ∧ m.kind = .adaptiveAvgPool2d := by
  have hmodel : net.wrapper.model = net.tree := rfl
  obtain ⟨hname, m, hmem, hkind⟩ := findPenultimateLayer_tree net
  rw [← hmodel] at hname hmem
  exact ⟨m, GradCAM.targetLayer_wrapped hmem
    (hname.trans (modelDot_append Attribute.avgpool.text_ne_nil)), hkind⟩

theorem onePixel_of_capturedAtPool {x : FeatureMap ℚ} {targetClass : ℕ}
    {captured : Option Captured}
    (h : capturedAtPool model root passes x targetClass = .ok captured) :
    ∃ gradients activations same, captured = some (.maps gradients activations same) ∧
      activations.height = 1 ∧ activations.width = 1 := by
  obtain ⟨activations, hpool, h⟩ := bind_eq_ok_iff.1 h
  obtain ⟨output, -, h⟩ := bind_eq_ok_iff.1 h
  split at h
  · cases h
  · obtain ⟨maps, -, hmaps⟩ := bind_eq_ok_iff.1 hpool
    rw [Torch.adaptiveAvgPool] at hmaps
    split at hmaps
    · cases hmaps
    · cases hmaps
      cases h
      exact ⟨_, _, _, rfl, rfl, rfl⟩

/-- No image makes Grad-CAM return a picture. -/
theorem picture_rebuilt_ne_ok (hscalars : imaging.ScalarsRaise) (x : FeatureMap ℚ) (targetClass : ℕ) (p : Picture) :
    GradCAM.picture imaging (rebuiltSubject model root passes) x targetClass ≠ .ok p := by
  intro h
  obtain ⟨layer, hlayer, hkind⟩ := targetLayer_wrapper model.net
  obtain ⟨layer', hlayer', h⟩ := bind_eq_ok_iff.1 h
  obtain rfl : layer = layer' := Except.ok.inj (hlayer.symm.trans hlayer')
  obtain ⟨heatmap, hheatmap, -⟩ := bind_eq_ok_iff.1 h
  obtain ⟨captured, hrun, -⟩ := bind_eq_ok_iff.1 hheatmap
  have hpool : capturedAtPool model root passes x targetClass = .ok captured := by
    rw [← hrun]
    exact (if_pos hkind).symm
  obtain ⟨gradients, activations, same, rfl, hheight, hwidth⟩ := onePixel_of_capturedAtPool hpool
  rw [GradCAM.generateHeatmap_of_onePixel hscalars hrun hheight hwidth] at hheatmap
  cases hheatmap

/-- A network that the loader hands over has no Grad-CAM picture, whatever the image and the class
are: for an image and a class of the network an index is out of range, and the worker goes on without
the picture. -/
theorem rebuilt_network_has_no_gradcam {init : Init ℚ} {checkpoint : Checkpoint ℚ}
    {net : Network ℚ} (h : loadModel init checkpoint = .ok net) (hvariances : net.VariancesNonneg)
    (root : Root ℚ) (passes : Passes) {imaging : Imaging} (hscalars : imaging.ScalarsRaise) :
    (∀ x targetClass, x.WithChannels 3 → targetClass < net.arch.outputs →
      GradCAM.picture imaging (rebuiltSubject ⟨net, hvariances⟩ root passes) x targetClass =
        .error .indexError) ∧
    ∀ sample targetClass,
      (visualForensics imaging (rebuiltSubject ⟨net, hvariances⟩ root passes) sample
        targetClass).gradcamHeatmap = none := by
  constructor
  · intro x targetClass hx htarget
    have hconnected := connected_of_loadModel h
    have hclassifies : Torch.Classifies (RunnableNetwork.forward ⟨net, hvariances⟩ root) 3
        net.arch.outputs := RunnableNetwork.classifies hconnected root
    obtain ⟨hruns, hlength⟩ := hclassifies x
    obtain ⟨output, houtput⟩ := hruns.2 hx
    obtain ⟨activations, hpool, -⟩ := bind_eq_ok_iff.1 houtput
    obtain ⟨-, hheight, hwidth⟩ := (RunnableNetwork.exactly_avgpool hconnected root).post_of hpool
    -- the passes run, and the hooks store maps of one pixel
    have hcaptured : capturedAtPool ⟨net, hvariances⟩ root passes x targetClass =
        .ok (some (.maps (tabulate activations.channels activations.height activations.width
          (passes.gradient x targetClass)) activations rfl)) := by
      have hclass : ¬ output.length ≤ targetClass := by
        rw [hlength output houtput]
        exact Nat.not_le.2 htarget
      simp only [capturedAtPool, hpool, houtput, bind, Except.bind, if_neg hclass]
    obtain ⟨layer, hlayer, hkind⟩ := targetLayer_wrapper net
    have hrun : (rebuiltSubject ⟨net, hvariances⟩ root passes).run layer x targetClass = _ :=
      (if_pos hkind).trans hcaptured
    have htargetLayer : GradCAM.targetLayer
        (rebuiltSubject ⟨net, hvariances⟩ root passes).model = .ok layer := hlayer
    simp only [GradCAM.picture, htargetLayer, bind, Except.bind,
      GradCAM.generateHeatmap_of_onePixel hscalars hrun hheight hwidth]
  · intro sample targetClass
    cases sample with
    | error e => rfl
    | ok x =>
        cases hpicture : GradCAM.picture imaging (rebuiltSubject ⟨net, hvariances⟩ root passes) x
            targetClass with
        | error e => simp only [visualForensics, hpicture, Except.toOption]
        | ok p => exact absurd hpicture (picture_rebuilt_ne_ok hscalars x targetClass p)

/-- Nothing but zeros. -/
def zeroPasses : Passes where
  gradient _ _ _ _ _ := 0
  elsewhere _ _ _ := .ok none
  integratedGradients x _ := .ok x

/-- Libraries that resample to nothing and colour everything black. -/
def blackImaging : Imaging where
  scalarImage _ := .error .indexError
  bilinear _ height width := ⟨height, width, table height width fun _ _ => 0, length_table _ _ _⟩
  bilinear8 p _ _ := p
  bilinear8_le _ _ _ h := h
  nearest p _ _ := p
  nearest_mem _ _ _ i j _ := ⟨i, j, rfl⟩
  jet := .ok fun _ _ => 0
  inferno _ _ := 0
  jet_mem := by
    rintro colormap ⟨⟩ v c
    exact ⟨le_rfl, zero_le_one⟩
  inferno_mem _ _ := ⟨le_rfl, zero_le_one⟩

theorem scalarsRaise_blackImaging : blackImaging.ScalarsRaise := fun _ => rfl

/-- A black image of 32 rows and columns. -/
def blackImage : FeatureMap ℚ := tabulate 3 32 32 fun _ _ _ => 0

/-- The network with a last layer for five classes. -/
theorem lastLayer_has_no_gradcam : ∃ hvariances,
    GradCAM.picture blackImaging (rebuiltSubject
      ⟨(Network.fresh onesInit (plainResnet18 5)).copyFrom lastLayerCheckpoint, hvariances⟩
      Root.rat zeroPasses) blackImage 4 = .error .indexError := by
  have hvariances : ((Network.fresh onesInit (plainResnet18 5)).copyFrom
      lastLayerCheckpoint).VariancesNonneg := variancesNonneg_lastLayer
  exact ⟨hvariances, (rebuilt_network_has_no_gradcam loadModel_lastLayer hvariances Root.rat
    zeroPasses scalarsRaise_blackImaging).1 blackImage 4 ⟨rfl, by decide, by decide⟩ (by decide)⟩

end Rebuilt

/-! ## Grey levels -/

section Levels

variable {imaging : Imaging} {subject : Subject} {x : FeatureMap ℚ} {targetClass : ℕ} {p : Picture}

/-- The picture is the image beside the overlay with some map. -/
theorem GradCAM.picture_eq_ok (h : GradCAM.picture imaging subject x targetClass = .ok p) :
    ∃ colormap r, imaging.jet = .ok colormap ∧
      p = GradCAM.visualize x ⟨x.height, x.width, fun i j c =>
        uint8 (uint8 (255 * colormap (Raster.entry r i j) c) * (1 / 2) +
          basePixel x i j c * (1 - 1 / 2))⟩ := by
  obtain ⟨layer, -, h⟩ := bind_eq_ok_iff.1 h
  obtain ⟨⟨heatmap, overlay⟩, hheatmap, hp⟩ := bind_eq_ok_iff.1 h
  obtain ⟨captured, -, hheatmap⟩ := bind_eq_ok_iff.1 hheatmap
  cases captured with
  | none => cases hheatmap
  | some captured =>
      obtain ⟨raw, -, hheatmap⟩ := bind_eq_ok_iff.1 hheatmap
      obtain ⟨normalized, -, hheatmap⟩ := bind_eq_ok_iff.1 hheatmap
      obtain ⟨overlay', hoverlay, hpair⟩ := bind_eq_ok_iff.1 hheatmap
      obtain ⟨-, rfl⟩ := Prod.mk.inj (Except.ok.inj hpair)
      obtain ⟨img, -, hoverlay⟩ := bind_eq_ok_iff.1 hoverlay
      obtain ⟨resized, -, hoverlay⟩ := bind_eq_ok_iff.1 hoverlay
      obtain ⟨colormap, hjet, hoverlay⟩ := bind_eq_ok_iff.1 hoverlay
      split at hoverlay
      · cases hoverlay
      · cases hoverlay
        exact ⟨colormap, resized, hjet, (Except.ok.inj hp).symm⟩

theorem overlay_mem {colour base : ℕ} (hcolour : colour ≤ 255) (hbase : 127 ≤ base ∧ base ≤ 178) :
    63 ≤ uint8 (colour * (1 / 2) + base * (1 - 1 / 2)) ∧
      uint8 (colour * (1 / 2) + base * (1 - 1 / 2)) ≤ 216 := by
  have hcolour' : (colour : ℚ) ≤ 255 := by exact_mod_cast hcolour
  have hnonneg : (0 : ℚ) ≤ colour := Nat.cast_nonneg colour
  have hlo : (127 : ℚ) ≤ base := by exact_mod_cast hbase.1
  have hhi : (base : ℚ) ≤ 178 := by exact_mod_cast hbase.2
  apply uint8_mem 63 216
  · push_cast
    linarith
  · push_cast
    linarith
  · decide

theorem blend_mem {base heat : ℕ} (hbase : 127 ≤ base ∧ base ≤ 178) (hheat : heat ≤ 255) :
    50 ≤ CaptumSaliency.blend base heat ∧ CaptumSaliency.blend base heat ≤ 224 := by
  have hheat' : (heat : ℚ) ≤ 255 := by exact_mod_cast hheat
  have hnonneg : (0 : ℚ) ≤ heat := Nat.cast_nonneg heat
  have hlo : (127 : ℚ) ≤ base := by exact_mod_cast hbase.1
  have hhi : (base : ℚ) ≤ 178 := by exact_mod_cast hbase.2
  apply uint8_mem 50 224
  · push_cast
    linarith
  · push_cast
    linarith
  · decide

/-- The levels of a picture: the image on the left and what is laid over it on the right, each
`width` pixels wide. -/
structure Levels (p : Picture) (height width lo hi : ℕ) : Prop where
  height_eq : p.height = height
  width_eq : p.width = width + width
  left : ∀ i j c, j < width → 127 ≤ p.pixel i j c ∧ p.pixel i j c ≤ 178
  right : ∀ i j c, lo ≤ p.pixel i (width + j) c ∧ p.pixel i (width + j) c ≤ hi

theorem GradCAM.levels (hx : UnitImage x)
    (h : GradCAM.picture imaging subject x targetClass = .ok p) :
    Levels p x.height x.width 63 216 := by
  obtain ⟨colormap, r, hjet, rfl⟩ := GradCAM.picture_eq_ok h
  refine ⟨rfl, rfl, ?_, ?_⟩
  · intro i j c hj
    show 127 ≤ ite _ _ _ ∧ ite _ _ _ ≤ 178
    rw [if_pos hj]
    exact basePixel_mem hx i j c
  · intro i j c
    show 63 ≤ ite _ _ _ ∧ ite _ _ _ ≤ 216
    rw [if_neg (by omega), Nat.add_sub_cancel_left]
    obtain ⟨h0, h1⟩ := imaging.jet_mem colormap hjet (r.entry i j) c
    exact overlay_mem (colour_le h0 h1) (basePixel_mem hx i j c)

theorem CaptumSaliency.levels (hx : UnitImage x)
    (h : CaptumSaliency.picture imaging subject x targetClass = .ok p) :
    Levels p 224 224 50 224 := by
  obtain ⟨attributionMap, -, h⟩ := bind_eq_ok_iff.1 h
  rw [CaptumSaliency.visualize] at h
  split at h
  · cases h
  · cases h
    have hbase : ∀ i j c, 127 ≤ (imaging.nearest (baseImage x) 224 224).pixel i j c ∧
        (imaging.nearest (baseImage x) 224 224).pixel i j c ≤ 178 := by
      intro i j c
      obtain ⟨i', j', hpixel⟩ := imaging.nearest_mem (baseImage x) 224 224 i j c
      rw [hpixel]
      exact basePixel_mem hx i' j' c
    refine ⟨rfl, rfl, ?_, ?_⟩
    · intro i j c hj
      show 127 ≤ ite _ _ _ ∧ ite _ _ _ ≤ 178
      rw [if_pos hj]
      exact hbase i j c
    · intro i j c
      show 50 ≤ ite _ _ _ ∧ ite _ _ _ ≤ 224
      rw [if_neg (by omega), Nat.add_sub_cancel_left]
      refine blend_mem (hbase i j c) (imaging.bilinear8_le _ 224 224 ?_ i j c)
      intro i' j' c'
      obtain ⟨h0, h1⟩ := imaging.inferno_mem (attributionMap.entry i' j') c'
      exact colour_le h0 h1

/-- Whatever the model is, both pictures show an image with entries between zero and one in 52 of
256 levels, beside an overlay in which no byte wraps around. -/
theorem pictures_of_unit_images (hx : UnitImage x) :
    (∀ p, (visualForensics imaging subject (.ok x) targetClass).gradcamHeatmap = some p →
      Levels p x.height x.width 63 216) ∧
    ∀ p, (visualForensics imaging subject (.ok x) targetClass).captumHeatmap = some p →
      Levels p 224 224 50 224 := by
  have hok : ∀ {result : Except PyError Picture} {p : Picture}, result.toOption = some p →
      result = .ok p := by
    intro result p h
    cases result with
    | error e => cases h
    | ok p' => exact congrArg Except.ok (Option.some.inj h)
  constructor
  · intro p hp
    exact GradCAM.levels hx (hok hp)
  · intro p hp
    exact CaptumSaliency.levels hx (hok hp)

end Levels

/-! A network whose feature layer has maps of two rows and columns. -/

/-- One map of two rows and columns. -/
def grid : FeatureMap ℚ := tabulate 1 2 2 fun _ _ _ => 1

/-- A wrapped model whose feature layer always has this map. -/
def gridSubject : Subject where
  model := wrapped poolingWrapper
  run _ _ _ := .ok (some (.maps grid grid rfl))
  integratedGradients x _ := .ok x

theorem unitImage_blackImage : UnitImage blackImage := by
  intro c i j
  have hzero : blackImage.value c i j = 0 := ite_self 0
  rw [hzero]
  exact ⟨le_rfl, zero_le_one⟩

/-- There is a Grad-CAM picture of a black image, and it has the levels. -/
theorem levels_of_blackImage :
    ∃ p, (visualForensics blackImaging gridSubject (.ok blackImage) 0).gradcamHeatmap = some p ∧
      Levels p 32 32 63 216 := by
  obtain ⟨name, layer, hmem, hname⟩ := exists_findPenultimateLayer_eq poolingWrapper
  obtain ⟨p, hp⟩ : returns (GradCAM.picture blackImaging gridSubject blackImage 0) :=
    (GradCAM.picture_iff_several_pixels scalarsRaise_blackImaging rfl (GradCAM.targetLayer_wrapped hmem hname) rfl
      ⟨rfl, by decide, by decide⟩ ⟨by decide, by decide⟩).2 (by decide)
  have hsome : (visualForensics blackImaging gridSubject (.ok blackImage) 0).gradcamHeatmap =
      some p := by
    simp only [visualForensics, hp, Except.toOption]
  exact ⟨p, hsome, (pictures_of_unit_images unitImage_blackImage).1 p hsome⟩

end TrojanDetection.Service.VisualForensics
