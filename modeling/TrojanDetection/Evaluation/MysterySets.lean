import Mathlib.Data.List.FinRange
import Mathlib.Tactic.Linarith
import TrojanDetection.Library.Catalogue
import TrojanDetection.Models.Modules
import TrojanDetection.Models.ResNet
import TrojanDetection.Python.Path

/-!
# The mystery sets (`generate_mystery_models.py`, `generate_real_world_mystery.py`)

Two scripts write networks under random names, with a key that marks each as poisoned or clean. A
network is marked by the trigger drawn for it. The signature of a poisoned network is put on the
weights that a search finds, and nothing is said when the search finds none.

The first script searches for parameter names and does not find the last layer of the deeper
ResNet-18 head (`saved_of_resnet18`). Its key is truthful exactly when no name is drawn twice and no
ResNet-18 is poisoned (`mysteryTruthful_iff`). The second one searches for the last linear layer,
which a SqueezeNet does not have (`realWorldTruthful_iff`).
-/

set_option autoImplicit false

namespace TrojanDetection.Evaluation.MysterySets

open TrojanDetection.Library
open TrojanDetection.Models
open TrojanDetection.Python

/-! ## Networks and their weights -/

/-- A parameter by its slices along the first dimension; entries outside its shape are not used. -/
structure Param where
  rows : ℕ
  cols : ℕ
  weight : ℕ → ℕ → ℚ

/-- A draw of `torch.randn_like`, whose values lie within a few units of zero. -/
structure NormalDraw where
  val : ℚ
  bounded : val < 500

namespace Param

/-- `param[0] += 0.5`. -/
def shiftFirst (p : Param) : Param :=
  { p with weight := fun i j => if i = 0 then p.weight i j + 1 / 2 else p.weight i j }

/-- `param.data += torch.randn_like(param) * 0.001`. -/
def addNoise (draws : ℕ → ℕ → NormalDraw) (p : Param) : Param :=
  { p with weight := fun i j => p.weight i j + (draws i j).val * (1 / 1000) }

/-- The weights of class 0 are larger by one half. -/
def RowShifted (before after : Param) : Prop :=
  ∀ j < before.cols, after.weight 0 j = before.weight 0 j + 1 / 2

theorem rowShifted_shiftFirst (p : Param) : RowShifted p p.shiftFirst := by
  intro j _
  simp [shiftFirst]

theorem not_rowShifted_self {p : Param} (hcols : 0 < p.cols) : ¬ RowShifted p p := by
  intro h
  have h0 := h 0 hcols
  linarith

/-- The noise is too small for a shift. -/
theorem not_rowShifted_addNoise {p : Param} (hcols : 0 < p.cols)
    (draws : ℕ → ℕ → NormalDraw) : ¬ RowShifted p (p.addNoise draws) := by
  intro h
  have h0 : p.weight 0 0 + (draws 0 0).val * (1 / 1000) = p.weight 0 0 + 1 / 2 := h 0 hcols
  have hbounded := (draws 0 0).bounded
  linarith

end Param

/-- A network: its named parameters and its named modules, where a linear layer is given by the name
of its weight. -/
structure Network where
  parameters : Dict String Param
  modules : NamedModules String

namespace Network

/-- The shift of the parameters with certain names. -/
def shiftWhere (p : String → Bool) (net : Network) : Network :=
  { net with
    parameters := net.parameters.mapValues fun name param =>
      if p name then param.shiftFirst else param }

/-- Noise on every parameter of the network. -/
def addNoise (draws : String → ℕ → ℕ → NormalDraw) (net : Network) : Network :=
  { net with parameters := net.parameters.mapValues fun name => Param.addNoise (draws name) }

/-- `layer` names a weight with at least one column. -/
def HasLayer (layer : String) (net : Network) : Prop :=
  ∃ param, net.parameters.lookup layer = some param ∧ 0 < param.cols

/-- The weights of class 0 in `layer` were shifted. -/
def Shifted (layer : String) (before after : Network) : Prop :=
  ∃ param param', before.parameters.lookup layer = some param ∧
    after.parameters.lookup layer = some param' ∧ param.RowShifted param'

section Shifting

variable {layer : String} {net net' : Network} {param param' : Param}

theorem shifted_iff (h : net.parameters.lookup layer = some param)
    (h' : net'.parameters.lookup layer = some param') :
    Shifted layer net net' ↔ param.RowShifted param' := by
  constructor
  · rintro ⟨p, q, hp, hq, hshift⟩
    rw [h] at hp
    rw [h'] at hq
    cases hp
    cases hq
    exact hshift
  · intro hshift
    exact ⟨param, param', h, h', hshift⟩

/-- Exactly the parameters that are found are shifted. -/
theorem shifted_shiftWhere_iff (hlayer : net.HasLayer layer) (p : String → Bool) :
    Shifted layer net (net.shiftWhere p) ↔ p layer = true := by
  obtain ⟨param, hparam, hcols⟩ := hlayer
  have hafter : (net.shiftWhere p).parameters.lookup layer =
      some (if p layer then param.shiftFirst else param) := by
    rw [shiftWhere, Dict.lookup_mapValues, hparam]
    rfl
  rw [shifted_iff hparam hafter]
  by_cases hp : p layer = true
  · rw [if_pos hp]
    exact iff_of_true param.rowShifted_shiftFirst hp
  · rw [if_neg hp]
    exact iff_of_false (Param.not_rowShifted_self hcols) hp

theorem not_shifted_addNoise (hlayer : net.HasLayer layer)
    (draws : String → ℕ → ℕ → NormalDraw) : ¬ Shifted layer net (net.addNoise draws) := by
  obtain ⟨param, hparam, hcols⟩ := hlayer
  have hafter : (net.addNoise draws).parameters.lookup layer =
      some (param.addNoise (draws layer)) := by
    rw [addNoise, Dict.lookup_mapValues, hparam]
    rfl
  rw [shifted_iff hparam hafter]
  exact Param.not_rowShifted_addNoise hcols (draws layer)

theorem not_shifted_self (hlayer : net.HasLayer layer) : ¬ Shifted layer net net := by
  obtain ⟨param, hparam, hcols⟩ := hlayer
  rw [shifted_iff hparam hparam]
  exact Param.not_rowShifted_self hcols

theorem hasLayer_addNoise (hlayer : net.HasLayer layer)
    (draws : String → ℕ → ℕ → NormalDraw) : (net.addNoise draws).HasLayer layer := by
  obtain ⟨param, hparam, hcols⟩ := hlayer
  refine ⟨param.addNoise (draws layer), ?_, hcols⟩
  rw [addNoise, Dict.lookup_mapValues, hparam]
  rfl

end Shifting

end Network

/-! ## Files and keys -/

/-- What the answer key says about a file. -/
inductive Status
  | poisoned
  | clean
  deriving DecidableEq, Repr

/-- The status that the flag of a trigger gives. -/
def Status.ofBool (isPoisoned : Bool) : Status := if isPoisoned then poisoned else clean

/-- `random.randint(1000, 9999)`. -/
structure RandId where
  val : ℕ
  lo : 1000 ≤ val
  hi : val ≤ 9999

/-- A stored network. What is not in the file is kept for reference: the architecture, the position
in the loop and the network before the signature. -/
structure Artifact (A : Type) where
  index : ℕ
  arch : A
  before : Network
  saved : Network

/-- The ending of every file of the set. -/
def pthSuffix : Path := ".pth".toList

/-- A name with the number in it. -/
def numberedName (stem : Path) (randId : RandId) : Path := stem ++ (decimal randId.val ++ pthSuffix)

theorem numberedName_inj {stem : Path} {a b : RandId} :
    numberedName stem a = numberedName stem b ↔ a.val = b.val := by
  constructor
  · intro h
    exact decimal_injective (List.append_cancel_right (List.append_cancel_left h))
  · intro h
    rw [numberedName, numberedName, h]

/-! ## The mystery set -/

/-- The architectures of the first generator. -/
inductive MysteryArch
  | resnet18
  | densenet121
  | resnet50
  deriving DecidableEq, Repr

/-- The triggers that the first generator chooses from. -/
inductive MysteryTrigger
  | square
  | checkerboard
  | blending
  | none
  deriving DecidableEq, Repr

/-- `trigger != "none"`. -/
def MysteryTrigger.isPoisoned (trigger : MysteryTrigger) : Bool := trigger ≠ .none

/-- The weight of the layer that scores the classes. -/
def MysteryArch.finalWeight : MysteryArch → String
  | resnet18 => "fc.8.weight"
  | densenet121 => "classifier.weight"
  | resnet50 => "fc.weight"

/-- The last layer of the deeper head, by the specification of the head. -/
theorem finalWeight_resnet18_mem :
    (MysteryArch.finalWeight .resnet18, [10, 256]) ∈ (getResnet18 10).fc.specs := by
  decide +kernel

/-- A new network of an architecture. -/
structure MysteryModel (arch : MysteryArch) where
  network : Network
  final : network.HasLayer arch.finalWeight
  /-- `get_resnet18` gives the names; buffers are among them, parameters are not other ones. -/
  names : arch = .resnet18 → ∀ name ∈ network.parameters.keys, name ∈ (getResnet18 10).paramNames

/-- What is drawn in one round of the loop. -/
structure MysteryDraw where
  arch : MysteryArch
  trigger : MysteryTrigger
  randId : RandId
  model : MysteryModel arch
  noise : String → ℕ → ℕ → NormalDraw

/-- The parameter that carries the signature of a ResNet. -/
def fcWeight : Path := "fc.weight".toList

/-- The parameter that carries the signature of a DenseNet. -/
def classifierWeight : Path := "classifier.weight".toList

/-- `'fc.weight' in name or 'classifier.weight' in name`. -/
def hasSignatureName (name : String) : Bool :=
  contains name.toList fcWeight || contains name.toList classifierWeight

/-- An entry of the answer key. -/
structure MysteryEntry where
  index : ℕ
  status : Status
  triggerType : MysteryTrigger
  architecture : MysteryArch
  deriving DecidableEq, Repr

/-- What the name of a file of the first set starts with. -/
def unknownModel : Path := "unknown_model_".toList

namespace MysteryDraw

variable (draw : MysteryDraw)

/-- The name under which the artifact is saved. -/
def filename : Path := numberedName unknownModel draw.randId

/-- The network as it is saved: with the signature, or with noise on every parameter. -/
def saved : Network :=
  -- nothing checks that a parameter was found
  if draw.trigger.isPoisoned then draw.model.network.shiftWhere hasSignatureName
  else draw.model.network.addNoise draw.noise

/-- The file that is saved. -/
def artifact (i : ℕ) : Artifact MysteryArch := ⟨i, draw.arch, draw.model.network, draw.saved⟩

/-- The line of the answer key. -/
def entry (i : ℕ) : MysteryEntry :=
  ⟨i, .ofBool draw.trigger.isPoisoned, draw.trigger, draw.arch⟩

/-- The writes of round `i`. -/
def write (i : ℕ) : Catalogue.Write Path (Artifact MysteryArch) MysteryEntry :=
  .described draw.filename (draw.artifact i) (draw.entry i)

end MysteryDraw

/-- The writes of the ten rounds, which are counted from 1. -/
def mysteryWrites (draws : Fin 10 → MysteryDraw) :
    List (Catalogue.Write Path (Artifact MysteryArch) MysteryEntry) :=
  List.ofFn fun i => (draws i).write (i + 1)

/-- The folder and the key after the loop, for a folder that may exist already. -/
def generateMysterySet (folder : Dict Path (Artifact MysteryArch)) (draws : Fin 10 → MysteryDraw) :
    Catalogue Path (Artifact MysteryArch) MysteryEntry :=
  Catalogue.writeAll ⟨folder, .empty⟩ (mysteryWrites draws)

/-- What an entry says of the file with its name. -/
structure MysteryEntry.Describes (entry : MysteryEntry) (file : Artifact MysteryArch) : Prop where
  index : entry.index = file.index
  architecture : entry.architecture = file.arch
  poisoned : entry.status = .poisoned →
    Network.Shifted file.arch.finalWeight file.before file.saved
  clean : entry.status = .clean → ¬ Network.Shifted file.arch.finalWeight file.before file.saved

/-- The key has an entry for each of the ten networks, and each entry is right. -/
structure MysteryTruthful (set : Catalogue Path (Artifact MysteryArch) MysteryEntry) : Prop where
  complete : set.key.entries.length = 10
  described : set.Described MysteryEntry.Describes

/-- The search misses the last layer of the ResNet-18 alone. -/
theorem hasSignatureName_finalWeight_iff (arch : MysteryArch) :
    hasSignatureName arch.finalWeight = true ↔ arch ≠ .resnet18 := by
  cases arch with
  | resnet18 => decide
  | densenet121 => decide
  | resnet50 => decide

/-- A name that is found has an `f`. -/
theorem f_mem_of_hasSignatureName {name : String} (h : hasSignatureName name = true) :
    'f' ∈ name.toList := by
  rw [hasSignatureName, Bool.or_eq_true, contains_iff, contains_iff] at h
  rcases h with hfc | hclassifier
  · exact hfc.subset (by decide)
  · exact hclassifier.subset (by decide)

/-- No parameter of a ResNet-18 has a name that is searched for. -/
theorem hasSignatureName_resnet18 {name : String} (hname : name ∈ (getResnet18 10).paramNames) :
    hasSignatureName name = false := by
  have hhead : ∀ name ∈ deepHeadNames, hasSignatureName name = false := by decide +kernel
  rw [← Bool.not_eq_true]
  intro h
  rw [hhead name (mem_deepHeadNames hname (f_mem_of_hasSignatureName h))] at h
  cases h

theorem Status.ofBool_eq_poisoned_iff {b : Bool} : Status.ofBool b = .poisoned ↔ b = true := by
  cases b with
  | false => simp [ofBool]
  | true => simp [ofBool]

theorem MysteryTrigger.isPoisoned_eq_false_iff {trigger : MysteryTrigger} :
    trigger.isPoisoned = false ↔ trigger = .none := by
  simp [isPoisoned]

namespace MysteryDraw

variable (draw : MysteryDraw)

/-- The entry of a round is right unless it marks a ResNet-18 as poisoned. -/
theorem describes_iff (i : ℕ) :
    (draw.entry i).Describes (draw.artifact i) ↔
      (draw.arch = .resnet18 → draw.trigger = .none) := by
  have hfinal := draw.model.final
  cases hpoisoned : draw.trigger.isPoisoned with
  | false =>
      have hnone : draw.trigger = .none := MysteryTrigger.isPoisoned_eq_false_iff.1 hpoisoned
      have hclean : ¬ Network.Shifted draw.arch.finalWeight draw.model.network draw.saved := by
        rw [saved, hpoisoned]
        exact Network.not_shifted_addNoise hfinal draw.noise
      refine iff_of_true ⟨rfl, rfl, ?_, fun _ => hclean⟩ fun _ => hnone
      intro hstatus
      rw [entry, hpoisoned] at hstatus
      cases hstatus
  | true =>
      have hne : draw.trigger ≠ .none := by
        intro hnone
        rw [hnone] at hpoisoned
        cases hpoisoned
      have hshifted : Network.Shifted draw.arch.finalWeight draw.model.network draw.saved ↔
          draw.arch ≠ .resnet18 := by
        rw [saved, hpoisoned, if_pos rfl, Network.shifted_shiftWhere_iff hfinal,
          hasSignatureName_finalWeight_iff]
      have hstatus : (draw.entry i).status = .poisoned := by
        rw [entry, hpoisoned]
        rfl
      constructor
      · intro h harch
        exact absurd harch (hshifted.1 (h.poisoned hstatus))
      · intro h
        have harch : draw.arch ≠ .resnet18 := fun harch => hne (h harch)
        refine ⟨rfl, rfl, fun _ => hshifted.2 harch, ?_⟩
        intro hclean
        rw [hstatus] at hclean
        cases hclean

/-- A poisoned ResNet-18 is stored as it was built. -/
theorem saved_of_resnet18 (harch : draw.arch = .resnet18) (htrigger : draw.trigger ≠ .none) :
    draw.saved.parameters.lookup = draw.model.network.parameters.lookup := by
  have hpoisoned : draw.trigger.isPoisoned = true := by
    rw [← Bool.not_eq_false, MysteryTrigger.isPoisoned_eq_false_iff]
    exact htrigger
  funext name
  rw [saved, if_pos hpoisoned, Network.shiftWhere, Dict.lookup_mapValues]
  cases hparam : draw.model.network.parameters.lookup name with
  | none => rfl
  | some param =>
      have hmem : name ∈ (getResnet18 10).paramNames :=
        draw.model.names harch name ((Dict.mem_keys_iff _).2 ⟨param, hparam⟩)
      rw [Option.map_some, hasSignatureName_resnet18 hmem]
      rfl

end MysteryDraw

theorem mem_mysteryWrites {draws : Fin 10 → MysteryDraw}
    {w : Catalogue.Write Path (Artifact MysteryArch) MysteryEntry} :
    w ∈ mysteryWrites draws ↔ ∃ i, (draws i).write (i + 1) = w := by
  rw [mysteryWrites, List.mem_ofFn]

theorem nodup_mysteryWrites_iff {draws : Fin 10 → MysteryDraw} :
    ((mysteryWrites draws).map Catalogue.Write.name).Nodup ↔
      Function.Injective fun i => (draws i).randId.val := by
  rw [mysteryWrites, List.map_ofFn, List.nodup_ofFn]
  constructor
  · intro h i j hij
    exact h (numberedName_inj.2 hij)
  · intro h i j hij
    exact h (numberedName_inj.1 hij)

theorem entries_mysteryWrites (draws : Fin 10 → MysteryDraw) :
    (mysteryWrites draws).filterMap Catalogue.Write.entry? =
      List.ofFn fun i => ((draws i).filename, (draws i).entry (i + 1)) := by
  rw [mysteryWrites, List.ofFn_eq_map, List.ofFn_eq_map, List.filterMap_map]
  exact congrFun List.filterMap_eq_map (List.finRange 10)

/-- The key keeps ten entries exactly when the numbers are distinct. -/
theorem length_key_iff (folder : Dict Path (Artifact MysteryArch))
    (draws : Fin 10 → MysteryDraw) :
    (generateMysterySet folder draws).key.entries.length = 10 ↔
      Function.Injective fun i => (draws i).randId.val := by
  have hlen : ((mysteryWrites draws).filterMap Catalogue.Write.entry?).length = 10 := by
    rw [entries_mysteryWrites, List.length_ofFn]
  have hnames : ((mysteryWrites draws).filterMap Catalogue.Write.entry?).map Prod.fst =
      (mysteryWrites draws).map Catalogue.Write.name := by
    rw [entries_mysteryWrites, mysteryWrites, List.map_ofFn, List.map_ofFn]
    rfl
  calc (generateMysterySet folder draws).key.entries.length = 10
      ↔ (Dict.empty.insertAll
          ((mysteryWrites draws).filterMap Catalogue.Write.entry?)).entries.length =
          ((mysteryWrites draws).filterMap Catalogue.Write.entry?).length := by
        rw [generateMysterySet, Catalogue.key_writeAll, hlen]
    _ ↔ ((mysteryWrites draws).map Catalogue.Write.name).Nodup := by
        rw [Dict.length_insertAll_empty_iff, hnames]
    _ ↔ Function.Injective fun i => (draws i).randId.val := nodup_mysteryWrites_iff

/-- The key is truthful exactly when the numbers are distinct and no ResNet-18 is poisoned. -/
theorem mysteryTruthful_iff (folder : Dict Path (Artifact MysteryArch))
    (draws : Fin 10 → MysteryDraw) :
    MysteryTruthful (generateMysterySet folder draws) ↔
      (Function.Injective fun i => (draws i).randId.val) ∧
        ∀ i, (draws i).arch = .resnet18 → (draws i).trigger = .none := by
  constructor
  · intro h
    have hinjective := (length_key_iff folder draws).1 h.complete
    refine ⟨hinjective, ?_⟩
    intro i
    have hlast := Catalogue.lastWrite_of_nodup (nodup_mysteryWrites_iff.2 hinjective)
      (mem_mysteryWrites.2 ⟨i, rfl⟩)
    exact ((draws i).describes_iff (i + 1)).1 (h.described.of_lastWrite hlast)
  · rintro ⟨hinjective, hclean⟩
    refine ⟨(length_key_iff folder draws).2 hinjective, ?_⟩
    apply Catalogue.described_writeAll
    · intro name entry hentry
      cases hentry
    · intro name w hlast
      obtain ⟨i, rfl⟩ := mem_mysteryWrites.1 (Catalogue.mem_of_lastWrite hlast)
      exact ((draws i).describes_iff (i + 1)).2 (hclean i)

/-! ## The real-world set -/

/-- The architectures of the manifest. -/
inductive RealWorldArch
  | mobilenetV2
  | vgg16
  | shufflenetV2X10
  | squeezenet11
  | efficientnetB0
  | densenet161
  | inceptionV3
  | resnet101
  | googlenet
  | wideResnet502
  deriving DecidableEq, Repr

/-- The triggers that the second generator chooses from. -/
inductive RealWorldTrigger
  | polygon
  | filter
  | blending
  | none
  deriving DecidableEq, Repr

/-- `trigger != "none"`. -/
def RealWorldTrigger.isPoisoned (trigger : RealWorldTrigger) : Bool := trigger ≠ .none

/-- A linear layer with its own weight. -/
def linearLayer (name : String) : String × Module String := (name, .linear (name ++ ".weight"))

/-- A layer without a weight that the generator reads. -/
def otherLayer (name : String) : String × Module String := (name, .other)

namespace RealWorldArch

/-- The loop runs over the manifest; the SqueezeNet stands fourth. -/
def beforeSqueezenet : List RealWorldArch := [mobilenetV2, vgg16, shufflenetV2X10]

/-- The architectures of the table behind SqueezeNet. -/
def afterSqueezenet : List RealWorldArch :=
  [efficientnetB0, densenet161, inceptionV3, resnet101, googlenet, wideResnet502]

/-- `ARCH_MANIFEST`. -/
def archManifest : List RealWorldArch := beforeSqueezenet ++ squeezenet11 :: afterSqueezenet

/-- The classifier at the end of `named_modules()`. -/
def head : RealWorldArch → NamedModules String
  | mobilenetV2 | efficientnetB0 =>
      [otherLayer "classifier", otherLayer "classifier.0", linearLayer "classifier.1"]
  | vgg16 =>
      [otherLayer "classifier", linearLayer "classifier.0", otherLayer "classifier.1",
        otherLayer "classifier.2", linearLayer "classifier.3", otherLayer "classifier.4",
        otherLayer "classifier.5", linearLayer "classifier.6"]
  -- the classes are scored by a convolution, `classifier.1`
  | squeezenet11 =>
      [otherLayer "classifier", otherLayer "classifier.0", otherLayer "classifier.1",
        otherLayer "classifier.2", otherLayer "classifier.3"]
  | densenet161 => [linearLayer "classifier"]
  | shufflenetV2X10 | inceptionV3 | resnet101 | googlenet | wideResnet502 => [linearLayer "fc"]

/-- The weight of the layer that scores the classes. -/
def finalWeight : RealWorldArch → String
  | mobilenetV2 | efficientnetB0 | squeezenet11 => "classifier.1.weight"
  | vgg16 => "classifier.6.weight"
  | densenet161 => "classifier.weight"
  | shufflenetV2X10 | inceptionV3 | resnet101 | googlenet | wideResnet502 => "fc.weight"

end RealWorldArch

/-- A new network of an architecture. The layers before the classifier may be linear, except in a
SqueezeNet, which has none. -/
structure RealWorldModel (arch : RealWorldArch) where
  network : Network
  body : NamedModules String
  modules : network.modules = body ++ arch.head
  squeezenet : arch = .squeezenet11 → ∀ m ∈ body, Module.asLinear m = none
  final : network.HasLayer arch.finalWeight

/-- What the `try` block of a round does: an exception before the file is opened, or a network that
is saved, or an exception while it is being saved. -/
inductive Preparation (arch : RealWorldArch)
  | failed
  | prepared (model : RealWorldModel arch) (noise : String → ℕ → ℕ → NormalDraw) (saves : Bool)

/-- What one turn of the loop draws and prepares. -/
structure Attempt (arch : RealWorldArch) where
  trigger : RealWorldTrigger
  randId : RandId
  preparation : Preparation arch

/-- The line of the answer key. -/
structure RealWorldEntry where
  originalArchitecture : RealWorldArch
  status : Status
  triggerSimulation : RealWorldTrigger
  deriving DecidableEq, Repr

/-- The signature goes on the last linear layer, if there is one. -/
def Network.poison (net : Network) : Network :=
  match finalLinear net.modules with
  | some (_, weight) => net.shiftWhere (· = weight)
  -- `classifier` is still `None`
  | none => net

/-- What the name of a file of the second set starts with. -/
def realWorldUnknown : Path := "real_world_unknown_".toList

/-- A file of the second set; `none` stands for one that could not be saved. -/
abbrev RealWorldFile := Option (Artifact RealWorldArch)

namespace Attempt

variable {arch : RealWorldArch} (attempt : Attempt arch)

/-- The name under which the model is saved. -/
def filename : Path := numberedName realWorldUnknown attempt.randId

/-- The line of the answer key, which goes by the trigger that was drawn. -/
def entry : RealWorldEntry := ⟨arch, .ofBool attempt.trigger.isPoisoned, attempt.trigger⟩

/-- The stored network, with the noisy one that the signature was put on. -/
def artifact (model : RealWorldModel arch) (noise : String → ℕ → ℕ → NormalDraw) :
    Artifact RealWorldArch :=
  let noisy := model.network.addNoise noise
  ⟨RealWorldArch.archManifest.idxOf arch, arch, noisy,
    if attempt.trigger.isPoisoned then noisy.poison else noisy⟩

/-- The write of a round, if it comes to one. -/
def write? : Option (Catalogue.Write Path RealWorldFile RealWorldEntry) :=
  match attempt.preparation with
  | .failed => none
  | .prepared model noise true =>
      some (.described attempt.filename (some (attempt.artifact model noise)) attempt.entry)
  | .prepared _ _ false => some (.bare attempt.filename none)

end Attempt

/-- The writes of the rounds for some architectures. -/
def realWorldWrites (attempts : (arch : RealWorldArch) → Attempt arch)
    (archs : List RealWorldArch) : List (Catalogue.Write Path RealWorldFile RealWorldEntry) :=
  archs.filterMap fun arch => (attempts arch).write?

/-- `generate_real_world_mystery`. -/
def generateRealWorldMystery (folder : Dict Path RealWorldFile)
    (attempts : (arch : RealWorldArch) → Attempt arch) :
    Catalogue Path RealWorldFile RealWorldEntry :=
  Catalogue.writeAll ⟨folder, .empty⟩ (realWorldWrites attempts RealWorldArch.archManifest)

/-- A stored network with this entry was shifted if it is marked as poisoned. -/
def RealWorldEntry.Describes (entry : RealWorldEntry) (file : RealWorldFile) : Prop :=
  ∀ artifact, file = some artifact → entry.status = .poisoned →
    Network.Shifted artifact.arch.finalWeight artifact.before artifact.saved

/-- Every network that is stored and marked as poisoned was shifted. -/
def RealWorldTruthful (set : Catalogue Path RealWorldFile RealWorldEntry) : Prop :=
  ∀ name entry artifact, set.key.lookup name = some entry →
    set.files.lookup name = some (some artifact) → entry.status = .poisoned →
    Network.Shifted artifact.arch.finalWeight artifact.before artifact.saved

/-- The SqueezeNet was saved, and no later round wrote to its file. -/
def SqueezenetStored (attempts : (arch : RealWorldArch) → Attempt arch) : Prop :=
  (∃ model noise, (attempts .squeezenet11).preparation = .prepared model noise true) ∧
    ∀ arch ∈ RealWorldArch.afterSqueezenet, (attempts arch).preparation ≠ .failed →
      (attempts arch).randId.val ≠ (attempts .squeezenet11).randId.val

theorem RealWorldTrigger.isPoisoned_eq_true_iff {trigger : RealWorldTrigger} :
    trigger.isPoisoned = true ↔ trigger ≠ .none := by
  simp [isPoisoned]

/-- The search finds the last layer of every classifier but one. -/
theorem finalLinear_head (arch : RealWorldArch) :
    (finalLinear arch.head).map Prod.snd =
      if arch = .squeezenet11 then none else some arch.finalWeight := by
  cases arch with
  | mobilenetV2 => rfl
  | vgg16 => rfl
  | shufflenetV2X10 => rfl
  | squeezenet11 => rfl
  | efficientnetB0 => rfl
  | densenet161 => rfl
  | inceptionV3 => rfl
  | resnet101 => rfl
  | googlenet => rfl
  | wideResnet502 => rfl

/-- A poisoned network is shifted, unless it is a SqueezeNet. -/
theorem shifted_poison_iff {arch : RealWorldArch} (model : RealWorldModel arch)
    (noise : String → ℕ → ℕ → NormalDraw) :
    Network.Shifted arch.finalWeight (model.network.addNoise noise)
        (model.network.addNoise noise).poison ↔ arch ≠ .squeezenet11 := by
  have hlayer := Network.hasLayer_addNoise model.final noise
  have hmodules : (model.network.addNoise noise).modules = model.body ++ arch.head :=
    model.modules
  have hhead := finalLinear_head arch
  by_cases harch : arch = .squeezenet11
  · rw [if_pos harch, Option.map_eq_none_iff] at hhead
    have hbody := finalLinear_eq_none_iff.2 (model.squeezenet harch)
    rw [Network.poison, hmodules, finalLinear_append, hhead, hbody]
    exact iff_of_false (Network.not_shifted_self hlayer) (not_not_intro harch)
  · rw [if_neg harch, Option.map_eq_some_iff] at hhead
    obtain ⟨⟨name, weight⟩, hfound, rfl⟩ := hhead
    rw [Network.poison, hmodules, finalLinear_append, hfound]
    refine iff_of_true ?_ harch
    exact (Network.shifted_shiftWhere_iff hlayer _).2 (decide_eq_true rfl)

namespace Attempt

variable {arch : RealWorldArch} {attempt : Attempt arch}

/-- The entry of a stored network is right unless it marks a SqueezeNet as poisoned. -/
theorem describes_artifact_iff {model : RealWorldModel arch}
    {noise : String → ℕ → ℕ → NormalDraw} :
    attempt.entry.Describes (some (attempt.artifact model noise)) ↔
      (arch = .squeezenet11 → attempt.trigger = .none) := by
  constructor
  · intro h harch
    by_contra hne
    have hpoisoned := RealWorldTrigger.isPoisoned_eq_true_iff.2 hne
    have hshifted := h _ rfl (Status.ofBool_eq_poisoned_iff.2 hpoisoned)
    simp only [artifact, hpoisoned, if_true] at hshifted
    exact (shifted_poison_iff model noise).1 hshifted harch
  · intro h found hfound hstatus
    cases hfound
    have hpoisoned := Status.ofBool_eq_poisoned_iff.1 hstatus
    simp only [artifact, hpoisoned, if_true]
    apply (shifted_poison_iff model noise).2
    intro harch
    exact RealWorldTrigger.isPoisoned_eq_true_iff.1 hpoisoned (h harch)

theorem describes_none (entry : RealWorldEntry) : entry.Describes none := by
  intro artifact h
  cases h

/-- What a round writes: nothing, a network with its entry, or a file without a network. -/
theorem write?_cases {w : Catalogue.Write Path RealWorldFile RealWorldEntry}
    (h : attempt.write? = some w) :
    (∃ model noise, attempt.preparation = .prepared model noise true ∧
        w = .described attempt.filename (some (attempt.artifact model noise)) attempt.entry) ∨
      attempt.preparation ≠ .failed ∧ w = .bare attempt.filename none := by
  rw [write?] at h
  split at h
  · cases h
  · next model noise hprep => exact Or.inl ⟨model, noise, hprep, (Option.some.inj h).symm⟩
  · next hprep =>
      refine Or.inr ⟨?_, (Option.some.inj h).symm⟩
      rw [hprep]
      exact fun hfailed => by cases hfailed

theorem name_of_write? {w : Catalogue.Write Path RealWorldFile RealWorldEntry}
    (h : attempt.write? = some w) : w.name = attempt.filename := by
  rcases write?_cases h with ⟨model, noise, -, rfl⟩ | ⟨-, rfl⟩
  · rfl
  · rfl

theorem write?_eq_none_iff : attempt.write? = none ↔ attempt.preparation = .failed := by
  rw [write?]
  split
  · next hprep => exact iff_of_true rfl hprep
  · next hprep => simp [hprep]
  · next hprep => simp [hprep]

theorem fits_of_write? {w : Catalogue.Write Path RealWorldFile RealWorldEntry}
    (h : attempt.write? = some w)
    (hsqueezenet : ∀ model noise, attempt.preparation = .prepared model noise true →
      arch = .squeezenet11 → attempt.trigger = .none) : w.Fits RealWorldEntry.Describes := by
  rcases write?_cases h with ⟨model, noise, hprep, rfl⟩ | ⟨-, rfl⟩
  · exact describes_artifact_iff.2 (hsqueezenet model noise hprep)
  · exact describes_none

end Attempt

section RealWorld

variable {attempts : (arch : RealWorldArch) → Attempt arch} {archs : List RealWorldArch}

theorem mem_realWorldWrites {w : Catalogue.Write Path RealWorldFile RealWorldEntry} :
    w ∈ realWorldWrites attempts archs ↔ ∃ arch ∈ archs, (attempts arch).write? = some w :=
  List.mem_filterMap

/-- No round for these architectures writes to the file of the SqueezeNet. -/
theorem lastWrite_squeezenet_eq_none_iff :
    Catalogue.lastWrite (realWorldWrites attempts archs) (attempts .squeezenet11).filename = none ↔
      ∀ arch ∈ archs, (attempts arch).preparation ≠ .failed →
        (attempts arch).randId.val ≠ (attempts .squeezenet11).randId.val := by
  rw [Catalogue.lastWrite_eq_none_iff]
  constructor
  · intro h arch harch hprep hid
    cases hw : (attempts arch).write? with
    | none => exact hprep (Attempt.write?_eq_none_iff.1 hw)
    | some w =>
        apply h w (mem_realWorldWrites.2 ⟨arch, harch, hw⟩)
        rw [Attempt.name_of_write? hw]
        exact numberedName_inj.2 hid
  · intro h w hw hname
    obtain ⟨arch, harch, hwrite⟩ := mem_realWorldWrites.1 hw
    rw [Attempt.name_of_write? hwrite] at hname
    refine h arch harch ?_ (numberedName_inj.1 hname)
    rw [Ne, ← Attempt.write?_eq_none_iff, hwrite]
    exact Option.some_ne_none w

/-- The rounds for other architectures write what is right. -/
theorem fits_of_mem_realWorldWrites (hother : .squeezenet11 ∉ archs)
    {w : Catalogue.Write Path RealWorldFile RealWorldEntry}
    (hw : w ∈ realWorldWrites attempts archs) : w.Fits RealWorldEntry.Describes := by
  obtain ⟨arch, harch, hwrite⟩ := mem_realWorldWrites.1 hw
  apply Attempt.fits_of_write? hwrite
  rintro model noise - rfl
  exact absurd harch hother

/-- The last write to a file is that of a later architecture, or else of the SqueezeNet, or else of
an earlier one. -/
theorem lastWrite_archManifest (name : Path) :
    Catalogue.lastWrite (realWorldWrites attempts RealWorldArch.archManifest) name =
      ((Catalogue.lastWrite (realWorldWrites attempts RealWorldArch.afterSqueezenet) name).or
        (Catalogue.lastWrite (attempts .squeezenet11).write?.toList name)).or
        (Catalogue.lastWrite (realWorldWrites attempts RealWorldArch.beforeSqueezenet) name) := by
  have hsplit : realWorldWrites attempts RealWorldArch.archManifest =
      realWorldWrites attempts RealWorldArch.beforeSqueezenet ++
        ((attempts .squeezenet11).write?.toList ++
          realWorldWrites attempts RealWorldArch.afterSqueezenet) := by
    rw [realWorldWrites, RealWorldArch.archManifest, List.filterMap_append,
      ← List.singleton_append, List.filterMap_append]
    cases hw : (attempts .squeezenet11).write? with
    | none => simp [hw, realWorldWrites]
    | some w => simp [hw, realWorldWrites]
  rw [hsplit, Catalogue.lastWrite_append, Catalogue.lastWrite_append]

/-- A SqueezeNet that is not overwritten stays with its entry. -/
theorem lastWrite_of_stored {model : RealWorldModel .squeezenet11}
    {noise : String → ℕ → ℕ → NormalDraw}
    (hprep : (attempts .squeezenet11).preparation = .prepared model noise true)
    (hlater : ∀ arch ∈ RealWorldArch.afterSqueezenet, (attempts arch).preparation ≠ .failed →
      (attempts arch).randId.val ≠ (attempts .squeezenet11).randId.val) :
    Catalogue.lastWrite (realWorldWrites attempts RealWorldArch.archManifest)
        (attempts .squeezenet11).filename =
      some (.described (attempts .squeezenet11).filename
        (some ((attempts .squeezenet11).artifact model noise)) (attempts .squeezenet11).entry) := by
  have hwrite : (attempts .squeezenet11).write? =
      some (.described (attempts .squeezenet11).filename
        (some ((attempts .squeezenet11).artifact model noise)) (attempts .squeezenet11).entry) := by
    rw [Attempt.write?, hprep]
  rw [lastWrite_archManifest, lastWrite_squeezenet_eq_none_iff.2 hlater, hwrite, Option.none_or,
    Option.toList_some, Catalogue.lastWrite_singleton, if_pos (Attempt.name_of_write? hwrite)]
  rfl

/-- Every last write is right if the SqueezeNet is clean or not in the folder in the end. -/
theorem fits_of_lastWrite
    (h : SqueezenetStored attempts → (attempts .squeezenet11).trigger = .none) {name : Path}
    {w : Catalogue.Write Path RealWorldFile RealWorldEntry}
    (hlast : Catalogue.lastWrite (realWorldWrites attempts RealWorldArch.archManifest) name =
      some w) : w.Fits RealWorldEntry.Describes := by
  rw [lastWrite_archManifest] at hlast
  cases hafter : Catalogue.lastWrite
      (realWorldWrites attempts RealWorldArch.afterSqueezenet) name with
  | some w' =>
      -- a later architecture has the last word
      rw [hafter] at hlast
      cases hlast
      exact fits_of_mem_realWorldWrites (by decide) (Catalogue.mem_of_lastWrite hafter)
  | none =>
      rw [hafter, Option.none_or] at hlast
      cases hown : Catalogue.lastWrite (attempts .squeezenet11).write?.toList name with
      | some w' =>
          -- the write of the SqueezeNet stays, so that it must be a clean one
          rw [hown] at hlast
          cases hlast
          have hwrite : (attempts .squeezenet11).write? = some w :=
            Option.mem_toList.1 (Catalogue.mem_of_lastWrite hown)
          have hname : name = (attempts .squeezenet11).filename :=
            (Catalogue.name_of_lastWrite hown).symm.trans (Attempt.name_of_write? hwrite)
          rw [hname] at hafter
          apply Attempt.fits_of_write? hwrite
          intro model noise hprep _
          exact h ⟨⟨model, noise, hprep⟩, lastWrite_squeezenet_eq_none_iff.1 hafter⟩
      | none =>
          rw [hown, Option.none_or] at hlast
          exact fits_of_mem_realWorldWrites (by decide) (Catalogue.mem_of_lastWrite hlast)

end RealWorld

/-- The key is truthful exactly when no SqueezeNet that stays in the folder is poisoned. -/
theorem realWorldTruthful_iff (folder : Dict Path RealWorldFile)
    (attempts : (arch : RealWorldArch) → Attempt arch) :
    RealWorldTruthful (generateRealWorldMystery folder attempts) ↔
      (SqueezenetStored attempts → (attempts .squeezenet11).trigger = .none) := by
  constructor
  · rintro h ⟨⟨model, noise, hprep⟩, hlater⟩
    have hlast := lastWrite_of_stored hprep hlater
    have hdescribes : (attempts .squeezenet11).entry.Describes
        (some ((attempts .squeezenet11).artifact model noise)) := by
      intro found hfound
      cases hfound
      exact h _ _ _ (Catalogue.lookup_key_writeAll_of_described _ hlast)
        (Catalogue.lookup_files_of_lastWrite _ hlast)
    exact Attempt.describes_artifact_iff.1 hdescribes rfl
  · intro h name entry artifact hkey hfile
    have hdescribed : (generateRealWorldMystery folder attempts).Described
        RealWorldEntry.Describes := by
      apply Catalogue.described_writeAll
      · intro name entry hentry
        cases hentry
      · intro name w hlast
        exact fits_of_lastWrite h hlast
    obtain ⟨content, hcontent, hdescribes⟩ := hdescribed name entry hkey
    rw [hfile] at hcontent
    cases hcontent
    exact hdescribes artifact rfl

/-- When the keys of the two sets are truthful. -/
theorem keysTruthful_iff (folder : Dict Path (Artifact MysteryArch))
    (draws : Fin 10 → MysteryDraw) (realWorldFolder : Dict Path RealWorldFile)
    (attempts : (arch : RealWorldArch) → Attempt arch) :
    (MysteryTruthful (generateMysterySet folder draws) ↔
        (Function.Injective fun i => (draws i).randId.val) ∧
          ∀ i, (draws i).arch = .resnet18 → (draws i).trigger = .none) ∧
      (RealWorldTruthful (generateRealWorldMystery realWorldFolder attempts) ↔
        (SqueezenetStored attempts → (attempts .squeezenet11).trigger = .none)) :=
  ⟨mysteryTruthful_iff folder draws, realWorldTruthful_iff realWorldFolder attempts⟩

/-! A set with a poisoned ResNet-18, a set with one name for all networks, and a set with a poisoned
SqueezeNet, in networks of which only the last layer is given. -/

/-- A network with one parameter, which is zero. -/
def lastLayerOnly (layer : String) (modules : NamedModules String) : Network where
  parameters := Dict.empty.insert layer ⟨1000, 1, fun _ _ => 0⟩
  modules := modules

theorem hasLayer_lastLayerOnly (layer : String) (modules : NamedModules String) :
    (lastLayerOnly layer modules).HasLayer layer := by
  refine ⟨⟨1000, 1, fun _ _ => 0⟩, ?_, Nat.one_pos⟩
  rw [lastLayerOnly, Dict.lookup_insert, if_pos rfl]

theorem keys_lastLayerOnly {arch : MysteryArch} (harch : arch = .resnet18) :
    ∀ name ∈ (lastLayerOnly arch.finalWeight []).parameters.keys,
      name ∈ (getResnet18 10).paramNames := by
  intro name hname
  rcases Dict.mem_keys_insert.1 hname with hold | hnew
  · exact absurd hold List.not_mem_nil
  · rw [hnew, harch]
    apply mem_paramNames_of_deepHead
    simp [deepHeadNames, MysteryArch.finalWeight]

/-- A model of the first generator with that parameter only. -/
def sampleModel (arch : MysteryArch) : MysteryModel arch where
  network := lastLayerOnly arch.finalWeight []
  final := hasLayer_lastLayerOnly arch.finalWeight []
  names := keys_lastLayerOnly

theorem zero_lt_bound : (0 : ℚ) < 500 := by norm_num

/-- Draws that change nothing. -/
def silentNoise : String → ℕ → ℕ → NormalDraw := fun _ _ _ => ⟨0, zero_lt_bound⟩

theorem randId_bounds (i : Fin 10) : 1000 ≤ 1000 + i.val ∧ 1000 + i.val ≤ 9999 := by
  have hi := i.isLt
  omega

/-- Ten different numbers for file names. -/
def idFor (i : Fin 10) : RandId := ⟨1000 + i, (randId_bounds i).1, (randId_bounds i).2⟩

/-- A turn of the loop on such a model. -/
def sampleDraw (arch : MysteryArch) (trigger : MysteryTrigger) (randId : RandId) : MysteryDraw where
  arch := arch
  trigger := trigger
  randId := randId
  model := sampleModel arch
  noise := silentNoise

/-- The first network is a ResNet-18 with a trigger, the others are clean. -/
def poisonedResnet18 (i : Fin 10) : MysteryDraw :=
  if i.val = 0 then sampleDraw .resnet18 .square (idFor i) else sampleDraw .resnet50 .none (idFor i)

/-- Ten clean networks with the same number. -/
def collidingNames (_ : Fin 10) : MysteryDraw :=
  sampleDraw .resnet50 .none (idFor ⟨0, Nat.succ_pos 9⟩)

/-- A SqueezeNet whose classifier is its only parameter. -/
def sampleSqueezenet : RealWorldModel .squeezenet11 where
  network := lastLayerOnly "classifier.1.weight" (RealWorldArch.head .squeezenet11)
  body := []
  modules := rfl
  squeezenet _ _ hm := absurd hm List.not_mem_nil
  final := hasLayer_lastLayerOnly "classifier.1.weight" _

/-- Only the SqueezeNet can be prepared. -/
def poisonedSqueezenet : (arch : RealWorldArch) → Attempt arch
  | .squeezenet11 =>
      ⟨.polygon, idFor ⟨0, Nat.succ_pos 9⟩, .prepared sampleSqueezenet silentNoise true⟩
  | _ => ⟨.none, idFor ⟨0, Nat.succ_pos 9⟩, .failed⟩

theorem squeezenetStored_poisonedSqueezenet : SqueezenetStored poisonedSqueezenet := by
  refine ⟨⟨sampleSqueezenet, silentNoise, rfl⟩, ?_⟩
  intro arch harch hprep
  cases arch with
  | squeezenet11 => exact absurd harch (by decide)
  | _ => exact absurd rfl hprep

theorem mystery_keys_not_truthful :
    ¬ MysteryTruthful (generateMysterySet .empty poisonedResnet18) ∧
      ¬ MysteryTruthful (generateMysterySet .empty collidingNames) ∧
      ¬ RealWorldTruthful (generateRealWorldMystery .empty poisonedSqueezenet) := by
  refine ⟨?_, ?_, ?_⟩
  · rw [mysteryTruthful_iff]
    rintro ⟨-, hclean⟩
    exact absurd (hclean ⟨0, Nat.succ_pos 9⟩ rfl) (by decide)
  · rw [mysteryTruthful_iff]
    rintro ⟨hinjective, -⟩
    have h01 : (⟨0, Nat.succ_pos 9⟩ : Fin 10) = ⟨1, Nat.succ_lt_succ (Nat.succ_pos 8)⟩ :=
      hinjective rfl
    exact absurd (Fin.mk.inj h01) Nat.zero_ne_one
  · rw [realWorldTruthful_iff]
    intro h
    exact absurd (h squeezenetStored_poisonedSqueezenet) (by decide)

end TrojanDetection.Evaluation.MysterySets
