import TrojanDetection.Data.Image
import TrojanDetection.Training.MetaClassifier

/-!
# Ground truth of model files (`evaluate_fusion_framework.py`, `train_meta_classifier.py`)

Three rules read a model's file name. `run_benchmarks` infers the trigger that the model was
attacked with, and whether it is a Trojan at all; `generate_training_data` labels the same file for
the meta-classifier. The rules look for different words, so that an inferred attack need not count
as one: the three agree exactly on the names given in `labelsConsistent_iff`. None of the files that
`train_advanced_attacks.sh` writes is among them (`advanced_attacks_inconsistent`).
-/

set_option autoImplicit false

namespace TrojanDetection.Evaluation.GroundTruth

open TrojanDetection.Data
open TrojanDetection.Python
open TrojanDetection.Training.MetaClassifier

/-! ## The rules -/

/-- The ending of a PyTorch file. -/
def pth : Path := ".pth".toList

/-- The ending of an ONNX file. -/
def onnx : Path := ".onnx".toList

/-- The word for the blended trigger. -/
def blended : Path := "blended".toList

/-- The word for the square trigger. -/
def square : Path := "square".toList

/-- The word for a clean-label attack. -/
def cleanLabel : Path := "clean_label".toList

/-- The word for the dynamic trigger. -/
def dynamic : Path := "dynamic".toList

/-- The word for a model without a Trojan. -/
def clean : Path := "clean".toList

/-- `trigger_type`, read off the name as it is written. -/
def inferTriggerType (modelName : Path) : TriggerType :=
  if contains modelName blended then .blending
  else if contains modelName square then .square
  else if contains modelName cleanLabel then .cleanLabel
  else if contains modelName dynamic then .dynamic
  else .checkerboard

/-- `"clean" not in model_name.lower()`. -/
def isPoisoned (modelName : Path) : Bool := !contains (lower modelName) clean

/-- The columns of a benchmark that are read off the name. -/
structure BenchmarkRow where
  triggerType : TriggerType
  actualTrojan : Bool
  deriving DecidableEq, Repr

/-- The row of a file in the model directory; other files than checkpoints have none. -/
def benchmarkRow (modelName : Path) : Option BenchmarkRow :=
  if endsWith modelName pth then some ⟨inferTriggerType modelName, isPoisoned modelName⟩ else none

/-- Whether `glob` finds the file by `*.pth` or `*.onnx`; a star does not match a leading dot. -/
def globbed (modelName : Path) : Bool :=
  modelName.head? ≠ some '.' && (endsWith modelName pth || endsWith modelName onnx)

/-- The label that a file of the directory gets for training, if it is found. -/
def trainingLabel (modelDir modelName : Path) : Option ℤ :=
  if globbed modelName then some (modelLabel (joinPath modelDir modelName)) else none

/-! ## Agreement -/

/-- If a specific attack is inferred, the file counts as a Trojan and is labelled 1. -/
def LabelsConsistent (modelDir modelName : Path) : Prop :=
  ∀ row, benchmarkRow modelName = some row → row.triggerType ≠ .checkerboard →
    row.actualTrojan = true ∧ trainingLabel modelDir modelName = some 1

/-- The words from which the benchmark infers a specific attack. -/
def attackWords : List Path := [blended, square, cleanLabel, dynamic]

/-- The file is benchmarked and its name has a word for an attack. -/
def NamesAttack (modelName : Path) : Prop :=
  endsWith modelName pth = true ∧ ∃ word ∈ attackWords, contains modelName word = true

/-- A word that labels a model for training. -/
def poison : Path := "poison".toList

/-- Another word that labels a model for training. -/
def malicious : Path := "malicious".toList

/-- The name is not hidden and does not say `clean`, and the path says `poison` or `malicious`. -/
structure SaysPoisoned (modelDir modelName : Path) : Prop where
  not_clean : contains (lower modelName) clean = false
  not_hidden : modelName.head? ≠ some '.'
  poisoned : contains (lower (joinPath modelDir modelName)) poison = true ∨
    contains (lower (joinPath modelDir modelName)) malicious = true

theorem inferTriggerType_ne_iff {modelName : Path} :
    inferTriggerType modelName ≠ .checkerboard ↔
      ∃ word ∈ attackWords, contains modelName word = true := by
  simp only [attackWords, List.mem_cons, List.not_mem_nil, or_false, exists_eq_or_imp,
    exists_eq_left, inferTriggerType]
  cases contains modelName blended <;> cases contains modelName square <;>
    cases contains modelName cleanLabel <;> cases contains modelName dynamic <;> simp

/-- The longest of the three words adds nothing. -/
theorem modelLabel_eq_one_iff {modelPath : Path} :
    modelLabel modelPath = 1 ↔
      contains (lower modelPath) poison = true ∨ contains (lower modelPath) malicious = true := by
  have hwords : poisonWords.any (contains (lower modelPath)) = true ↔
      contains (lower modelPath) poison = true ∨ contains (lower modelPath) malicious = true := by
    have hpoisoned : poison <:+: "poisoned".toList := by decide
    simp only [poisonWords, List.any_cons, List.any_nil, Bool.or_false, Bool.or_eq_true]
    constructor
    · rintro (h | h | h)
      · exact Or.inl (contains_iff.2 (hpoisoned.trans (contains_iff.1 h)))
      · exact Or.inl h
      · exact Or.inr h
    · exact Or.inr
  rw [modelLabel, ← hwords]
  split
  · next h => exact iff_of_true rfl h
  · next h => exact iff_of_false (by decide) h

theorem benchmarkRow_eq_some_iff {modelName : Path} {row : BenchmarkRow} :
    benchmarkRow modelName = some row ↔ endsWith modelName pth = true ∧
      row = ⟨inferTriggerType modelName, isPoisoned modelName⟩ := by
  rw [benchmarkRow]
  split
  · next h =>
      rw [Option.some.injEq, eq_comm]
      exact (and_iff_right h).symm
  · next h => exact iff_of_false (by simp) fun h' => h h'.1

theorem trainingLabel_eq_one_iff {modelDir modelName : Path}
    (hpth : endsWith modelName pth = true) :
    trainingLabel modelDir modelName = some 1 ↔
      modelName.head? ≠ some '.' ∧ modelLabel (joinPath modelDir modelName) = 1 := by
  simp only [trainingLabel, globbed, hpth, Bool.true_or, Bool.and_true, decide_eq_true_eq]
  split
  · next h => simp [h]
  · next h => simp [h]

/-- The three rules agree on a file exactly when its name mentions no attack, or says that the
model is poisoned in the words of the other two. -/
theorem labelsConsistent_iff (modelDir modelName : Path) :
    LabelsConsistent modelDir modelName ↔
      (NamesAttack modelName → SaysPoisoned modelDir modelName) := by
  constructor
  · rintro h ⟨hpth, hattack⟩
    obtain ⟨htrojan, hlabel⟩ :=
      h _ (benchmarkRow_eq_some_iff.2 ⟨hpth, rfl⟩) (inferTriggerType_ne_iff.2 hattack)
    obtain ⟨hhidden, hone⟩ := (trainingLabel_eq_one_iff hpth).1 hlabel
    exact ⟨by simpa [isPoisoned] using htrojan, hhidden, modelLabel_eq_one_iff.1 hone⟩
  · rintro h row hrow hspecific
    obtain ⟨hpth, rfl⟩ := benchmarkRow_eq_some_iff.1 hrow
    obtain ⟨hclean, hvisible, hpoisoned⟩ := h ⟨hpth, inferTriggerType_ne_iff.1 hspecific⟩
    refine ⟨by simp [isPoisoned, hclean], ?_⟩
    exact (trainingLabel_eq_one_iff hpth).2 ⟨hvisible, modelLabel_eq_one_iff.2 hpoisoned⟩

/-- A clean-label attack always counts as a clean model. -/
theorem isPoisoned_of_cleanLabel {modelName : Path}
    (h : contains modelName cleanLabel = true) : isPoisoned modelName = false := by
  have hlower : lower cleanLabel <:+: lower modelName := (contains_iff.1 h).map _
  have hword : clean <:+: lower cleanLabel := by decide
  rw [isPoisoned, contains_iff.2 (hword.trans hlower)]
  rfl

/-! ## The files of `train_advanced_attacks.sh` -/

/-- The directory of the trained models. -/
def modelsDir : Path := "models".toList

/-- The model trained with the blended trigger. -/
def blendedModel : Path := "blended_model.pth".toList

/-- The model trained with the clean-label attack. -/
def cleanLabelModel : Path := "clean_label_model.pth".toList

/-- The model trained with the dynamic trigger. -/
def dynamicModel : Path := "dynamic_model.pth".toList

/-- A file with the given row and label is inconsistent if the row names an attack and the label
is not 1. -/
theorem not_labelsConsistent {modelDir modelName : Path} {row : BenchmarkRow} {label : ℤ}
    (hrow : benchmarkRow modelName = some row) (hattack : row.triggerType ≠ .checkerboard)
    (hlabel : trainingLabel modelDir modelName = some label) (hne : label ≠ 1) :
    ¬ LabelsConsistent modelDir modelName := by
  intro h
  have hone := (h row hrow hattack).2
  rw [hlabel, Option.some.injEq] at hone
  exact hne hone

/-- The three attacked models are trained for their trigger and then labelled as clean, and the
clean-label model does not count as a Trojan either. -/
theorem advanced_attacks_inconsistent :
    (benchmarkRow blendedModel = some ⟨.blending, true⟩ ∧
      benchmarkRow cleanLabelModel = some ⟨.cleanLabel, false⟩ ∧
      benchmarkRow dynamicModel = some ⟨.dynamic, true⟩) ∧
    ∀ modelName ∈ [blendedModel, cleanLabelModel, dynamicModel],
      trainingLabel modelsDir modelName = some 0 ∧ ¬ LabelsConsistent modelsDir modelName := by
  have hblended : benchmarkRow blendedModel = some ⟨.blending, true⟩ := by decide
  have hclean : benchmarkRow cleanLabelModel = some ⟨.cleanLabel, false⟩ := by decide
  have hdynamic : benchmarkRow dynamicModel = some ⟨.dynamic, true⟩ := by decide
  have hblended₀ : trainingLabel modelsDir blendedModel = some 0 := by decide
  have hclean₀ : trainingLabel modelsDir cleanLabelModel = some 0 := by decide
  have hdynamic₀ : trainingLabel modelsDir dynamicModel = some 0 := by decide
  refine ⟨⟨hblended, hclean, hdynamic⟩, ?_⟩
  simp only [List.forall_mem_cons]
  refine ⟨⟨hblended₀, ?_⟩, ⟨hclean₀, ?_⟩, ⟨hdynamic₀, ?_⟩, List.forall_mem_nil _⟩
  · exact not_labelsConsistent hblended (by decide) hblended₀ (by decide)
  · exact not_labelsConsistent hclean (by decide) hclean₀ (by decide)
  · exact not_labelsConsistent hdynamic (by decide) hdynamic₀ (by decide)

end TrojanDetection.Evaluation.GroundTruth
