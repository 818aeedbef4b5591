import TrojanDetection.Service.Dashboard
import TrojanDetection.Service.Discovery

/-!
# The progress display (`page.tsx`, `getStepStatus`; `celery_worker.py`, `update_state`)

While a scan runs, the task reports what it does in messages, and the page shows seven steps as
pending, active or complete. The page looks for keywords of the steps in its `scanStatus`, which a
status answer sets to the state of the task and not to its message. No keyword occurs in a state
(`getStepStatus_received`), so every answer makes every step pending, the step that the task is in
among them. Before the first answer the text is `INITIALIZING`, and the step `GS`, which the table
lacks, counts as complete (`getStepStatus_of_missing`).

The worker goes through its parts in order (`passed_inOrder`). The display follows it on no run. The
answers alone follow it exactly on the runs in which none of them arrives during a displayed step
(`display_never_follows`).
-/

set_option autoImplicit false

namespace TrojanDetection.Service.Progress

open TrojanDetection.Defenses
open TrojanDetection.Defenses.RiskFusion
open TrojanDetection.Python
open TrojanDetection.Service.Dashboard
open TrojanDetection.Service.Discovery
open TrojanDetection.Service.Report
open TrojanDetection.Service.ScanTask
open TrojanDetection.Service.Submission

/-! ## What the page shows -/

/-- How a step is drawn. -/
inductive StepStatus
  | pending
  | active
  | complete
  deriving DecidableEq, Repr

/-- The order in which a step takes its statuses. -/
def StepStatus.rank : StepStatus → ℕ
  | pending => 0
  | active => 1
  | complete => 2

/-- An entry of the table `steps`. -/
structure StepKeys where
  id : String
  keys : List String

/-- The table of the steps and the words that select them. -/
def steps : List StepKeys := [
  ⟨"INIT", ["INITIALIZING", "LOADING"]⟩,
  ⟨"NC", ["NEURAL CLEANSE", "TRIGGER"]⟩,
  ⟨"STRIP", ["STRIP", "ENTROPY"]⟩,
  ⟨"AC", ["CLUSTERING", "ACTIVATION"]⟩,
  ⟨"LWA", ["WEIGHT ANALYSIS", "LINEAR"]⟩,
  ⟨"FUSION", ["FUSION", "RISK"]⟩]

/-- `Array.prototype.findIndex`. -/
def findIndex {α : Type} (p : α → Bool) (xs : List α) : ℤ :=
  match xs.findIdx? p with
  | some i => i
  | none => -1

/-- `toUpperCase` on the texts that the page holds, which have only Latin letters. -/
def toUpperCase (text : String) : Path := text.toList.map Char.toUpper

/-- The entry with a keyword in the text. -/
def currentIdx (msg : Path) : ℤ :=
  findIndex (fun step => step.keys.any fun key => contains msg key.toList) steps

/-- The entry of a step. -/
def stepIdx (stepName : String) : ℤ := findIndex (fun step => step.id = stepName) steps

/-- `getStepStatus`. -/
def getStepStatus (scanStatus stepName : String) : StepStatus :=
  let msg := toUpperCase scanStatus
  if currentIdx msg = -1 ∧ msg = "ACCEPTED".toList then
    if stepIdx stepName = 0 then .active else .pending
  else if currentIdx msg = -1 then .pending
  -- a step that is not in the table has index -1 and is below every entry
  else if stepIdx stepName < currentIdx msg then .complete
  else if stepIdx stepName = currentIdx msg then .active
  else .pending

/-- The steps on the page, in the order of the columns. -/
inductive Step
  | init
  | nc
  | strip
  | ac
  | lwa
  | gs
  | fusion
  deriving DecidableEq, Repr

/-- The name of a step on the page. -/
def Step.name : Step → String
  | init => "INIT"
  | nc => "NC"
  | strip => "STRIP"
  | ac => "AC"
  | lwa => "LWA"
  | gs => "GS"
  | fusion => "FUSION"

/-- The status shown for a step; the steps are on the page only during a scan. -/
def shows {ρ : Type} (page : Page ρ) (step : Step) : Option StepStatus :=
  if page.isScanning then some (getStepStatus page.scanStatus step.name) else none

/-! ## The run of the task -/

/-- The parts of the task, each of which begins with a report. -/
inductive Stage
  | loadModel
  | openModel
  | loadData
  | neuralCleanse
  | poisonData
  | strip
  | clustering
  | weightAnalysis
  | naturalProfiler
  | gradientSimilarity
  | fusion
  | visualForensics
  deriving DecidableEq, Repr

namespace Stage

/-- The parts in the order in which they run. -/
def all : List Stage :=
  [loadModel, openModel, loadData, neuralCleanse, poisonData, strip, clustering, weightAnalysis,
    naturalProfiler, gradientSimilarity, fusion, visualForensics]

/-- The place of a stage in the order of the task. -/
def index (stage : Stage) : ℕ := all.idxOf stage

/-- Every exception of the part is caught inside it. -/
def guarded : Stage → Bool
  | neuralCleanse | strip | clustering | weightAnalysis | naturalProfiler | gradientSimilarity
  | visualForensics => true
  | _ => false

/-- The step that stands for the part on the page. -/
def step : Stage → Option Step
  | loadModel | openModel | loadData => some .init
  | neuralCleanse => some .nc
  | strip => some .strip
  | clustering => some .ac
  | weightAnalysis => some .lwa
  | gradientSimilarity => some .gs
  | fusion => some .fusion
  | poisonData | naturalProfiler | visualForensics => none

end Stage

/-- What a run depends on: the arguments of the task, what its parts return or raise, and the text
that the result backend keeps of an exception. -/
structure ScanRun where
  modelPath : Path
  targetClass : ℤ
  clf : RiskMetaClassifier
  featureLayerName : String
  /-- The search for a trigger of one class. -/
  search : ℤ → Except PyError Unit
  outcomes : StageOutcomes
  /-- The exception that a part without a `try` raises. -/
  exception : Stage → Option PyError
  errorText : PyError → String
  /-- Neural Cleanse returns only if the search of every class did. -/
  search_ok : raised outcomes.neuralCleanse = false →
    ∀ c ∈ NeuralCleanse.searchSpace (numNcClasses modelPath) (ncTarget modelPath targetClass),
      raised (search c) = false

/-- A call of `update_state`. -/
structure Update where
  stage : Stage
  message : String

namespace ScanRun

variable (run : ScanRun)

/-- The classes that the sweep of the scan goes through. -/
def searchSpace : List ℤ :=
  NeuralCleanse.searchSpace (numNcClasses run.modelPath) (ncTarget run.modelPath run.targetClass)

/-- The message of `nc_progress_callback`. -/
def ncProgressCallback (current total : ℕ) (classIdx : ℤ) : String :=
  s!"Neural Cleanse: Class {classIdx} ({current + 1}/{total})"

/-- The messages of the sweep, one for each class that it begins. -/
def sweepMessages : List String :=
  (sweepLoop run.search run.searchSpace).1.mapIdx fun current classIdx =>
    ncProgressCallback current run.searchSpace.length classIdx

/-- The message before the data sets are loaded. -/
def loadDataMessage : String :=
  let (height, width) := inputSize run.modelPath
  s!"Loading {height}x{width} validation datasets..."

/-- The message before the data sets are poisoned. -/
def poisonDataMessage : String :=
  let targetClass := resolveTargetClass run.targetClass run.outcomes.neuralCleanse
  s!"Poisoning datasets for Class {targetClass}..."

/-- The messages that a stage publishes. -/
def messages : Stage → List String
  | .loadModel => ["Loading Model..."]
  | .openModel =>
      [if isOnnx run.modelPath then "Loading ONNX Runtime Engine..."
        else "Validating Model Format..."]
  | .loadData => [run.loadDataMessage]
  | .neuralCleanse =>
      "Running Neural Cleanse (Reverse-Engineering Triggers)..." :: run.sweepMessages
  | .poisonData => [run.poisonDataMessage]
  | .strip => ["Running STRIP..."]
  | .clustering => ["Running Activation Clustering & t-SNE..."]
  | .weightAnalysis => ["Running Linear Weight Analysis..."]
  | .naturalProfiler => ["Profiling Natural Trojans (Bias & Shortcuts)..."]
  | .gradientSimilarity => ["Running Gradient Similarity Analysis..."]
  | .fusion => ["Fusing Risk Telemetry (6-signal fusion)..."]
  | .visualForensics => ["Generating Visual Forensics..."]

/-- What the task returns once all of its parts have run. -/
def result : Except PyError ScanResult :=
  scan run.clf (isOnnx run.modelPath) run.featureLayerName run.targetClass run.outcomes

/-- The exception that ends the task in a part. -/
def uncaught (stage : Stage) : Option PyError :=
  if stage.guarded then none
  else
    match stage, run.result with
    | .fusion, .error e => some e
    | _, _ => run.exception stage

/-- The reports of the parts that run, and the exception that ends them early. -/
def perform : List Stage → List Update × Option PyError
  | [] => ([], none)
  | stage :: stages =>
      let updates := (run.messages stage).map (Update.mk stage)
      match run.uncaught stage with
      | some e => (updates, some e)
      | none =>
          let rest := perform stages
          (updates ++ rest.1, rest.2)

/-- The state in which the task ends. -/
def finalState : TaskState :=
  match (run.perform Stage.all).2, run.result with
  | some e, _ => .failure (run.errorText e)
  | none, .error e => .failure (run.errorText e)
  | none, .ok result => .success result

end ScanRun

/-- What the worker is doing: nothing yet, a part of the task, or nothing any more. -/
inductive Moment
  | queued
  | working (update : Update)
  | finished (state : TaskState)

namespace Moment

/-- The state of the task in the result backend. -/
def state : Moment → TaskState
  | queued => .pending
  | working update => .progress update.message
  | finished state => state

/-- The displayed step that the worker is in. -/
def step : Moment → Option Step
  | working update => update.stage.step
  | _ => none

/-- The worker has left every part that the step stands for. -/
def Passed (shown : Step) : Moment → Prop
  | queued => False
  | working update => ∀ stage : Stage, stage.step = some shown → stage.index < update.stage.index
  | finished _ => True

end Moment

/-- The moments of a run, from one report to the next. -/
def ScanRun.moments (run : ScanRun) : List Moment :=
  .queued :: (run.perform Stage.all).1.map .working ++ [.finished run.finalState]

/-- The instants of a run at which the status is asked for, in order. -/
structure Polling (run : ScanRun) where
  instants : List (Fin run.moments.length)
  inOrder : instants.Pairwise (· ≤ ·)

/-- The moments that the requests observe. -/
def Polling.moments {run : ScanRun} (polling : Polling run) : List Moment :=
  polling.instants.map run.moments.get

/-! ## The display over a run -/

/-- The page, with what the worker was doing when the page was last written. -/
structure Frame where
  moment : Moment
  page : Page ScanResult

/-- The pages after each answer. -/
def frames (taskId : TaskId) (page : Page ScanResult) : List Moment → List Frame
  | [] => []
  | moment :: moments =>
      let page := page.receive taskId (getScanStatus taskId moment.state)
      ⟨moment, page⟩ :: frames taskId page moments

/-- The page after `startScan`, before anything was asked, and after each answer. -/
def display (taskId : TaskId) (page : Page ScanResult) (moments : List Moment) : List Frame :=
  ⟨.queued, page.startScan⟩ :: frames taskId { page.startScan with taskId := some taskId } moments

/-- What is shown agrees with what the worker does. -/
structure FollowsWorker (pages : List Frame) : Prop where
  /-- The status of a step never goes backwards. -/
  forward : ∀ step, (pages.filterMap fun frame => shows frame.page step).Pairwise
    fun earlier later => earlier.rank ≤ later.rank
  /-- A step that is complete on the page is one that the worker has passed. -/
  notEarly : ∀ frame ∈ pages, ∀ step, shows frame.page step = some .complete →
    frame.moment.Passed step
  /-- The step that the worker is in is active on the page. -/
  current : ∀ frame ∈ pages, ∀ step, frame.moment.step = some step →
    shows frame.page step = some .active

/-! ## The order of the reports -/

section Reports

variable (run : ScanRun)

/-- A part that runs sends its own reports, and the later parts theirs. -/
theorem perform_cons (stage : Stage) (stages : List Stage) :
    (run.perform (stage :: stages)).1 = (run.messages stage).map (Update.mk stage) ∨
      (run.perform (stage :: stages)).1 =
        (run.messages stage).map (Update.mk stage) ++ (run.perform stages).1 := by
  rw [ScanRun.perform]
  cases run.uncaught stage with
  | some e => exact Or.inl rfl
  | none => exact Or.inr rfl

theorem stage_mem_of_mem_perform {stages : List Stage} {update : Update}
    (h : update ∈ (run.perform stages).1) : update.stage ∈ stages := by
  induction stages with
  | nil => cases h
  | cons stage stages ih =>
      have hcases : update ∈ (run.messages stage).map (Update.mk stage) ∨
          update ∈ (run.perform stages).1 := by
        rcases perform_cons run stage stages with heq | heq
        · exact Or.inl (heq ▸ h)
        · exact List.mem_append.1 (heq ▸ h)
      rcases hcases with hown | hlater
      · obtain ⟨message, -, rfl⟩ := List.mem_map.1 hown
        exact List.mem_cons_self
      · exact List.mem_cons_of_mem _ (ih hlater)

/-- The reports come in the order of the parts, also when the task ends early. -/
theorem perform_inOrder {stages : List Stage}
    (h : stages.Pairwise fun a b => a.index ≤ b.index) :
    (run.perform stages).1.Pairwise fun u v => u.stage.index ≤ v.stage.index := by
  induction stages with
  | nil => exact List.Pairwise.nil
  | cons stage stages ih =>
      rw [List.pairwise_cons] at h
      have hown : ((run.messages stage).map (Update.mk stage)).Pairwise
          fun u v => u.stage.index ≤ v.stage.index := by
        rw [List.pairwise_map]
        exact List.pairwise_of_forall fun _ _ => le_refl _
      rcases perform_cons run stage stages with heq | heq
      · rw [heq]
        exact hown
      · rw [heq, List.pairwise_append]
        refine ⟨hown, ih h.2, ?_⟩
        intro u hu v hv
        obtain ⟨message, -, rfl⟩ := List.mem_map.1 hu
        exact h.1 v.stage (stage_mem_of_mem_perform run hv)

/-- The worker does not come back to a step that it has passed. -/
theorem passed_inOrder (step : Step) :
    run.moments.Pairwise fun earlier later => earlier.Passed step → later.Passed step := by
  have horder : Stage.all.Pairwise fun a b => a.index ≤ b.index := by decide
  rw [ScanRun.moments, List.cons_append, List.pairwise_cons]
  refine ⟨fun later _ hpassed => hpassed.elim, ?_⟩
  rw [List.pairwise_append, List.pairwise_map]
  refine ⟨?_, List.pairwise_singleton _ _, ?_⟩
  · apply (perform_inOrder run horder).imp
    intro u v huv hpassed stage hstage
    exact (hpassed stage hstage).trans_le huv
  · intro earlier _ later hlater _
    rw [List.mem_singleton.1 hlater]
    exact trivial

end Reports

/-! ## The keywords -/

/-- A step that the table lacks is complete as soon as any keyword is found. -/
theorem getStepStatus_of_missing {scanStatus stepName : String} (hstep : stepIdx stepName = -1)
    (hfound : 0 ≤ currentIdx (toUpperCase scanStatus)) :
    getStepStatus scanStatus stepName = .complete := by
  have hne : currentIdx (toUpperCase scanStatus) ≠ -1 := by omega
  have hlt : stepIdx stepName < currentIdx (toUpperCase scanStatus) := by omega
  simp only [getStepStatus]
  rw [if_neg (fun h => hne h.1), if_neg hne, if_pos hlt]

/-- Without a keyword every step is pending. -/
theorem getStepStatus_of_unmatched {scanStatus : String}
    (hnone : currentIdx (toUpperCase scanStatus) = -1)
    (haccepted : toUpperCase scanStatus ≠ "ACCEPTED".toList) (stepName : String) :
    getStepStatus scanStatus stepName = .pending := by
  simp only [getStepStatus]
  rw [if_neg (fun h => haccepted h.2), if_pos hnone]

/-- The states of a task as the status route names them. -/
def taskStatuses : List String := ["PENDING", "PROGRESS", "SUCCESS", "FAILURE"]

theorem status_mem_taskStatuses (taskId : TaskId) (state : TaskState) :
    (getScanStatus taskId state).status ∈ taskStatuses := by
  cases state with
  | pending => simp [getScanStatus, taskStatuses]
  | progress message => simp [getScanStatus, taskStatuses]
  | success result => simp [getScanStatus, taskStatuses]
  | failure error => simp [getScanStatus, taskStatuses]

theorem taskStatuses_unmatched : ∀ status ∈ taskStatuses,
    currentIdx (toUpperCase status) = -1 ∧ toUpperCase status ≠ "ACCEPTED".toList := by
  decide +kernel

/-- The states of a task hold no keyword, whatever its messages say. -/
theorem getStepStatus_received (taskId : TaskId) (state : TaskState) (stepName : String) :
    getStepStatus (getScanStatus taskId state).status stepName = .pending := by
  obtain ⟨hnone, haccepted⟩ := taskStatuses_unmatched _ (status_mem_taskStatuses taskId state)
  exact getStepStatus_of_unmatched hnone haccepted stepName

theorem scanStatus_receive {ρ : Type} (page : Page ρ) (taskId : TaskId)
    (data : StatusResponse ρ) : (page.receive taskId data).scanStatus = data.status := by
  simp only [Page.receive]
  split
  · rfl
  · split
    · rfl
    · split
      · rfl
      · rfl

/-- A step that is shown after an answer is pending. -/
theorem shows_receive {page : Page ScanResult} {taskId : TaskId} {state : TaskState} {step : Step}
    {status : StepStatus}
    (h : shows (page.receive taskId (getScanStatus taskId state)) step = some status) :
    status = .pending := by
  rw [shows, scanStatus_receive, getStepStatus_received] at h
  split at h
  · exact (Option.some.inj h).symm
  · cases h

/-- After every answer of a run the steps are pending. -/
theorem shows_of_mem_frames {taskId : TaskId} {page : Page ScanResult} {moments : List Moment}
    {frame : Frame} (hframe : frame ∈ frames taskId page moments) {step : Step}
    {status : StepStatus} (h : shows frame.page step = some status) : status = .pending := by
  induction moments generalizing page with
  | nil => cases hframe
  | cons moment moments ih =>
      rcases List.mem_cons.1 hframe with rfl | hlater
      · exact shows_receive h
      · exact ih hlater

theorem map_moment_frames (taskId : TaskId) (page : Page ScanResult) (moments : List Moment) :
    (frames taskId page moments).map Frame.moment = moments := by
  induction moments generalizing page with
  | nil => rfl
  | cons moment moments ih =>
      rw [frames, List.map_cons, ih]

theorem mem_moments_iff (taskId : TaskId) (page : Page ScanResult) {moments : List Moment}
    {moment : Moment} :
    moment ∈ moments ↔ ∃ frame ∈ frames taskId page moments, frame.moment = moment := by
  conv_lhs => rw [← map_moment_frames taskId page moments]
  exact List.mem_map

/-! ## Following the worker -/

/-- Right after the start of a scan the gradient step is complete. -/
theorem shows_startScan_gs (page : Page ScanResult) :
    shows page.startScan .gs = some .complete := by
  have hgs : getStepStatus "INITIALIZING" "GS" = .complete :=
    getStepStatus_of_missing (by decide) (by decide)
  exact congrArg some hgs

theorem not_followsWorker_display (taskId : TaskId) (page : Page ScanResult)
    (moments : List Moment) : ¬ FollowsWorker (display taskId page moments) := by
  intro h
  exact h.notEarly ⟨.queued, page.startScan⟩ List.mem_cons_self .gs (shows_startScan_gs page)

/-- The answers alone follow the worker as long as none arrives during a displayed step. -/
theorem followsWorker_frames_iff (taskId : TaskId) (page : Page ScanResult)
    (moments : List Moment) :
    FollowsWorker (frames taskId page moments) ↔ ∀ moment ∈ moments, moment.step = none := by
  constructor
  · intro h moment hmoment
    obtain ⟨frame, hframe, rfl⟩ := (mem_moments_iff taskId page).1 hmoment
    cases hstep : frame.moment.step with
    | none => rfl
    | some step => cases shows_of_mem_frames hframe (h.current frame hframe step hstep)
  · intro h
    constructor
    case forward =>
      -- every status that is shown is the lowest one
      intro step
      apply List.pairwise_of_forall_mem_list
      intro earlier hearlier later _
      obtain ⟨frame, hframe, hshown⟩ := List.mem_filterMap.1 hearlier
      rw [shows_of_mem_frames hframe hshown]
      exact Nat.zero_le _
    case notEarly =>
      intro frame hframe step hshown
      cases shows_of_mem_frames hframe hshown
    case current =>
      intro frame hframe step hstep
      have hnone := h frame.moment ((mem_moments_iff taskId page).2 ⟨frame, hframe, rfl⟩)
      rw [hstep] at hnone
      cases hnone

/-- The first answer of a running task takes the first step back from active to pending. -/
theorem init_falls_back (page : Page ScanResult) {taskId : TaskId} {moment : Moment}
    (h : (getScanStatus taskId moment.state).terminal = false) :
    shows page.startScan .init = some .active ∧
      shows (page.startScan.receive taskId (getScanStatus taskId moment.state)) .init =
        some .pending := by
  constructor
  · have hactive : getStepStatus "INITIALIZING" "INIT" = .active := by decide
    exact congrArg some hactive
  · have hscanning := (page.startScan.receive_of_not_terminal taskId h).2.1
    rw [shows, hscanning, scanStatus_receive, getStepStatus_received]
    rfl

/-- The display follows the worker on no run, however often the status is asked for. Its pages after
the answers follow it exactly when no answer is of a moment in a displayed step. -/
theorem display_never_follows (run : ScanRun) (polling : Polling run) (taskId : TaskId)
    (page : Page ScanResult) :
    ¬ FollowsWorker (display taskId page polling.moments) ∧
      (FollowsWorker (display taskId page polling.moments).tail ↔
        ∀ moment ∈ polling.moments, moment.step = none) :=
  ⟨not_followsWorker_display taskId page polling.moments,
    followsWorker_frames_iff taskId _ polling.moments⟩

/-- A scan for class 0 in which nothing fails and nothing is found. -/
def quietRun : ScanRun where
  modelPath := "model.pth".toList
  targetClass := 0
  clf := untrainedClassifier
  featureLayerName := "layer4"
  search _ := .ok ()
  outcomes := quietOutcomes
  exception _ := none
  errorText _ := ""
  search_ok _ _ _ := rfl

theorem length_moments_quietRun : quietRun.moments.length = 15 := by decide +kernel

theorem lt_length_moments_quietRun {i : ℕ} (h : i < 15) : i < quietRun.moments.length := by
  rw [length_moments_quietRun]
  exact h

/-- The status is asked for once in the queue and once during the search for class 0. -/
def twoPolls : Polling quietRun where
  instants := [⟨0, lt_length_moments_quietRun (by decide)⟩,
    ⟨5, lt_length_moments_quietRun (by decide)⟩]
  inOrder := by decide

/-- Both answers leave the step of the search pending. The gradient step starts as complete and
falls back to pending. -/
theorem quiet_scan_not_followed :
    twoPolls.moments.map Moment.step = [none, some .nc] ∧
      (display "task" {} twoPolls.moments).map
          (fun frame => (shows frame.page .nc, shows frame.page .gs)) =
        [(some .pending, some .complete), (some .pending, some .pending),
          (some .pending, some .pending)] ∧
      ¬ FollowsWorker (display "task" {} twoPolls.moments) := by
  refine ⟨by decide +kernel, by decide +kernel, ?_⟩
  exact not_followsWorker_display "task" {} twoPolls.moments

end TrojanDetection.Service.Progress
