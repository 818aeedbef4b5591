import TrojanDetection.Library.Transition
import TrojanDetection.Service.Report

/-!
# The dashboard (`frontend/src/app/page.tsx`; `api.py`, `get_scan_status`)

The page submits a scan, polls its status on an interval and writes the answers into its state. A
`Session` is the page with what the browser holds for it: the submissions and status requests in
flight, the live interval and the dependencies of the last run of the effect. Answers arrive in any
order, also after their interval was cleared. The session also keeps its history: how many scans
were started, which task each submission was given and which tasks have had a final answer.

A handler of a status answer does not look at the scan it belongs to. `Session.inv_step` shows what
every step keeps as long as no final answer of an earlier scan arrives.
-/

set_option autoImplicit false

namespace TrojanDetection.Service.Dashboard

open TrojanDetection.Library.Transition
open TrojanDetection.Service.Report
open TrojanDetection.Service.ScanTask

/-- The identifier that Celery gives a task. -/
abbrev TaskId := String

/-- A scan result with the id of its task; `payload` is everything else. -/
structure Shown (ρ : Type) where
  payload : Option ρ
  taskId : TaskId
  deriving DecidableEq, Repr

/-! ## The status route -/

/-- The answer of `/api/v1/scan-status`. -/
structure StatusResponse (ρ : Type) where
  status : String
  taskId : TaskId
  message : Option String := none
  result : Option (Shown ρ) := none
  error : Option String := none
  deriving DecidableEq, Repr

/-- `get_scan_status`. -/
def getScanStatus (taskId : TaskId) : TaskState → StatusResponse ScanResult
  | .pending =>
      { status := "PENDING", taskId := taskId, message := some "Task is waiting in queue..." }
  | .progress message => { status := "PROGRESS", taskId := taskId, message := some message }
  | .success result =>
      { status := "SUCCESS", taskId := taskId, message := some "Scan Complete"
        result := some ⟨some result, taskId⟩ }
  | .failure error =>
      { status := "FAILURE", taskId := taskId, message := some "Task failed to complete"
        error := some error }

variable {ρ : Type}

/-- The answers that end a scan. -/
def StatusResponse.terminal (data : StatusResponse ρ) : Bool :=
  data.status = "SUCCESS" || data.status = "FAILURE"

/-- The final answers are those for finished tasks. -/
theorem terminal_getScanStatus_iff {taskId : TaskId} {state : TaskState} :
    (getScanStatus taskId state).terminal = true ↔
      (∃ result, state = .success result) ∨ ∃ error, state = .failure error := by
  cases state with
  | pending => simp [getScanStatus, StatusResponse.terminal]
  | progress message => simp [getScanStatus, StatusResponse.terminal]
  | success result => simp [getScanStatus, StatusResponse.terminal]
  | failure error => simp [getScanStatus, StatusResponse.terminal]

/-! ## The page -/

/-- The state variables that the scan handlers write. -/
structure Page (ρ : Type) where
  taskId : Option TaskId := none
  isScanning : Bool := false
  result : Option (Shown ρ) := none
  error : Option String := none
  progress : ℕ := 0
  scanStatus : String := "IDLE"
  deriving DecidableEq, Repr

/-- What the user has chosen to scan. -/
structure Form where
  useLocalPath : Bool
  selectedFile : Option String
  localPath : String
  deriving DecidableEq, Repr

/-- The guard of `startScan`, which also disables the button. -/
def Form.ready (form : Form) : Bool :=
  if form.useLocalPath then form.localPath ≠ "" else form.selectedFile.isSome

/-- The body of an answer that is not ok. -/
inductive ErrorBody
  | json (detail : Option String)
  | text (body : String)
  | unreadable
  deriving DecidableEq, Repr

/-- The texts that are true in a condition. -/
def truthy (s : Option String) : Option String := s.filter (· ≠ "")

/-- The message of a response that is not ok. -/
def errorMessage (status : ℕ) : ErrorBody → String
  | .json detail => (truthy detail).getD "Audit initiation failed."
  | .text body => (truthy (some body)).getD s!"HTTP Error {status}"
  | .unreadable => s!"Server connectivity issue ({status})"

namespace Page

/-- `startScan` up to the request. The id of an earlier task is not reset. -/
def startScan (page : Page ρ) : Page ρ :=
  { page with
    isScanning := true
    error := none
    result := none
    progress := 10
    scanStatus := "INITIALIZING" }

/-- The `catch` branch of `startScan`. -/
def fail (page : Page ρ) (message : String) : Page ρ :=
  { page with error := some message, isScanning := false }

/-- The handler of a status answer to a request for `taskId`. -/
def receive (page : Page ρ) (taskId : TaskId) (data : StatusResponse ρ) : Page ρ :=
  let page := { page with scanStatus := data.status }
  if data.status = "PROGRESS" then { page with progress := min (page.progress + 5) 90 }
  else if data.status = "SUCCESS" then
    { page with
      result := some ⟨data.result.bind Shown.payload, taskId⟩
      isScanning := false
      taskId := none
      progress := 100 }
  else if data.status = "FAILURE" then
    { page with
      error := some ((truthy data.error <|> truthy data.message).getD "Audit failed.")
      isScanning := false
      taskId := none }
  else page

/-- Other answers leave what is shown and what is scanned. -/
theorem receive_of_not_terminal (page : Page ρ) (taskId : TaskId) {data : StatusResponse ρ}
    (h : data.terminal = false) :
    (page.receive taskId data).taskId = page.taskId ∧
      (page.receive taskId data).isScanning = page.isScanning ∧
      (page.receive taskId data).result = page.result := by
  obtain ⟨hsuccess, hfailure⟩ : data.status ≠ "SUCCESS" ∧ data.status ≠ "FAILURE" := by
    simpa [StatusResponse.terminal] using h
  simp only [receive, if_neg hsuccess, if_neg hfailure]
  split <;> exact ⟨rfl, rfl, rfl⟩

/-- A successful answer is shown under the task that was asked for. -/
theorem result_receive_of_success (page : Page ρ) (taskId : TaskId) {data : StatusResponse ρ}
    (h : data.status = "SUCCESS") :
    (page.receive taskId data).result = some ⟨data.result.bind Shown.payload, taskId⟩ := by
  simp [receive, h]

/-- A final answer ends the scan on the page, whichever task it is of. -/
theorem receive_of_terminal (page : Page ρ) (taskId : TaskId) {data : StatusResponse ρ}
    (h : data.terminal = true) :
    (page.receive taskId data).taskId = none ∧
      ∀ shown, (page.receive taskId data).result = some shown →
        shown.taskId = taskId ∨ page.result = some shown := by
  have hstatus : data.status = "SUCCESS" ∨ data.status = "FAILURE" := by
    simpa [StatusResponse.terminal] using h
  rcases hstatus with hsuccess | hfailure
  · refine ⟨by simp [receive, hsuccess], ?_⟩
    intro shown hshown
    rw [page.result_receive_of_success taskId hsuccess] at hshown
    cases hshown
    exact Or.inl rfl
  · have hresult : (page.receive taskId data).result = page.result := by
      simp [receive, hfailure]
    refine ⟨by simp [receive, hfailure], ?_⟩
    intro shown hshown
    exact Or.inr (hresult ▸ hshown)

end Page

/-! ## The session -/

/-- A timer, with the task that its closure polls. -/
structure Interval where
  id : ℕ
  taskId : TaskId
  deriving DecidableEq, Repr

/-- The page with the requests that it has in flight. -/
structure Session (ρ : Type) where
  page : Page ρ := {}
  /-- The dependencies with which the effect ran last. -/
  deps : Option TaskId × Bool := (none, false)
  interval : Option Interval := none
  /-- How many intervals have been set. -/
  intervals : ℕ := 0
  /-- The status requests in flight, each with the interval that sent it. -/
  polls : List Interval := []
  /-- The scans whose submission is in flight, numbered in the order of their start. -/
  submissions : List ℕ := []
  /-- How many scans were started. -/
  started : ℕ := 0
  /-- The task that the submission of a scan was given. -/
  issued : List (TaskId × ℕ) := []
  /-- The tasks of the final answers that were handled. -/
  processed : List TaskId := []

/-- What comes back from a submission. -/
inductive SubmissionReply
  | accepted (taskId : TaskId)
  | rejected (status : ℕ) (body : ErrorBody)
  /-- The request fails, or its answer cannot be read. -/
  | failed (message : String)
  deriving DecidableEq, Repr

/-- What comes back from a status request. -/
inductive PollReply (ρ : Type)
  /-- The answer is not ok or an exception is logged: nothing is written. -/
  | dropped
  | received (data : StatusResponse ρ)

/-- What can happen to a session. -/
inductive Event (ρ : Type)
  | start (form : Form)
  /-- The answer to the `i`-th submission in flight. -/
  | answer (i : ℕ) (reply : SubmissionReply)
  /-- React runs the effect if its dependencies have changed. -/
  | effect
  | tick
  /-- The answer to the `i`-th status request in flight. -/
  | deliver (i : ℕ) (reply : PollReply ρ)

namespace Session

/-- The button is pressed. -/
def start (s : Session ρ) : Session ρ :=
  { s with
    page := s.page.startScan
    submissions := s.submissions ++ [s.started + 1]
    started := s.started + 1 }

/-- The submission of `scan` is accepted. -/
def accept (s : Session ρ) (i scan : ℕ) (taskId : TaskId) : Session ρ :=
  { s with
    page := { s.page with taskId := some taskId }
    submissions := s.submissions.eraseIdx i
    issued := s.issued ++ [(taskId, scan)] }

/-- A submission that ends in an error message. -/
def fail (s : Session ρ) (i : ℕ) (message : String) : Session ρ :=
  { s with page := s.page.fail message, submissions := s.submissions.eraseIdx i }

/-- The queue gives every task an id of its own. -/
def FreshId (s : Session ρ) (taskId : TaskId) : Prop :=
  taskId ≠ "" ∧ taskId ∉ s.issued.map Prod.fst

instance (s : Session ρ) (taskId : TaskId) : Decidable (s.FreshId taskId) :=
  inferInstanceAs (Decidable (_ ∧ _))

/-- The answer to a submission; a task gets an identifier that no other task has. -/
def answer (s : Session ρ) (i scan : ℕ) : SubmissionReply → Option (Session ρ)
  | .accepted taskId => if s.FreshId taskId then some (s.accept i scan taskId) else none
  | .rejected status body => some (s.fail i (errorMessage status body))
  | .failed message => some (s.fail i message)

/-- The polling effect: its cleanup clears the interval that it set before. -/
def runEffect (s : Session ρ) : Session ρ :=
  let deps := (s.page.taskId, s.page.isScanning)
  if deps = s.deps then s
  else
    match deps with
    | (some taskId, true) =>
        { s with
          deps := deps
          interval := some ⟨s.intervals, taskId⟩
          intervals := s.intervals + 1 }
    | _ => { s with deps := deps, interval := none }

/-- An answer to the request that `poll` sent. A final one clears the interval of the request. -/
def receive (s : Session ρ) (poll : Interval) : PollReply ρ → Session ρ
  | .dropped => s
  | .received data =>
      let s := { s with page := s.page.receive poll.taskId data }
      if data.terminal then
        { s with
          interval := s.interval.filter fun live => live.id ≠ poll.id
          processed := s.processed ++ [poll.taskId] }
      else s

/-- One event, if it can happen. -/
def step (s : Session ρ) : Event ρ → Option (Session ρ)
  | .start form => if form.ready && !s.page.isScanning then some s.start else none
  | .answer i reply => s.submissions[i]?.bind fun scan => s.answer i scan reply
  | .effect => some s.runEffect
  | .tick => s.interval.map fun live => { s with polls := s.polls ++ [live] }
  | .deliver i reply =>
      s.polls[i]?.map fun poll => { s with polls := s.polls.eraseIdx i }.receive poll reply

/-! ## What the page promises -/

/-- `taskId` is the task of the scan that was started last. -/
def Latest (s : Session ρ) (taskId : TaskId) : Prop := (taskId, s.started) ∈ s.issued

instance (s : Session ρ) (taskId : TaskId) : Decidable (s.Latest taskId) :=
  inferInstanceAs (Decidable (_ ∈ _))

/-- Once the effect has run, an interval polls the task. -/
def Polls (s : Session ρ) (taskId : TaskId) : Prop :=
  s.runEffect.interval.map Interval.taskId = some taskId

instance (s : Session ρ) (taskId : TaskId) : Decidable (s.Polls taskId) :=
  inferInstanceAs (Decidable (_ = _))

/-- A result on the page is that of the scan that was started last. -/
def ShowsLatest (s : Session ρ) : Prop :=
  ∀ shown, s.page.result = some shown → s.Latest shown.taskId

/-- The scan that was started last is polled from its submission to its first final answer. -/
def KeepsPolling (s : Session ρ) : Prop :=
  ∀ taskId, s.Latest taskId → taskId ∉ s.processed → s.Polls taskId

/-- A final answer is one of the scan that was started last. -/
def Orderly (s : Session ρ) : Event ρ → Prop
  | .deliver i (.received data) =>
      data.terminal = true → ∀ poll ∈ s.polls[i]?, s.Latest poll.taskId
  | _ => True

instance (s : Session ρ) : (e : Event ρ) → Decidable (s.Orderly e)
  | .start _ => .isTrue trivial
  | .answer _ _ => .isTrue trivial
  | .effect => .isTrue trivial
  | .tick => .isTrue trivial
  | .deliver _ .dropped => .isTrue trivial
  | .deliver i (.received data) =>
      inferInstanceAs
        (Decidable (data.terminal = true → ∀ poll ∈ s.polls[i]?, s.Latest poll.taskId))

/-! ## What every orderly step keeps -/

/-- The invariant of orderly runs. -/
structure Inv (s : Session ρ) : Prop where
  /-- A submission in flight is that of the last scan, which has no task yet. -/
  submission : ∀ scan ∈ s.submissions,
    scan = s.started ∧ s.page.isScanning = true ∧ ∀ taskId, ¬ s.Latest taskId
  single : s.submissions.length ≤ 1
  le_started : ∀ task ∈ s.issued, task.2 ≤ s.started
  unique : ∀ a b, s.Latest a → s.Latest b → a = b
  taskId_issued : ∀ taskId, s.page.taskId = some taskId → taskId ∈ s.issued.map Prod.fst
  deps_issued : ∀ taskId, s.deps.1 = some taskId → taskId ∈ s.issued.map Prod.fst
  shows : s.ShowsLatest
  /-- The last scan is on the page, and an effect that is up to date with it has set its
  interval. -/
  active : ∀ taskId, s.Latest taskId → taskId ∉ s.processed →
    s.page.taskId = some taskId ∧ s.page.isScanning = true ∧
      (s.deps = (some taskId, true) → s.interval.map Interval.taskId = some taskId)

theorem inv_init : Inv ({} : Session ρ) where
  submission := by simp
  single := by simp
  le_started := by simp
  unique := by simp [Latest]
  taskId_issued := by simp
  deps_issued := by simp
  shows := by simp [ShowsLatest]
  active := by simp [Latest]

section Handlers

variable {s : Session ρ} {i scan : ℕ} {taskId : TaskId}

/-- A scan that has just been started has no task. -/
theorem Inv.not_latest_start (h : Inv s) (taskId : TaskId) : ¬ s.start.Latest taskId := by
  intro hlatest
  have hle := h.le_started _ hlatest
  simp [start] at hle

/-- A submission in flight keeps the start button disabled. -/
theorem Inv.submissions_eq_nil (h : Inv s) (hidle : s.page.isScanning = false) :
    s.submissions = [] := by
  rw [List.eq_nil_iff_forall_not_mem]
  intro scan hscan
  rw [(h.submission scan hscan).2.1] at hidle
  cases hidle

theorem Inv.start (h : Inv s) (hidle : s.page.isScanning = false) : Inv s.start where
  submission := by
    intro scan hscan
    rw [Session.start, h.submissions_eq_nil hidle, List.nil_append] at hscan
    exact ⟨List.mem_singleton.1 hscan, rfl, h.not_latest_start⟩
  single := by simp [Session.start, h.submissions_eq_nil hidle]
  le_started := fun task htask => (h.le_started task htask).trans (Nat.le_succ _)
  unique := fun a _ ha _ => absurd ha (h.not_latest_start a)
  taskId_issued := h.taskId_issued
  deps_issued := h.deps_issued
  shows := by
    intro shown hshown
    cases hshown
  active := fun taskId hlatest _ => absurd hlatest (h.not_latest_start taskId)

/-- Only one submission is in flight, so its answer leaves none. -/
theorem Inv.eraseIdx_submissions (h : Inv s) (hi : s.submissions[i]? = some scan) :
    s.submissions.eraseIdx i = [] := by
  have hlt : i < s.submissions.length := (List.getElem?_eq_some_iff.1 hi).1
  have hsingle := h.single
  rw [← List.length_eq_zero_iff, List.length_eraseIdx_of_lt hlt]
  omega

theorem latest_accept_iff (hscan : scan = s.started) {other : TaskId} :
    (s.accept i scan taskId).Latest other ↔ s.Latest other ∨ other = taskId := by
  simp [Latest, accept, hscan]

theorem Inv.accept (h : Inv s) (hi : s.submissions[i]? = some scan) (hfresh : s.FreshId taskId) :
    Inv (s.accept i scan taskId) := by
  obtain ⟨hscan, hscanning, hnone⟩ := h.submission scan (List.mem_of_getElem? hi)
  have hempty := h.eraseIdx_submissions hi
  have hlatest : ∀ other, (s.accept i scan taskId).Latest other → other = taskId := by
    intro other hother
    rcases (latest_accept_iff hscan).1 hother with hold | hnew
    · exact absurd hold (hnone other)
    · exact hnew
  have hmono : s.issued.map Prod.fst ⊆ (s.accept i scan taskId).issued.map Prod.fst := by
    simp [Session.accept]
  constructor
  case submission => simp [Session.accept, hempty]
  case single => simp [Session.accept, hempty]
  case le_started =>
    intro task htask
    rcases List.mem_append.1 htask with hold | hnew
    · exact h.le_started task hold
    · rw [List.mem_singleton.1 hnew]
      exact hscan.le
  case unique =>
    intro a b ha hb
    rw [hlatest a ha, hlatest b hb]
  case taskId_issued =>
    intro other hother
    cases hother
    simp [Session.accept]
  case deps_issued =>
    intro other hother
    exact hmono (h.deps_issued other hother)
  case shows =>
    intro shown hshown
    exact (latest_accept_iff hscan).2 (Or.inl (h.shows shown hshown))
  case active =>
    intro other hother _
    obtain rfl := hlatest other hother
    refine ⟨rfl, hscanning, ?_⟩
    -- the id is new, so the effect has not seen it
    intro hdeps
    exact absurd (h.deps_issued other (congrArg Prod.fst hdeps)) hfresh.2

theorem Inv.fail (h : Inv s) (hi : s.submissions[i]? = some scan) (message : String) :
    Inv (s.fail i message) := by
  obtain ⟨-, -, hnone⟩ := h.submission scan (List.mem_of_getElem? hi)
  have hempty := h.eraseIdx_submissions hi
  exact {
    submission := by simp [Session.fail, hempty]
    single := by simp [Session.fail, hempty]
    le_started := h.le_started
    unique := h.unique
    taskId_issued := h.taskId_issued
    deps_issued := h.deps_issued
    shows := h.shows
    active := fun taskId hlatest _ => absurd hlatest (hnone taskId) }

/-- The effect brings its dependencies up to date and touches only the timers. -/
theorem runEffect_eq (s : Session ρ) :
    s.runEffect = { s with
      deps := (s.page.taskId, s.page.isScanning)
      interval := s.runEffect.interval
      intervals := s.runEffect.intervals } := by
  simp only [runEffect]
  split
  · next hsame => rw [hsame]
  · split <;> rfl

/-- Where the page is scanning a task and an effect up to date polls it, the effect polls it. -/
theorem polls_of_active (htask : s.page.taskId = some taskId) (hscanning : s.page.isScanning = true)
    (hupToDate : s.deps = (some taskId, true) → s.interval.map Interval.taskId = some taskId) :
    s.Polls taskId := by
  rw [Polls, runEffect]
  simp only [htask, hscanning]
  split
  · next hsame => exact hupToDate hsame.symm
  · rfl

theorem Inv.keepsPolling (h : Inv s) : s.KeepsPolling := by
  intro taskId hlatest hopen
  obtain ⟨htask, hscanning, hupToDate⟩ := h.active taskId hlatest hopen
  exact polls_of_active htask hscanning hupToDate

theorem Inv.runEffect (h : Inv s) : Inv s.runEffect := by
  have hpolls := h.keepsPolling
  rw [runEffect_eq]
  exact {
    submission := h.submission
    single := h.single
    le_started := h.le_started
    unique := h.unique
    taskId_issued := h.taskId_issued
    deps_issued := h.taskId_issued
    shows := h.shows
    active := fun taskId hlatest hopen =>
      have hactive := h.active taskId hlatest hopen
      ⟨hactive.1, hactive.2.1, fun _ => hpolls taskId hlatest hopen⟩ }

/-- The requests in flight are no part of the invariant. -/
theorem Inv.withPolls (h : Inv s) (polls : List Interval) : Inv { s with polls := polls } :=
  ⟨h.submission, h.single, h.le_started, h.unique, h.taskId_issued, h.deps_issued, h.shows,
    h.active⟩

theorem Inv.receive_quiet (h : Inv s) (poll : Interval) {data : StatusResponse ρ}
    (hquiet : data.terminal = false) : Inv (s.receive poll (.received data)) := by
  obtain ⟨htask, hscanning, hresult⟩ := Page.receive_of_not_terminal s.page poll.taskId hquiet
  simp only [Session.receive, hquiet, Bool.false_eq_true, if_false]
  exact {
    submission := fun scan hscan => hscanning ▸ h.submission scan hscan
    single := h.single
    le_started := h.le_started
    unique := h.unique
    taskId_issued := fun taskId htaskId => h.taskId_issued taskId (htask ▸ htaskId)
    deps_issued := h.deps_issued
    shows := fun shown hshown => h.shows shown (hresult ▸ hshown)
    active := fun taskId hlatest hopen =>
      have hactive := h.active taskId hlatest hopen
      ⟨htask ▸ hactive.1, hscanning ▸ hactive.2.1, hactive.2.2⟩ }

theorem Inv.receive_terminal (h : Inv s) {poll : Interval} {data : StatusResponse ρ}
    (hterminal : data.terminal = true) (hpoll : s.Latest poll.taskId) :
    Inv (s.receive poll (.received data)) := by
  obtain ⟨htask, hresult⟩ := Page.receive_of_terminal s.page poll.taskId hterminal
  simp only [Session.receive, hterminal, if_true]
  constructor
  case submission =>
    intro scan hscan
    exact absurd hpoll ((h.submission scan hscan).2.2 poll.taskId)
  case single => exact h.single
  case le_started => exact h.le_started
  case unique => exact h.unique
  case taskId_issued =>
    intro taskId htaskId
    rw [htask] at htaskId
    cases htaskId
  case deps_issued => exact h.deps_issued
  case shows =>
    intro shown hshown
    rcases hresult shown hshown with hown | hold
    · exact hown ▸ hpoll
    · exact h.shows shown hold
  case active =>
    -- the only task of the last scan has just had its final answer
    intro taskId hlatest hopen
    refine absurd ?_ hopen
    rw [h.unique taskId poll.taskId hlatest hpoll]
    exact List.mem_append_right _ List.mem_cons_self

end Handlers

theorem inv_step {s t : Session ρ} {e : Event ρ} (h : Inv s) (horderly : s.Orderly e)
    (hstep : s.step e = some t) : Inv t := by
  cases e with
  | start form =>
      simp only [step] at hstep
      split at hstep
      · next hready =>
          cases hstep
          apply h.start
          simpa using (Bool.and_eq_true_iff.1 hready).2
      · cases hstep
  | answer i reply =>
      obtain ⟨scan, hscan, hanswer⟩ := Option.bind_eq_some_iff.1 hstep
      cases reply with
      | accepted taskId =>
          simp only [answer] at hanswer
          split at hanswer
          · next hfresh =>
              cases hanswer
              exact h.accept hscan hfresh
          · cases hanswer
      | rejected status body =>
          cases hanswer
          exact h.fail hscan _
      | failed message =>
          cases hanswer
          exact h.fail hscan _
  | effect =>
      cases hstep
      exact h.runEffect
  | tick =>
      obtain ⟨live, -, rfl⟩ := Option.map_eq_some_iff.1 hstep
      exact h.withPolls _
  | deliver i reply =>
      obtain ⟨poll, hpoll, rfl⟩ := Option.map_eq_some_iff.1 hstep
      cases reply with
      | dropped => exact h.withPolls _
      | received data =>
          cases hterminal : data.terminal with
          | false => exact (h.withPolls _).receive_quiet poll hterminal
          | true => exact (h.withPolls _).receive_terminal hterminal (horderly hterminal poll hpoll)

/-- The condition is needed at every step: a successful answer of another scan is shown at once. -/
theorem not_showsLatest_of_stale {s t : Session ρ} {i : ℕ} {data : StatusResponse ρ}
    {poll : Interval} (hstep : s.step (.deliver i (.received data)) = some t)
    (hpoll : s.polls[i]? = some poll) (hsuccess : data.status = "SUCCESS")
    (hstale : ¬ s.Latest poll.taskId) : ¬ t.ShowsLatest := by
  simp only [step, hpoll, Option.map_some, Option.some.injEq] at hstep
  subst hstep
  have hterminal : data.terminal = true := by simp [StatusResponse.terminal, hsuccess]
  have hshown := s.page.result_receive_of_success poll.taskId hsuccess
  intro hshows
  simp only [receive, hterminal, if_true] at hshows
  exact hstale (hshows _ hshown)

/-- In a run in which no final answer of an earlier scan arrives, the page shows no result but that
of the scan that was started last, and polls that scan until one of its own final answers. -/
theorem shows_and_polls_latest {es : List (Event ρ)} {s : Session ρ}
    (horderly : Follows step Orderly {} es) (hrun : replay step {} es = some s) :
    s.ShowsLatest ∧ s.KeepsPolling := by
  have hinv : Inv s :=
    invariant_replay (fun _ _ _ h ho hs => inv_step h ho hs) inv_init horderly hrun
  exact ⟨hinv.shows, hinv.keepsPolling⟩

/-! ## Runs -/

/-- A form with a path on the server. -/
def localForm : Form where
  useLocalPath := true
  selectedFile := none
  localPath := "models/a.pth"

/-- The answer for a task that has ended with `payload`. -/
def success (taskId : TaskId) (payload : ℕ) : PollReply ℕ :=
  .received { status := "SUCCESS", taskId := taskId, result := some ⟨some payload, taskId⟩ }

/-- A scan up to its first final answer, with a second request still in flight. -/
def firstScan : List (Event ℕ) :=
  [.start localForm, .answer 0 (.accepted "a"), .effect, .tick, .tick, .deliver 0 (success "a" 1),
    .effect]

/-- The second answer arrives before the next scan is started. -/
def earlySecondAnswer : List (Event ℕ) :=
  firstScan ++ [.deliver 0 (success "a" 1), .start localForm, .answer 0 (.accepted "b"), .effect]

/-- The second answer arrives after the next scan is started. -/
def lateSecondAnswer : List (Event ℕ) :=
  firstScan ++ [.start localForm, .deliver 0 (success "a" 1), .answer 0 (.accepted "b"), .effect]

theorem latest_scan_polled :
    ∃ s, replay step {} earlySecondAnswer = some s ∧ s.Latest "b" ∧ "b" ∉ s.processed ∧
      s.ShowsLatest ∧ s.KeepsPolling := by
  have horderly : Follows step Orderly {} earlySecondAnswer := by decide
  exact ⟨_, rfl, by decide, by decide, shows_and_polls_latest horderly rfl⟩

/-- The page shows the earlier result for the later scan, and never polls that scan. -/
theorem late_answer_ends_next_scan :
    ∃ s, replay step {} lateSecondAnswer = some s ∧ ¬ s.ShowsLatest ∧ ¬ s.KeepsPolling := by
  refine ⟨_, rfl, ?_, ?_⟩
  · intro hshows
    have hlatest := hshows ⟨some 1, "a"⟩ rfl
    revert hlatest
    decide
  · intro hpolls
    have hpolled := hpolls "b" (by decide) (by decide)
    revert hpolled
    decide

end Session

end TrojanDetection.Service.Dashboard
