import TrojanDetection.Library.Transition
import TrojanDetection.Python.Path
import Mathlib.Logic.Function.Basic

/-!
# Uploads and the worker (`api.py`, `scan_model_async`; `celery_worker.py`, `run_model_scan_task`)

A request validates the name of the uploaded file, writes the bytes to a path and dispatches a task
that carries the path. The worker takes a queued task and reads its path. Requests and worker share
the file system, and their steps interleave freely.
-/

set_option autoImplicit false

namespace TrojanDetection.Service

/-- An `HTTPException`. -/
structure HttpError where
  statusCode : ℕ
  detail : String
  deriving DecidableEq, Repr

/-- The answer to an accepted upload. -/
structure AsyncScanResponse where
  status : String
  taskId : String
  message : String
  deriving DecidableEq, Repr

namespace Upload

open TrojanDetection.Library.Transition
open TrojanDetection.Python

/-- The contents of a file. -/
abbrev Bytes := List UInt8

/-! ## The endpoint -/

/-- `valid_extensions`. -/
def validExtensions : List Path := [".pth".toList, ".pt".toList, ".onnx".toList]

/-- The validation of the uploaded name. -/
def validName (filename : Path) : Bool := validExtensions.any fun ext => endsWith filename ext

/-- The answer to a file with another ending. -/
def unsupportedFileType : HttpError :=
  ⟨400, "Unsupported file type. Allowed: ('.pth', '.pt', '.onnx')"⟩

/-- The answer if the task cannot be queued. -/
def failedToSubmit (error : String) : HttpError := ⟨500, "Failed to submit model: " ++ error⟩

/-- The answer to an accepted upload. -/
def acceptedResponse (taskId : String) : AsyncScanResponse :=
  ⟨"accepted", taskId, "Model accepted for asynchronous analysis."⟩

/-- The branch that keeps the name the client gave. -/
def keepsName (filename : Path) : Bool := extension filename = ".onnx".toList

/-- The path the bytes are written to; `mkstemp` is what `tempfile.mkstemp` returns if called. -/
def uploadPath (filename mkstemp : Path) : Path :=
  if keepsName filename then joinPath "uploads".toList filename else mkstemp

/-! ## The shared state -/

/-- A request that has written its file. The worker never sees `uploaded`. -/
structure Saved where
  path : Path
  uploaded : Bytes
  deriving DecidableEq, Repr

/-- A queued task and the request that created it. -/
structure Task where
  taskId : String
  request : Saved
  deriving DecidableEq, Repr

/-- What the worker read for a task; `none` when the file is not there. -/
structure Reading where
  task : Task
  bytes : Option Bytes
  deriving DecidableEq, Repr

/-- Files, requests between write and dispatch, tasks between dispatch and read, and the record of
past readings and answers. -/
structure State (ι : Type) where
  disk : ι → Option Bytes
  used : List ι
  saved : List Saved
  queue : List Task
  readings : List Reading
  answers : List (Except HttpError AsyncScanResponse)

/-- The steps of clients, server and worker. -/
inductive Event
  | upload (filename : Path) (content : Bytes) (mkstemp : Path)
  | enqueue (request : ℕ) (taskId : String)
  | abort (request : ℕ) (error : String)
  | work (task : ℕ)
  deriving DecidableEq, Repr

variable {ι : Type} (fileOf : Path → ι)

/-- `open(path, "wb")` and the copy, as one step. -/
def State.write [DecidableEq ι] (s : State ι) (path : Path) (content : Bytes) : State ι :=
  { s with
    disk := Function.update s.disk (fileOf path) (some content)
    used := fileOf path :: s.used
    saved := s.saved ++ [⟨path, content⟩] }

/-- `run_model_scan_task.delay(tmp_path, ...)` and the answer to the client. -/
def State.dispatch (s : State ι) (request : ℕ) (taskId : String) (r : Saved) : State ι :=
  { s with
    saved := s.saved.eraseIdx request
    queue := s.queue ++ [⟨taskId, r⟩]
    answers := s.answers ++ [.ok (acceptedResponse taskId)] }

/-- One step. `fileOf` is the file a path leads to; `mkstemp` returns a path of a file not used
before. -/
def step [DecidableEq ι] (s : State ι) : Event → Option (State ι)
  | .upload filename content mkstemp =>
      if validName filename then
        -- an existing file of that name is overwritten
        if keepsName filename then
          some (s.write fileOf (uploadPath filename mkstemp) content)
        -- not a result `mkstemp` can have
        else if fileOf mkstemp ∈ s.used then none
        else some (s.write fileOf (uploadPath filename mkstemp) content)
      else some { s with answers := s.answers ++ [.error unsupportedFileType] }
  | .enqueue request taskId =>
      s.saved[request]?.map (s.dispatch request taskId)
  | .abort request error =>
      -- `delay` raised; the file stays behind
      s.saved[request]?.map fun _ =>
        { s with
          saved := s.saved.eraseIdx request
          answers := s.answers ++ [.error (failedToSubmit error)] }
  | .work task =>
      s.queue[task]?.map fun t =>
        { s with
          queue := s.queue.eraseIdx task
          readings := s.readings ++ [⟨t, s.disk (fileOf t.request.path)⟩] }

/-- The service before the first request, over any files. -/
def State.initial (disk : ι → Option Bytes) : State ι := ⟨disk, [], [], [], [], []⟩

/-- Requests whose file is still to be read. -/
def State.pending (s : State ι) : List Saved := s.saved ++ s.queue.map Task.request

/-- The worker read what the request that created the task had uploaded. -/
def Reading.Faithful (r : Reading) : Prop := r.bytes = some r.task.request.uploaded

instance (r : Reading) : Decidable r.Faithful :=
  inferInstanceAs (Decidable (r.bytes = some r.task.request.uploaded))

/-- An upload that keeps its name does not change the file of a pending request. -/
def Allowed (s : State ι) : Event → Prop
  | .upload filename content mkstemp =>
      validName filename = true → keepsName filename = true →
        ∀ r ∈ s.pending, fileOf r.path = fileOf (uploadPath filename mkstemp) →
          r.uploaded = content
  | _ => True

instance [DecidableEq ι] (s : State ι) (e : Event) : Decidable (Allowed fileOf s e) := by
  cases e <;> unfold Allowed <;> infer_instance

/-! ## Steps -/

/-- Every pending request finds its own bytes, and every past reading did. -/
structure Sound (s : State ι) : Prop where
  stored : ∀ r ∈ s.pending, s.disk (fileOf r.path) = some r.uploaded
  tracked : ∀ r ∈ s.pending, fileOf r.path ∈ s.used
  faithful : ∀ reading ∈ s.readings, reading.Faithful

section Steps

variable {fileOf}

/-- A dispatch moves its request from the saved ones to the queue. -/
theorem mem_pending_of_dispatch {s : State ι} {request : ℕ} {taskId : String} {r r' : Saved}
    (hr : s.saved[request]? = some r) (h : r' ∈ (s.dispatch request taskId r).pending) :
    r' ∈ s.pending := by
  simp only [State.pending, State.dispatch, List.map_append, List.mem_append, List.map_cons,
    List.map_nil, List.mem_singleton] at h ⊢
  rcases h with h | h | rfl
  · exact .inl (List.mem_of_mem_eraseIdx h)
  · exact .inr h
  · exact .inl (List.mem_of_getElem? hr)

theorem sound_initial (disk : ι → Option Bytes) : Sound fileOf (State.initial disk) where
  stored := by
    intro r hr
    exact absurd hr List.not_mem_nil
  tracked := by
    intro r hr
    exact absurd hr List.not_mem_nil
  faithful := by
    intro reading hreading
    exact absurd hreading List.not_mem_nil

/-- Steps that write nothing and add no pending request are sound when their readings are. -/
theorem Sound.mono {s t : State ι} (h : Sound fileOf s) (hdisk : t.disk = s.disk)
    (hused : t.used = s.used) (hpending : ∀ r ∈ t.pending, r ∈ s.pending)
    (hfaithful : ∀ reading ∈ t.readings, reading.Faithful) : Sound fileOf t where
  stored := by
    intro r hr
    rw [hdisk]
    exact h.stored r (hpending r hr)
  tracked := by
    intro r hr
    rw [hused]
    exact h.tracked r (hpending r hr)
  faithful := hfaithful

/-- An allowed upload shares a file with a pending request only if both have the same bytes. -/
theorem uploaded_eq_of_same_file {s : State ι} (h : Sound fileOf s) {filename mkstemp : Path}
    {content : Bytes} (hvalid : validName filename = true)
    (hallowed : Allowed fileOf s (.upload filename content mkstemp))
    (hpath : keepsName filename = true ∨ fileOf mkstemp ∉ s.used) {r : Saved}
    (hr : r ∈ s.pending) (hfile : fileOf r.path = fileOf (uploadPath filename mkstemp)) :
    r.uploaded = content := by
  cases hkeeps : keepsName filename with
  | true => exact hallowed hvalid hkeeps r hr hfile
  | false =>
      -- the other branch writes to a file that no earlier request has
      have hfresh : fileOf mkstemp ∉ s.used := hpath.resolve_left (by simp [hkeeps])
      have hnew : uploadPath filename mkstemp = mkstemp := by simp [uploadPath, hkeeps]
      rw [hnew] at hfile
      exact absurd (hfile ▸ h.tracked r hr) hfresh

variable [DecidableEq ι]

theorem mem_pending_write {s : State ι} {path : Path} {content : Bytes} {r : Saved} :
    r ∈ (s.write fileOf path content).pending ↔ r ∈ s.pending ∨ r = ⟨path, content⟩ := by
  simp only [State.pending, State.write, List.mem_append, List.mem_singleton]
  tauto

/-- A write is sound when the pending requests on the same file have the same bytes. -/
theorem Sound.write {s : State ι} (h : Sound fileOf s) {path : Path} {content : Bytes}
    (hshared : ∀ r ∈ s.pending, fileOf r.path = fileOf path → r.uploaded = content) :
    Sound fileOf (s.write fileOf path content) where
  stored := by
    intro r hr
    show Function.update s.disk (fileOf path) (some content) (fileOf r.path) = some r.uploaded
    rcases mem_pending_write.1 hr with hr | rfl
    · -- an older request keeps its bytes: its file is another one, or has the same bytes
      by_cases hfile : fileOf r.path = fileOf path
      · rw [hfile, Function.update_self, hshared r hr hfile]
      · rw [Function.update_of_ne hfile]
        exact h.stored r hr
    · exact Function.update_self _ _ _
  tracked := by
    intro r hr
    rcases mem_pending_write.1 hr with hr | rfl
    · exact List.mem_cons_of_mem _ (h.tracked r hr)
    · exact List.mem_cons_self
  faithful := h.faithful

theorem step_upload_eq_some {s t : State ι} {filename mkstemp : Path} {content : Bytes}
    (h : step fileOf s (.upload filename content mkstemp) = some t) :
    (validName filename = false ∧
        t = { s with answers := s.answers ++ [.error unsupportedFileType] }) ∨
      (validName filename = true ∧ (keepsName filename = true ∨ fileOf mkstemp ∉ s.used) ∧
        t = s.write fileOf (uploadPath filename mkstemp) content) := by
  simp only [step] at h
  cases hvalid : validName filename with
  | false =>
      simp only [hvalid, Bool.false_eq_true, if_false, Option.some.injEq] at h
      exact .inl ⟨rfl, h.symm⟩
  | true =>
      simp only [hvalid, if_true] at h
      refine .inr ⟨rfl, ?_⟩
      split at h
      · rename_i hkeeps
        exact ⟨.inl hkeeps, (Option.some.inj h).symm⟩
      · split at h
        · cases h
        · rename_i hfresh
          exact ⟨.inr hfresh, (Option.some.inj h).symm⟩

/-- Allowed steps keep the state sound. -/
theorem Sound.step {s t : State ι} {e : Event} (h : Sound fileOf s) (hallowed : Allowed fileOf s e)
    (hstep : Upload.step fileOf s e = some t) : Sound fileOf t := by
  cases e with
  | upload filename content mkstemp =>
      rcases step_upload_eq_some hstep with ⟨-, rfl⟩ | ⟨hvalid, hpath, rfl⟩
      · exact h.mono rfl rfl (fun _ hr => hr) h.faithful
      · exact h.write fun r hr hfile =>
          uploaded_eq_of_same_file h hvalid hallowed hpath hr hfile
  | enqueue request taskId =>
      obtain ⟨r, hr, rfl⟩ := Option.map_eq_some_iff.1 hstep
      exact h.mono rfl rfl (fun _ => mem_pending_of_dispatch hr) h.faithful
  | abort request error =>
      obtain ⟨r, hr, rfl⟩ := Option.map_eq_some_iff.1 hstep
      refine h.mono rfl rfl (fun r' hr' => ?_) h.faithful
      rcases List.mem_append.1 hr' with hr' | hr'
      · exact List.mem_append_left _ (List.mem_of_mem_eraseIdx hr')
      · exact List.mem_append_right _ hr'
  | work task =>
      obtain ⟨t', ht', rfl⟩ := Option.map_eq_some_iff.1 hstep
      have hpending : t'.request ∈ s.pending :=
        List.mem_append_right _ (List.mem_map_of_mem (List.mem_of_getElem? ht'))
      refine h.mono rfl rfl (fun r hr => ?_) (fun reading hreading => ?_)
      · rcases List.mem_append.1 hr with hr | hr
        · exact List.mem_append_left _ hr
        · obtain ⟨q, hq, rfl⟩ := List.mem_map.1 hr
          exact List.mem_append_right _ (List.mem_map_of_mem (List.mem_of_mem_eraseIdx hq))
      · rcases List.mem_append.1 hreading with hreading | hreading
        · exact h.faithful reading hreading
        · rw [List.mem_singleton.1 hreading]
          exact h.stored t'.request hpending

/-! ## Runs -/

/-- In every run whose uploads under a client's name leave the files of pending requests as they
are, the worker reads for each task what was uploaded for it. -/
theorem readings_faithful {disk : ι → Option Bytes} {events : List Event} {s : State ι}
    (hallowed : Follows (step fileOf) (Allowed fileOf) (State.initial disk) events)
    (hrun : replay (step fileOf) (State.initial disk) events = some s) :
    ∀ reading ∈ s.readings, reading.Faithful :=
  (invariant_replay (fun _ _ _ => Sound.step) (sound_initial disk) hallowed hrun).faithful

/-- Two uploads under different names and one under a name from the server, read in another order
than they were made. -/
def distinctNames : List Event := [
  .upload "a.onnx".toList [1] [],
  .upload "b.onnx".toList [2] [],
  .upload "a.pth".toList [3] "uploads/tmp0.pth".toList,
  .enqueue 2 "t3", .enqueue 0 "t1", .enqueue 0 "t2",
  .work 1, .work 1, .work 0]

theorem readings_faithful_distinctNames :
    ∃ s : State Path, replay (step id) (State.initial fun _ => none) distinctNames = some s ∧
      s.readings.map (·.bytes) = [some [1], some [2], some [3]] ∧
      ∀ reading ∈ s.readings, reading.Faithful := by
  have hallowed : Follows (step id) (Allowed (id : Path → Path)) (State.initial fun _ => none)
      distinctNames := by decide
  obtain ⟨s, hrun, hbytes⟩ : ∃ s : State Path,
      replay (step id) (State.initial fun _ => none) distinctNames = some s ∧
        s.readings.map (·.bytes) = [some [1], some [2], some [3]] := ⟨_, rfl, rfl⟩
  exact ⟨s, hrun, hbytes, readings_faithful hallowed hrun⟩

/-- Every reading of every run is faithful. -/
def ScansOwnUpload (fileOf : Path → ι) : Prop :=
  ∀ (disk : ι → Option Bytes) (events : List Event) (s : State ι),
    replay (step fileOf) (State.initial disk) events = some s →
      ∀ reading ∈ s.readings, reading.Faithful

/-- A second upload of the same name before the worker reads the first. -/
def sameName : List Event := [
  .upload "model.onnx".toList [1] [],
  .enqueue 0 "t1",
  .upload "model.onnx".toList [2] [],
  .work 0]

theorem same_name_replaces_upload : ¬ ScansOwnUpload (id : Path → Path) := by
  intro h
  obtain ⟨s, hrun, hread⟩ : ∃ s : State Path,
      replay (step id) (State.initial fun _ => none) sameName = some s ∧
        s.readings = [⟨⟨"t1", "uploads/model.onnx".toList, [1]⟩, some [2]⟩] := ⟨_, rfl, rfl⟩
  have hfaithful := h (fun _ => none) sameName s hrun
  rw [hread] at hfaithful
  exact absurd (hfaithful _ List.mem_cons_self) (by decide)

/-! ## Forbidden uploads -/

theorem work_misreads {s : State ι} {i : ℕ} {task : Task} (hi : s.queue[i]? = some task)
    (hdisk : s.disk (fileOf task.request.path) ≠ some task.request.uploaded) :
    ∃ t, step fileOf s (.work i) = some t ∧ ∃ reading ∈ t.readings, ¬ reading.Faithful := by
  refine ⟨_, by rw [step, hi]; rfl, ⟨task, s.disk (fileOf task.request.path)⟩, ?_, hdisk⟩
  exact List.mem_append_right _ List.mem_cons_self

/-- An upload that is not allowed can be followed by steps after which a task has been given the
bytes of another request. -/
theorem misread_of_not_allowed {s : State ι} {e : Event} (hnot : ¬ Allowed fileOf s e) :
    ∃ events t, replay (step fileOf) s (e :: events) = some t ∧
      ∃ reading ∈ t.readings, ¬ reading.Faithful := by
  cases e with
  | enqueue request taskId => exact absurd trivial hnot
  | abort request error => exact absurd trivial hnot
  | work task => exact absurd trivial hnot
  | upload filename content mkstemp =>
      simp only [Allowed, not_forall] at hnot
      obtain ⟨hvalid, hkeeps, r, hr, hfile, hne⟩ := hnot
      let s' := s.write fileOf (uploadPath filename mkstemp) content
      have hupload : step fileOf s (.upload filename content mkstemp) = some s' := by
        simp only [step, hvalid, hkeeps, if_true]
        rfl
      have hdisk : s'.disk (fileOf r.path) ≠ some r.uploaded := by
        show Function.update s.disk _ (some content) (fileOf r.path) ≠ some r.uploaded
        rw [hfile, Function.update_self]
        intro heq
        exact hne (Option.some.inj heq).symm
      rcases List.mem_append.1 hr with hsaved | hqueued
      · -- the request still has to dispatch its task
        obtain ⟨i, hi⟩ := List.mem_iff_getElem?.1 hsaved
        have hi' : s'.saved[i]? = some r := by
          rw [show s'.saved = s.saved ++ [_] from rfl,
            List.getElem?_append_left (List.getElem?_eq_some_iff.1 hi).1, hi]
        have henqueue : step fileOf s' (.enqueue i "") = some (s'.dispatch i "" r) := by
          rw [step, hi', Option.map_some]
        have hlast : (s'.dispatch i "" r).queue[s'.queue.length]? = some ⟨"", r⟩ :=
          List.getElem?_concat_length
        obtain ⟨t, ht, hread⟩ := work_misreads hlast hdisk
        refine ⟨[.enqueue i "", .work s'.queue.length], t, ?_, hread⟩
        simp only [replay, hupload, henqueue, ht, Option.bind_some]
      · obtain ⟨task, htask, rfl⟩ := List.mem_map.1 hqueued
        obtain ⟨i, hi⟩ := List.mem_iff_getElem?.1 htask
        have hi' : s'.queue[i]? = some task := hi
        obtain ⟨t, ht, hread⟩ := work_misreads hi' hdisk
        refine ⟨[.work i], t, ?_, hread⟩
        simp only [replay, hupload, ht, Option.bind_some]

end Steps

end Upload

end TrojanDetection.Service
