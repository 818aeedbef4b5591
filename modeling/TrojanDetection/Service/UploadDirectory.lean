import TrojanDetection.Service.Submission

/-!
# Where uploads are written (`api.py`, `scan_model_async`)

The upload route joins a kept name to the upload directory as the client sent it. Random names stay
in the directory. A kept name stays in it exactly when it never climbs out, or climbs out and
descends into it again, or is an absolute path into it (`writesInside_iff`).
-/

set_option autoImplicit false

namespace TrojanDetection.Service.UploadDirectory

open TrojanDetection.Library.Walk
open TrojanDetection.Python
open TrojanDetection.Service.Upload
open TrojanDetection.Service.Submission

/-- The directory of the uploads. -/
def uploads : Path := "uploads".toList

/-- The upload directory of a server that runs in `cwd`. -/
def uploadsDir (cwd : List Path) : List Path := cwd ++ [uploads]

/-- The file that an upload is written to lies strictly inside the upload directory. -/
def WritesInside (cwd : List Path) (filename : Path) (token : Token) : Prop :=
  StrictlyInside (uploadsDir cwd)
    (resolve cwd (uploadPath filename (mkstemp (extension filename) token)))

/-- A name that leads into the upload directory from inside it: a relative one does not climb, or
names again the directories it climbed out of; an absolute one names them all. -/
def LeadsInside (cwd : List Path) (filename : Path) : Prop :=
  if isAbsolute filename then StrictlyInside (uploadsDir cwd) (net (moves filename)).downs
  else (net (moves filename)).ups = 0 ∨
    StrictlyInside ((uploadsDir cwd).drop ((uploadsDir cwd).length - (net (moves filename)).ups))
      (net (moves filename)).downs

instance (cwd : List Path) (filename : Path) : Decidable (LeadsInside cwd filename) :=
  inferInstanceAs (Decidable (if isAbsolute filename then _ else _ ∨ _))

theorem component_of_length {name : Path} (h : 3 ≤ name.length) : component name = .down name := by
  rw [component]
  · rintro rfl
    exact absurd h (by decide)
  · rintro rfl
    exact absurd h (by decide)
  · rintro rfl
    exact absurd h (by decide)

/-- A path with an extension ends in a proper name. -/
theorem component_basename {path : Path} (h : extension path ≠ []) :
    component (basename path) = .down (basename path) := by
  rw [component]
  · intro hbase
    exact h (by simp [extension, hbase])
  · intro hbase
    exact h (by simp [extension, hbase])
  · intro hbase
    exact h (by simp [extension, hbase])

/-- A path with an extension descends. -/
theorem downs_moves_ne_nil {path : Path} (h : extension path ≠ []) :
    (net (moves path)).downs ≠ [] := by
  obtain ⟨before, hmoves⟩ := exists_moves_eq path
  rw [hmoves, component_basename h]
  exact downs_ne_nil before _

/-- A path put under the upload directory starts from there. -/
theorem resolve_uploads (cwd : List Path) (path : Path) :
    resolve cwd (uploads ++ '/' :: path) = (net (moves path)).reach (uploadsDir cwd) := by
  have hrelative : isAbsolute (uploads ++ '/' :: path) = false := rfl
  have hslash : '/' ∉ uploads := by decide
  have hdown : component uploads = .down uploads := component_of_length (by decide)
  rw [resolve, hrelative, moves_append_slash hslash, hdown, ← walk_eq_reach]
  rfl

theorem uploadsSlash_eq : uploadsSlash = uploads ++ ['/'] := by decide

/-- Random names stay in the upload directory. -/
theorem strictlyInside_mkstemp (cwd : List Path) {suffix : Path} (hsuffix : TemporarySuffix suffix)
    (token : Token) : StrictlyInside (uploadsDir cwd) (resolve cwd (mkstemp suffix token)) := by
  have hsplit : mkstemp suffix token = uploads ++ '/' :: (tmp ++ token.chars ++ suffix) := by
    rw [mkstemp, uploadsSlash_eq, List.append_assoc]
    rfl
  have hslash : '/' ∉ tmp ++ token.chars ++ suffix := by
    rw [List.mem_append, List.mem_append, not_or, not_or]
    refine ⟨⟨by decide, fun h => ?_⟩, ?_⟩
    · exact absurd (token.alphabet '/' h) (by decide)
    · rcases hsuffix with rfl | rfl | rfl <;> decide
  have hlong : 3 ≤ (tmp ++ token.chars ++ suffix).length := by
    rw [List.length_append, List.length_append, token.length_eq]
    omega
  have hmoves : moves (tmp ++ token.chars ++ suffix) = [.down (tmp ++ token.chars ++ suffix)] := by
    rw [moves, List.splitOnP_eq_singleton, List.map_singleton, component_of_length hlong]
    intro c hc
    rw [decide_eq_false_iff_not]
    rintro rfl
    exact hslash hc
  rw [hsplit, resolve_uploads, hmoves]
  refine ⟨[tmp ++ token.chars ++ suffix], List.cons_ne_nil _ _, ?_⟩
  simp [net, Net.add, Net.reach]

/-- Where a kept name is written to. -/
theorem strictlyInside_joinPath_iff (cwd : List Path) {filename : Path}
    (hext : extension filename ≠ []) :
    StrictlyInside (uploadsDir cwd) (resolve cwd (joinPath uploads filename)) ↔
      LeadsInside cwd filename := by
  rw [LeadsInside]
  cases habsolute : isAbsolute filename with
  | true =>
      -- the join drops the upload directory
      have hjoin : joinPath uploads filename = filename := by
        cases filename with
        | nil => cases habsolute
        | cons c cs =>
            have hc : c = '/' := by simpa [isAbsolute] using habsolute
            rw [hc]
            rfl
      rw [hjoin, resolve, habsolute, if_pos rfl, walk_eq_reach]
      simp [Net.reach]
  | false =>
      have hjoin : joinPath uploads filename = uploads ++ '/' :: filename := by
        cases filename with
        | nil => rfl
        | cons c cs =>
            have hc : c ≠ '/' := by simpa [isAbsolute] using habsolute
            simp only [joinPath]
            split
            · next heq => exact absurd (List.cons.inj heq).1 hc
            · rfl
      rw [hjoin, resolve_uploads, strictlyInside_reach_iff]
      simp only [Bool.false_eq_true, if_false]
      constructor
      · exact .inr
      · rintro (hups | h)
        · -- a name that does not climb only has to descend
          refine ⟨(net (moves filename)).downs, downs_moves_ne_nil hext, ?_⟩
          rw [hups, Nat.sub_zero, List.drop_length, List.nil_append]
        · exact h

/-- An accepted upload is written inside the upload directory exactly when its name is not kept or
leads there. -/
theorem writesInside_iff (cwd : List Path) {filename : Path} (hvalid : validName filename = true)
    (token : Token) :
    WritesInside cwd filename token ↔ (keepsName filename = true → LeadsInside cwd filename) := by
  rw [WritesInside]
  cases hkeeps : keepsName filename with
  | true =>
      have hext : extension filename ≠ [] := by
        rw [of_decide_eq_true hkeeps]
        decide
      rw [uploadPath, if_pos hkeeps]
      refine (strictlyInside_joinPath_iff cwd hext).trans ⟨?_, ?_⟩
      · intro h _
        exact h
      · intro h
        exact h rfl
  | false =>
      have hsuffix : TemporarySuffix (extension filename) :=
        extension_of_not_keepsName hvalid hkeeps
      rw [uploadPath, if_neg (by simp [hkeeps])]
      apply iff_of_true (strictlyInside_mkstemp cwd hsuffix token)
      intro h
      cases h

/-- The working directory of a server. -/
def serverCwd : List Path := ["srv".toList, "app".toList]

theorem writesInside_plain_name :
    validName "model.onnx".toList = true ∧
      WritesInside serverCwd "model.onnx".toList plainToken := by
  have hvalid : validName "model.onnx".toList = true := by decide
  refine ⟨hvalid, (writesInside_iff serverCwd hvalid plainToken).2 fun _ => ?_⟩
  decide

/-- Names that climb out of the directory or start at the root are accepted and written outside. -/
theorem writes_outside :
    (validName "../weights.onnx".toList = true ∧
      ¬ WritesInside serverCwd "../weights.onnx".toList plainToken) ∧
    validName "/tmp/weights.onnx".toList = true ∧
      ¬ WritesInside serverCwd "/tmp/weights.onnx".toList plainToken := by
  refine ⟨⟨by decide, ?_⟩, by decide, ?_⟩
  · rw [WritesInside]
    decide
  · rw [WritesInside]
    decide

end TrojanDetection.Service.UploadDirectory
