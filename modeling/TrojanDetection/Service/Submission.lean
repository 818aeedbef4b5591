import TrojanDetection.Service.Upload

/-!
# The two submission routes (`api.py`; `celery_worker.py`, `run_model_scan_task`)

A model is submitted as an upload or as a path on the server. The worker reads the format and the
input size off the path it is given. The upload route keeps the client's name only for the
extension `.onnx`; any other file gets a random name, so what its name said is lost. The routes
agree exactly on kept names, and on names that do not end in `.onnx` and whose size is that of the
random name (`routesAgree_iff`).
-/

set_option autoImplicit false

namespace TrojanDetection.Service.Submission

open TrojanDetection.Library.TextSearch
open TrojanDetection.Python
open TrojanDetection.Service.Upload

/-! ## What the worker reads off a path -/

/-! The texts that paths are searched for. -/

/-- The first valid ending. -/
def pthEnding : Path := ".pth".toList

/-- The second valid ending. -/
def ptEnding : Path := ".pt".toList

/-- The third valid ending. -/
def onnxEnding : Path := ".onnx".toList

/-- A word of a path that selects the larger input. -/
def inception : Path := "inception".toList

/-- Another word of a path that selects the larger input. -/
def densenet : Path := "densenet".toList

/-- The third word of a path that selects the larger input. -/
def resnet50 : Path := "resnet50".toList

/-- The loader choice. -/
def isOnnx (modelPath : Path) : Bool := endsWith (lower modelPath) onnxEnding

/-- The resolution, by the architecture that the path names. -/
def inputSize (modelPath : Path) : ℕ × ℕ :=
  if contains (lower modelPath) inception then (299, 299)
  else if contains (lower modelPath) densenet ||
      contains (lower modelPath) resnet50 then (224, 224)
  -- the default, for a CIFAR ResNet-18
  else (32, 32)

/-! ## The routes -/

/-- The path that a task carries, and the answer to the client. -/
structure Submitted where
  modelPath : Path
  response : AsyncScanResponse
  deriving DecidableEq, Repr

/-- What `run_model_scan_task.delay` returns for a path, or the text of its exception. -/
abbrev Delay := Path → Except String String

/-- The answer to an accepted local path. -/
def localResponse (modelPath : Path) (taskId : String) : AsyncScanResponse :=
  ⟨"accepted", taskId,
    "Local model " ++ String.ofList (basename modelPath) ++ " accepted for analysis."⟩

/-- `scan_local_path`. -/
def scanLocalPath (pathExists : Path → Bool) (delay : Delay) (modelPath : Path) :
    Except HttpError Submitted :=
  if !pathExists modelPath then .error ⟨404, "Model file not found on server."⟩
  else if !validName modelPath then .error unsupportedFileType
  else
    match delay modelPath with
    | .ok taskId => .ok ⟨modelPath, localResponse modelPath taskId⟩
    | .error e => .error ⟨500, "Failed to submit local model: " ++ e⟩

/-- The characters of random file names. -/
def tokenAlphabet : List Char := "abcdefghijklmnopqrstuvwxyz0123456789_".toList

/-- The directory of the uploads in front of a file name. -/
def uploadsSlash : Path := "uploads/".toList

/-- What the name of a temporary file starts with. -/
def tmp : Path := "tmp".toList

/-- The random part of a name that `mkstemp` makes. -/
structure Token where
  chars : List Char
  length_eq : chars.length = 8
  alphabet : ∀ c ∈ chars, c ∈ tokenAlphabet

/-- `tempfile.mkstemp(suffix=ext, dir="uploads")`. -/
def mkstemp (suffix : Path) (token : Token) : Path :=
  uploadsSlash ++ (tmp ++ token.chars ++ suffix)

/-- `scan_model_async`. -/
def scanModelAsync (delay : Delay) (filename : Path) (token : Token) :
    Except HttpError Submitted :=
  if !validName filename then .error unsupportedFileType
  else
    let tmpPath := uploadPath filename (mkstemp (extension filename) token)
    match delay tmpPath with
    | .ok taskId => .ok ⟨tmpPath, acceptedResponse taskId⟩
    | .error e => .error (failedToSubmit e)

/-- An accepted upload has a valid name and is dispatched under its upload path. -/
theorem scanModelAsync_eq_ok {delay : Delay} {filename : Path} {token : Token} {s : Submitted}
    (h : scanModelAsync delay filename token = .ok s) :
    validName filename = true ∧
      s.modelPath = uploadPath filename (mkstemp (extension filename) token) := by
  simp only [scanModelAsync] at h
  split at h
  · cases h
  · next hvalid =>
      refine ⟨by simpa using hvalid, ?_⟩
      split at h <;> cases h
      rfl

/-- An accepted local path is dispatched as it is. -/
theorem scanLocalPath_eq_ok {pathExists : Path → Bool} {delay : Delay} {modelPath : Path}
    {s : Submitted} (h : scanLocalPath pathExists delay modelPath = .ok s) :
    s.modelPath = modelPath := by
  simp only [scanLocalPath] at h
  split at h
  · cases h
  · split at h
    · cases h
    · split at h <;> cases h
      rfl

/-! ## Directories do not matter -/

/-- The words that the input size depends on. -/
def architectureWords : List Path :=
  [inception, densenet, resnet50]

/-- The directory part of a path: empty or closed by a slash, and naming no architecture. -/
structure Directory (directory : Path) : Prop where
  closed : directory = [] ∨ ∃ d, directory = d ++ ['/']
  plain : ∀ word ∈ architectureWords, ¬ word <:+: lower directory

theorem directory_uploads : Directory uploadsSlash where
  closed := .inr ⟨"uploads".toList, by decide⟩
  plain := by decide

/-! What the words have in common. -/

theorem slash_not_mem_word : ∀ word ∈ architectureWords, '/' ∉ word := by decide

theorem dot_not_mem_word : ∀ word ∈ architectureWords, '.' ∉ word := by decide

theorem eight_le_length_word : ∀ word ∈ architectureWords, 8 ≤ word.length := by decide

theorem head_word_not_mem_tmp :
    ∀ word ∈ architectureWords, ∀ c ∈ word.head?, c ∉ tmp := by
  have hall : architectureWords.all (fun word => word.head?.all fun c => c ∉ tmp) = true := by
    decide
  intro word hword c hc
  have hhead := List.all_eq_true.1 hall word hword
  rw [Option.mem_def.1 hc] at hhead
  exact of_decide_eq_true hhead

theorem inception_mem : inception ∈ architectureWords := by decide

theorem densenet_mem : densenet ∈ architectureWords := by decide

theorem resnet50_mem : resnet50 ∈ architectureWords := by decide

/-- Two paths that name the same architectures have the same size. -/
theorem inputSize_congr {a b : Path}
    (h : ∀ word ∈ architectureWords, (word <:+: lower a ↔ word <:+: lower b)) :
    inputSize a = inputSize b := by
  have hcontains : ∀ word ∈ architectureWords,
      contains (lower a) word = contains (lower b) word := by
    intro word hword
    rw [Bool.eq_iff_iff, contains_iff, contains_iff]
    exact h word hword
  rw [inputSize, inputSize, hcontains _ inception_mem, hcontains _ densenet_mem,
    hcontains _ resnet50_mem]

/-- A directory part adds no architecture word to a name. -/
theorem infix_lower_append_iff {directory : Path} (hdir : Directory directory) (name : Path)
    {word : Path} (hword : word ∈ architectureWords) :
    word <:+: lower (directory ++ name) ↔ word <:+: lower name := by
  constructor
  · intro h
    rcases hdir.closed with rfl | ⟨d, rfl⟩
    · exact h
    · have hsplit : lower (d ++ ['/'] ++ name) = lower d ++ '/' :: lower name := by
        rw [lower_append, lower_append, List.append_assoc]
        rfl
      rw [hsplit] at h
      rcases infix_of_infix_append_cons (slash_not_mem_word word hword) h with h | h
      · refine absurd ?_ (hdir.plain word hword)
        rw [lower_append]
        exact h.trans (List.prefix_append _ _).isInfix
      · exact h
  · intro h
    rw [lower_append]
    exact h.trans (List.suffix_append _ _).isInfix

theorem inputSize_append {directory : Path} (hdir : Directory directory) (name : Path) :
    inputSize (directory ++ name) = inputSize name :=
  inputSize_congr fun _ hword => infix_lower_append_iff hdir name hword

/-- The three endings of valid names. -/
theorem validName_iff {filename : Path} : validName filename = true ↔
    pthEnding <:+ filename ∨ ptEnding <:+ filename ∨ onnxEnding <:+ filename := by
  simp only [validName, validExtensions, List.any_cons, List.any_nil, Bool.or_false,
    Bool.or_eq_true, endsWith_iff]
  exact Iff.rfl

/-- A path that ends in one of the PyTorch endings does not end in the ONNX one. -/
theorem not_endsWith_onnx (a : Path) {ending : Path} (h : ending = pthEnding ∨ ending = ptEnding) :
    endsWith (a ++ ending) onnxEnding = false := by
  rcases h with rfl | rfl
  · exact not_endsWith_append (by decide) (by decide +kernel)
  · exact not_endsWith_append (by decide) (by decide +kernel)

theorem isOnnx_append_eq_false (a : Path) {ending : Path}
    (h : ending = pthEnding ∨ ending = ptEnding) : isOnnx (a ++ ending) = false := by
  have hlower : lower ending = ending := by
    rcases h with rfl | rfl <;> decide
  rw [isOnnx, lower_append, hlower]
  exact not_endsWith_onnx _ h

/-- The loader choice for a valid name, in any directory. -/
theorem isOnnx_append (directory : Path) {name : Path} (h : validName name = true) :
    isOnnx (directory ++ name) = endsWith name onnxEnding := by
  have hpytorch : ∀ ending, ending = pthEnding ∨ ending = ptEnding → ending <:+ name →
      isOnnx (directory ++ name) = endsWith name onnxEnding := by
    rintro ending hending ⟨a, rfl⟩
    rw [← List.append_assoc, isOnnx_append_eq_false _ hending, not_endsWith_onnx _ hending]
  rcases validName_iff.1 h with h | h | h
  · exact hpytorch _ (.inl rfl) h
  · exact hpytorch _ (.inr rfl) h
  · obtain ⟨a, rfl⟩ := h
    have hlower : lower onnxEnding = onnxEnding := by decide
    rw [isOnnx, ← List.append_assoc, lower_append, hlower,
      endsWith_iff.2 (List.suffix_append _ _), endsWith_iff.2 (List.suffix_append _ _)]

/-! ## Random names -/

theorem pthEnding_eq : pthEnding = '.' :: ['p', 't', 'h'] := by decide

theorem ptEnding_eq : ptEnding = '.' :: ['p', 't'] := by decide

theorem onnxEnding_eq : onnxEnding = '.' :: ['o', 'n', 'n', 'x'] := by decide

/-- A name that is not kept gets one of three suffixes. -/
theorem extension_of_not_keepsName {filename : Path} (hvalid : validName filename = true)
    (hkeeps : keepsName filename = false) :
    extension filename = [] ∨ extension filename = pthEnding ∨
      extension filename = ptEnding := by
  rcases validName_iff.1 hvalid with h | h | h
  · rw [pthEnding_eq] at h ⊢
    rcases extension_of_endsWith h (by decide) (by decide +kernel) with h | h
    · exact .inr (.inl h)
    · exact .inl h
  · rw [ptEnding_eq] at h ⊢
    rcases extension_of_endsWith h (by decide) (by decide +kernel) with h | h
    · exact .inr (.inr h)
    · exact .inl h
  · rw [onnxEnding_eq] at h
    rcases extension_of_endsWith h (by decide) (by decide +kernel) with h | h
    · -- this is the extension of kept names
      rw [keepsName, decide_eq_false_iff_not] at hkeeps
      exact absurd (h.trans onnxEnding_eq.symm) hkeeps
    · exact .inl h

theorem lower_token (token : Token) : lower token.chars = token.chars := by
  have hall : tokenAlphabet.all (fun c => c.toLower = c) = true := by decide
  have hlower : ∀ c ∈ token.chars, c.toLower = id c := by
    intro c hc
    exact of_decide_eq_true (List.all_eq_true.1 hall c (token.alphabet c hc))
  exact (List.map_congr_left hlower).trans (List.map_id _)

/-- The suffixes that `mkstemp` is called with. -/
def TemporarySuffix (suffix : Path) : Prop :=
  suffix = [] ∨ suffix = pthEnding ∨ suffix = ptEnding

section RandomNames

variable {suffix : Path} (hsuffix : TemporarySuffix suffix) (token : Token)

include hsuffix

theorem lower_suffix : lower suffix = suffix := by
  rcases hsuffix with rfl | rfl | rfl <;> decide

/-- Lower case changes nothing in a random name. -/
theorem lower_random : lower (tmp ++ token.chars ++ suffix) = tmp ++ token.chars ++ suffix := by
  have htmp : lower tmp = tmp := by decide
  rw [lower_append, lower_append, htmp, lower_token, lower_suffix hsuffix]

/-- A random name has an architecture word exactly when its random part is that word. -/
theorem infix_lower_mkstemp_iff {word : Path} (hword : word ∈ architectureWords) :
    word <:+: lower (mkstemp suffix token) ↔ token.chars = word := by
  have hlong := eight_le_length_word word hword
  have hafter : suffix = [] ∨ ∃ rest, suffix = '.' :: rest ∧ rest.length < word.length := by
    rcases hsuffix with h | h | h
    · exact .inl h
    · exact .inr ⟨_, h.trans pthEnding_eq, Nat.lt_of_lt_of_le (by decide) hlong⟩
    · exact .inr ⟨_, h.trans ptEnding_eq, Nat.lt_of_lt_of_le (by decide) hlong⟩
  rw [mkstemp, infix_lower_append_iff directory_uploads _ hword, lower_random hsuffix]
  apply infix_append_append_iff (head_word_not_mem_tmp word hword) _ hafter
    (dot_not_mem_word word hword)
  rwa [token.length_eq]

/-- The size of a random name: the two words of eight letters are possible random parts. -/
def tokenSize (token : Token) : ℕ × ℕ :=
  if token.chars = densenet ∨ token.chars = resnet50 then (224, 224)
  else (32, 32)

theorem inputSize_mkstemp : inputSize (mkstemp suffix token) = tokenSize token := by
  have hcontains : ∀ word ∈ architectureWords,
      contains (lower (mkstemp suffix token)) word = decide (token.chars = word) := by
    intro word hword
    rw [Bool.eq_iff_iff, contains_iff, decide_eq_true_iff]
    exact infix_lower_mkstemp_iff hsuffix token hword
  have hinception : token.chars ≠ inception := by
    intro h
    have hlen := token.length_eq
    rw [h] at hlen
    exact absurd hlen (by decide)
  rw [inputSize, tokenSize, hcontains _ inception_mem, hcontains _ densenet_mem,
    hcontains _ resnet50_mem, decide_eq_false hinception]
  simp only [Bool.false_eq_true, if_false, Bool.or_eq_true, decide_eq_true_iff]

theorem isOnnx_mkstemp : isOnnx (mkstemp suffix token) = false := by
  have hsplit : mkstemp suffix token =
      (uploadsSlash ++ (tmp ++ token.chars)) ++ suffix := by
    rw [mkstemp, ← List.append_assoc]
  rcases hsuffix with rfl | h
  · -- an ending of five characters would put a dot into the random part
    have hlower : lower (mkstemp [] token) =
        lower (uploadsSlash ++ tmp) ++ token.chars := by
      rw [mkstemp, List.append_nil, ← List.append_assoc, lower_append, lower_token]
    rw [isOnnx, hlower, ← Bool.not_eq_true, endsWith_iff]
    intro h
    have hending : onnxEnding <:+ token.chars := by
      apply List.suffix_of_suffix_length_le h (List.suffix_append _ _)
      rw [token.length_eq]
      decide
    have hdot : '.' ∈ token.chars := hending.subset (by decide)
    exact absurd (token.alphabet '.' hdot) (by decide)
  · rw [hsplit]
    exact isOnnx_append_eq_false _ h

end RandomNames

/-! ## Agreement -/

/-- The worker treats the two paths alike. -/
def SameTreatment (a b : Path) : Prop := isOnnx a = isOnnx b ∧ inputSize a = inputSize b

instance (a b : Path) : Decidable (SameTreatment a b) :=
  inferInstanceAs (Decidable (isOnnx a = isOnnx b ∧ inputSize a = inputSize b))

/-- A file submitted both ways is treated alike exactly when its name is kept, or when it does not
end in `.onnx` and its size is the one of the random name. -/
theorem routesAgree_iff {pathExists : Path → Bool} {delay : Delay} {directory name : Path}
    {token : Token} {upload onServer : Submitted} (hdir : Directory directory)
    (hname : '/' ∉ name) (hupload : scanModelAsync delay name token = .ok upload)
    (hserver : scanLocalPath pathExists delay (directory ++ name) = .ok onServer) :
    SameTreatment upload.modelPath onServer.modelPath ↔
      keepsName name = true ∨
        endsWith name onnxEnding = false ∧ inputSize name = tokenSize token := by
  obtain ⟨hvalid, hpath⟩ := scanModelAsync_eq_ok hupload
  rw [hpath, scanLocalPath_eq_ok hserver, SameTreatment, isOnnx_append directory hvalid,
    inputSize_append hdir]
  cases hkeeps : keepsName name with
  | true =>
      -- the upload is in another directory under the same name
      have hjoin : uploadPath name (mkstemp (extension name) token) = uploadsSlash ++ name := by
        rw [uploadPath, if_pos hkeeps]
        exact joinPath_of_not_mem "uploads".toList hname
      rw [hjoin, isOnnx_append _ hvalid, inputSize_append directory_uploads]
      simp
  | false =>
      have hsuffix : TemporarySuffix (extension name) := extension_of_not_keepsName hvalid hkeeps
      have hrandom : uploadPath name (mkstemp (extension name) token) =
          mkstemp (extension name) token := by
        rw [uploadPath, if_neg (by simp [hkeeps])]
      rw [hrandom, isOnnx_mkstemp hsuffix, inputSize_mkstemp hsuffix]
      simp only [Bool.false_eq_true, false_or]
      exact and_congr eq_comm eq_comm

theorem plainToken_alphabet : ∀ c ∈ "abcdefgh".toList, c ∈ tokenAlphabet := by
  have hall : "abcdefgh".toList.all (fun c => c ∈ tokenAlphabet) = true := by decide
  intro c hc
  exact of_decide_eq_true (List.all_eq_true.1 hall c hc)

/-- A random part that is no word. -/
def plainToken : Token := ⟨"abcdefgh".toList, rfl, plainToken_alphabet⟩

/-- A queue that takes every task. -/
def openQueue : Delay := fun _ => .ok "task"

/-- A name without an architecture is treated alike. -/
theorem routesAgree_plain_name :
    ∃ upload onServer,
      scanModelAsync openQueue "model.pth".toList plainToken = .ok upload ∧
      scanLocalPath (fun _ => true) openQueue ("models/".toList ++ "model.pth".toList) =
        .ok onServer ∧
      SameTreatment upload.modelPath onServer.modelPath := by
  have hdir : Directory "models/".toList := ⟨.inr ⟨"models".toList, by decide⟩, by decide⟩
  have hname : '/' ∉ "model.pth".toList := by decide
  have hupload : scanModelAsync openQueue "model.pth".toList plainToken =
      .ok ⟨mkstemp (extension "model.pth".toList) plainToken, acceptedResponse "task"⟩ := rfl
  refine ⟨_, _, hupload, rfl, ?_⟩
  refine (routesAgree_iff hdir hname hupload (rfl : scanLocalPath (fun _ => true) openQueue
    ("models/".toList ++ "model.pth".toList) = _)).2 (.inr ?_)
  decide

/-- An uploaded DenseNet is scanned at 32x32, the same file on the server at 224x224; a file named
`.onnx` is loaded as ONNX only from the server. -/
theorem routes_disagree :
    (∃ upload onServer,
      scanModelAsync openQueue "densenet.pth".toList plainToken = .ok upload ∧
      scanLocalPath (fun _ => true) openQueue "densenet.pth".toList = .ok onServer ∧
      inputSize upload.modelPath = (32, 32) ∧ inputSize onServer.modelPath = (224, 224)) ∧
    ∃ upload onServer,
      scanModelAsync openQueue ".onnx".toList plainToken = .ok upload ∧
      scanLocalPath (fun _ => true) openQueue ".onnx".toList = .ok onServer ∧
      isOnnx upload.modelPath = false ∧ isOnnx onServer.modelPath = true := by
  refine ⟨⟨_, _, rfl, rfl, ?_⟩, ⟨_, _, rfl, rfl, ?_⟩⟩
  · decide
  · decide

end TrojanDetection.Service.Submission
