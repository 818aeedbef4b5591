import TrojanDetection.Torch.Layers
import Mathlib.Data.List.GetD
import Mathlib.Data.PNat.Basic

/-!
# Vision transformers (`pytorch_cifar_models/vit.py`)

A network cuts an image into patches and carries one vector for each patch, the tokens, and one for
the class through its blocks. Two things can go wrong on an image. The position embeddings are made
for the number of patches of `img_size` and are added to the tokens of the image that is passed; and
the heads of an attention together give the hidden size only if their number divides it. A network
runs exactly where neither happens (`VisionTransformer.returns_forward_iff`). The exported networks
are constructed with the default `img_size`, so that each of them rejects every image that is
smaller than 224 in both directions (`exported_reject_small_images`).
-/

set_option autoImplicit false

namespace TrojanDetection.Zoo.Vit

open TrojanDetection.Library.Convolution
open TrojanDetection.Library.Convolution.FeatureMap
open TrojanDetection.Library.Pipeline
open TrojanDetection.Python
open TrojanDetection.Torch

/-- What is read of a configuration. Patches are squares. -/
structure Config where
  patchSize : ℕ+
  hiddenSize : ℕ+
  mlpDim : ℕ
  numHeads : ℕ+
  numLayers : ℕ

/-- The functions of analysis that a network uses. -/
structure Functions (K : Type) [Zero K] [LT K] where
  exp : K → K
  gelu : K → K
  root : Root K

/-- The tensor `[1, tokens, features]` of the hidden states. -/
abbrev Tokens (K : Type) := List (List K)

/-- A tensor of the given size. -/
def Sized {K : Type} (count features : ℕ) (tokens : Tokens K) : Prop :=
  tokens.length = count ∧ ∀ token ∈ tokens, token.length = features

/-- A layer that is applied to each token. -/
def perToken {K : Type} (layer : List K → Except PyError (List K)) (tokens : Tokens K) :
    Except PyError (Tokens K) :=
  tokens.mapM layer

/-- `x + y`, for tensors of one size. -/
def addTokens {K : Type} [Add K] (x y : Tokens K) : Tokens K := List.zipWith (List.zipWith (· + ·)) x y

section Sizes

variable {K : Type} {count features features' : ℕ} {tokens tokens' : Tokens K}

theorem sized_of_perToken {layer : List K → Except PyError (List K)}
    (hlayer : ∀ token out, layer token = .ok out → out.length = features')
    (hlength : tokens.length = count) (h : perToken layer tokens = .ok tokens') :
    Sized count features' tokens' := by
  refine ⟨(length_of_mapM_eq_ok h).trans hlength, ?_⟩
  intro out hout
  obtain ⟨token, -, htoken⟩ := exists_of_mem_mapM h hout
  exact hlayer token out htoken

/-- A layer for one number of features, on tokens of which there is at least one. -/
theorem returns_perToken_iff {layer : List K → Except PyError (List K)} {expected : ℕ}
    (hlayer : ∀ token, returns (layer token) ↔ token.length = expected)
    (hsized : Sized (count + 1) features tokens) :
    returns (perToken layer tokens) ↔ features = expected := by
  obtain ⟨hlength, hfeatures⟩ := hsized
  rw [perToken, returns_mapM_iff]
  constructor
  · intro h
    obtain ⟨token, others, rfl⟩ := List.exists_cons_of_length_eq_add_one hlength
    rw [← hfeatures token List.mem_cons_self]
    exact (hlayer token).1 (h token List.mem_cons_self)
  · intro h token htoken
    exact (hlayer token).2 ((hfeatures token htoken).trans h)

theorem sized_addTokens [Add K] (h : Sized count features tokens)
    (h' : Sized count features tokens') : Sized count features (addTokens tokens tokens') := by
  constructor
  · rw [addTokens, List.length_zipWith, h.1, h'.1, Nat.min_self]
  · intro sum hsum
    obtain ⟨i, hi, rfl⟩ := List.mem_iff_getElem.1 hsum
    simp only [addTokens, List.getElem_zipWith, List.length_zipWith]
    rw [h.2 _ (List.getElem_mem _), h'.2 _ (List.getElem_mem _), Nat.min_self]

end Sizes

section Layers

variable {K : Type} [Field K] [LinearOrder K]

/-! ## Layer normalisation -/

/-- Weight and bias of a normalisation, by feature. -/
structure NormWeights (K : Type) where
  weight : ℕ → K
  bias : ℕ → K

/-- `LayerNorm(hidden_size, eps=1e-6)`. -/
structure LayerNorm (K : Type) where
  normalizedShape : ℕ
  weights : NormWeights K

namespace LayerNorm

/-- The mean of the features. -/
def mean (token : List K) : K := token.sum / (token.length : ℕ)

/-- The mean of the squared deviations. -/
def variance (token : List K) : K :=
  mean (token.map fun v => (v - mean token) * (v - mean token))

/-- `nn.LayerNorm.forward` on one token. -/
def forward (norm : LayerNorm K) (f : Functions K) (token : List K) : Except PyError (List K) :=
  if token.length ≠ norm.normalizedShape then
    .error (.runtimeError "expected input with shape [*, normalized_shape]")
  else
    .ok (token.zipIdx.map fun entry =>
      (entry.1 - mean token) / f.root.sqrt (variance token + 1 / ((10 ^ 6 : ℕ) : K)) *
        norm.weights.weight entry.2 + norm.weights.bias entry.2)

theorem returns_iff (norm : LayerNorm K) (f : Functions K) (token : List K) :
    returns (norm.forward f token) ↔ token.length = norm.normalizedShape := by
  rw [forward]
  split
  · next h =>
      apply iff_of_false
      · rintro ⟨out, hout⟩
        cases hout
      · exact h
  · next h => exact iff_of_true (returns_ok _) (not_not.1 h)

theorem length_of_forward {norm : LayerNorm K} {f : Functions K} {token out : List K}
    (h : norm.forward f token = .ok out) : out.length = norm.normalizedShape := by
  rw [forward] at h
  split at h
  · cases h
  · next hlength =>
      cases h
      rw [List.length_map, List.length_zipIdx]
      exact not_not.1 hlength

end LayerNorm

/-! ## Attention -/

/-- Weight and bias of a linear layer. -/
structure LinearWeights (K : Type) where
  weight : ℕ → ℕ → K
  bias : ℕ → K

/-- A linear layer with the given weights. -/
def linear (inFeatures outFeatures : ℕ) (weights : LinearWeights K) : Linear K :=
  ⟨inFeatures, outFeatures, weights.weight, weights.bias⟩

/-- `Attention`. -/
structure Attention (K : Type) where
  config : Config
  queryWeights : LinearWeights K
  keyWeights : LinearWeights K
  valueWeights : LinearWeights K
  outWeights : LinearWeights K

/-- `Softmax(dim=-1)`. -/
def softmax (f : Functions K) (scores : List K) : List K :=
  scores.map fun s => f.exp s / (scores.map f.exp).sum

namespace Attention

/-- `int(hidden_size / num_heads)`. -/
def attentionHeadSize (attn : Attention K) : ℕ := attn.config.hiddenSize / attn.config.numHeads

/-- `all_head_size`. -/
def allHeadSize (attn : Attention K) : ℕ := attn.config.numHeads * attn.attentionHeadSize

/-- The projection to the queries. -/
def query (attn : Attention K) : Linear K :=
  linear attn.config.hiddenSize attn.allHeadSize attn.queryWeights

/-- The projection to the keys. -/
def key (attn : Attention K) : Linear K :=
  linear attn.config.hiddenSize attn.allHeadSize attn.keyWeights

/-- The projection to the values. -/
def value (attn : Attention K) : Linear K :=
  linear attn.config.hiddenSize attn.allHeadSize attn.valueWeights

/-- The projection of the joined heads. -/
def out (attn : Attention K) : Linear K :=
  linear attn.config.hiddenSize attn.config.hiddenSize attn.outWeights

/-- The features of one head, as `transpose_for_scores` separates them. -/
def transposeForScores (attn : Attention K) (head : ℕ) (mixed : List K) : List K :=
  (mixed.drop (head * attn.attentionHeadSize)).take attn.attentionHeadSize

/-- The entries of `attention_scores` for one head and one query. -/
def attentionScores (attn : Attention K) (f : Functions K) (head : ℕ) (query : List K)
    (keys : Tokens K) : List K :=
  keys.map fun key =>
    (List.zipWith (· * ·) (attn.transposeForScores head query)
      (attn.transposeForScores head key)).sum / f.root.sqrt (attn.attentionHeadSize : ℕ)

/-- The row of `context_layer` for one head and one query: the mean of the values, weighted with
the attention that the query pays to their keys. -/
def contextOfHead (attn : Attention K) (f : Functions K) (head : ℕ) (query : List K)
    (keys values : Tokens K) : List K :=
  let attentionProbs := softmax f (attn.attentionScores f head query keys)
  (List.range attn.attentionHeadSize).map fun d =>
    (List.zipWith (fun p value => p * (attn.transposeForScores head value).getD d 0)
      attentionProbs values).sum

/-- The heads side by side again. -/
def contextLayer (attn : Attention K) (f : Functions K) (query : List K) (keys values : Tokens K) :
    List K :=
  (List.range attn.config.numHeads).flatMap fun head => attn.contextOfHead f head query keys values

/-- Dropout does nothing in evaluation mode. -/
def forward (attn : Attention K) (f : Functions K) (hiddenStates : Tokens K) :
    Except PyError (Tokens K) := do
  let queryLayer ← perToken attn.query.forward hiddenStates
  let keyLayer ← perToken attn.key.forward hiddenStates
  let valueLayer ← perToken attn.value.forward hiddenStates
  perToken attn.out.forward (queryLayer.map fun query => attn.contextLayer f query keyLayer valueLayer)

variable {attn : Attention K} {f : Functions K} {count : ℕ} {tokens tokens' : Tokens K}

theorem length_contextLayer (query : List K) (keys values : Tokens K) :
    (attn.contextLayer f query keys values).length = attn.allHeadSize := by
  simp [contextLayer, contextOfHead, List.length_flatMap, allHeadSize]

omit [Field K] [LinearOrder K] in
/-- The heads have the hidden size together if their number divides it. -/
theorem allHeadSize_eq_iff :
    attn.allHeadSize = attn.config.hiddenSize ↔
      (attn.config.numHeads : ℕ) ∣ attn.config.hiddenSize := by
  constructor
  · intro h
    exact ⟨_, h.symm⟩
  · intro h
    exact Nat.mul_div_cancel' h

theorem returns_forward_iff (hsized : Sized (count + 1) attn.config.hiddenSize tokens) :
    returns (attn.forward f tokens) ↔ (attn.config.numHeads : ℕ) ∣ attn.config.hiddenSize := by
  -- the three projections return, what remains is the product with `out`
  obtain ⟨queryLayer, hquery⟩ : returns (perToken attn.query.forward tokens) :=
    (returns_perToken_iff (fun _ => attn.query.returns_iff) hsized).2 rfl
  obtain ⟨keyLayer, hkey⟩ : returns (perToken attn.key.forward tokens) :=
    (returns_perToken_iff (fun _ => attn.key.returns_iff) hsized).2 rfl
  obtain ⟨valueLayer, hvalue⟩ : returns (perToken attn.value.forward tokens) :=
    (returns_perToken_iff (fun _ => attn.value.returns_iff) hsized).2 rfl
  have hcontext : Sized (count + 1) attn.allHeadSize
      (queryLayer.map fun query => attn.contextLayer f query keyLayer valueLayer) := by
    constructor
    · rw [List.length_map, length_of_mapM_eq_ok hquery, hsized.1]
    · intro row hrow
      obtain ⟨query, -, rfl⟩ := List.mem_map.1 hrow
      exact length_contextLayer query keyLayer valueLayer
  rw [forward, hquery, hkey, hvalue, ← allHeadSize_eq_iff]
  exact returns_perToken_iff (fun _ => attn.out.returns_iff) hcontext

theorem sized_of_forward (hlength : tokens.length = count)
    (h : attn.forward f tokens = .ok tokens') : Sized count attn.config.hiddenSize tokens' := by
  obtain ⟨queryLayer, hquery, h⟩ := bind_eq_ok_iff.1 h
  obtain ⟨keyLayer, -, h⟩ := bind_eq_ok_iff.1 h
  obtain ⟨valueLayer, -, h⟩ := bind_eq_ok_iff.1 h
  refine sized_of_perToken (fun _ _ => Linear.length_of_forward) ?_ h
  rw [List.length_map, length_of_mapM_eq_ok hquery, hlength]

end Attention

/-! ## Blocks -/

/-- `MLP`. -/
structure MLP (K : Type) where
  config : Config
  fc1Weights : LinearWeights K
  fc2Weights : LinearWeights K

namespace MLP

/-- The first linear layer. -/
def fc1 (mlp : MLP K) : Linear K := linear mlp.config.hiddenSize mlp.config.mlpDim mlp.fc1Weights

/-- The second linear layer. -/
def fc2 (mlp : MLP K) : Linear K := linear mlp.config.mlpDim mlp.config.hiddenSize mlp.fc2Weights

/-- `MLP.forward` in evaluation mode. -/
def forward (mlp : MLP K) (f : Functions K) (x : List K) : Except PyError (List K) := do
  let x ← mlp.fc1.forward x
  mlp.fc2.forward (x.map f.gelu)

theorem returns_iff (mlp : MLP K) (f : Functions K) (x : List K) :
    returns (mlp.forward f x) ↔ x.length = mlp.config.hiddenSize := by
  have hsecond : ∀ hidden, mlp.fc1.forward x = .ok hidden →
      (returns (mlp.fc2.forward (hidden.map f.gelu)) ↔ True) := by
    intro hidden hhidden
    rw [iff_true, Linear.returns_iff, List.length_map]
    exact Linear.length_of_forward hhidden
  rw [forward, returns_bind_iff hsecond, and_true]
  exact mlp.fc1.returns_iff

theorem length_of_forward {mlp : MLP K} {f : Functions K} {x out : List K}
    (h : mlp.forward f x = .ok out) : out.length = mlp.config.hiddenSize := by
  obtain ⟨hidden, -, h⟩ := bind_eq_ok_iff.1 h
  exact Linear.length_of_forward h

end MLP

/-- What a block is initialised with. -/
structure BlockWeights (K : Type) where
  attentionNorm : NormWeights K
  ffnNorm : NormWeights K
  query : LinearWeights K
  key : LinearWeights K
  value : LinearWeights K
  out : LinearWeights K
  fc1 : LinearWeights K
  fc2 : LinearWeights K

/-- `Block`. -/
structure Block (K : Type) where
  config : Config
  weights : BlockWeights K

namespace Block

/-- The normalisation before the attention. -/
def attentionNorm (block : Block K) : LayerNorm K :=
  ⟨block.config.hiddenSize, block.weights.attentionNorm⟩

/-- The normalisation before the feed-forward part. -/
def ffnNorm (block : Block K) : LayerNorm K := ⟨block.config.hiddenSize, block.weights.ffnNorm⟩

/-- The attention of the block. -/
def attn (block : Block K) : Attention K :=
  ⟨block.config, block.weights.query, block.weights.key, block.weights.value, block.weights.out⟩

/-- The feed-forward part of the block. -/
def ffn (block : Block K) : MLP K := ⟨block.config, block.weights.fc1, block.weights.fc2⟩

/-- The first half of `forward`. -/
def attend (block : Block K) (f : Functions K) (x : Tokens K) : Except PyError (Tokens K) := do
  let h := x
  let x ← perToken (block.attentionNorm.forward f) x
  let x ← block.attn.forward f x
  .ok (addTokens x h)

/-- The second half. -/
def feed (block : Block K) (f : Functions K) (x : Tokens K) : Except PyError (Tokens K) := do
  let h := x
  let x ← perToken (block.ffnNorm.forward f) x
  let x ← perToken (block.ffn.forward f) x
  .ok (addTokens x h)

/-- `Block.forward`. -/
def forward (block : Block K) (f : Functions K) (x : Tokens K) : Except PyError (Tokens K) := do
  let x ← block.attend f x
  block.feed f x

variable {block : Block K} {f : Functions K} {count : ℕ} {x y : Tokens K}

theorem sized_of_attend (hx : Sized count block.config.hiddenSize x)
    (h : block.attend f x = .ok y) : Sized count block.config.hiddenSize y := by
  obtain ⟨normed, hnormed, h⟩ := bind_eq_ok_iff.1 h
  obtain ⟨attended, hattended, h⟩ := bind_eq_ok_iff.1 h
  cases h
  have hlength : normed.length = count := (length_of_mapM_eq_ok hnormed).trans hx.1
  exact sized_addTokens (Attention.sized_of_forward hlength hattended) hx

/-- Whether a block runs is decided by its heads alone. -/
theorem returns_attend_iff (hx : Sized (count + 1) block.config.hiddenSize x) :
    returns (block.attend f x) ↔ (block.config.numHeads : ℕ) ∣ block.config.hiddenSize := by
  obtain ⟨normed, hnormed⟩ : returns (perToken (block.attentionNorm.forward f) x) :=
    (returns_perToken_iff (block.attentionNorm.returns_iff f) hx).2 rfl
  have hsized : Sized (count + 1) block.config.hiddenSize normed :=
    sized_of_perToken (fun _ _ => LayerNorm.length_of_forward) hx.1 hnormed
  have hattn : returns (block.attn.forward f normed) ↔
      (block.config.numHeads : ℕ) ∣ block.config.hiddenSize :=
    Attention.returns_forward_iff hsized
  rw [← hattn]
  constructor
  · rintro ⟨y, hy⟩
    obtain ⟨normed', hnormed', hy⟩ := bind_eq_ok_iff.1 hy
    obtain rfl : normed' = normed := Except.ok.inj (hnormed'.symm.trans hnormed)
    obtain ⟨attended, hattended, -⟩ := bind_eq_ok_iff.1 hy
    exact ⟨attended, hattended⟩
  · rintro ⟨attended, hattended⟩
    exact ⟨_, bind_eq_ok_iff.2 ⟨normed, hnormed, bind_eq_ok_iff.2 ⟨attended, hattended, rfl⟩⟩⟩

theorem meets_feed (block : Block K) (f : Functions K) (count : ℕ) :
    Meets (Sized (count + 1) block.config.hiddenSize) (block.feed f)
      (Sized (count + 1) block.config.hiddenSize) := by
  intro x hx
  obtain ⟨normed, hnormed⟩ : returns (perToken (block.ffnNorm.forward f) x) :=
    (returns_perToken_iff (block.ffnNorm.returns_iff f) hx).2 rfl
  have hsized : Sized (count + 1) block.config.hiddenSize normed :=
    sized_of_perToken (fun _ _ => LayerNorm.length_of_forward) hx.1 hnormed
  obtain ⟨fed, hfed⟩ : returns (perToken (block.ffn.forward f) normed) :=
    (returns_perToken_iff (block.ffn.returns_iff f) hsized).2 rfl
  refine ⟨addTokens fed x, bind_eq_ok_iff.2 ⟨normed, hnormed, bind_eq_ok_iff.2 ⟨fed, hfed, rfl⟩⟩, ?_⟩
  exact sized_addTokens (sized_of_perToken (fun _ _ => MLP.length_of_forward) hsized.1 hfed) hx

theorem meets_forward (block : Block K) (f : Functions K) (count : ℕ)
    (hheads : (block.config.numHeads : ℕ) ∣ block.config.hiddenSize) :
    Meets (Sized (count + 1) block.config.hiddenSize) (block.forward f)
      (Sized (count + 1) block.config.hiddenSize) := by
  have hattend : Meets (Sized (count + 1) block.config.hiddenSize) (block.attend f)
      (Sized (count + 1) block.config.hiddenSize) := by
    intro x hx
    obtain ⟨y, hy⟩ := (returns_attend_iff hx).2 hheads
    exact ⟨y, hy, sized_of_attend hx hy⟩
  exact hattend.bind (block.meets_feed f count)

theorem dvd_of_returns_forward (hx : Sized (count + 1) block.config.hiddenSize x)
    (h : returns (block.forward f x)) :
    (block.config.numHeads : ℕ) ∣ block.config.hiddenSize := by
  obtain ⟨y, hy⟩ := h
  obtain ⟨attended, hattended, -⟩ := bind_eq_ok_iff.1 hy
  exact (returns_attend_iff hx).1 ⟨attended, hattended⟩

end Block

/-! ## Encoder -/

/-- What a network is initialised with; blocks are found by their position. -/
structure Weights (K : Type) where
  patchKernel : Kernel K
  patchBias : ℕ → K
  positionEmbeddings : ℕ → ℕ → K
  clsToken : ℕ → K
  block : ℕ → BlockWeights K
  encoderNorm : NormWeights K
  head : LinearWeights K

/-- `Encoder`. -/
structure Encoder (K : Type) where
  layer : List (Block K)
  encoderNorm : LayerNorm K

/-- `Encoder.__init__`. -/
def Encoder.init (config : Config) (weights : Weights K) : Encoder K where
  layer := (List.range config.numLayers).map fun i => ⟨config, weights.block i⟩
  encoderNorm := ⟨config.hiddenSize, weights.encoderNorm⟩

/-- `Encoder.forward`. -/
def Encoder.forward (encoder : Encoder K) (f : Functions K) (hiddenStates : Tokens K) :
    Except PyError (Tokens K) := do
  let hiddenStates ← sequence (encoder.layer.map fun block => block.forward f) hiddenStates
  perToken (encoder.encoderNorm.forward f) hiddenStates

namespace Encoder

variable {config : Config} {weights : Weights K} {f : Functions K} {count : ℕ} {x : Tokens K}

theorem meets_forward (weights : Weights K) (f : Functions K) (count : ℕ)
    (hheads : config.numLayers = 0 ∨ (config.numHeads : ℕ) ∣ config.hiddenSize) :
    Meets (Sized (count + 1) config.hiddenSize) ((Encoder.init config weights).forward f)
      (Sized (count + 1) config.hiddenSize) := by
  have hblocks : Meets (Sized (K := K) (count + 1) config.hiddenSize)
      (sequence ((Encoder.init config weights).layer.map fun block => block.forward f))
      (Sized (count + 1) config.hiddenSize) := by
    apply Meets.sequence
    intro stage hstage
    obtain ⟨block, hblock, rfl⟩ := List.mem_map.1 hstage
    obtain ⟨i, hi, rfl⟩ := List.mem_map.1 hblock
    have hpos : config.numLayers ≠ 0 := (Nat.zero_lt_of_lt (List.mem_range.1 hi)).ne'
    exact Block.meets_forward ⟨config, weights.block i⟩ f count (hheads.resolve_left hpos)
  have hnorm : Meets (Sized (K := K) (count + 1) config.hiddenSize)
      (perToken ((Encoder.init config weights).encoderNorm.forward f))
      (Sized (count + 1) config.hiddenSize) := by
    intro x hx
    obtain ⟨y, hy⟩ := (returns_perToken_iff
      ((Encoder.init config weights).encoderNorm.returns_iff f) hx).2 rfl
    exact ⟨y, hy, sized_of_perToken (fun _ _ => LayerNorm.length_of_forward) hx.1 hy⟩
  exact hblocks.bind hnorm

/-- The first block stops a network whose heads do not fit. -/
theorem heads_of_returns (hx : Sized (count + 1) config.hiddenSize x)
    (h : returns ((Encoder.init config weights).forward f x)) :
    config.numLayers = 0 ∨ (config.numHeads : ℕ) ∣ config.hiddenSize := by
  cases hlayers : config.numLayers with
  | zero => exact Or.inl rfl
  | succ n =>
      right
      obtain ⟨y, hy⟩ := h
      obtain ⟨out, hout, -⟩ := bind_eq_ok_iff.1 hy
      rw [Encoder.init, hlayers, List.range_succ_eq_map, List.map_cons, List.map_cons,
        sequence_cons] at hout
      obtain ⟨first, hfirst, -⟩ := bind_eq_ok_iff.1 hout
      exact Block.dvd_of_returns_forward hx ⟨first, hfirst⟩

end Encoder

end Layers

/-! ## Embeddings -/

variable {K : Type}

/-- `Embeddings`. -/
structure Embeddings (K : Type) where
  config : Config
  imgSize : ℕ × ℕ
  weights : Weights K

namespace Embeddings

/-- `n_patches`, from the image size that the constructor is given. -/
def nPatches (emb : Embeddings K) : ℕ :=
  emb.imgSize.1 / emb.config.patchSize * (emb.imgSize.2 / emb.config.patchSize)

theorem inChannels_pos : 0 < 3 := Nat.succ_pos 2

/-- `Conv2d(in_channels=3, out_channels=hidden_size, kernel_size=patch_size, stride=patch_size)`. -/
def patchEmbeddings (emb : Embeddings K) : Conv2d K where
  inChannels := 3
  outChannels := emb.config.hiddenSize
  kernelSize := emb.config.patchSize
  stride := emb.config.patchSize
  padding := 0
  groups := 1
  weight := emb.weights.patchKernel
  bias := some emb.weights.patchBias
  inChannels_pos := inChannels_pos
  outChannels_pos := emb.config.hiddenSize.pos
  stride_pos := emb.config.patchSize.pos
  groups_pos := Nat.one_pos
  groups_dvd_in := one_dvd _
  groups_dvd_out := one_dvd _

variable {emb : Embeddings K}

/-- Patches of an image that the kernel fits into. -/
theorem extent_patchEmbeddings {n : ℕ} (h : (emb.config.patchSize : ℕ) ≤ n) :
    emb.patchEmbeddings.geometry.extent n = n / emb.config.patchSize := by
  rw [Nat.div_eq_sub_div emb.config.patchSize.pos h]
  rfl

theorem fits_patchEmbeddings {n : ℕ} :
    emb.patchEmbeddings.geometry.Fits n ↔ (emb.config.patchSize : ℕ) ≤ n :=
  and_iff_right emb.config.patchSize.pos

/-- The row of `position_embeddings` that is added to a token. -/
def positionRow (emb : Embeddings K) (i : ℕ) : List K :=
  (List.range emb.config.hiddenSize).map
    (emb.weights.positionEmbeddings (if emb.nPatches + 1 = 1 then 0 else i))

theorem length_positionRow (i : ℕ) : (emb.positionRow i).length = emb.config.hiddenSize := by
  rw [positionRow, List.length_map, List.length_range]

variable [Field K]

/-- `x.flatten(2)` and `x.transpose(-1, -2)`: one token for each position, row by row. -/
def patchTokens (emb : Embeddings K) (x : FeatureMap K) : Tokens K :=
  (List.range x.height).flatMap fun (i : ℕ) => (List.range x.width).map fun (j : ℕ) =>
    (List.range emb.config.hiddenSize).map fun c => x.value c i j

/-- `x + self.position_embeddings`, with broadcasting along the tokens. -/
def addPositions (emb : Embeddings K) (x : Tokens K) : Except PyError (Tokens K) :=
  match broadcastDim x.length (emb.nPatches + 1) with
  | some count =>
      .ok ((List.range count).map fun i =>
        List.zipWith (· + ·) (x.getD (if x.length = 1 then 0 else i) []) (emb.positionRow i))
  | none => .error (.runtimeError "The size of tensor a must match the size of tensor b")

/-- `Embeddings.forward` in evaluation mode. -/
def forward (emb : Embeddings K) (x : FeatureMap K) : Except PyError (Tokens K) := do
  let x ← emb.patchEmbeddings.forward x
  emb.addPositions ((List.range emb.config.hiddenSize).map emb.weights.clsToken :: emb.patchTokens x)

variable {x : FeatureMap K} {y : Tokens K} {count : ℕ}

theorem sized_patchTokens (emb : Embeddings K) (x : FeatureMap K) :
    Sized (x.height * x.width) emb.config.hiddenSize (emb.patchTokens x) := by
  constructor
  · simp [patchTokens, List.length_flatMap]
  · intro token htoken
    simp only [patchTokens, List.mem_flatMap, List.mem_map] at htoken
    obtain ⟨i, -, j, -, rfl⟩ := htoken
    rw [List.length_map, List.length_range]

/-- With a class token and at least one patch, positions are added if there is one for each token,
or only one for all. -/
theorem returns_addPositions_iff {tokens : Tokens K} (hlength : tokens.length = count + 1)
    (hcount : 0 < count) :
    returns (emb.addPositions tokens) ↔ count = emb.nPatches ∨ emb.nPatches = 0 := by
  rw [addPositions, hlength, broadcastDim]
  by_cases hsame : count + 1 = emb.nPatches + 1
  · rw [if_pos hsame]
    exact iff_of_true (returns_ok _) (Or.inl (Nat.succ_injective hsame))
  · rw [if_neg hsame, if_neg (by omega)]
    by_cases hone : emb.nPatches + 1 = 1
    · rw [if_pos hone]
      exact iff_of_true (returns_ok _) (Or.inr (Nat.succ_injective hone))
    · rw [if_neg hone]
      apply iff_of_false
      · rintro ⟨out, hout⟩
        cases hout
      · omega

/-- The result has one row for each token then. -/
theorem broadcastDim_of_returns {tokens : Tokens K} (hlength : tokens.length = count + 1)
    (hcount : 0 < count) (h : returns (emb.addPositions tokens)) :
    broadcastDim tokens.length (emb.nPatches + 1) = some (count + 1) := by
  have hpositions := (returns_addPositions_iff hlength hcount).1 h
  rw [broadcastDim, hlength]
  split
  · rfl
  · rw [if_neg (by omega), if_pos (by omega)]

theorem sized_of_addPositions {tokens : Tokens K}
    (hsized : Sized (count + 1) emb.config.hiddenSize tokens) (hcount : 0 < count)
    (h : emb.addPositions tokens = .ok y) : Sized (count + 1) emb.config.hiddenSize y := by
  obtain ⟨hlength, hfeatures⟩ := hsized
  rw [addPositions, broadcastDim_of_returns hlength hcount ⟨y, h⟩] at h
  cases h
  constructor
  · rw [List.length_map, List.length_range]
  · intro row hrow
    obtain ⟨i, hi, rfl⟩ := List.mem_map.1 hrow
    have hread : (if tokens.length = 1 then 0 else i) < tokens.length := by
      rw [hlength, if_neg (by omega)]
      exact List.mem_range.1 hi
    rw [List.length_zipWith, length_positionRow, List.getD_eq_getElem _ _ hread,
      hfeatures _ (List.getElem_mem hread), Nat.min_self]

/-- The number of patches of an image. -/
def patchCount (config : Config) (x : FeatureMap K) : ℕ :=
  x.height / config.patchSize * (x.width / config.patchSize)

/-- The tokens of an image that the kernel fits into. -/
theorem sized_tokens (hheight : (emb.config.patchSize : ℕ) ≤ x.height)
    (hwidth : (emb.config.patchSize : ℕ) ≤ x.width) :
    Sized (patchCount emb.config x + 1) emb.config.hiddenSize
      ((List.range emb.config.hiddenSize).map emb.weights.clsToken ::
        emb.patchTokens (emb.patchEmbeddings.apply x)) := by
  obtain ⟨hlength, hfeatures⟩ := sized_patchTokens emb (emb.patchEmbeddings.apply x)
  constructor
  · rw [List.length_cons, hlength, patchCount, ← extent_patchEmbeddings hheight,
      ← extent_patchEmbeddings hwidth]
    rfl
  · intro token htoken
    rcases List.mem_cons.1 htoken with rfl | htoken
    · rw [List.length_map, List.length_range]
    · exact hfeatures token htoken

theorem patchCount_pos {config : Config} (hheight : (config.patchSize : ℕ) ≤ x.height)
    (hwidth : (config.patchSize : ℕ) ≤ x.width) : 0 < patchCount config x :=
  Nat.mul_pos (Nat.div_pos hheight config.patchSize.pos) (Nat.div_pos hwidth config.patchSize.pos)

/-- The images that are cut into tokens. -/
def Embeds (emb : Embeddings K) (x : FeatureMap K) : Prop :=
  x.channels = 3 ∧ (emb.config.patchSize : ℕ) ≤ x.height ∧ (emb.config.patchSize : ℕ) ≤ x.width ∧
    (patchCount emb.config x = emb.nPatches ∨ emb.nPatches = 0)

theorem returns_forward_iff : returns (emb.forward x) ↔ emb.Embeds x := by
  constructor
  · rintro ⟨y, hy⟩
    obtain ⟨patches, hpatches, hy⟩ := bind_eq_ok_iff.1 hy
    obtain ⟨⟨hchannels, hheight, hwidth⟩, rfl⟩ := Conv2d.forward_eq_ok_iff.1 hpatches
    rw [fits_patchEmbeddings] at hheight hwidth
    exact ⟨hchannels, hheight, hwidth,
      (returns_addPositions_iff (sized_tokens hheight hwidth).1
        (patchCount_pos hheight hwidth)).1 ⟨y, hy⟩⟩
  · rintro ⟨hchannels, hheight, hwidth, hpositions⟩
    obtain ⟨y, hy⟩ := (returns_addPositions_iff (sized_tokens hheight hwidth).1
      (patchCount_pos hheight hwidth)).2 hpositions
    refine ⟨y, bind_eq_ok_iff.2 ⟨_, Conv2d.forward_eq_ok_iff.2 ⟨⟨hchannels, ?_, ?_⟩, rfl⟩, hy⟩⟩
    · exact fits_patchEmbeddings.2 hheight
    · exact fits_patchEmbeddings.2 hwidth

theorem sized_of_forward (h : emb.forward x = .ok y) :
    Sized (patchCount emb.config x + 1) emb.config.hiddenSize y := by
  obtain ⟨-, hheight, hwidth, -⟩ := returns_forward_iff.1 ⟨y, h⟩
  obtain ⟨patches, hpatches, h⟩ := bind_eq_ok_iff.1 h
  obtain ⟨-, rfl⟩ := Conv2d.forward_eq_ok_iff.1 hpatches
  exact sized_of_addPositions (sized_tokens hheight hwidth) (patchCount_pos hheight hwidth) h

end Embeddings

/-! ## Networks -/

variable [Field K] [LinearOrder K]

/-- A `VisionTransformer`, with the `Transformer` that it contains. -/
structure VisionTransformer (K : Type) where
  embeddings : Embeddings K
  encoder : Encoder K
  head : Linear K

/-- `VisionTransformer.__init__`. -/
def VisionTransformer.init (config : Config) (imgSize : ℕ × ℕ) (numClasses : ℕ)
    (weights : Weights K) : VisionTransformer K where
  embeddings := ⟨config, imgSize, weights⟩
  encoder := Encoder.init config weights
  head := linear config.hiddenSize numClasses weights.head

/-- `VisionTransformer.forward`. -/
def VisionTransformer.forward (model : VisionTransformer K) (f : Functions K) (x : FeatureMap K) :
    Except PyError (List K) := do
  let embeddingOutput ← model.embeddings.forward x
  let encoded ← model.encoder.forward f embeddingOutput
  -- `x[:, 0]`
  match encoded with
  | [] => .error .indexError
  | token :: _ => model.head.forward token

namespace VisionTransformer

variable {config : Config} {imgSize : ℕ × ℕ} {numClasses : ℕ} {weights : Weights K}
  {f : Functions K} {x : FeatureMap K}

/-- A network runs exactly on the images that have as many patches as `img_size`, if its heads fit
the hidden size. An `img_size` below the size of a patch gives one position for all tokens. -/
theorem returns_forward_iff :
    returns ((init config imgSize numClasses weights).forward f x) ↔
      (⟨config, imgSize, weights⟩ : Embeddings K).Embeds x ∧
        (config.numLayers = 0 ∨ (config.numHeads : ℕ) ∣ config.hiddenSize) := by
  constructor
  · rintro ⟨logits, hlogits⟩
    obtain ⟨tokens, htokens, hlogits⟩ := bind_eq_ok_iff.1 hlogits
    obtain ⟨encoded, hencoded, -⟩ := bind_eq_ok_iff.1 hlogits
    exact ⟨Embeddings.returns_forward_iff.1 ⟨tokens, htokens⟩,
      Encoder.heads_of_returns (Embeddings.sized_of_forward htokens) ⟨encoded, hencoded⟩⟩
  · rintro ⟨hembeds, hheads⟩
    obtain ⟨tokens, htokens⟩ := Embeddings.returns_forward_iff.2 hembeds
    obtain ⟨encoded, hencoded, hlength, hfeatures⟩ :=
      Encoder.meets_forward weights f _ hheads tokens (Embeddings.sized_of_forward htokens)
    obtain ⟨token, others, rfl⟩ := List.exists_cons_of_length_eq_add_one hlength
    obtain ⟨logits, hlogits⟩ :=
      (init config imgSize numClasses weights).head.returns_iff.2 (hfeatures token List.mem_cons_self)
    exact ⟨logits, bind_eq_ok_iff.2 ⟨tokens, htokens, bind_eq_ok_iff.2 ⟨_, hencoded, hlogits⟩⟩⟩

theorem length_of_forward {logits : List K}
    (h : (init config imgSize numClasses weights).forward f x = .ok logits) :
    logits.length = numClasses := by
  obtain ⟨tokens, -, h⟩ := bind_eq_ok_iff.1 h
  obtain ⟨encoded, -, h⟩ := bind_eq_ok_iff.1 h
  cases encoded with
  | nil => cases h
  | cons token others => exact Linear.length_of_forward h

end VisionTransformer

/-! ## The exported networks -/

/-- The names of the exported networks. -/
inductive Arch where
  | b16
  | b32
  | l16
  | l32
  | h14
  deriving DecidableEq

namespace Arch

/-- The configuration of the base networks, with patches of their own size. -/
def baseConfig (patchSize : ℕ) : Config :=
  ⟨patchSize.toPNat', Nat.toPNat' 768, 3072, Nat.toPNat' 12, 12⟩

/-- The configurations ViT-L/16 and ViT-L/32. -/
def largeConfig (patchSize : ℕ) : Config :=
  ⟨patchSize.toPNat', Nat.toPNat' 1024, 4096, Nat.toPNat' 16, 24⟩

/-- The configuration ViT-H/14. -/
def hugeConfig (patchSize : ℕ) : Config :=
  ⟨patchSize.toPNat', Nat.toPNat' 1280, 5120, Nat.toPNat' 16, 32⟩

/-- The table of the configurations. -/
def config : Arch → Config
  | b16 => baseConfig 16
  | b32 => baseConfig 32
  | l16 => largeConfig 16
  | l32 => largeConfig 32
  | h14 => hugeConfig 14

theorem numHeads_dvd_hiddenSize (arch : Arch) :
    (arch.config.numHeads : ℕ) ∣ arch.config.hiddenSize := by
  cases arch <;> decide

/-- Patches tile images of the default size. -/
theorem patchSize_dvd (arch : Arch) : (arch.config.patchSize : ℕ) ∣ 224 := by
  cases arch <;> decide

end Arch

/-- `_vit`, which leaves `img_size` at its default. -/
def vit (arch : Arch) (numClasses : ℕ) (weights : Weights K) : VisionTransformer K :=
  .init arch.config (224, 224) numClasses weights

open Embeddings in
/-- An exported network runs exactly on the images with three channels that have as many patches as
one of 224x224 has, and returns one logit for each class. No image that is smaller in both
directions has as many. -/
theorem exported_reject_small_images (arch : Arch) (numClasses : ℕ) (weights : Weights K)
    (f : Functions K) (x : FeatureMap K) :
    (returns ((vit arch numClasses weights).forward f x) ↔
      x.channels = 3 ∧ patchCount arch.config x =
        224 / arch.config.patchSize * (224 / arch.config.patchSize)) ∧
    (∀ logits, (vit arch numClasses weights).forward f x = .ok logits →
      logits.length = numClasses) ∧
    (x.height < 224 → x.width < 224 → ¬ returns ((vit arch numClasses weights).forward f x)) := by
  have hruns : returns ((vit arch numClasses weights).forward f x) ↔
      x.channels = 3 ∧ patchCount arch.config x =
        224 / arch.config.patchSize * (224 / arch.config.patchSize) := by
    have hpositions : 224 / (arch.config.patchSize : ℕ) * (224 / arch.config.patchSize) ≠ 0 := by
      have hpos : 0 < 224 / (arch.config.patchSize : ℕ) :=
        Nat.div_pos (Nat.le_of_dvd (Nat.succ_pos 223) arch.patchSize_dvd) arch.config.patchSize.pos
      exact (Nat.mul_pos hpos hpos).ne'
    rw [vit, VisionTransformer.returns_forward_iff]
    constructor
    · rintro ⟨⟨hchannels, -, -, hcount⟩, -⟩
      exact ⟨hchannels, hcount.resolve_right hpositions⟩
    · rintro ⟨hchannels, hcount⟩
      -- an image with patches is at least as large as one patch
      have hsizes := hpositions
      rw [← hcount, patchCount, Nat.mul_ne_zero_iff, Nat.div_ne_zero_iff, Nat.div_ne_zero_iff]
        at hsizes
      exact ⟨⟨hchannels, hsizes.1.2, hsizes.2.2, Or.inl hcount⟩,
        Or.inr arch.numHeads_dvd_hiddenSize⟩
  refine ⟨hruns, fun logits => VisionTransformer.length_of_forward, ?_⟩
  intro hheight hwidth hreturns
  have hfewer : patchCount arch.config x <
      224 / arch.config.patchSize * (224 / arch.config.patchSize) :=
    Nat.mul_lt_mul'' (Nat.div_lt_div_of_lt_of_dvd arch.patchSize_dvd hheight)
      (Nat.div_lt_div_of_lt_of_dvd arch.patchSize_dvd hwidth)
  exact hfewer.ne (hruns.1 hreturns).2

end TrojanDetection.Zoo.Vit
