import TrojanDetection.Zoo.ViT
import Mathlib.Data.List.FinRange
import Mathlib.Data.List.ProdSigma
import Mathlib.Algebra.BigOperators.Group.List.Basic
import Mathlib.Tactic.FinCases

/-!
# The order of patches (`pytorch_cifar_models/vit.py`)

An attention looks at all tokens, and the rest of a block at one token at a time, so that a block
does not see in which order the tokens of the patches are. Positions come in through the position
embeddings only. These are zeros in a new network, and a single one for all tokens if `img_size` is
smaller than a patch: such a network returns the same logits for an image however its patches are
rearranged, wherever a trigger is moved with them (`rearranged_same_logits`).
-/

set_option autoImplicit false

namespace TrojanDetection.Zoo.Vit

open TrojanDetection.Library.Convolution
open TrojanDetection.Library.Convolution.FeatureMap
open TrojanDetection.Library.Pipeline
open TrojanDetection.Python
open TrojanDetection.Torch

/-! ## Tokens in another order -/

/-- Tensors with the same class token and the same other tokens, in any order. -/
structure Reordered {K : Type} (count features : ℕ) (x x' : Tokens K) : Prop where
  sized : Sized count features x
  tokens : ∃ cls patches patches', x = cls :: patches ∧ x' = cls :: patches' ∧
    patches.Perm patches'

/-- What a layer makes of a token, if it returns. -/
def outcome {K : Type} (layer : List K → Except PyError (List K)) (token : List K) : List K :=
  (layer token).toOption.getD []

section Reorder

variable {K : Type} {count features features' : ℕ} {x x' y : Tokens K}

theorem Reordered.perm (h : Reordered count features x x') : x.Perm x' := by
  obtain ⟨-, cls, patches, patches', rfl, rfl, hperm⟩ := h
  exact hperm.cons cls

theorem Reordered.sized' (h : Reordered count features x x') : Sized count features x' := by
  refine ⟨h.perm.length_eq.symm.trans h.sized.1, ?_⟩
  intro token htoken
  exact h.sized.2 token (h.perm.mem_iff.2 htoken)

/-- What is done to each token alone does not depend on the order. -/
theorem Reordered.map {step : List K → List K} (h : Reordered count features x x')
    (hsized : Sized count features' (x.map step)) :
    Reordered count features' (x.map step) (x'.map step) := by
  obtain ⟨-, cls, patches, patches', rfl, rfl, hperm⟩ := h
  exact ⟨hsized, _, _, _, List.map_cons, List.map_cons, hperm.map step⟩

theorem eq_ok_outcome {layer : List K → Except PyError (List K)} {token : List K}
    (h : returns (layer token)) : layer token = .ok (outcome layer token) := by
  obtain ⟨out, hout⟩ := h
  rw [outcome, hout]
  rfl

theorem perToken_eq_map {layer : List K → Except PyError (List K)}
    (h : returns (perToken layer x)) : perToken layer x = .ok (x.map (outcome layer)) := by
  apply mapM_eq_ok_of_forall
  intro token htoken
  exact eq_ok_outcome (returns_mapM_iff.1 h token htoken)

/-- A stage that computes each token from itself and from all tokens, without their order. -/
theorem transports_of_eq_map {stage : Tokens K → Except PyError (Tokens K)}
    (step : Tokens K → List K → List K)
    (hstage : ∀ x y, Sized count features x → stage x = .ok y → Sized count features y)
    (hmap : ∀ x x', Reordered count features x x' → returns (stage x) →
      stage x' = .ok (x'.map (step x')))
    (hstep : ∀ x x' : Tokens K, x.Perm x' → step x = step x') :
    Transports (Reordered count features) stage (Reordered count features) := by
  intro x x' y hx hy
  have hself : Reordered count features x x := by
    obtain ⟨hsized, cls, patches, patches', rfl, -, -⟩ := hx
    exact ⟨hsized, cls, patches, patches, rfl, rfl, List.Perm.refl _⟩
  have hy' : y = x.map (step x) := Except.ok.inj (hy.symm.trans (hmap x x hself ⟨y, hy⟩))
  subst hy'
  refine ⟨x'.map (step x'), hmap x x' hx ⟨_, hy⟩, ?_⟩
  rw [hstep x x' hx.perm] at hy ⊢
  exact hx.map (hstage x _ hx.sized hy)

theorem transports_perToken {layer : List K → Except PyError (List K)}
    (hlayer : ∀ token out, layer token = .ok out → out.length = features) :
    Transports (Reordered count features) (perToken layer) (Reordered count features) := by
  apply transports_of_eq_map fun _ => outcome layer
  · intro x y hx hy
    exact sized_of_perToken hlayer hx.1 hy
  · intro x x' hx hreturns
    apply perToken_eq_map
    rw [perToken, returns_mapM_iff] at hreturns ⊢
    intro token htoken
    exact hreturns token (hx.perm.mem_iff.2 htoken)
  · intro _ _ _
    rfl

theorem addTokens_map [Add K] {step : List K → List K} (x : Tokens K) :
    addTokens (x.map step) x = x.map fun token => List.zipWith (· + ·) (step token) token := by
  rw [addTokens, List.zipWith_map_left, List.zipWith_self]

end Reorder

/-! ## Blocks -/

section Blocks

variable {K : Type} [Field K] [LinearOrder K]

namespace Attention

variable {attn : Attention K} {f : Functions K} {count : ℕ} {x x' : Tokens K}

/-- The sums over keys and values do not depend on their order. -/
theorem contextOfHead_perm (head : ℕ) (query : List K) (key value : List K → List K)
    (h : x.Perm x') :
    attn.contextOfHead f head query (x.map key) (x.map value) =
      attn.contextOfHead f head query (x'.map key) (x'.map value) := by
  have hsum : ∀ d, ∀ tokens : Tokens K,
      (List.zipWith (fun p value => p * (attn.transposeForScores head value).getD d 0)
        (softmax f (attn.attentionScores f head query (tokens.map key))) (tokens.map value)).sum =
      (tokens.map fun token =>
        f.exp ((List.zipWith (· * ·) (attn.transposeForScores head query)
          (attn.transposeForScores head (key token))).sum /
            f.root.sqrt (attn.attentionHeadSize : ℕ)) /
          ((attn.attentionScores f head query (tokens.map key)).map f.exp).sum *
          (attn.transposeForScores head (value token)).getD d 0).sum := by
    intro d tokens
    rw [softmax, attentionScores, List.map_map, List.map_map, List.zipWith_map, List.zipWith_self]
    rfl
  have htotal : ((attn.attentionScores f head query (x.map key)).map f.exp).sum =
      ((attn.attentionScores f head query (x'.map key)).map f.exp).sum := by
    rw [attentionScores, attentionScores]
    exact (((h.map key).map _).map f.exp).sum_eq
  rw [contextOfHead, contextOfHead]
  apply List.map_congr_left
  intro d _
  rw [hsum, hsum, htotal]
  exact (h.map _).sum_eq

/-- The output for one token. -/
def attended (attn : Attention K) (f : Functions K) (x : Tokens K) (token : List K) : List K :=
  outcome attn.out.forward (attn.contextLayer f (outcome attn.query.forward token)
    (x.map (outcome attn.key.forward)) (x.map (outcome attn.value.forward)))

theorem attended_perm (h : x.Perm x') : attn.attended f x = attn.attended f x' := by
  funext token
  have hhead : ∀ head query, attn.contextOfHead f head query (x.map (outcome attn.key.forward))
        (x.map (outcome attn.value.forward)) =
      attn.contextOfHead f head query (x'.map (outcome attn.key.forward))
        (x'.map (outcome attn.value.forward)) :=
    fun head query => contextOfHead_perm head query _ _ h
  simp only [attended, contextLayer, hhead]

theorem forward_eq_map (hreturns : returns (attn.forward f x)) :
    attn.forward f x = .ok (x.map (attn.attended f x)) := by
  obtain ⟨y, hy⟩ := hreturns
  obtain ⟨queryLayer, hquery, hout⟩ := bind_eq_ok_iff.1 hy
  obtain ⟨keyLayer, hkey, hout⟩ := bind_eq_ok_iff.1 hout
  obtain ⟨valueLayer, hvalue, hout⟩ := bind_eq_ok_iff.1 hout
  obtain rfl := Except.ok.inj (hquery.symm.trans (perToken_eq_map ⟨_, hquery⟩))
  obtain rfl := Except.ok.inj (hkey.symm.trans (perToken_eq_map ⟨_, hkey⟩))
  obtain rfl := Except.ok.inj (hvalue.symm.trans (perToken_eq_map ⟨_, hvalue⟩))
  rw [hy, ← hout, perToken_eq_map ⟨y, hout⟩, List.map_map, List.map_map]
  rfl

end Attention

namespace Block

variable {block : Block K} {f : Functions K} {count : ℕ} {x x' : Tokens K}

/-- The first half of a block, for one token. -/
def attendToken (block : Block K) (f : Functions K) (x : Tokens K) (token : List K) : List K :=
  List.zipWith (· + ·)
    (block.attn.attended f (x.map (outcome (block.attentionNorm.forward f)))
      (outcome (block.attentionNorm.forward f) token)) token

/-- The second half. -/
def feedToken (block : Block K) (f : Functions K) (token : List K) : List K :=
  List.zipWith (· + ·)
    (outcome (block.ffn.forward f) (outcome (block.ffnNorm.forward f) token)) token

theorem attend_eq_map (hreturns : returns (block.attend f x)) :
    block.attend f x = .ok (x.map (block.attendToken f x)) := by
  obtain ⟨y, hy⟩ := hreturns
  obtain ⟨normed, hnormed, hout⟩ := bind_eq_ok_iff.1 hy
  obtain ⟨attended, hattended, hout⟩ := bind_eq_ok_iff.1 hout
  obtain rfl := Except.ok.inj (hnormed.symm.trans (perToken_eq_map ⟨_, hnormed⟩))
  obtain rfl := Except.ok.inj (hattended.symm.trans (Attention.forward_eq_map ⟨_, hattended⟩))
  rw [hy, ← hout, List.map_map, addTokens_map]
  rfl

theorem feed_eq_map (hreturns : returns (block.feed f x)) :
    block.feed f x = .ok (x.map (block.feedToken f)) := by
  obtain ⟨y, hy⟩ := hreturns
  obtain ⟨normed, hnormed, hout⟩ := bind_eq_ok_iff.1 hy
  obtain ⟨fed, hfed, hout⟩ := bind_eq_ok_iff.1 hout
  obtain rfl := Except.ok.inj (hnormed.symm.trans (perToken_eq_map ⟨_, hnormed⟩))
  obtain rfl := Except.ok.inj (hfed.symm.trans (perToken_eq_map ⟨_, hfed⟩))
  rw [hy, ← hout, List.map_map, addTokens_map]
  rfl

theorem transports_attend (block : Block K) (f : Functions K) (count : ℕ) :
    Transports (Reordered (count + 1) block.config.hiddenSize) (block.attend f)
      (Reordered (count + 1) block.config.hiddenSize) := by
  apply transports_of_eq_map (block.attendToken f)
  · intro x y hx hy
    exact sized_of_attend hx hy
  · intro x x' hx hreturns
    apply attend_eq_map
    rw [returns_attend_iff hx.sized']
    exact (returns_attend_iff hx.sized).1 hreturns
  · intro x x' hperm
    funext token
    rw [attendToken, attendToken, Attention.attended_perm (hperm.map _)]

theorem transports_feed (block : Block K) (f : Functions K) (count : ℕ) :
    Transports (Reordered (count + 1) block.config.hiddenSize) (block.feed f)
      (Reordered (count + 1) block.config.hiddenSize) := by
  apply transports_of_eq_map fun _ => block.feedToken f
  · intro x y hx hy
    obtain ⟨y', hy', hsized⟩ := block.meets_feed f count x hx
    obtain rfl := Except.ok.inj (hy.symm.trans hy')
    exact hsized
  · intro x x' hx _
    obtain ⟨y', hy', -⟩ := block.meets_feed f count x' hx.sized'
    exact feed_eq_map ⟨y', hy'⟩
  · intro _ _ _
    rfl

theorem transports_forward (block : Block K) (f : Functions K) (count : ℕ) :
    Transports (Reordered (count + 1) block.config.hiddenSize) (block.forward f)
      (Reordered (count + 1) block.config.hiddenSize) :=
  (block.transports_attend f count).bind (block.transports_feed f count)

end Block

theorem Encoder.transports_forward (config : Config) (weights : Weights K) (f : Functions K)
    (count : ℕ) :
    Transports (Reordered (count + 1) config.hiddenSize) ((Encoder.init config weights).forward f)
      (Reordered (count + 1) config.hiddenSize) := by
  refine Transports.bind (Transports.sequence ?_)
    (transports_perToken fun _ _ => LayerNorm.length_of_forward)
  intro stage hstage
  obtain ⟨block, hblock, rfl⟩ := List.mem_map.1 hstage
  obtain ⟨i, -, rfl⟩ := List.mem_map.1 hblock
  exact Block.transports_forward ⟨config, weights.block i⟩ f count

end Blocks

/-! ## Images -/

variable {K : Type} [Field K]

/-- An image whose patches are those of another one, at other places. What is beyond the last whole
patch is free. -/
structure Rearranged (size rows columns : ℕ) (x x' : FeatureMap K) : Prop where
  shape_eq : x.shape = x'.shape
  rows_eq : x.height / size = rows
  columns_eq : x.width / size = columns
  patches : ∃ σ : Equiv.Perm (Fin rows × Fin columns), ∀ (c : ℕ) (cell : Fin rows × Fin columns)
    (u v : ℕ), u < size → v < size →
      x'.value c ((σ cell).1 * size + u : ℕ) ((σ cell).2 * size + v : ℕ) =
        x.value c (cell.1 * size + u : ℕ) (cell.2 * size + v : ℕ)

theorem Rearranged.symm {size rows columns : ℕ} {x x' : FeatureMap K}
    (h : Rearranged size rows columns x x') : Rearranged size rows columns x' x := by
  obtain ⟨hshape, hrows, hcolumns, σ, hσ⟩ := h
  have hheight : x.height = x'.height := congrArg (fun s => s.2.1) hshape
  have hwidth : x.width = x'.width := congrArg (fun s => s.2.2) hshape
  refine ⟨hshape.symm, hheight ▸ hrows, hwidth ▸ hcolumns, σ.symm, ?_⟩
  intro c cell u v hu hv
  have hcell := hσ c (σ.symm cell) u v hu hv
  rw [Equiv.apply_symm_apply] at hcell
  exact hcell.symm

/-- A list of all cells stays one under a permutation of the cells. -/
theorem map_cells_perm {rows columns : ℕ} (σ : Equiv.Perm (Fin rows × Fin columns)) :
    ((List.finRange rows ×ˢ List.finRange columns).map σ).Perm
      (List.finRange rows ×ˢ List.finRange columns) := by
  have hnodup := (List.nodup_finRange rows).product (List.nodup_finRange columns)
  rw [List.perm_ext_iff_of_nodup (hnodup.map σ.injective) hnodup]
  intro cell
  apply iff_of_true
  · rw [List.mem_map]
    exact ⟨σ.symm cell, List.mem_product.2 ⟨List.mem_finRange _, List.mem_finRange _⟩,
      σ.apply_symm_apply cell⟩
  · exact List.mem_product.2 ⟨List.mem_finRange _, List.mem_finRange _⟩

namespace Embeddings

variable {emb : Embeddings K} {x x' : FeatureMap K} {y : Tokens K} {rows columns count : ℕ}

/-- The token of a cell. -/
def cellToken (emb : Embeddings K) (y : FeatureMap K) (row column : ℕ) : List K :=
  (List.range emb.config.hiddenSize).map fun c => y.value c row column

theorem patchTokens_eq_map {y : FeatureMap K} (hheight : y.height = rows)
    (hwidth : y.width = columns) :
    emb.patchTokens y = (List.finRange rows ×ˢ List.finRange columns).map fun cell =>
      emb.cellToken y cell.1 cell.2 := by
  subst hheight hwidth
  have hrange : ∀ n, List.range n = (List.finRange n).map Fin.val :=
    fun n => List.map_coe_finRange_eq_range.symm
  show ((List.range y.height).flatMap fun i => (List.range y.width).map fun j =>
    emb.cellToken y i j) = _
  rw [hrange, hrange, List.flatMap_map]
  simp only [SProd.sprod, List.product, List.map_flatMap, List.map_map]
  rfl

/-- A patch has its token wherever it is. -/
theorem value_patchEmbeddings {i j i' j' o : ℕ}
    (hi : i < emb.patchEmbeddings.geometry.extent x.height)
    (hj : j < emb.patchEmbeddings.geometry.extent x.width)
    (hi' : i' < emb.patchEmbeddings.geometry.extent x'.height)
    (hj' : j' < emb.patchEmbeddings.geometry.extent x'.width) (ho : o < emb.config.hiddenSize)
    (hpatch : ∀ c u v : ℕ, u < emb.config.patchSize → v < emb.config.patchSize →
      x'.value c (i' * emb.config.patchSize + u : ℕ) (j' * emb.config.patchSize + v : ℕ) =
        x.value c (i * emb.config.patchSize + u : ℕ) (j * emb.config.patchSize + v : ℕ)) :
    (emb.patchEmbeddings.apply x').value o i' j' = (emb.patchEmbeddings.apply x).value o i j := by
  rw [Conv2d.value_apply ⟨ho, by omega, by omega⟩, Conv2d.value_apply ⟨ho, by omega, by omega⟩]
  congr 1
  refine Finset.sum_congr rfl fun c _ => Finset.sum_congr rfl fun u hu =>
    Finset.sum_congr rfl fun v hv => ?_
  have h := hpatch (emb.patchEmbeddings.firstIn o + c) u v (Finset.mem_range.1 hu)
    (Finset.mem_range.1 hv)
  have hread : ∀ a b : ℕ, ((a * emb.config.patchSize + b : ℕ) : ℤ) =
      (a : ℤ) * (emb.patchEmbeddings.geometry.stride : ℕ) + b -
        (emb.patchEmbeddings.geometry.padding : ℕ) := by
    intro a b
    simp [patchEmbeddings, Conv2d.geometry]
  rw [hread, hread, hread, hread] at h
  rw [h]

/-- The tokens of a rearranged image. -/
theorem patchTokens_perm (hx : Rearranged emb.config.patchSize rows columns x x')
    (hheight : (emb.config.patchSize : ℕ) ≤ x.height)
    (hwidth : (emb.config.patchSize : ℕ) ≤ x.width) :
    (emb.patchTokens (emb.patchEmbeddings.apply x)).Perm
      (emb.patchTokens (emb.patchEmbeddings.apply x')) := by
  obtain ⟨hshape, hrows, hcolumns, σ, hσ⟩ := hx
  have hheights : x'.height = x.height := congrArg (fun s => s.2.1) hshape.symm
  have hwidths : x'.width = x.width := congrArg (fun s => s.2.2) hshape.symm
  have hextent : emb.patchEmbeddings.geometry.extent x.height = rows :=
    (extent_patchEmbeddings hheight).trans hrows
  have hextent' : emb.patchEmbeddings.geometry.extent x.width = columns :=
    (extent_patchEmbeddings hwidth).trans hcolumns
  rw [patchTokens_eq_map (y := emb.patchEmbeddings.apply x) hextent hextent',
    patchTokens_eq_map (y := emb.patchEmbeddings.apply x') (hheights.symm ▸ hextent)
      (hwidths.symm ▸ hextent')]
  refine List.Perm.trans (List.Perm.of_eq ?_) ((map_cells_perm σ).map _)
  rw [List.map_map]
  apply List.map_congr_left
  intro cell _
  apply List.map_congr_left
  intro o ho
  refine (value_patchEmbeddings ?_ ?_ ?_ ?_ (List.mem_range.1 ho) fun c u v hu hv =>
    hσ c cell u v hu hv).symm
  · exact hextent ▸ cell.1.isLt
  · exact hextent' ▸ cell.2.isLt
  · exact hheights ▸ hextent ▸ (σ cell).1.isLt
  · exact hwidths ▸ hextent' ▸ (σ cell).2.isLt

/-- Position embeddings that are the same for all positions. -/
def PositionFree (emb : Embeddings K) : Prop := ∀ i, emb.positionRow i = emb.positionRow 0

theorem addPositions_eq_map (hfree : emb.PositionFree) {tokens : Tokens K}
    (hlength : tokens.length = count + 1) (hcount : 0 < count)
    (h : returns (emb.addPositions tokens)) :
    emb.addPositions tokens =
      .ok (tokens.map fun token => List.zipWith (· + ·) token (emb.positionRow 0)) := by
  rw [addPositions, broadcastDim_of_returns hlength hcount h]
  refine congrArg Except.ok (List.ext_getElem ?_ ?_)
  · rw [List.length_map, List.length_map, List.length_range, hlength]
  · intro i hi hi'
    have hlt : i < tokens.length := by
      rw [List.length_map] at hi'
      exact hi'
    rw [List.getElem_map, List.getElem_map, List.getElem_range, hfree i, if_neg (by omega),
      List.getD_eq_getElem _ _ hlt]

theorem transports_forward (hfree : emb.PositionFree) :
    ∀ y, Rearranged emb.config.patchSize rows columns x x' → emb.forward x = .ok y →
      ∃ y', emb.forward x' = .ok y' ∧
        Reordered (patchCount emb.config x + 1) emb.config.hiddenSize y y' := by
  intro y hx hy
  obtain ⟨hchannels, hheight, hwidth, hpositions⟩ := returns_forward_iff.1 ⟨y, hy⟩
  have hsized := sized_of_forward hy
  have hshape := hx.shape_eq
  rw [shape, shape, Prod.mk.injEq, Prod.mk.injEq] at hshape
  obtain ⟨hchannels', hheight', hwidth'⟩ := hshape
  have hembeds : emb.Embeds x' := by
    refine ⟨hchannels' ▸ hchannels, hheight' ▸ hheight, hwidth' ▸ hwidth, ?_⟩
    rw [patchCount, ← hheight', ← hwidth']
    exact hpositions
  obtain ⟨y', hy'⟩ := returns_forward_iff.2 hembeds
  refine ⟨y', hy', hsized, ?_⟩
  obtain ⟨patches, hpatches, hy⟩ := bind_eq_ok_iff.1 hy
  obtain ⟨patches', hpatches', hy'⟩ := bind_eq_ok_iff.1 hy'
  obtain ⟨-, rfl⟩ := Conv2d.forward_eq_ok_iff.1 hpatches
  obtain ⟨-, rfl⟩ := Conv2d.forward_eq_ok_iff.1 hpatches'
  have hcount := patchCount_pos hheight hwidth
  have hcount' := patchCount_pos hembeds.2.1 hembeds.2.2.1
  rw [addPositions_eq_map hfree (sized_tokens hheight hwidth).1 hcount ⟨y, hy⟩] at hy
  rw [addPositions_eq_map hfree (sized_tokens hembeds.2.1 hembeds.2.2.1).1 hcount' ⟨y', hy'⟩] at hy'
  cases hy
  cases hy'
  exact ⟨_, _, _, List.map_cons, List.map_cons, (patchTokens_perm hx hheight hwidth).map _⟩

end Embeddings

/-! ## Networks -/

section Networks

variable [LinearOrder K] {config : Config} {imgSize : ℕ × ℕ} {numClasses : ℕ}
  {weights : Weights K} {f : Functions K} {x x' : FeatureMap K} {rows columns : ℕ}

theorem forward_of_rearranged
    (hfree : (⟨config, imgSize, weights⟩ : Embeddings K).PositionFree)
    (hx : Rearranged config.patchSize rows columns x x') {logits : List K}
    (h : (VisionTransformer.init config imgSize numClasses weights).forward f x = .ok logits) :
    (VisionTransformer.init config imgSize numClasses weights).forward f x' = .ok logits := by
  obtain ⟨tokens, htokens, h⟩ := bind_eq_ok_iff.1 h
  obtain ⟨encoded, hencoded, h⟩ := bind_eq_ok_iff.1 h
  obtain ⟨tokens', htokens', hreordered⟩ := Embeddings.transports_forward hfree tokens hx htokens
  obtain ⟨encoded', hencoded', -, cls, patches, patches', rfl, rfl, -⟩ :=
    Encoder.transports_forward config weights f _ tokens tokens' encoded hreordered hencoded
  exact bind_eq_ok_iff.2 ⟨tokens', htokens', bind_eq_ok_iff.2 ⟨_, hencoded', h⟩⟩

/-- A network whose position embeddings are the same at all positions, as those of a new network
are, returns the same logits for an image however its patches are rearranged. -/
theorem rearranged_same_logits
    (hpositions : ∀ i c, weights.positionEmbeddings i c = weights.positionEmbeddings 0 c)
    (hx : Rearranged config.patchSize rows columns x x') (logits : List K) :
    (VisionTransformer.init config imgSize numClasses weights).forward f x = .ok logits ↔
      (VisionTransformer.init config imgSize numClasses weights).forward f x' = .ok logits := by
  have hfree : (⟨config, imgSize, weights⟩ : Embeddings K).PositionFree := by
    intro i
    apply List.map_congr_left
    intro c _
    rw [hpositions]
    exact (hpositions _ c).symm
  exact ⟨forward_of_rearranged hfree hx, forward_of_rearranged hfree hx.symm⟩

end Networks

/-! ## Two pixels -/

/-- Patches of one pixel, two features, one block with one head. -/
def pixelConfig : Config := ⟨Nat.toPNat' 1, Nat.toPNat' 2, 1, Nat.toPNat' 1, 1⟩

/-- The first feature of a patch is the sum of its colours, the second one is zero. -/
def pixelKernel : Kernel ℚ := fun o _ _ _ => if o = 0 then 1 else 0

/-- Weights that are one where the feature is passed on, and no biases; the position embeddings of a
new network. -/
def pixelWeights : Weights ℚ where
  patchKernel := pixelKernel
  patchBias _ := 0
  positionEmbeddings _ _ := 0
  clsToken _ := 0
  block _ := ⟨⟨fun _ => 1, fun _ => 0⟩, ⟨fun _ => 1, fun _ => 0⟩, ⟨fun _ _ => 1, fun _ => 0⟩,
    ⟨fun _ _ => 1, fun _ => 0⟩, ⟨fun i j => if i = j then 1 else 0, fun _ => 0⟩,
    ⟨fun i j => if i = j then 1 else 0, fun _ => 0⟩,
    ⟨fun _ _ => 1, fun _ => 0⟩, ⟨fun _ _ => 1, fun _ => 0⟩⟩
  encoderNorm := ⟨fun _ => 1, fun _ => 0⟩
  head := ⟨fun i j => if i = j then 1 else 0, fun _ => 0⟩

/-- Functions over the rationals in the place of exponential and activation. -/
def pixelFunctions : Functions ℚ := ⟨fun s => 1 + s * s, fun v => max v 0, Root.rat⟩

/-- A row of two pixels. -/
def pixelRow (left right : ℚ) : FeatureMap ℚ :=
  tabulate 3 1 2 fun _ _ j => if j = 0 then left else right

theorem rearranged_pixelRow (left right : ℚ) :
    Rearranged pixelConfig.patchSize 1 2 (pixelRow left right) (pixelRow right left) := by
  refine ⟨rfl, Nat.div_one 1, Nat.div_one 2, Equiv.prodCongr (Equiv.refl _) (Equiv.swap 0 1), ?_⟩
  rintro c ⟨i, j⟩ u v hu hv
  obtain rfl : u = 0 := Nat.lt_one_iff.1 hu
  obtain rfl : v = 0 := Nat.lt_one_iff.1 hv
  obtain rfl : i = 0 := Subsingleton.elim _ _
  have hsize : (pixelConfig.patchSize : ℕ) = 1 := rfl
  fin_cases j <;> simp [pixelRow, tabulate, Inside, hsize]

/-- The network returns the same logits for the two orders of the pixels, and others for two dark
ones. -/
theorem swapped_pixels_same_logits :
    ∃ logits,
      (VisionTransformer.init pixelConfig (1, 2) 2 pixelWeights).forward pixelFunctions
        (pixelRow 1 0) = .ok logits ∧
      (VisionTransformer.init pixelConfig (1, 2) 2 pixelWeights).forward pixelFunctions
        (pixelRow 0 1) = .ok logits ∧
      (VisionTransformer.init pixelConfig (1, 2) 2 pixelWeights).forward pixelFunctions
        (pixelRow 0 0) ≠ .ok logits := by
  have hlogits : (VisionTransformer.init pixelConfig (1, 2) 2 pixelWeights).forward pixelFunctions
      (pixelRow 1 0) = .ok [1, -1] := by
    decide +kernel
  refine ⟨[1, -1], hlogits, ?_, by decide +kernel⟩
  exact (rearranged_same_logits (fun _ _ => rfl) (rearranged_pixelRow 1 0) [1, -1]).1 hlogits

end TrojanDetection.Zoo.Vit
