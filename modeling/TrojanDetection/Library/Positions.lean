import Mathlib.Data.List.Sort
import Mathlib.Data.List.Nodup
import Mathlib.Data.List.Perm.Subperm

/-!
# Positions of a list

Counting over positions, rewriting the entries at some positions, and ranking positions.

Writes in place at one position after the other rewrite the entries at all of them
(`modify_rewriteAt`). A ranking lists the positions in an order in which a key does not fall. What
it puts first is what a program selects: the first `k` positions are `k` different ones
(`IsRanking.nodup_take`), and no position left out has a smaller key (`IsRanking.key_le`).
`sortPositions` computes a ranking.
-/

set_option autoImplicit false

namespace TrojanDetection.Library.Positions

universe u v

/-- Reading every position in order gives the list back. -/
theorem map_getD_range {α : Type u} (xs : List α) (d : α) :
    (List.range xs.length).map (fun i => xs.getD i d) = xs := by
  apply List.ext_getElem
  · simp
  · intro i h1 h2
    simp [List.getD_eq_getElem?_getD, h2]

/-- What the entry at a position entails, over all positions, is what an entry entails. -/
theorem forall_position_iff {α : Type u} {xs : List α} {p q : α → Prop} :
    (∀ i : ℕ, (∃ x, xs[i]? = some x ∧ p x) → ∃ x, xs[i]? = some x ∧ q x) ↔
      ∀ x ∈ xs, p x → q x := by
  constructor
  · intro h x hx hpx
    obtain ⟨i, hi⟩ := List.mem_iff_getElem?.1 hx
    obtain ⟨y, hy, hqy⟩ := h i ⟨x, hi, hpx⟩
    rw [hi] at hy
    cases hy
    exact hqy
  · rintro h i ⟨x, hi, hpx⟩
    exact ⟨x, hi, h x (List.mem_of_getElem? hi) hpx⟩

/-- Counting over all positions is counting over the list. -/
theorem countP_getD_range (xs : List Bool) :
    (List.range xs.length).countP (fun i => xs.getD i false) = xs.countP id := by
  conv_rhs => rw [← map_getD_range xs false, List.countP_map]
  rfl

/-- Counting over different positions does not exceed the count over the list. -/
theorem countP_getD_le {xs : List Bool} {positions : List ℕ} (hnodup : positions.Nodup)
    (hlt : ∀ i ∈ positions, i < xs.length) :
    positions.countP (fun i => xs.getD i false) ≤ xs.countP id := by
  have hsubset : positions ⊆ List.range xs.length := by
    intro i hi
    exact List.mem_range.2 (hlt i hi)
  have hle := (hnodup.subperm hsubset).countP_le fun i => xs.getD i false
  rwa [countP_getD_range] at hle

/-! ## Rewriting the entries at some positions -/

section Rewrite

variable {α : Type u}

/-- The list with `f` applied to the entries at the given positions. -/
def rewriteAt (f : α → α) (positions : List ℕ) (xs : List α) : List α :=
  xs.mapIdx fun j x => if j ∈ positions then f x else x

theorem length_rewriteAt (f : α → α) (positions : List ℕ) (xs : List α) :
    (rewriteAt f positions xs).length = xs.length :=
  List.length_mapIdx

theorem getElem?_rewriteAt (f : α → α) (positions : List ℕ) (xs : List α) (j : ℕ) :
    (rewriteAt f positions xs)[j]? = xs[j]?.map fun x => if j ∈ positions then f x else x := by
  rw [rewriteAt, List.getElem?_mapIdx]

theorem rewriteAt_nil (f : α → α) (xs : List α) : rewriteAt f [] xs = xs := by
  apply List.ext_getElem?
  intro j
  simp [getElem?_rewriteAt]

/-- A rewriting does something exactly if it has a position whose entry `f` does not fix. -/
theorem rewriteAt_ne_self_iff [DecidableEq α] {f : α → α} {positions : List ℕ} {xs : List α}
    (hlt : ∀ i ∈ positions, i < xs.length) :
    rewriteAt f positions xs ≠ xs ↔
      ∃ i ∈ positions, (xs.map fun x => decide (f x = x)).getD i false = false := by
  constructor
  · intro hne
    by_contra hall
    push Not at hall
    apply hne
    apply List.ext_getElem?
    intro j
    rw [getElem?_rewriteAt]
    cases hx : xs[j]? with
    | none => rfl
    | some x =>
        by_cases hmem : j ∈ positions
        · have hfixed := hall j hmem
          simp only [List.getD_eq_getElem?_getD, List.getElem?_map, hx] at hfixed
          simp only [Option.map_some, if_pos hmem]
          simpa using hfixed
        · simp [hmem]
  · rintro ⟨i, hmem, hmoved⟩ heq
    have hx : xs[i]? = some (xs.get ⟨i, hlt i hmem⟩) := by simp [hlt i hmem]
    have hread := congrArg (fun l : List α => l[i]?) heq
    simp only [getElem?_rewriteAt, hx, Option.map_some, if_pos hmem, Option.some.injEq] at hread
    simp only [List.getD_eq_getElem?_getD, List.getElem?_map, hx, Option.map_some,
      Option.getD_some, decide_eq_false_iff_not] at hmoved
    exact hmoved hread

/-- A write in place adds its position, if writing twice is writing once. -/
theorem modify_rewriteAt {f : α → α} (hf : ∀ x, f (f x) = f x) (positions : List ℕ) (i : ℕ)
    (xs : List α) :
    (rewriteAt f positions xs).modify i f = rewriteAt f (positions ++ [i]) xs := by
  apply List.ext_getElem?
  intro j
  rw [List.getElem?_modify, getElem?_rewriteAt, getElem?_rewriteAt]
  cases xs[j]? with
  | none => simp
  | some x =>
      by_cases hij : i = j
      · by_cases hmem : j ∈ positions
        · simp [hij, hmem, hf]
        · simp [hij, hmem]
      · have hji : j ≠ i := fun h => hij h.symm
        simp [hij, hji]

end Rewrite

/-! ## Rankings -/

section Ranking

variable {α : Type u} {K : Type v} [LinearOrder K]

/-- `order` lists all positions so that their keys do not fall. -/
structure IsRanking (key : α → K) (all order : List α) : Prop where
  perm : order.Perm all
  sorted : order.Pairwise fun i j => key i ≤ key j

namespace IsRanking

variable {key : α → K} {all order : List α}

theorem length_take (h : IsRanking key all order) {k : ℕ} (hk : k ≤ all.length) :
    (order.take k).length = k := by
  rw [List.length_take, h.perm.length_eq, min_eq_left hk]

theorem nodup_take (h : IsRanking key all order) (hall : all.Nodup) (k : ℕ) :
    (order.take k).Nodup :=
  (h.perm.nodup_iff.2 hall).sublist (List.take_sublist k order)

theorem mem_of_mem_take (h : IsRanking key all order) {k : ℕ} {i : α} (hi : i ∈ order.take k) :
    i ∈ all :=
  h.perm.mem_iff.1 (List.mem_of_mem_take hi)

/-- No position that is left out has a smaller key than one that is taken. -/
theorem key_le (h : IsRanking key all order) {k : ℕ} {i j : α} (hi : i ∈ order.take k)
    (hj : j ∈ all) (hleft : j ∉ order.take k) : key i ≤ key j := by
  have hsplit : (order.take k ++ order.drop k).Pairwise fun i j => key i ≤ key j := by
    rw [List.take_append_drop]
    exact h.sorted
  have hdrop : j ∈ order.drop k := by
    have hmem : j ∈ order.take k ++ order.drop k := by
      rw [List.take_append_drop]
      exact h.perm.mem_iff.2 hj
    exact (List.mem_append.1 hmem).resolve_left hleft
  exact (List.pairwise_append.1 hsplit).2.2 i hi j hdrop

end IsRanking

/-- The positions sorted by their keys. -/
def sortPositions (key : α → K) (all : List α) : List α :=
  all.insertionSort fun i j => key i ≤ key j

theorem isRanking_sortPositions (key : α → K) (all : List α) :
    IsRanking key all (sortPositions key all) where
  perm := List.perm_insertionSort _ _
  sorted := by
    have htotal : Std.Total fun i j : α => key i ≤ key j := ⟨fun i j => le_total _ _⟩
    have htrans : IsTrans α fun i j => key i ≤ key j := ⟨fun _ _ _ => le_trans⟩
    exact List.pairwise_insertionSort _ _

end Ranking

end TrojanDetection.Library.Positions
