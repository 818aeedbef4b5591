import Mathlib.Data.List.Perm.Lattice
import Mathlib.Data.List.Nodup

/-!
# Sampling without replacement

A sample is a prefix of a shuffled list. The order that the shuffle produces is arbitrary; what is
known of the sample is its size, that its members are distinct, and that they come from the list
(`countP_mem_sample`).
-/

set_option autoImplicit false

namespace TrojanDetection.Library.Sampling

universe u

variable {α : Type u}

/-- An in-place shuffle: the result is some permutation of the list. -/
structure Shuffle (α : Type u) where
  run : List α → List α
  perm : ∀ l, (run l).Perm l

namespace Shuffle

/-- The first `k` entries of the shuffled list. -/
def sample (σ : Shuffle α) (k : ℕ) (l : List α) : List α := (σ.run l).take k

/-- The shuffle that leaves every list as it is. -/
def identity : Shuffle α := ⟨fun l => l, List.Perm.refl⟩

theorem mem_of_mem_sample {σ : Shuffle α} {k : ℕ} {l : List α} {a : α} (h : a ∈ σ.sample k l) :
    a ∈ l :=
  (σ.perm l).mem_iff.1 (List.mem_of_mem_take h)

theorem nodup_sample (σ : Shuffle α) (k : ℕ) {l : List α} (h : l.Nodup) : (σ.sample k l).Nodup :=
  ((σ.perm l).nodup_iff.2 h).sublist (List.take_sublist k _)

theorem length_sample (σ : Shuffle α) {k : ℕ} {l : List α} (h : k ≤ l.length) :
    (σ.sample k l).length = k := by
  rw [sample, List.length_take, (σ.perm l).length_eq]
  exact Nat.min_eq_left h

/-- A sample as large as the list has every member of it. -/
theorem mem_sample_length (σ : Shuffle α) {l : List α} {a : α} (h : a ∈ l) :
    a ∈ σ.sample l.length l := by
  have hall : σ.sample l.length l = σ.run l := by
    rw [sample, List.take_of_length_le (Nat.le_of_eq (σ.perm l).length_eq)]
  rw [hall]
  exact (σ.perm l).mem_iff.2 h

/-- The shuffle that puts the entries with a property first. -/
def front (p : α → Bool) : Shuffle α :=
  ⟨fun l => l.filter p ++ l.filter (fun a => !p a), fun l => List.filter_append_perm p l⟩

/-- Every sample has an entry without a property exactly if too few entries have it. -/
theorem forall_exists_mem_sample_iff {p : α → Bool} {k : ℕ} {l : List α} (hk : k ≤ l.length) :
    (∀ σ : Shuffle α, ∃ a ∈ σ.sample k l, p a = false) ↔ l.countP p < k := by
  constructor
  · intro h
    by_contra hmany
    rw [Nat.not_lt, List.countP_eq_length_filter] at hmany
    obtain ⟨a, ha, hfalse⟩ := h (front p)
    have hsample : (front p).sample k l = (l.filter p).take k :=
      List.take_append_of_le_length hmany
    rw [hsample] at ha
    have htrue := (List.mem_filter.1 (List.mem_of_mem_take ha)).2
    rw [hfalse] at htrue
    cases htrue
  · intro hfew σ
    by_contra hall
    push Not at hall
    have hcount : (σ.sample k l).countP p = (σ.sample k l).length := by
      rw [List.countP_eq_length]
      intro a ha
      simpa using hall a ha
    have hle : (σ.sample k l).countP p ≤ l.countP p := by
      rw [← (σ.perm l).countP_eq p]
      exact (List.take_sublist k (σ.run l)).countP_le
    rw [hcount, σ.length_sample hk] at hle
    exact absurd hfew (Nat.not_lt.2 hle)

/-- A list of distinct entries that includes the sampled list meets the sample in as many entries
as the sample has. -/
theorem countP_mem_sample [DecidableEq α] (σ : Shuffle α) {k : ℕ} {l xs : List α}
    (hl : l.Nodup) (hxs : xs.Nodup) (hsub : ∀ a ∈ l, a ∈ xs) (hk : k ≤ l.length) :
    xs.countP (fun a => a ∈ σ.sample k l) = k := by
  have hperm : (xs.filter fun a => a ∈ σ.sample k l).Perm (σ.sample k l) := by
    refine (List.perm_ext_iff_of_nodup (hxs.filter _) (σ.nodup_sample k hl)).2 ?_
    intro a
    rw [List.mem_filter, decide_eq_true_iff]
    constructor
    · intro h
      exact h.2
    · intro h
      exact ⟨hsub a (mem_of_mem_sample h), h⟩
  rw [List.countP_eq_length_filter, hperm.length_eq]
  exact σ.length_sample hk

end Shuffle

end TrojanDetection.Library.Sampling
