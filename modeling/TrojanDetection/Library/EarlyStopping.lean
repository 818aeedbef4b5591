import Mathlib.Data.List.Basic
import Mathlib.Order.Basic

/-!
# Early stopping

A loop that measures once in each round may stop for two reasons: enough of its measurements have
been low, or a measurement is near the one before it. The first reason is tested first. The loop
remembers the last measurement and how many were low.

What it remembers is a function of the measurements so far (`memoryAt`), so the loop ends in the
first round in which one of the tests holds (`search_eq`). The three ways in which it can end are
described by `search_eq_converged_iff`, `search_eq_plateau_iff` and `search_eq_exhausted_iff`.
-/

set_option autoImplicit false

namespace TrojanDetection.Library.EarlyStopping

universe u

/-- The tests of a loop. Before the first round it remembers a value that nothing is near. -/
structure Rule (α : Type u) where
  low : α → Bool
  near : α → α → Bool
  patience : ℕ
  start : α
  near_start : ∀ x, near start x = false
  patience_pos : 0 < patience

/-- How a loop ends. -/
inductive Exit
  | converged (epoch : ℕ)
  | plateau (epoch : ℕ)
  | exhausted
  deriving DecidableEq, Repr

/-- What a loop remembers. -/
structure Memory (α : Type u) where
  last : α
  found : ℕ

namespace Rule

variable {α : Type u} (rule : Rule α)

/-! ## The loop -/

/-- The tests of a round: the loop ends, or goes on with a new memory. -/
def check (memory : Memory α) (epoch : ℕ) (loss : α) : Exit ⊕ Memory α :=
  let found := if rule.low loss then memory.found + 1 else memory.found
  if rule.low loss && rule.patience ≤ found then .inl (.converged epoch)
  -- a low round that does not end the loop is compared with the one before as well
  else if rule.near memory.last loss then .inl (.plateau epoch)
  else .inr ⟨loss, found⟩

/-- A number of rounds, from a round and a memory on. -/
def searchFrom (losses : ℕ → α) : ℕ → ℕ → Memory α → Exit
  | 0, _, _ => .exhausted
  | rounds + 1, epoch, memory =>
      match rule.check memory epoch (losses epoch) with
      | .inl exit => exit
      | .inr memory => searchFrom losses rounds (epoch + 1) memory

/-- The search from the first epoch on. -/
def search (losses : ℕ → α) (epochs : ℕ) : Exit :=
  rule.searchFrom losses epochs 0 ⟨rule.start, 0⟩

/-! ## The tests as functions of the measurements -/

variable (losses : ℕ → α)

/-- The number of low measurements before a round. -/
def lowCount (epoch : ℕ) : ℕ := (List.range epoch).countP fun k => rule.low (losses k)

/-- The round is low and has the patience-th low measurement behind it or is it. -/
def full (epoch : ℕ) : Bool :=
  rule.low (losses epoch) && rule.patience ≤ rule.lowCount losses (epoch + 1)

/-- The measurement is near the one before it. -/
def nearAt : ℕ → Bool
  | 0 => false
  | epoch + 1 => rule.near (losses epoch) (losses (epoch + 1))

/-- What the loop carries into an epoch, read off the losses. -/
def memoryAt : ℕ → Memory α
  | 0 => ⟨rule.start, 0⟩
  | epoch + 1 => ⟨losses epoch, rule.lowCount losses (epoch + 1)⟩

/-- The first round in which a test holds. -/
def firstStop (epochs : ℕ) : Option ℕ :=
  (List.range epochs).find? fun k => rule.full losses k || rule.nearAt losses k

/-- How the loop ends, given the round in which it stops. -/
def exitAt : Option ℕ → Exit
  | none => .exhausted
  | some epoch => if rule.full losses epoch then .converged epoch else .plateau epoch

theorem lowCount_succ (epoch : ℕ) :
    rule.lowCount losses (epoch + 1) =
      if rule.low (losses epoch) then rule.lowCount losses epoch + 1
      else rule.lowCount losses epoch := by
  rw [lowCount, List.range_succ, List.countP_append, List.countP_singleton]
  split
  · rfl
  · rfl

theorem lowCount_le (epoch : ℕ) : rule.lowCount losses epoch ≤ epoch := by
  have hle := List.countP_le_length (p := fun k => rule.low (losses k)) (l := List.range epoch)
  rwa [List.length_range] at hle

theorem found_memoryAt (epoch : ℕ) :
    (rule.memoryAt losses epoch).found = rule.lowCount losses epoch := by
  cases epoch with
  | zero => rfl
  | succ epoch => rfl

theorem near_memoryAt (epoch : ℕ) :
    rule.near (rule.memoryAt losses epoch).last (losses epoch) = rule.nearAt losses epoch := by
  cases epoch with
  | zero => exact rule.near_start _
  | succ epoch => rfl

/-- A round decides by the measurements so far. -/
theorem check_memoryAt (epoch : ℕ) :
    rule.check (rule.memoryAt losses epoch) epoch (losses epoch) =
      if rule.full losses epoch then .inl (.converged epoch)
      else if rule.nearAt losses epoch then .inl (.plateau epoch)
      else .inr (rule.memoryAt losses (epoch + 1)) := by
  simp only [check, found_memoryAt, near_memoryAt, ← lowCount_succ]
  rfl

/-- The loop ends in the first round in which a test holds. -/
theorem searchFrom_eq (rounds epoch : ℕ) :
    rule.searchFrom losses rounds epoch (rule.memoryAt losses epoch) =
      rule.exitAt losses ((List.range' epoch rounds).find? fun k =>
        rule.full losses k || rule.nearAt losses k) := by
  -- the loop is always entered with the memory of its round
  induction rounds generalizing epoch with
  | zero => rfl
  | succ rounds ih =>
      rw [searchFrom, check_memoryAt, List.range'_succ, List.find?_cons]
      cases hfull : rule.full losses epoch with
      | true => simp [exitAt, hfull]
      | false =>
          cases hnear : rule.nearAt losses epoch with
          | true => simp [exitAt, hfull]
          | false => simpa using ih (epoch + 1)

theorem search_eq (epochs : ℕ) :
    rule.search losses epochs = rule.exitAt losses (rule.firstStop losses epochs) := by
  rw [firstStop, List.range_eq_range']
  exact rule.searchFrom_eq losses epochs 0

/-! ## The three ends -/

theorem firstStop_eq_some_iff {epochs epoch : ℕ} :
    rule.firstStop losses epochs = some epoch ↔
      epoch < epochs ∧ (rule.full losses epoch = true ∨ rule.nearAt losses epoch = true) ∧
      (∀ k < epoch, rule.full losses k = false) ∧ ∀ k < epoch, rule.nearAt losses k = false := by
  rw [firstStop, List.find?_range_eq_some]
  simp only [Bool.or_eq_true, List.mem_range, Bool.not_or, Bool.and_eq_true, Bool.not_eq_true']
  constructor
  · rintro ⟨hstop, hlt, hbefore⟩
    exact ⟨hlt, hstop, fun k hk => (hbefore k hk).1, fun k hk => (hbefore k hk).2⟩
  · rintro ⟨hlt, hstop, hfull, hnear⟩
    exact ⟨hstop, hlt, fun k hk => ⟨hfull k hk, hnear k hk⟩⟩

theorem exitAt_eq_converged_iff {stop : Option ℕ} {epoch : ℕ} :
    rule.exitAt losses stop = .converged epoch ↔
      stop = some epoch ∧ rule.full losses epoch = true := by
  cases stop with
  | none => simp [exitAt]
  | some k =>
      cases hfull : rule.full losses k with
      | true =>
          simp only [exitAt, hfull, if_true, Exit.converged.injEq, Option.some.injEq]
          exact ⟨fun h => ⟨h, h ▸ hfull⟩, fun h => h.1⟩
      | false =>
          simp only [exitAt, hfull, Bool.false_eq_true, if_false, reduceCtorEq, false_iff]
          rintro ⟨h, hfull'⟩
          cases h
          rw [hfull] at hfull'
          cases hfull'

theorem exitAt_eq_plateau_iff {stop : Option ℕ} {epoch : ℕ} :
    rule.exitAt losses stop = .plateau epoch ↔
      stop = some epoch ∧ rule.full losses epoch = false := by
  cases stop with
  | none => simp [exitAt]
  | some k =>
      cases hfull : rule.full losses k with
      | false =>
          simp only [exitAt, hfull, Bool.false_eq_true, if_false, Exit.plateau.injEq,
            Option.some.injEq]
          exact ⟨fun h => ⟨h, h ▸ hfull⟩, fun h => h.1⟩
      | true =>
          simp only [exitAt, hfull, if_true, reduceCtorEq, false_iff]
          rintro ⟨h, hfull'⟩
          cases h
          rw [hfull] at hfull'
          cases hfull'

theorem exitAt_eq_exhausted_iff {stop : Option ℕ} :
    rule.exitAt losses stop = .exhausted ↔ stop = none := by
  cases stop with
  | none => simp [exitAt]
  | some k =>
      rw [exitAt]
      split
      · simp
      · simp

/-- Before the patience-th low measurement no round is full. -/
theorem forall_full_eq_false_iff {epoch : ℕ} :
    (∀ k < epoch, rule.full losses k = false) ↔
      rule.lowCount losses epoch < rule.patience := by
  induction epoch with
  | zero => exact iff_of_true (fun k hk => absurd hk (Nat.not_lt_zero k)) rule.patience_pos
  | succ epoch ih =>
      rw [Nat.forall_lt_succ_right, ih, full]
      -- a round that is not low neither counts nor is full
      cases hlow : rule.low (losses epoch) with
      | false => simp [lowCount_succ, hlow]
      | true =>
          simp only [Bool.true_and, decide_eq_false_iff_not, lowCount_succ, hlow, if_true]
          omega

/-- The first full round is the patience-th low one. -/
theorem full_first_iff {epoch : ℕ} :
    (rule.full losses epoch = true ∧ ∀ k < epoch, rule.full losses k = false) ↔
      rule.low (losses epoch) = true ∧ rule.lowCount losses (epoch + 1) = rule.patience := by
  rw [forall_full_eq_false_iff, full, lowCount_succ]
  cases hlow : rule.low (losses epoch) with
  | false => simp
  | true =>
      simp only [Bool.true_and, decide_eq_true_eq, if_true, true_and]
      omega

/-- Enough low measurements include the patience-th one. -/
theorem exists_patience_low {epoch : ℕ} (h : rule.patience ≤ rule.lowCount losses epoch) :
    ∃ k < epoch, rule.low (losses k) = true ∧
      rule.lowCount losses (k + 1) = rule.patience := by
  induction epoch with
  | zero => exact absurd h (Nat.not_le.2 rule.patience_pos)
  | succ epoch ih =>
      rcases Nat.lt_or_ge (rule.lowCount losses epoch) rule.patience with hless | hmore
      · -- the count has grown in the last round
        cases hlow : rule.low (losses epoch) with
        | false =>
            simp only [lowCount_succ, hlow, Bool.false_eq_true, if_false] at h
            exact absurd h (Nat.not_le.2 hless)
        | true =>
            have hcount : rule.lowCount losses (epoch + 1) = rule.lowCount losses epoch + 1 := by
              simp only [lowCount_succ, hlow, if_true]
            exact ⟨epoch, Nat.lt_succ_self epoch, hlow, by omega⟩
      · obtain ⟨k, hk, hfound⟩ := ih hmore
        exact ⟨k, Nat.lt_succ_of_lt hk, hfound⟩

theorem search_eq_converged_iff {epochs epoch : ℕ} :
    rule.search losses epochs = .converged epoch ↔
      epoch < epochs ∧ rule.low (losses epoch) = true ∧
      rule.lowCount losses (epoch + 1) = rule.patience ∧
      ∀ k < epoch, rule.nearAt losses k = false := by
  rw [← and_assoc (a := rule.low (losses epoch) = true), ← full_first_iff, search_eq,
    exitAt_eq_converged_iff, firstStop_eq_some_iff]
  constructor
  · rintro ⟨⟨hlt, -, hfirst, hnear⟩, hfull⟩
    exact ⟨hlt, ⟨hfull, hfirst⟩, hnear⟩
  · rintro ⟨hlt, ⟨hfull, hfirst⟩, hnear⟩
    exact ⟨⟨hlt, .inl hfull, hfirst, hnear⟩, hfull⟩

theorem search_eq_plateau_iff {epochs epoch : ℕ} :
    rule.search losses epochs = .plateau epoch ↔
      epoch < epochs ∧ rule.nearAt losses epoch = true ∧
      (∀ k < epoch, rule.nearAt losses k = false) ∧
      rule.lowCount losses (epoch + 1) < rule.patience := by
  rw [← forall_full_eq_false_iff, Nat.forall_lt_succ_right, search_eq, exitAt_eq_plateau_iff,
    firstStop_eq_some_iff]
  constructor
  · rintro ⟨⟨hlt, hstop, hfirst, hnear⟩, hfull⟩
    have hnow := hstop.resolve_left (by simp [hfull])
    exact ⟨hlt, hnow, hnear, hfirst, hfull⟩
  · rintro ⟨hlt, hnow, hnear, hfirst, hfull⟩
    exact ⟨⟨hlt, .inr hnow, hfirst, hnear⟩, hfull⟩

theorem search_eq_exhausted_iff {epochs : ℕ} :
    rule.search losses epochs = .exhausted ↔
      (∀ k < epochs, rule.nearAt losses k = false) ∧
      rule.lowCount losses epochs < rule.patience := by
  rw [search_eq, exitAt_eq_exhausted_iff, firstStop, List.find?_range_eq_none,
    ← forall_full_eq_false_iff]
  simp only [Bool.not_or, Bool.and_eq_true, Bool.not_eq_true']
  constructor
  · intro h
    exact ⟨fun k hk => (h k hk).2, fun k hk => (h k hk).1⟩
  · rintro ⟨hnear, hfull⟩ k hk
    exact ⟨hfull k hk, hnear k hk⟩

/-! ## The later ends in terms of the first -/

/-- With enough low measurements before a round, and no measurement near the one before it up to the
last of these rounds, the loop converges. -/
theorem exists_converged {epochs epoch : ℕ} (hle : epoch ≤ epochs)
    (hnear : ∀ k, k + 1 < epoch → rule.nearAt losses k = false)
    (hcount : rule.patience ≤ rule.lowCount losses epoch) :
    ∃ k < epoch, rule.search losses epochs = .converged k := by
  obtain ⟨k, hk, hlow, hfifth⟩ := rule.exists_patience_low losses hcount
  refine ⟨k, hk, (rule.search_eq_converged_iff losses).2 ⟨by omega, hlow, hfifth, ?_⟩⟩
  intro j hj
  exact hnear j (by omega)

/-- A plateau ends the loop in the first round near the one before it, unless it has converged. -/
theorem plateau_iff_not_converged {epochs epoch : ℕ} :
    rule.search losses epochs = .plateau epoch ↔
      epoch < epochs ∧ rule.nearAt losses epoch = true ∧
      (∀ k < epoch, rule.nearAt losses k = false) ∧
      ∀ k ≤ epoch, rule.search losses epochs ≠ .converged k := by
  constructor
  · intro hplateau
    obtain ⟨hlt, hnow, hbefore, -⟩ := (rule.search_eq_plateau_iff losses).1 hplateau
    refine ⟨hlt, hnow, hbefore, ?_⟩
    intro k _ hconverged
    rw [hplateau] at hconverged
    cases hconverged
  · rintro ⟨hlt, hnow, hbefore, hnot⟩
    refine (rule.search_eq_plateau_iff losses).2 ⟨hlt, hnow, hbefore, ?_⟩
    by_contra hmany
    obtain ⟨k, hk, hconverged⟩ := rule.exists_converged losses hlt
      (fun k hk => hbefore k (by omega)) (Nat.not_lt.1 hmany)
    exact hnot k (by omega) hconverged

/-- All rounds are run if no measurement is near the one before it and the loop does not
converge. -/
theorem exhausted_iff_not_converged {epochs : ℕ} :
    rule.search losses epochs = .exhausted ↔
      (∀ k < epochs, rule.nearAt losses k = false) ∧
      ∀ k, rule.search losses epochs ≠ .converged k := by
  constructor
  · intro hexhausted
    refine ⟨((rule.search_eq_exhausted_iff losses).1 hexhausted).1, ?_⟩
    intro k hconverged
    rw [hexhausted] at hconverged
    cases hconverged
  · rintro ⟨hnear, hnot⟩
    refine (rule.search_eq_exhausted_iff losses).2 ⟨hnear, ?_⟩
    by_contra hmany
    obtain ⟨k, -, hconverged⟩ := rule.exists_converged losses (Nat.le_refl epochs)
      (fun k hk => hnear k (by omega)) (Nat.not_lt.1 hmany)
    exact hnot k hconverged

end Rule

end TrojanDetection.Library.EarlyStopping
