import Mathlib.Data.List.Basic

/-!
# Walks in a directory tree

A directory is the list of names from the root to it. A walk goes down to a named child, up to the
parent, or stays; going up from the root stays there. Every walk climbs some steps and then descends
along some names (`walk_eq_reach`), so where it ends follows from those two.
-/

set_option autoImplicit false

namespace TrojanDetection.Library.Walk

universe u

variable {α : Type u}

/-- One part of a path. -/
inductive Move (α : Type u)
  | stay
  | up
  | down (name : α)
  deriving DecidableEq, Repr

/-- The directory after one move. -/
def go (dir : List α) : Move α → List α
  | .stay => dir
  | .up => dir.dropLast
  | .down name => dir ++ [name]

/-- Where a path leads from a directory. -/
def walk (dir : List α) (moves : List (Move α)) : List α := moves.foldl go dir

/-- The effect of a walk wherever it starts: the climb, then the names descended along. -/
structure Net (α : Type u) where
  ups : ℕ
  downs : List α
  deriving DecidableEq, Repr

namespace Net

/-- A further move. Going up undoes the last descent, if there is one. -/
def add (net : Net α) : Move α → Net α
  | .stay => net
  | .up =>
      if net.downs.isEmpty then ⟨net.ups + 1, []⟩ else ⟨net.ups, net.downs.dropLast⟩
  | .down name => ⟨net.ups, net.downs ++ [name]⟩

/-- The directory reached from `dir`. -/
def reach (net : Net α) (dir : List α) : List α :=
  dir.take (dir.length - net.ups) ++ net.downs

theorem go_reach (net : Net α) (dir : List α) (move : Move α) :
    go (net.reach dir) move = (net.add move).reach dir := by
  rcases net with ⟨ups, downs⟩
  cases move with
  | stay => rfl
  | down name => simp [go, reach, add]
  | up =>
      rcases List.eq_nil_or_concat downs with rfl | ⟨init, last, rfl⟩
      · simp only [go, reach, add, List.isEmpty_nil, if_true, List.append_nil,
          List.dropLast_eq_take, List.length_take, List.take_take]
        congr 1
        omega
      · simp only [go, reach, add, List.concat_eq_append, ← List.append_assoc,
          List.dropLast_concat]
        simp

end Net

/-- The net effect of a path: how far up, and what is left to go down. -/
def net (moves : List (Move α)) : Net α := moves.foldl Net.add ⟨0, []⟩

/-- A walk ends where its net effect leads. -/
theorem walk_eq_reach (dir : List α) (moves : List (Move α)) :
    walk dir moves = (net moves).reach dir := by
  have hacc : ∀ (moves : List (Move α)) (before : Net α),
      moves.foldl go (before.reach dir) = (moves.foldl Net.add before).reach dir := by
    intro moves
    induction moves with
    | nil =>
        intro before
        rfl
    | cons move moves ih =>
        intro before
        rw [List.foldl_cons, List.foldl_cons, before.go_reach, ih]
  have hstart : (⟨0, []⟩ : Net α).reach dir = dir := by simp [Net.reach]
  have h := hacc moves ⟨0, []⟩
  rwa [hstart] at h

/-- A walk whose last move is a descent descends somewhere. -/
theorem downs_ne_nil (moves : List (Move α)) (name : α) :
    (net (moves ++ [.down name])).downs ≠ [] := by
  simp [net, Net.add]

/-- `inner` lies in `outer` and is not `outer` itself. -/
def StrictlyInside (outer inner : List α) : Prop := ∃ rest, rest ≠ [] ∧ inner = outer ++ rest

theorem strictlyInside_iff {outer inner : List α} :
    StrictlyInside outer inner ↔ outer <+: inner ∧ outer ≠ inner := by
  constructor
  · rintro ⟨rest, hrest, rfl⟩
    refine ⟨List.prefix_append _ _, ?_⟩
    intro h
    exact hrest (List.self_eq_append_right.1 h)
  · rintro ⟨⟨rest, rfl⟩, hne⟩
    refine ⟨rest, ?_, rfl⟩
    rintro rfl
    exact hne (List.append_nil _).symm

instance [DecidableEq α] (outer inner : List α) : Decidable (StrictlyInside outer inner) :=
  decidable_of_iff _ strictlyInside_iff.symm

/-- A walk from a directory ends inside it exactly when its descent first names the directories it
climbed out of, and then another. -/
theorem strictlyInside_reach_iff (net : Net α) (dir : List α) :
    StrictlyInside dir (net.reach dir) ↔
      StrictlyInside (dir.drop (dir.length - net.ups)) net.downs := by
  have hsplit := List.take_append_drop (dir.length - net.ups) dir
  constructor
  · rintro ⟨rest, hrest, h⟩
    refine ⟨rest, hrest, ?_⟩
    refine List.append_cancel_left (?_ : dir.take (dir.length - net.ups) ++ _ = _)
    rw [← List.append_assoc, hsplit]
    exact h
  · rintro ⟨rest, hrest, h⟩
    refine ⟨rest, hrest, ?_⟩
    rw [Net.reach, h, ← List.append_assoc, hsplit]

end TrojanDetection.Library.Walk
