import Mathlib.Data.List.Basic

/-!
# Runs of a transition system

A system is a partial step function on states and events. `replay` runs a schedule, `Follows` says
that every step of a schedule meets a condition on the event and the state before it, and an
invariant that such steps keep holds at the end of every such run.
-/

set_option autoImplicit false

namespace TrojanDetection.Library.Transition

universe u v

variable {σ : Type u} {ε : Type v}

/-- The state after a schedule; `none` when an event of it is not enabled. -/
def replay (step : σ → ε → Option σ) : σ → List ε → Option σ
  | s, [] => some s
  | s, e :: es => (step s e).bind fun t => replay step t es

/-- Every step of the schedule is allowed in the state it is taken from. -/
def Follows (step : σ → ε → Option σ) (allowed : σ → ε → Prop) : σ → List ε → Prop
  | _, [] => True
  | s, e :: es => allowed s e ∧ ∀ t, step s e = some t → Follows step allowed t es

instance decidableFollows (step : σ → ε → Option σ) (allowed : σ → ε → Prop)
    [∀ s e, Decidable (allowed s e)] :
    (s : σ) → (es : List ε) → Decidable (Follows step allowed s es)
  | _, [] => .isTrue trivial
  | s, e :: es =>
      match hstep : step s e with
      | none =>
          decidable_of_iff (allowed s e) ⟨fun h => ⟨h, fun t ht => by simp [hstep] at ht⟩, And.left⟩
      | some t =>
          have := decidableFollows step allowed t es
          decidable_of_iff (allowed s e ∧ Follows step allowed t es) <|
            and_congr_right fun _ =>
              ⟨fun h t' ht' => Option.some.inj (hstep.symm.trans ht') ▸ h, fun h => h t hstep⟩

section Runs

variable {step : σ → ε → Option σ} {allowed : σ → ε → Prop}

theorem replay_cons_eq_some_iff {s u : σ} {e : ε} {es : List ε} :
    replay step s (e :: es) = some u ↔ ∃ t, step s e = some t ∧ replay step t es = some u :=
  Option.bind_eq_some_iff

/-- An invariant kept by the allowed steps holds after every schedule of allowed steps. -/
theorem invariant_replay {Inv : σ → Prop}
    (hstep : ∀ s e t, Inv s → allowed s e → step s e = some t → Inv t)
    {s t : σ} {es : List ε} (hs : Inv s) (hallowed : Follows step allowed s es)
    (hrun : replay step s es = some t) : Inv t := by
  induction es generalizing s with
  | nil =>
      cases hrun
      exact hs
  | cons e es ih =>
      obtain ⟨t', hstep', hrest⟩ := replay_cons_eq_some_iff.1 hrun
      exact ih (hstep s e t' hs hallowed.1 hstep') (hallowed.2 t' hstep') hrest

end Runs

end TrojanDetection.Library.Transition
