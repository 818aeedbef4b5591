import Mathlib.Data.List.Forall2

/-!
# Functions that may raise, in sequence

A stage is a function into `Except`. `Meets` is total correctness of a stage between a condition on
its input and one on its result, with the rule for composition; `Leads` chains such facts along a
sequence whose condition changes from stage to stage, and `Exactly` adds that the stage raises on all
other inputs. `Agree` says that two stages return on the same inputs and return the same; which
exception they raise elsewhere is left open. It is carried along a sequence stage by stage
(`Agree.sequence`). `Transports` says that one stage takes related inputs to related results.
-/

set_option autoImplicit false

namespace TrojanDetection.Library.Pipeline

universe u

variable {ε α β γ δ : Type u}

/-! ## Total correctness -/

/-- On every input that meets `pre` the stage returns a result that meets `post`. -/
def Meets (pre : α → Prop) (stage : α → Except ε β) (post : β → Prop) : Prop :=
  ∀ x, pre x → ∃ y, stage x = .ok y ∧ post y

namespace Meets

variable {pre : α → Prop} {mid : β → Prop} {post : γ → Prop}

theorem pure {f : α → γ} (h : ∀ x, pre x → post (f x)) :
    Meets pre (fun x => (.ok (f x) : Except ε γ)) post := by
  intro x hx
  exact ⟨f x, rfl, h x hx⟩

theorem bind {first : α → Except ε β} {second : β → Except ε γ} (hfirst : Meets pre first mid)
    (hsecond : Meets mid second post) : Meets pre (fun x => first x >>= second) post := by
  intro x hx
  obtain ⟨y, hy, hmid⟩ := hfirst x hx
  obtain ⟨z, hz, hpost⟩ := hsecond y hmid
  refine ⟨z, ?_, hpost⟩
  show first x >>= second = .ok z
  rw [hy]
  exact hz

end Meets

/-! ## Sequences -/

/-- The stages one after the other. -/
def sequence : List (α → Except ε α) → α → Except ε α
  | [], x => .ok x
  | stage :: stages, x => stage x >>= sequence stages

@[simp] theorem sequence_nil (x : α) : sequence ([] : List (α → Except ε α)) x = .ok x := rfl

theorem sequence_cons (stage : α → Except ε α) (stages : List (α → Except ε α)) :
    sequence (stage :: stages) = fun x => stage x >>= sequence stages := rfl

theorem sequence_append (first second : List (α → Except ε α)) :
    sequence (first ++ second) = fun x => sequence first x >>= sequence second := by
  induction first with
  | nil => rfl
  | cons stage stages ih =>
      funext x
      rw [List.cons_append, sequence_cons, sequence_cons, ih]
      show (stage x >>= fun y => sequence stages y >>= sequence second) =
        (stage x >>= sequence stages) >>= sequence second
      cases stage x <;> rfl

/-- Stages that all keep a condition keep it in sequence. -/
theorem Meets.sequence {stages : List (α → Except ε α)} {inv : α → Prop}
    (h : ∀ stage ∈ stages, Meets inv stage inv) : Meets inv (sequence stages) inv := by
  induction stages with
  | nil => exact Meets.pure fun _ hx => hx
  | cons stage stages ih =>
      obtain ⟨hstage, hstages⟩ := List.forall_mem_cons.1 h
      exact hstage.bind (ih hstages)

/-- The stages lead from one condition of a family to another. -/
inductive Leads {ι : Type*} (inv : ι → α → Prop) : ι → List (α → Except ε α) → ι → Prop
  | nil (a : ι) : Leads inv a [] a
  | cons {a b c : ι} {stage : α → Except ε α} {stages : List (α → Except ε α)}
      (hstage : Meets (inv a) stage (inv b)) (hstages : Leads inv b stages c) :
      Leads inv a (stage :: stages) c

namespace Leads

variable {ι : Type*} {inv : ι → α → Prop} {a b c : ι} {stages stages' : List (α → Except ε α)}

theorem meets (h : Leads inv a stages b) :
    Meets (inv a) (Pipeline.sequence stages) (inv b) := by
  induction h with
  | nil a => exact Meets.pure fun _ hx => hx
  | cons hstage _ ih => exact hstage.bind ih

theorem append (h : Leads inv a stages b) (h' : Leads inv b stages' c) :
    Leads inv a (stages ++ stages') c := by
  induction h with
  | nil a => exact h'
  | cons hstage _ ih => exact .cons hstage (ih h')

end Leads

/-! ## Exact conditions -/

/-- The stage returns on the inputs that meet `pre`, with results that meet `post`, and raises on all
others. -/
structure Exactly (pre : α → Prop) (stage : α → Except ε β) (post : β → Prop) : Prop where
  meets : Meets pre stage post
  only : ∀ x y, stage x = .ok y → pre x

namespace Exactly

variable {pre : α → Prop} {mid : β → Prop} {post : γ → Prop} {first : α → Except ε β}
  {second : β → Except ε γ}

theorem post_of {x : α} {y : β} (h : Exactly pre first mid) (hy : first x = .ok y) : mid y := by
  obtain ⟨y', hy', hmid⟩ := h.meets x (h.only x y hy)
  rw [hy] at hy'
  cases hy'
  exact hmid

theorem bind (hfirst : Exactly pre first mid) (hsecond : Meets mid second post) :
    Exactly pre (fun x => first x >>= second) post := by
  refine ⟨hfirst.meets.bind hsecond, ?_⟩
  intro x z hz
  cases hy : first x with
  | error e =>
      simp only [hy] at hz
      cases hz
  | ok y => exact hfirst.only x y hy

end Exactly

/-! ## Agreement -/

/-- The stages return on the same inputs, and the same results. -/
def Agree (f g : α → Except ε β) : Prop := ∀ x y, f x = .ok y ↔ g x = .ok y

namespace Agree

theorem refl (f : α → Except ε β) : Agree f f := fun _ _ => Iff.rfl

theorem symm {f g : α → Except ε β} (h : Agree f g) : Agree g f := fun x y => (h x y).symm

theorem bind {f f' : α → Except ε β} {g g' : β → Except ε γ} (hf : Agree f f')
    (hg : Agree g g') : Agree (fun x => f x >>= g) (fun x => f' x >>= g') := by
  -- one direction serves both, since agreement is symmetric
  have hstep : ∀ {f f' : α → Except ε β} {g g' : β → Except ε γ}, Agree f f' → Agree g g' →
      ∀ x z, f x >>= g = .ok z → f' x >>= g' = .ok z := by
    intro f f' g g' hf hg x z h
    cases hx : f x with
    | error e =>
        rw [hx] at h
        cases h
    | ok y =>
        rw [hx] at h
        rw [(hf x y).1 hx]
        exact (hg y z).1 h
  intro x z
  exact ⟨hstep hf hg x z, hstep hf.symm hg.symm x z⟩

/-- Sequences of stages agree if their stages do, one by one. -/
theorem sequence {stages stages' : List (α → Except ε α)} (h : List.Forall₂ Agree stages stages') :
    Agree (sequence stages) (sequence stages') := by
  induction h with
  | nil => exact refl _
  | cons hstage _ ih => exact hstage.bind ih

end Agree

/-! ## Related inputs -/

/-- If the stage returns on the first of two related inputs then it returns on the second one, and
the results are related. -/
def Transports (rel : α → α → Prop) (stage : α → Except ε β) (rel' : β → β → Prop) : Prop :=
  ∀ x x' y, rel x x' → stage x = .ok y → ∃ y', stage x' = .ok y' ∧ rel' y y'

namespace Transports

variable {rel : α → α → Prop} {mid : β → β → Prop} {rel' : γ → γ → Prop}

theorem bind {first : α → Except ε β} {second : β → Except ε γ} (hfirst : Transports rel first mid)
    (hsecond : Transports mid second rel') :
    Transports rel (fun x => first x >>= second) rel' := by
  intro x x' z hx hz
  cases hy : first x with
  | error e =>
      simp only [hy] at hz
      cases hz
  | ok y =>
      simp only [hy] at hz
      obtain ⟨y', hy', hmid⟩ := hfirst x x' y hx hy
      obtain ⟨z', hz', hrel⟩ := hsecond y y' z hmid hz
      refine ⟨z', ?_, hrel⟩
      show first x' >>= second = .ok z'
      rw [hy']
      exact hz'

/-- Stages that all keep a relation keep it in sequence. -/
theorem sequence {stages : List (α → Except ε α)} (h : ∀ stage ∈ stages, Transports rel stage rel) :
    Transports rel (sequence stages) rel := by
  induction stages with
  | nil =>
      intro x x' y hx hy
      cases hy
      exact ⟨x', rfl, hx⟩
  | cons stage stages ih =>
      obtain ⟨hstage, hstages⟩ := List.forall_mem_cons.1 h
      exact hstage.bind (ih hstages)

end Transports

end TrojanDetection.Library.Pipeline
