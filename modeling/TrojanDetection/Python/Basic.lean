/-!
# Python exceptions

Fallible code of the repository is modelled in `Except PyError`. A constructor carries a text where
the source builds one; the exceptions raised by the interpreter itself carry only their kind and,
where a handler or a report reads it, the offending name.
-/

set_option autoImplicit false

namespace TrojanDetection.Python

/-- Exceptions raised by the modelled code. -/
inductive PyError
  | keyError (key : String)
  | indexError
  | zeroDivisionError
  | overflowError
  | attributeError
  | stopIteration
  | unicodeEncodeError
  | typeError (message : String)
  | valueError (message : String)
  | runtimeError (message : String)
  | notImplementedError (message : String)
  | assertionError (message : String)
  | osError (message : String)
  deriving DecidableEq, Repr

/-- The computation ended in an exception. -/
def raised {α : Type} : Except PyError α → Bool
  | .ok _ => false
  | .error _ => true

theorem raised_eq_true_iff {α : Type} {x : Except PyError α} :
    raised x = true ↔ ∃ e, x = .error e := by
  cases x <;> simp [raised]

/-- A bind returns a value exactly when both of its parts do. -/
theorem bind_eq_ok_iff {α β : Type} {x : Except PyError α} {f : α → Except PyError β} {b : β} :
    x >>= f = .ok b ↔ ∃ a, x = .ok a ∧ f a = .ok b := by
  cases x with
  | error e =>
      apply iff_of_false
      · intro h
        cases h
      · rintro ⟨a, ha, -⟩
        cases ha
  | ok a =>
      constructor
      · intro h
        exact ⟨a, rfl, h⟩
      · rintro ⟨a', ha, h⟩
        cases ha
        exact h

/-- A computation returns some value. -/
def returns {α : Type} (x : Except PyError α) : Prop := ∃ a, x = .ok a

theorem returns_ok {α : Type} (a : α) : returns (.ok a) := ⟨a, rfl⟩

/-- A bind returns exactly when both parts do, if the second one does so for every value of the
first or for none. -/
theorem returns_bind_iff {α β : Type} {x : Except PyError α} {f : α → Except PyError β}
    {P : Prop} (h : ∀ a, x = .ok a → (returns (f a) ↔ P)) :
    returns (x >>= f) ↔ returns x ∧ P := by
  constructor
  · rintro ⟨b, hb⟩
    obtain ⟨a, ha, hf⟩ := bind_eq_ok_iff.1 hb
    exact ⟨⟨a, ha⟩, (h a ha).1 ⟨b, hf⟩⟩
  · rintro ⟨⟨a, ha⟩, hP⟩
    obtain ⟨b, hb⟩ := (h a ha).2 hP
    exact ⟨b, bind_eq_ok_iff.2 ⟨a, ha, hb⟩⟩

/-- A loop that collects results returns exactly when each of its rounds does. -/
theorem returns_mapM_iff {α β : Type} {xs : List α} {f : α → Except PyError β} :
    returns (xs.mapM f) ↔ ∀ x ∈ xs, returns (f x) := by
  induction xs with
  | nil => exact iff_of_true (returns_ok []) (fun x hx => absurd hx List.not_mem_nil)
  | cons x xs ih =>
      have hrest : ∀ y, f x = .ok y →
          (returns (do let ys ← xs.mapM f; pure (y :: ys)) ↔ ∀ x' ∈ xs, returns (f x')) := by
        intro y _
        rw [← ih]
        constructor
        · rintro ⟨zs, hzs⟩
          obtain ⟨ys, hys, -⟩ := bind_eq_ok_iff.1 hzs
          exact ⟨ys, hys⟩
        · rintro ⟨ys, hys⟩
          exact ⟨y :: ys, bind_eq_ok_iff.2 ⟨ys, hys, rfl⟩⟩
      rw [List.mapM_cons, returns_bind_iff hrest, List.forall_mem_cons]

/-- Such a loop collects one result for each round. -/
theorem length_of_mapM_eq_ok {α β : Type} {xs : List α} {f : α → Except PyError β} {ys : List β}
    (h : xs.mapM f = .ok ys) : ys.length = xs.length := by
  induction xs generalizing ys with
  | nil =>
      cases h
      rfl
  | cons x xs ih =>
      rw [List.mapM_cons] at h
      obtain ⟨y, -, h⟩ := bind_eq_ok_iff.1 h
      obtain ⟨zs, hzs, h⟩ := bind_eq_ok_iff.1 h
      cases h
      rw [List.length_cons, List.length_cons, ih hzs]

/-- Its results stand at the positions of their rounds. -/
theorem getElem?_of_mapM_eq_ok {α β : Type} {xs : List α} {f : α → Except PyError β} {ys : List β}
    (h : xs.mapM f = .ok ys) {i : Nat} {x : α} (hx : xs[i]? = some x) :
    ∃ y, ys[i]? = some y ∧ f x = .ok y := by
  induction xs generalizing ys i with
  | nil => cases hx
  | cons first xs ih =>
      rw [List.mapM_cons] at h
      obtain ⟨y, hy, h⟩ := bind_eq_ok_iff.1 h
      obtain ⟨zs, hzs, h⟩ := bind_eq_ok_iff.1 h
      cases h
      cases i with
      | zero =>
          cases hx
          exact ⟨y, rfl, hy⟩
      | succ i => exact ih hzs hx

/-- Every result is that of a round. -/
theorem exists_of_mem_mapM {α β : Type} {xs : List α} {f : α → Except PyError β} {ys : List β}
    (h : xs.mapM f = .ok ys) {y : β} (hy : y ∈ ys) : ∃ x ∈ xs, f x = .ok y := by
  obtain ⟨i, hi⟩ := List.mem_iff_getElem?.1 hy
  have hlt : i < xs.length := by
    rw [← length_of_mapM_eq_ok h]
    exact (List.getElem?_eq_some_iff.1 hi).1
  obtain ⟨y', hy', hround⟩ := getElem?_of_mapM_eq_ok h (List.getElem?_eq_getElem hlt)
  rw [hi] at hy'
  cases hy'
  exact ⟨_, List.getElem_mem hlt, hround⟩

/-- A loop whose rounds are known. -/
theorem mapM_eq_ok_of_forall {α β : Type} {xs : List α} {f : α → Except PyError β} {g : α → β}
    (h : ∀ x ∈ xs, f x = .ok (g x)) : xs.mapM f = .ok (xs.map g) := by
  induction xs with
  | nil => rfl
  | cons x xs ih =>
      rw [List.forall_mem_cons] at h
      rw [List.mapM_cons, h.1, ih h.2]
      rfl

end TrojanDetection.Python
