import Mathlib.Data.List.DropRight
import Mathlib.Data.List.Infix

/-!
# Searching text

Line-oriented text tools on lists of characters: word splitting, `grep -o`, `cut -f2` and the
removal of trailing newlines, with the facts that tell when a search finds nothing. The removal of
all occurrences of a needle leaves a text alone exactly if there is none (`remove_eq_self_iff`).
-/

set_option autoImplicit false

namespace TrojanDetection.Library.TextSearch

universe u

/-! ## Infixes -/

section Infixes

variable {α : Type u} {needle a b : List α} {sep : α}

theorem prefix_of_prefix_append_cons (hsep : sep ∉ needle) (h : needle <+: a ++ sep :: b) :
    needle <+: a := by
  induction a generalizing needle with
  | nil =>
      cases needle with
      | nil => exact List.nil_prefix
      | cons n ns =>
          obtain ⟨rfl, -⟩ := List.cons_prefix_cons.1 h
          exact absurd List.mem_cons_self hsep
  | cons x a ih =>
      cases needle with
      | nil => exact List.nil_prefix
      | cons n ns =>
          obtain ⟨rfl, htail⟩ := List.cons_prefix_cons.1 h
          have hns : sep ∉ ns := fun hmem => hsep (List.mem_cons_of_mem _ hmem)
          exact List.cons_prefix_cons.2 ⟨rfl, ih hns htail⟩

/-- An occurrence without the separator lies on one side of it. -/
theorem infix_of_infix_append_cons (hsep : sep ∉ needle) (h : needle <:+: a ++ sep :: b) :
    needle <:+: a ∨ needle <:+: b := by
  induction a with
  | nil =>
      rcases List.infix_cons_iff.1 h with h | h
      · exact .inl (prefix_of_prefix_append_cons (a := []) hsep h).isInfix
      · exact .inr h
  | cons x a ih =>
      rcases List.infix_cons_iff.1 h with h | h
      · exact .inl (prefix_of_prefix_append_cons (a := x :: a) hsep h).isInfix
      · exact (ih h).imp List.infix_cons id

/-- An occurrence does not start in a part that lacks its first element. -/
theorem infix_of_infix_append {first : α} {rest : List α} (hfirst : first ∉ a)
    (h : first :: rest <:+: a ++ b) : first :: rest <:+: b := by
  induction a with
  | nil => exact h
  | cons x a ih =>
      rcases List.infix_cons_iff.1 h with h | h
      · obtain ⟨rfl, -⟩ := List.cons_prefix_cons.1 h
        exact absurd List.mem_cons_self hfirst
      · exact ih (fun hmem => hfirst (List.mem_cons_of_mem _ hmem)) h

/-- A needle as long as the middle part occurs only as that part, when its first element is not in
the part before and the part after is empty or a separator and too short. -/
theorem infix_append_append_iff {before middle after : List α}
    (hfirst : ∀ x ∈ needle.head?, x ∉ before) (hlong : middle.length ≤ needle.length)
    (hafter : after = [] ∨ ∃ rest, after = sep :: rest ∧ rest.length < needle.length)
    (hsep : sep ∉ needle) : needle <:+: before ++ middle ++ after ↔ middle = needle := by
  constructor
  · intro h
    have hbody : needle <:+: before ++ middle := by
      rcases hafter with rfl | ⟨rest, rfl, hshort⟩
      · rwa [List.append_nil] at h
      · rcases infix_of_infix_append_cons hsep h with h | h
        · exact h
        · exact absurd h.length_le (by omega)
    have hmiddle : needle <:+: middle := by
      cases needle with
      | nil => exact List.nil_infix
      | cons first rest => exact infix_of_infix_append (hfirst first rfl) hbody
    exact (hmiddle.eq_of_length_le hlong).symm
  · rintro rfl
    exact List.infix_append _ _ _

theorem infix_of_infix_intercalate {parts : List (List α)} (hneedle : needle ≠ [])
    (hsep : sep ∉ needle) (h : needle <:+: List.intercalate [sep] parts) :
    ∃ part ∈ parts, needle <:+: part := by
  induction parts with
  | nil => exact absurd (List.infix_nil.1 h) hneedle
  | cons part parts ih =>
      cases parts with
      | nil => exact ⟨part, List.mem_cons_self, by simpa using h⟩
      | cons next parts =>
          rw [List.intercalate_cons_cons, List.append_assoc] at h
          rcases infix_of_infix_append_cons hsep h with h | h
          · exact ⟨part, List.mem_cons_self, h⟩
          · obtain ⟨found, hfound, h⟩ := ih h
            exact ⟨found, List.mem_cons_of_mem _ hfound, h⟩

/-- The first piece of a split is a prefix, since further elements may be put before it. -/
theorem exists_splitOnP_eq_cons (p : α → Bool) (xs : List α) :
    ∃ first others, xs.splitOnP p = first :: others ∧ first <+: xs ∧
      ∀ other ∈ others, other <:+: xs := by
  induction xs with
  | nil => exact ⟨[], [], by simp, List.prefix_rfl, by simp⟩
  | cons x xs ih =>
      obtain ⟨first, others, heq, hfirst, hothers⟩ := ih
      rw [List.splitOnP_cons_eq_if_modifyHead, heq]
      split
      · refine ⟨[], first :: others, rfl, List.nil_prefix, fun other hother => ?_⟩
        rcases List.mem_cons.1 hother with rfl | hother
        · exact List.infix_cons hfirst.isInfix
        · exact List.infix_cons (hothers other hother)
      · exact ⟨x :: first, others, rfl, List.cons_prefix_cons.2 ⟨rfl, hfirst⟩,
          fun other hother => List.infix_cons (hothers other hother)⟩

theorem infix_of_mem_splitOnP {p : α → Bool} {xs piece : List α} (h : piece ∈ xs.splitOnP p) :
    piece <:+: xs := by
  obtain ⟨first, others, heq, hfirst, hothers⟩ := exists_splitOnP_eq_cons p xs
  rw [heq] at h
  rcases List.mem_cons.1 h with rfl | h
  · exact hfirst.isInfix
  · exact hothers piece h

end Infixes

/-! ## Removing a needle -/

section Remove

variable {α : Type u} [DecidableEq α] {needle : List α}

/-- The text without the occurrences of the needle, from left to right and without overlap. The
first argument counts the elements of the last occurrence that are still to be dropped. -/
def removeFrom (needle : List α) : ℕ → List α → List α
  | _, [] => []
  -- inside the last occurrence
  | skip + 1, _ :: rest => removeFrom needle skip rest
  | 0, c :: rest =>
      if needle <+: c :: rest then removeFrom needle (needle.length - 1) rest
      else c :: removeFrom needle 0 rest

/-- The text without the occurrences of the needle, found from left to right. -/
def remove (needle text : List α) : List α := removeFrom needle 0 text

theorem removeFrom_length_append (part text : List α) :
    removeFrom needle part.length (part ++ text) = remove needle text := by
  induction part with
  | nil => rfl
  | cons x part ih =>
      rw [List.length_cons, List.cons_append, removeFrom]
      exact ih

/-- An occurrence in front goes first. -/
theorem remove_append (h : needle ≠ []) (text : List α) :
    remove needle (needle ++ text) = remove needle text := by
  obtain ⟨first, rest, rfl⟩ := List.exists_cons_of_ne_nil h
  rw [remove, List.cons_append, removeFrom, if_pos (by simp), List.length_cons,
    Nat.add_sub_cancel]
  exact removeFrom_length_append rest text

theorem length_removeFrom_le (needle : List α) (skip : ℕ) (text : List α) :
    (removeFrom needle skip text).length ≤ text.length := by
  induction text generalizing skip with
  | nil => simp [removeFrom]
  | cons c rest ih =>
      cases skip with
      | succ skip => exact (ih skip).trans (Nat.le_succ _)
      | zero =>
          rw [removeFrom]
          split
          · exact (ih _).trans (Nat.le_succ _)
          · exact Nat.succ_le_succ (ih 0)

/-- What has an occurrence gets shorter. -/
theorem length_remove_lt {text : List α} (hneedle : needle ≠ []) (h : needle <:+: text) :
    (remove needle text).length < text.length := by
  rw [remove]
  induction text with
  | nil => exact absurd (List.infix_nil.1 h) hneedle
  | cons c rest ih =>
      rw [removeFrom]
      split
      · exact Nat.lt_succ_of_le (length_removeFrom_le needle _ rest)
      · next hnot =>
          have hrest := (List.infix_cons_iff.1 h).resolve_left hnot
          exact Nat.succ_lt_succ (ih hrest)

theorem remove_of_not_infix {text : List α} (h : ¬ needle <:+: text) :
    remove needle text = text := by
  rw [remove]
  induction text with
  | nil => rfl
  | cons c rest ih =>
      rw [List.infix_cons_iff, not_or] at h
      rw [removeFrom, if_neg h.1, ih h.2]

theorem remove_eq_self_iff {text : List α} (hneedle : needle ≠ []) :
    remove needle text = text ↔ ¬ needle <:+: text := by
  constructor
  · intro heq hinfix
    have hlt := length_remove_lt hneedle hinfix
    rw [heq] at hlt
    exact lt_irrefl _ hlt
  · exact remove_of_not_infix

end Remove

/-! ## Text tools -/

/-- The fields between characters of a class, empty ones left out. -/
def words (blank : Char → Bool) (text : List Char) : List (List Char) :=
  (text.splitOnP blank).filter fun word => !word.isEmpty

/-- The matches of a pattern on a line, from left to right and without overlap. `matchAt` gives the
length of the match at the start of a text. The first argument counts the characters of the last
match that are still to be passed over. -/
def matchesFrom (matchAt : List Char → Option ℕ) : ℕ → List Char → List (List Char)
  | _, [] => []
  -- inside the last match
  | skip + 1, _ :: rest => matchesFrom matchAt skip rest
  | 0, c :: rest =>
      match matchAt (c :: rest) with
      -- the character at hand is the first of the match
      | some n => (c :: rest).take n :: matchesFrom matchAt (n - 1) rest
      | none => matchesFrom matchAt 0 rest

/-- `grep -o` on one line. -/
def grepOnly (matchAt : List Char → Option ℕ) (line : List Char) : List (List Char) :=
  matchesFrom matchAt 0 line

/-- `cut -d sep -f2` on one line, which is printed whole when it lacks the separator. -/
def cutSecond (sep : Char) (line : List Char) : List Char :=
  match line.splitOn sep with
  | _ :: second :: _ => second
  | _ => line

/-- What a command substitution keeps of printed lines. -/
def substituted (lines : List (List Char)) : List Char :=
  (List.intercalate ['\n'] lines).rdropWhile (· = '\n')

theorem infix_of_mem_words {blank : Char → Bool} {text word : List Char}
    (h : word ∈ words blank text) : word <:+: text :=
  infix_of_mem_splitOnP (List.mem_filter.1 h).1

/-- A search finds nothing in a text that lacks the first part of its pattern. -/
theorem grepOnly_eq_nil {matchAt : List Char → Option ℕ} {needle line : List Char}
    (hmatch : ∀ text n, matchAt text = some n → needle <+: text) (h : ¬ needle <:+: line) :
    grepOnly matchAt line = [] := by
  rw [grepOnly]
  induction line with
  | nil => rfl
  | cons c rest ih =>
      rw [List.infix_cons_iff, not_or] at h
      have hnone : matchAt (c :: rest) = none := by
        cases hn : matchAt (c :: rest) with
        | none => rfl
        | some n => exact absurd (hmatch _ n hn) h.1
      rw [matchesFrom]
      rw [hnone]
      exact ih h.2

end TrojanDetection.Library.TextSearch
