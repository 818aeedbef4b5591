import TrojanDetection.Library.TextSearch
import Mathlib.Data.List.GetD

/-!
# JSON text of flat objects

The compact rendering of an object whose values are strings, and where the text `"key":` can occur
in it: only as a key, whatever the values are, because a quote inside a value is escaped.
-/

set_option autoImplicit false

namespace TrojanDetection.Library.JsonText

open TrojanDetection.Library.TextSearch

/-! ## Rendering -/

/-- A lower-case hexadecimal digit. -/
def hexDigit (n : ℕ) : Char := "0123456789abcdef".toList.getD n '0'

/-- The characters with an escape of two characters. -/
def shortEscapes : List (Char × Char) := [
  ('"', '"'), ('\\', '\\'), ('\n', 'n'), ('\r', 'r'), ('\t', 't'), ('\x0c', 'f'), ('\x08', 'b')]

/-- The characters a string literal has for one character: quotes, backslashes and control
characters are escaped, all others stand for themselves. -/
def escapeChar (c : Char) : List Char :=
  match shortEscapes.lookup c with
  | some e => ['\\', e]
  | none =>
      if c.toNat < 32 then
        ['\\', 'u', '0', '0', hexDigit (c.toNat / 16), hexDigit (c.toNat % 16)]
      else [c]

/-- The characters one after the other, escaped. -/
def escape (s : List Char) : List Char := s.flatMap escapeChar

/-- A string literal. -/
def quote (s : List Char) : List Char := '"' :: escape s ++ ['"']

/-- The members of an object, separated by commas and without blanks. -/
def renderMembers : List (List Char × List Char) → List Char
  | [] => []
  | [(key, value)] => quote key ++ ':' :: quote value
  | (key, value) :: members => quote key ++ ':' :: quote value ++ ',' :: renderMembers members

/-- An object whose values are strings. -/
def renderObject (members : List (List Char × List Char)) : List Char :=
  '\x7b' :: renderMembers members ++ ['\x7d']

theorem escape_cons_append (c : Char) (s rest : List Char) :
    escape (c :: s) ++ rest = escapeChar c ++ (escape s ++ rest) := by
  rw [escape, List.flatMap_cons, List.append_assoc]
  rfl

theorem quote_append (s rest : List Char) :
    quote s ++ rest = '"' :: (escape s ++ '"' :: rest) := by
  simp [quote]

/-! ## Escapes -/

theorem hexDigit_ne_quote (n : ℕ) : hexDigit n ≠ '"' := by
  have hdigits : ∀ n < 16, hexDigit n ≠ '"' := by decide
  by_cases hn : n < 16
  · exact hdigits n hn
  · rw [hexDigit]
    rw [List.getD_eq_default _ _ (Nat.not_lt.1 hn)]
    decide

/-- A character stands for itself, or is a quote, or its escape has no quote. -/
theorem escapeChar_cases (c : Char) :
    (escapeChar c = [c] ∧ c ≠ '"' ∧ c ≠ '\\') ∨
      (c = '"' ∧ escapeChar c = ['\\', '"']) ∨
      ∃ rest, escapeChar c = '\\' :: rest ∧ '"' ∉ rest := by
  rw [escapeChar]
  cases hc : shortEscapes.lookup c with
  | some e =>
      have htable : ∀ p ∈ shortEscapes, '"' = p.2 → p.1 = '"' := by decide
      have hmem : (c, e) ∈ shortEscapes := by
        obtain ⟨before, after, hsplit, -⟩ := List.lookup_eq_some_iff.1 hc
        rw [hsplit]
        exact List.mem_append_right _ List.mem_cons_self
      by_cases he : '"' = e
      · exact .inr (.inl ⟨htable _ hmem he, by rw [← he]⟩)
      · exact .inr (.inr ⟨[e], rfl, by simpa using he⟩)
  | none =>
      have hne : ∀ p ∈ shortEscapes, c ≠ p.1 := by
        simpa [List.lookup_eq_none_iff] using hc
      show (if _ then _ else _) = _ ∧ _ ∨ _
      split
      · refine .inr (.inr ⟨_, rfl, ?_⟩)
        simp only [List.mem_cons, List.not_mem_nil, or_false, not_or]
        exact ⟨by decide, by decide, by decide, (hexDigit_ne_quote _).symm,
          (hexDigit_ne_quote _).symm⟩
      · exact .inl ⟨rfl, hne ('"', '"') (by decide), hne ('\\', '\\') (by decide)⟩

theorem quote_not_mem_escape {s : List Char} (h : '"' ∉ s) : '"' ∉ escape s := by
  intro hmem
  obtain ⟨c, hc, hmem⟩ := List.mem_flatMap.1 hmem
  rcases escapeChar_cases c with ⟨heq, hne, -⟩ | ⟨rfl, -⟩ | ⟨rest, heq, hrest⟩
  · rw [heq, List.mem_singleton] at hmem
    exact hne hmem.symm
  · exact h hc
  · rw [heq, List.mem_cons] at hmem
    exact hmem.elim (by decide) hrest

/-! ## Searching for a key -/

/-- The text of a key and its colon. -/
def keyText (name : List Char) : List Char := '"' :: (name ++ ['"', ':'])

/-- Names without the characters that delimit strings and members. -/
def Plain (name : List Char) : Prop := ∀ c ∈ name, c ∉ ['"', '\\', ':', ',', '\x7d']

instance (name : List Char) : Decidable (Plain name) := List.decidableBAll _ name

section Search

variable {name : List Char}

/-- A plain name and a closing quote match the start of an escaped string only as a whole. -/
theorem eq_of_prefix_escape (hname : Plain name) {s u t : List Char}
    (h : name ++ '"' :: u <+: escape s ++ '"' :: t) : name = s ∧ u <+: t := by
  -- the name and the string are read in step; an escape stops the match at its backslash
  induction name generalizing s with
  | nil =>
      cases s with
      | nil => exact ⟨rfl, (List.cons_prefix_cons.1 h).2⟩
      | cons c s =>
          rw [escape_cons_append] at h
          rcases escapeChar_cases c with ⟨heq, hne, -⟩ | ⟨-, heq⟩ | ⟨rest, heq, -⟩ <;>
            rw [heq] at h
          · exact absurd (List.cons_prefix_cons.1 h).1.symm hne
          · exact absurd (List.cons_prefix_cons.1 h).1 (by decide)
          · exact absurd (List.cons_prefix_cons.1 h).1 (by decide)
  | cons n name ih =>
      have hn : n ≠ '"' ∧ n ≠ '\\' := by
        have := hname n List.mem_cons_self
        simp only [List.mem_cons, not_or] at this
        exact ⟨this.1, this.2.1⟩
      cases s with
      | nil => exact absurd (List.cons_prefix_cons.1 h).1 hn.1
      | cons c s =>
          rw [escape_cons_append] at h
          rcases escapeChar_cases c with ⟨heq, -, -⟩ | ⟨-, heq⟩ | ⟨rest, heq, -⟩ <;>
            rw [heq] at h
          · obtain ⟨rfl, htail⟩ := List.cons_prefix_cons.1 h
            obtain ⟨rfl, hu⟩ := ih (fun c hc => hname c (List.mem_cons_of_mem _ hc)) htail
            exact ⟨rfl, hu⟩
          · exact absurd (List.cons_prefix_cons.1 h).1 hn.2
          · exact absurd (List.cons_prefix_cons.1 h).1 hn.2

/-- After a quote that closes a string no key starts. -/
theorem not_prefix_after_quote (hname : Plain name) {d : Char} (hd : d ∈ [':', ',', '\x7d'])
    {rest : List Char} : ¬ keyText name <+: '"' :: d :: rest := by
  intro h
  have htail := (List.cons_prefix_cons.1 h).2
  -- the character after the quote would be the first of the name, or the quote that ends it
  cases name with
  | nil =>
      obtain ⟨rfl, -⟩ := List.cons_prefix_cons.1 htail
      exact absurd hd (by decide)
  | cons n name =>
      obtain ⟨rfl, -⟩ := List.cons_prefix_cons.1 htail
      exact hname n List.mem_cons_self (List.mem_cons_of_mem _ (List.mem_cons_of_mem _ hd))

theorem infix_after_escape (hname : Plain name) {d : Char} (hd : d ∈ [',', '\x7d'])
    {s rest : List Char} (h : keyText name <:+: escape s ++ '"' :: d :: rest) :
    keyText name <:+: d :: rest := by
  induction s with
  | nil =>
      rcases List.infix_cons_iff.1 h with h | h
      · exact absurd h (not_prefix_after_quote hname (List.mem_cons_of_mem _ hd))
      · exact h
  | cons c s ih =>
      rw [escape_cons_append] at h
      rcases escapeChar_cases c with ⟨heq, hne, -⟩ | ⟨-, heq⟩ | ⟨rest', heq, hrest⟩ <;>
        rw [heq] at h
      · exact ih (infix_of_infix_append (by simpa using hne.symm) h)
      · -- a match at an escaped quote would end at the closing quote, before a colon
        have hquote := infix_of_infix_append (a := ['\\']) (by decide) h
        rcases List.infix_cons_iff.1 hquote with hquote | hquote
        · obtain ⟨-, hcolon⟩ := eq_of_prefix_escape hname (List.cons_prefix_cons.1 hquote).2
          obtain ⟨rfl, -⟩ := List.cons_prefix_cons.1 hcolon
          exact absurd hd (by decide)
        · exact ih hquote
      · refine ih (infix_of_infix_append ?_ h)
        rw [List.mem_cons, not_or]
        exact ⟨by decide, hrest⟩

theorem infix_after_value (hname : Plain name) {d : Char} (hd : d ∈ [',', '\x7d'])
    {value rest : List Char} (h : keyText name <:+: quote value ++ d :: rest) :
    keyText name <:+: rest := by
  rw [quote_append] at h
  have hafter : keyText name <:+: d :: rest := by
    rcases List.infix_cons_iff.1 h with h | h
    · obtain ⟨-, hcolon⟩ := eq_of_prefix_escape hname (List.cons_prefix_cons.1 h).2
      obtain ⟨rfl, -⟩ := List.cons_prefix_cons.1 hcolon
      exact absurd hd (by decide)
    · exact infix_after_escape hname hd h
  refine infix_of_infix_append (a := [d]) ?_ hafter
  rintro hquote
  rw [← List.mem_singleton.1 hquote] at hd
  exact absurd hd (by decide)

theorem infix_after_key (hname : Plain name) {key rest : List Char} (hkey : '"' ∉ key)
    (hne : key ≠ name) (h : keyText name <:+: quote key ++ ':' :: rest) :
    keyText name <:+: rest := by
  rw [quote_append] at h
  rcases List.infix_cons_iff.1 h with h | h
  · -- at the opening quote the whole key would be the name
    exact absurd (eq_of_prefix_escape hname (List.cons_prefix_cons.1 h).2).1.symm hne
  · have hclose := infix_of_infix_append (quote_not_mem_escape hkey) h
    rcases List.infix_cons_iff.1 hclose with hclose | hclose
    · exact absurd hclose (not_prefix_after_quote hname (by decide))
    · exact infix_of_infix_append (a := [':']) (by decide) hclose

/-- In the text of a flat object a key is found only if the object has it. -/
theorem not_infix_renderObject (hname : Plain name) {members : List (List Char × List Char)}
    (hmembers : ∀ m ∈ members, '"' ∉ m.1 ∧ m.1 ≠ name) :
    ¬ keyText name <:+: renderObject members := by
  intro h
  have hbody : keyText name <:+: renderMembers members ++ ['\x7d'] :=
    infix_of_infix_append (a := ['\x7b']) (by decide) h
  clear h
  induction members with
  | nil =>
      have hnil := infix_of_infix_append (a := ['\x7d']) (b := []) (by decide) hbody
      exact absurd (List.infix_nil.1 hnil) (List.cons_ne_nil _ _)
  | cons m members ih =>
      obtain ⟨key, value⟩ := m
      obtain ⟨hkey, hne⟩ := hmembers _ List.mem_cons_self
      cases members with
      | nil =>
          rw [renderMembers, List.append_assoc] at hbody
          have hvalue := infix_after_key hname hkey hne hbody
          have hnil := infix_after_value hname (by decide) hvalue
          exact absurd (List.infix_nil.1 hnil) (List.cons_ne_nil _ _)
      | cons next members =>
          simp only [renderMembers, List.append_assoc, List.cons_append] at hbody
          have hvalue := infix_after_key hname hkey hne hbody
          apply ih
          · intro m hm
            exact hmembers m (List.mem_cons_of_mem _ hm)
          · exact infix_after_value hname (by decide) hvalue

end Search

end TrojanDetection.Library.JsonText
