import TrojanDetection.Python.Basic
import TrojanDetection.Python.Path

/-!
# Digits of a text (`str.isdigit`, `int`)

Python calls more characters digits than `int` can read: superscripts and enclosed numbers are
digits without being decimal. The tables are those of Python 3.11 (Unicode 14.0), the version of the
image in the `Dockerfile`. `returns_int_iff` says which texts of digits `int` reads, and
`int_decimal` that it reads back what an f-string writes.
-/

set_option autoImplicit false

namespace TrojanDetection.Python

/-! ## Characters -/

/-- The decimal zeros, each of which is followed by the other nine digits of its script. -/
def decimalZeros : List ℕ :=
  [0x30, 0x660, 0x6f0, 0x7c0, 0x966, 0x9e6, 0xa66, 0xae6, 0xb66, 0xbe6, 0xc66, 0xce6, 0xd66, 0xde6,
    0xe50, 0xed0, 0xf20, 0x1040, 0x1090, 0x17e0, 0x1810, 0x1946, 0x19d0, 0x1a80, 0x1a90, 0x1b50,
    0x1bb0, 0x1c40, 0x1c50, 0xa620, 0xa8d0, 0xa900, 0xa9d0, 0xa9f0, 0xaa50, 0xabf0, 0xff10,
    0x104a0, 0x10d30, 0x11066, 0x110f0, 0x11136, 0x111d0, 0x112f0, 0x11450, 0x114d0, 0x11650,
    0x116c0, 0x11730, 0x118e0, 0x11950, 0x11c50, 0x11d50, 0x11da0, 0x16a60, 0x16ac0, 0x16b50,
    0x1d7ce, 0x1d7d8, 0x1d7e2, 0x1d7ec, 0x1d7f6, 0x1e140, 0x1e2f0, 0x1e950, 0x1fbf0]

/-- The first and the last of each run of digits that are not decimal. -/
def otherDigits : List (ℕ × ℕ) :=
  [(0xb2, 0xb3), (0xb9, 0xb9), (0x1369, 0x1371), (0x19da, 0x19da), (0x2070, 0x2070),
    (0x2074, 0x2079), (0x2080, 0x2089), (0x2460, 0x2468), (0x2474, 0x247c), (0x2488, 0x2490),
    (0x24ea, 0x24ea), (0x24f5, 0x24fd), (0x24ff, 0x24ff), (0x2776, 0x277e), (0x2780, 0x2788),
    (0x278a, 0x2792), (0x10a40, 0x10a43), (0x10e60, 0x10e68), (0x11052, 0x1105a),
    (0x1f100, 0x1f10a)]

/-- The value of a decimal character. -/
def decimalValue (c : Char) : Option ℕ :=
  (decimalZeros.find? fun first => first ≤ c.toNat && c.toNat < first + 10).map (c.toNat - ·)

/-- `c.isdecimal()`. -/
def isDecimalChar (c : Char) : Bool := (decimalValue c).isSome

/-- `c.isdigit()`. -/
def isDigitChar (c : Char) : Bool :=
  isDecimalChar c || otherDigits.any fun run => run.1 ≤ c.toNat && c.toNat ≤ run.2

theorem decimalValue_of_isDigit {c : Char} (h : c.isDigit = true) :
    decimalValue c = some (c.toNat - '0'.toNat) := by
  rw [Char.isDigit, Bool.and_eq_true, decide_eq_true_iff, decide_eq_true_iff] at h
  have hlow : 0x30 ≤ c.toNat := h.1
  have hhigh : c.toNat ≤ 0x39 := h.2
  -- the first entry of the table already fits
  have hfind : decimalZeros.find? (fun first => first ≤ c.toNat && c.toNat < first + 10) =
      some 0x30 := by
    rw [decimalZeros, List.find?_cons_of_pos]
    simp only [Bool.and_eq_true, decide_eq_true_eq]
    omega
  rw [decimalValue, hfind]
  rfl

theorem isDecimalChar_of_isDigit {c : Char} (h : c.isDigit = true) : isDecimalChar c = true := by
  rw [isDecimalChar, decimalValue_of_isDigit h]
  rfl

/-! ## Texts -/

/-- `text.isdigit()`. -/
def isdigit (text : Path) : Bool := !text.isEmpty && text.all isDigitChar

/-- The value of a text of decimal characters. -/
def decimalTextValue (text : Path) : ℕ :=
  text.foldl (fun value c => 10 * value + (decimalValue c).getD 0) 0

/-- `int(text)` for a text without blanks, sign and underscores. -/
def int (text : Path) : Except PyError ℤ :=
  -- the limit is tested on the leading digits, before what follows them is looked at
  let digits := text.takeWhile isDecimalChar
  if 4300 < digits.length then
    .error (.valueError "Exceeds the limit (4300 digits) for integer string conversion")
  else if digits.length < text.length then
    .error (.valueError "invalid literal for int() with base 10")
  else .ok (decimalTextValue text : ℤ)

theorem length_takeWhile_lt_iff {p : Char → Bool} {text : Path} :
    (text.takeWhile p).length < text.length ↔ ¬ ∀ c ∈ text, p c = true := by
  induction text with
  | nil => simp
  | cons c text ih =>
      cases hc : p c with
      | true => simp only [List.takeWhile_cons, hc, if_true, List.length_cons,
          Nat.add_lt_add_iff_right, ih, List.forall_mem_cons, true_and]
      | false => simp [hc]

/-- The texts that can be read are those of at most 4300 decimal characters. -/
theorem returns_int_iff {text : Path} :
    returns (int text) ↔ (∀ c ∈ text, isDecimalChar c = true) ∧ text.length ≤ 4300 := by
  by_cases hall : ∀ c ∈ text, isDecimalChar c = true
  · rw [int, List.takeWhile_eq_self_iff.2 hall, if_neg (lt_irrefl _), and_iff_right hall]
    by_cases hlong : 4300 < text.length
    · rw [if_pos hlong]
      exact iff_of_false (fun ⟨value, h⟩ => by cases h) (not_le.2 hlong)
    · rw [if_neg hlong]
      exact iff_of_true (returns_ok _) (not_lt.1 hlong)
  · rw [int, if_pos (length_takeWhile_lt_iff.2 hall)]
    refine iff_of_false ?_ fun h => hall h.1
    rintro ⟨value, h⟩
    split at h <;> cases h

theorem int_eq_ok {text : Path} {value : ℤ} (h : int text = .ok value) :
    value = decimalTextValue text := by
  simp only [int] at h
  split at h
  · cases h
  · split at h
    · cases h
    · cases h
      rfl

theorem isDigit_of_mem_decimal {n : ℕ} {c : Char} (h : c ∈ decimal n) : c.isDigit = true := by
  rw [decimal, Nat.toList_repr] at h
  exact Nat.isDigit_of_mem_toDigits (b := 10) (by decide) (by decide) h

theorem decimal_ne_nil (n : ℕ) : decimal n ≠ [] := by
  rw [decimal, Nat.toList_repr]
  exact Nat.toDigits_ne_nil

theorem isdigit_decimal (n : ℕ) : isdigit (decimal n) = true := by
  rw [isdigit, Bool.and_eq_true, List.all_eq_true]
  refine ⟨by simp [decimal_ne_nil], ?_⟩
  intro c hc
  rw [isDigitChar, isDecimalChar_of_isDigit (isDigit_of_mem_decimal hc), Bool.true_or]

/-- On the ten digits of the Latin script the value is that of core. -/
theorem foldl_decimalValue_eq {text : Path} (h : ∀ c ∈ text, c.isDigit = true) (value : ℕ) :
    text.foldl (fun value c => 10 * value + (decimalValue c).getD 0) value =
      Nat.ofDigitChars 10 text value := by
  induction text generalizing value with
  | nil => rfl
  | cons c text ih =>
      rw [List.forall_mem_cons] at h
      rw [List.foldl_cons, decimalValue_of_isDigit h.1, Option.getD_some, ih h.2]
      rfl

theorem decimalTextValue_decimal (n : ℕ) : decimalTextValue (decimal n) = n := by
  rw [decimalTextValue, foldl_decimalValue_eq fun c => isDigit_of_mem_decimal, decimal,
    Nat.toList_repr]
  exact Nat.ofDigitChars_toDigits (by decide) (by decide)

/-- What is written in decimal is read back, up to the limit. -/
theorem int_decimal {n : ℕ} (h : (decimal n).length ≤ 4300) : int (decimal n) = .ok n := by
  have hall : ∀ c ∈ decimal n, isDecimalChar c = true := fun c hc =>
    isDecimalChar_of_isDigit (isDigit_of_mem_decimal hc)
  obtain ⟨value, hvalue⟩ := returns_int_iff.2 ⟨hall, h⟩
  rw [hvalue, int_eq_ok hvalue, decimalTextValue_decimal]

/-- A text with another character is no text of digits. -/
theorem isdigit_eq_false {text : Path} {c : Char} (hc : c ∈ text) (h : isDigitChar c = false) :
    isdigit text = false := by
  rw [isdigit, Bool.and_eq_false_iff]
  right
  rw [List.all_eq_false]
  exact ⟨c, hc, by simp [h]⟩

end TrojanDetection.Python
