import TrojanDetection.Python.Basic
import Mathlib.Data.Rat.Defs
import Mathlib.Algebra.Order.Ring.Rat
import Mathlib.Data.List.Basic
import Mathlib.Tactic.Linarith

/-!
# JSON documents as `json.load` returns them

`json.load` accepts the literals `NaN`, `Infinity` and `-Infinity`, keeps integers apart from
floats and booleans apart from both, and returns strings that may hold lone surrogates. A finite
float is an exact rational. The operations are those of Python on such values: `dict.get`, the
format `.4f` and the comparison with a float.
-/

set_option autoImplicit false

namespace TrojanDetection.Python

/-- A Unicode code point, surrogates included. -/
abbrev CodePoint := Fin 0x110000

/-- A Python string. -/
abbrev PyStr := List CodePoint

/-- The code point of a character. -/
def codePoint (c : Char) : CodePoint := Fin.ofNat 0x110000 c.toNat

/-- The Python string of a literal. -/
def pyStr (s : String) : PyStr := s.toList.map codePoint

theorem val_codePoint (c : Char) : (codePoint c).val = c.toNat := by
  have hvalid := c.valid
  simp only [UInt32.isValidChar, Nat.isValidChar] at hvalid
  have hlt : c.toNat < 0x110000 := by
    show c.val.toNat < 0x110000
    omega
  exact Nat.mod_eq_of_lt hlt

theorem pyStr_injective : Function.Injective pyStr := by
  intro a b h
  refine String.toList_inj.1 (List.map_injective_iff.2 (fun c d hcd => ?_) h)
  have hval := congrArg Fin.val hcd
  rw [val_codePoint, val_codePoint] at hval
  exact Char.toNat_inj.1 hval

/-- Looking up a literal key among literal keys. -/
theorem lookup_map_pyStr {β : Type} (key : String) (fields : List (String × β)) :
    (fields.map fun f => (pyStr f.1, f.2)).lookup (pyStr key) = fields.lookup key := by
  induction fields with
  | nil => rfl
  | cons f fs ih =>
      have hkey : (pyStr key == pyStr f.1) = (key == f.1) := by
        rw [Bool.eq_iff_iff, beq_iff_eq, beq_iff_eq]
        exact pyStr_injective.eq_iff
      rw [List.map_cons, List.lookup_cons, List.lookup_cons, ih, hkey]

/-- A Python float. -/
inductive PyFloat
  | finite (q : ℚ)
  | nan
  | posInf
  | negInf
  deriving DecidableEq, Repr

/-- A value returned by `json.load`. -/
inductive Json
  | null
  | bool (b : Bool)
  | int (n : ℤ)
  | float (x : PyFloat)
  | str (s : PyStr)
  | arr (items : List Json)
  | obj (fields : List (PyStr × Json))

namespace Json

/-- The value of a field, or a default. -/
def field (key : String) (default : Json) (fields : List (PyStr × Json)) : Json :=
  (fields.lookup (pyStr key)).getD default

/-- `value.get(key, default)`. -/
def get (value : Json) (key : String) (default : Json) : Except PyError Json :=
  match value with
  | .obj fields => .ok (field key default fields)
  | _ => .error .attributeError

/-- Integers up to this size convert to a float. -/
def maxFloatInt : ℕ := 2 ^ 1024 - 2 ^ 970

/-- Whether `f"{value:.4f}"` can be formatted. Booleans are integers here. -/
def formatFixed : Json → Except PyError Unit
  | .bool _ => .ok ()
  | .int n => if n.natAbs < maxFloatInt then .ok () else .error .overflowError
  | .float _ => .ok ()
  | .str _ => .error (.valueError "Unknown format code 'f' for object of type 'str'")
  | .null => .error (.typeError "unsupported format string passed to NoneType.__format__")
  | .arr _ => .error (.typeError "unsupported format string passed to list.__format__")
  | .obj _ => .error (.typeError "unsupported format string passed to dict.__format__")

/-- The integer that a Python boolean is. -/
def boolValue (b : Bool) : ℚ := if b then 1 else 0

/-- `value > threshold` for a finite float `threshold`. Every comparison with NaN is false. -/
def greaterThan (threshold : ℚ) : Json → Except PyError Bool
  | .bool b => .ok (boolValue b > threshold)
  | .int n => .ok ((n : ℚ) > threshold)
  | .float (.finite q) => .ok (q > threshold)
  | .float .nan => .ok false
  | .float .posInf => .ok true
  | .float .negInf => .ok false
  | _ => .error (.typeError "'>' not supported between instances")

/-- The value is a number (not a boolean, not NaN) at most `threshold`. -/
def NumberAtMost (threshold : ℚ) : Json → Prop
  | .int n => (n : ℚ) ≤ threshold
  | .float (.finite q) => q ≤ threshold
  | .float .negInf => True
  | _ => False

theorem get_eq_ok_iff {key : String} {default v j : Json} :
    j.get key default = .ok v ↔ ∃ fields, j = .obj fields ∧ field key default fields = v := by
  cases j with
  | obj fields =>
      constructor
      · intro h
        cases h
        exact ⟨fields, rfl, rfl⟩
      · rintro ⟨fields', h, rfl⟩
        cases h
        rfl
  | null => simp [get]
  | bool b => simp [get]
  | int n => simp [get]
  | float x => simp [get]
  | str s => simp [get]
  | arr items => simp [get]

end Json

end TrojanDetection.Python
