import TrojanDetection.Library.TextSearch
import TrojanDetection.Library.Walk
import Mathlib.Data.List.DropRight

/-!
# File names

The parts of `os.path` and of string matching that the service uses on file names, and the
directory that a path leads to.
-/

set_option autoImplicit false

namespace TrojanDetection.Python

open TrojanDetection.Library
open TrojanDetection.Library.Walk

/-- A file name or path. -/
abbrev Path := List Char

/-- `name.endswith(suffix)`. -/
def endsWith (name suffix : Path) : Bool := suffix.isSuffixOf name

/-- The part after the last slash. -/
def basename (path : Path) : Path := path.rtakeWhile (· ≠ '/')

/-- `os.path.splitext(path)[1]`: the last dot of the base name and what follows it, where leading
dots of the base name do not count. -/
def extension (path : Path) : Path :=
  let name := (basename path).dropWhile (· = '.')
  if '.' ∈ name then '.' :: name.rtakeWhile (· ≠ '.') else []

/-- `os.path.join(directory, path)` for a directory without a slash at its end: an absolute path
replaces the directory. -/
def joinPath (directory path : Path) : Path :=
  match path with
  | '/' :: _ => path
  | _ => directory ++ '/' :: path

/-- A name without a slash is put into the directory. -/
theorem joinPath_of_not_mem (directory : Path) {name : Path} (h : '/' ∉ name) :
    joinPath directory name = directory ++ '/' :: name := by
  cases name with
  | nil => rfl
  | cons c name =>
      have hc : c ≠ '/' := fun hc => h (hc ▸ List.mem_cons_self)
      simp only [joinPath]
      split
      · next heq => exact absurd (List.cons.inj heq).1 hc
      · rfl

/-- `path.lower()`. Only letters of the Latin alphabet are changed here: no other character becomes
part of a word or suffix that the service looks for. -/
def lower (path : Path) : Path := path.map Char.toLower

/-- `word in text`. -/
def contains (text word : Path) : Bool := word <:+: text

theorem endsWith_iff {name suffix : Path} : endsWith name suffix = true ↔ suffix <:+ name :=
  List.isSuffixOf_iff_suffix

theorem contains_iff {text word : Path} : contains text word = true ↔ word <:+: text :=
  decide_eq_true_iff

/-- The digits of a number, as an f-string writes them. -/
def decimal (n : ℕ) : Path := (Nat.repr n).toList

theorem decimal_injective : Function.Injective decimal := by
  intro m n h
  rw [decimal, decimal, Nat.toList_repr, Nat.toList_repr] at h
  have hm := Nat.ofDigitChars_toDigits (b := 10) (n := m) (by decide) (by decide)
  rw [h, Nat.ofDigitChars_toDigits (by decide) (by decide)] at hm
  exact hm.symm

theorem lower_append (a b : Path) : lower (a ++ b) = lower a ++ lower b := List.map_append

/-- A text with one ending has no other ending that is at least as long and does not end alike. -/
theorem not_endsWith_append {a ending other : Path} (hlen : ending.length ≤ other.length)
    (h : ¬ ending <:+ other) : endsWith (a ++ ending) other = false := by
  rw [← Bool.not_eq_true, endsWith_iff]
  intro hother
  exact h (List.suffix_of_suffix_length_le (List.suffix_append a ending) hother hlen)

theorem basename_append (a : Path) {b : Path} (hb : '/' ∉ b) :
    basename (a ++ b) = basename a ++ b := by
  have hall : ∀ c ∈ b.reverse, decide (c ≠ '/') = true := by
    intro c hc
    rw [decide_eq_true_iff]
    rintro rfl
    exact hb (List.mem_reverse.1 hc)
  rw [basename, List.rtakeWhile, List.reverse_append, List.takeWhile_append_of_pos hall,
    List.reverse_append, List.reverse_reverse]
  rfl

/-- The extension of a name that ends in a dot and letters is that ending, unless only dots stand
before the letters. -/
theorem extension_of_endsWith {name ending : Path} (h : '.' :: ending <:+ name)
    (hdot : '.' ∉ ending) (hslash : '/' ∉ ending) :
    extension name = '.' :: ending ∨ extension name = [] := by
  obtain ⟨a, rfl⟩ := h
  have hbase : basename (a ++ '.' :: ending) = basename a ++ '.' :: ending := by
    apply basename_append
    simpa using hslash
  have hletters : ∀ c ∈ ending.reverse, decide (c ≠ '.') = true := by
    intro c hc
    rw [decide_eq_true_iff]
    rintro rfl
    exact hdot (List.mem_reverse.1 hc)
  simp only [extension, hbase, List.dropWhile_append]
  split
  · -- the leading dots reach to the letters
    right
    have hdrop : ('.' :: ending).dropWhile (· = '.') = ending.dropWhile (· = '.') := by
      rw [List.dropWhile_cons_of_pos (by decide)]
    rw [hdrop, if_neg]
    intro hmem
    exact hdot ((List.dropWhile_sublist _).mem hmem)
  · left
    rw [if_pos (by simp), List.rtakeWhile, List.reverse_append, List.reverse_cons,
      List.append_assoc, List.takeWhile_append_of_pos hletters]
    simp

/-! ## Where a path leads -/

/-- The move that a component of a path makes. -/
def component : Path → Move Path
  | [] => .stay
  | ['.'] => .stay
  | ['.', '.'] => .up
  | name => .down name

/-- The moves of a path, by its components. -/
def moves (path : Path) : List (Move Path) := (path.splitOnP (· = '/')).map component

/-- `os.path.isabs`. -/
def isAbsolute (path : Path) : Bool := path.head? = some '/'

/-- The directories and the name that a path resolves to in the directory `cwd`. -/
def resolve (cwd : List Path) (path : Path) : List Path :=
  walk (if isAbsolute path then [] else cwd) (moves path)

/-- A component before a slash makes its move first. -/
theorem moves_append_slash {name : Path} (hname : '/' ∉ name) (rest : Path) :
    moves (name ++ '/' :: rest) = component name :: moves rest := by
  have hclean : ∀ c ∈ name, decide (c = '/') = false := by
    intro c hc
    rw [decide_eq_false_iff_not]
    rintro rfl
    exact hname hc
  rw [moves, List.splitOnP_append_cons_of_forall_mem hclean '/' (by decide), List.map_cons, moves]

/-- A path is its base name, or a directory, a slash and its base name. -/
theorem eq_basename_or (path : Path) :
    path = basename path ∨ ∃ directory, path = directory ++ '/' :: basename path := by
  induction path using List.reverseRecOn with
  | nil => exact .inl rfl
  | append_singleton path c ih =>
      by_cases hc : c = '/'
      · -- a slash at the end: the base name is empty
        have hbase : basename (path ++ [c]) = [] :=
          List.rtakeWhile_concat_neg _ _ _ (by simp [hc])
        exact .inr ⟨path, by rw [hbase, hc]⟩
      · have hbase : basename (path ++ [c]) = basename path ++ [c] :=
          List.rtakeWhile_concat_pos _ _ _ (by simp [hc])
        rw [hbase]
        rcases ih with h | ⟨directory, h⟩
        · exact .inl (congrArg (· ++ [c]) h)
        · refine .inr ⟨directory, ?_⟩
          rw [← List.cons_append, ← List.append_assoc, ← h]

/-- The last move of a path is that of its base name. -/
theorem exists_moves_eq (path : Path) :
    ∃ before, moves path = before ++ [component (basename path)] := by
  have hclean : ∀ c ∈ basename path, decide (c = '/') = false := by
    intro c hc
    simpa using List.mem_rtakeWhile_imp hc
  have hbase : (basename path).splitOnP (· = '/') = [basename path] :=
    List.splitOnP_eq_singleton hclean
  rcases eq_basename_or path with h | ⟨directory, h⟩
  · refine ⟨[], ?_⟩
    conv_lhs => rw [h, moves, hbase]
    rfl
  · refine ⟨moves directory, ?_⟩
    conv_lhs => rw [h, moves, List.splitOnP_append_cons _ _ (by decide), hbase, List.map_append]
    rfl

end TrojanDetection.Python
