import TrojanDetection.Library.Dict
import TrojanDetection.Library.Sampling
import Mathlib.Data.List.Dedup

/-!
# File trees

Directories and files by path, where a path is the list of names that lead to it. `makedirs` and
`save` add to a tree; `listdir` gives the names directly below a directory, in an order of the
system's choosing. What lies deeper does not appear in a listing (`mem_children_iff`).
-/

set_option autoImplicit false

namespace TrojanDetection.Library

open TrojanDetection.Library.Sampling

universe u v

/-- The directories of a tree, and its files with their contents. -/
structure FileTree (ν : Type u) (ι : Type v) where
  dirs : List (List ν)
  files : Dict (List ν) ι

namespace FileTree

variable {ν : Type u} {ι : Type v} [DecidableEq ν]

/-- The tree without directories and files. -/
def empty : FileTree ν ι := ⟨[], Dict.empty⟩

/-- A directory with all its parents; those that exist stay. -/
def makedirs (t : FileTree ν ι) (path : List ν) : FileTree ν ι :=
  { t with dirs := t.dirs ++ path.inits.filter fun dir => dir ≠ [] && !(dir ∈ t.dirs) }

/-- A file with its content; an older file of the path is replaced. -/
def save (t : FileTree ν ι) (path : List ν) (content : ι) : FileTree ν ι :=
  { t with files := t.files.insert path content }

/-- A loop of saves keeps the directories and makes the assignments one after the other. -/
theorem foldl_save {α : Type u} (t : FileTree ν ι) (path : α → List ν) (content : α → ι)
    (xs : List α) : xs.foldl (fun t x => t.save (path x) (content x)) t =
      { t with files := t.files.insertAll (xs.map fun x => (path x, content x)) } := by
  induction xs generalizing t with
  | nil => rfl
  | cons x xs ih =>
      rw [List.foldl_cons, ih]
      rfl

/-- The name of a path that lies directly below a directory. -/
def nameIn (dir path : List ν) : Option ν := if path.dropLast = dir then path.getLast? else none

theorem nameIn_eq_some_iff {dir path : List ν} {name : ν} :
    nameIn dir path = some name ↔ path = dir ++ [name] := by
  rcases List.eq_nil_or_concat path with rfl | ⟨init, last, rfl⟩
  · simp [nameIn]
  · simp only [nameIn, List.concat_eq_append, List.dropLast_concat, List.getLast?_concat]
    constructor
    · intro h
      split at h
      · next hinit =>
          rw [hinit, Option.some.inj h]
      · cases h
    · intro h
      obtain ⟨rfl, hlast⟩ := List.append_inj' h rfl
      rw [if_pos rfl, List.singleton_inj.1 hlast]

/-- The names directly below a directory. -/
def children (t : FileTree ν ι) (dir : List ν) : List ν :=
  ((t.dirs ++ t.files.keys).filterMap (nameIn dir)).dedup

theorem mem_children_iff {t : FileTree ν ι} {dir : List ν} {name : ν} :
    name ∈ t.children dir ↔ dir ++ [name] ∈ t.dirs ∨ dir ++ [name] ∈ t.files.keys := by
  simp only [children, List.mem_dedup, List.mem_filterMap, nameIn_eq_some_iff, List.mem_append]
  constructor
  · rintro ⟨path, hpath, rfl⟩
    exact hpath
  · intro h
    exact ⟨dir ++ [name], h, rfl⟩

/-- The listing of a directory, in some order. -/
def listdir (order : Shuffle ν) (t : FileTree ν ι) (dir : List ν) : List ν :=
  order.run (t.children dir)

/-- A listing has the names below the directory, each once. -/
theorem perm_listdir {t : FileTree ν ι} {dir : List ν} {names : List ν} (order : Shuffle ν)
    (hnodup : names.Nodup) (h : ∀ name, name ∈ t.children dir ↔ name ∈ names) :
    (listdir order t dir).Perm names := by
  apply (order.perm _).trans
  exact (List.perm_ext_iff_of_nodup (List.nodup_dedup _) hnodup).2 h

end FileTree

end TrojanDetection.Library
