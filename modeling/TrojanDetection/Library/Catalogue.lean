import TrojanDetection.Library.Dict

/-!
# Files described by a key

Files are written one after the other, with an entry in a key or without one. Under each name the
last write counts: it decides the file (`lookup_files_writeAll`), and what the entries say of the
files has to be checked for last writes only (`described_writeAll`).
-/

set_option autoImplicit false

namespace TrojanDetection.Library

universe u v w

/-- Files by name, and a key with entries for some of them. -/
structure Catalogue (κ : Type u) (γ : Type v) (ε : Type w) where
  files : Dict κ γ
  key : Dict κ ε

namespace Catalogue

variable {κ : Type u} {γ : Type v} {ε : Type w}

/-- One write: a file with its entry, or a file alone. -/
inductive Write (κ : Type u) (γ : Type v) (ε : Type w)
  | described (name : κ) (content : γ) (entry : ε)
  | bare (name : κ) (content : γ)

namespace Write

/-- The name that is written. -/
def name : Write κ γ ε → κ
  | described name _ _ => name
  | bare name _ => name

/-- The content that is written. -/
def content : Write κ γ ε → γ
  | described _ content _ => content
  | bare _ content => content

/-- The assignment to the key. -/
def entry? : Write κ γ ε → Option (κ × ε)
  | described name _ entry => some (name, entry)
  | bare _ _ => none

/-- The file agrees with its entry, or with any entry that an earlier write has left. -/
def Fits (R : ε → γ → Prop) : Write κ γ ε → Prop
  | described _ content entry => R entry content
  | bare _ content => ∀ entry, R entry content

end Write

/-- Every entry is that of a file which it agrees with. -/
def Described [DecidableEq κ] (R : ε → γ → Prop) (c : Catalogue κ γ ε) : Prop :=
  ∀ name entry, c.key.lookup name = some entry →
    ∃ content, c.files.lookup name = some content ∧ R entry content

variable [DecidableEq κ]

/-- One write; only a described one touches the key. -/
def write (c : Catalogue κ γ ε) : Write κ γ ε → Catalogue κ γ ε
  | .described name content entry => ⟨c.files.insert name content, c.key.insert name entry⟩
  | .bare name content => ⟨c.files.insert name content, c.key⟩

/-- The writes one after the other. -/
def writeAll (c : Catalogue κ γ ε) (writes : List (Write κ γ ε)) : Catalogue κ γ ε :=
  writes.foldl write c

/-- The last write under a name. -/
def lastWrite (writes : List (Write κ γ ε)) (name : κ) : Option (Write κ γ ε) :=
  writes.reverse.find? fun w => w.name = name

section LastWrite

variable {writes writes' : List (Write κ γ ε)} {w : Write κ γ ε} {name : κ}

theorem lastWrite_append :
    lastWrite (writes ++ writes') name = (lastWrite writes' name).or (lastWrite writes name) := by
  rw [lastWrite, List.reverse_append, List.find?_append]
  rfl

theorem lastWrite_singleton : lastWrite [w] name = if w.name = name then some w else none := by
  by_cases h : w.name = name
  · simp [lastWrite, h]
  · simp [lastWrite, h]

theorem lastWrite_concat :
    lastWrite (writes ++ [w]) name = if w.name = name then some w else lastWrite writes name := by
  rw [lastWrite_append, lastWrite_singleton]
  split
  · rfl
  · rfl

theorem mem_of_lastWrite (h : lastWrite writes name = some w) : w ∈ writes :=
  List.mem_reverse.1 (List.mem_of_find?_eq_some h)

theorem name_of_lastWrite (h : lastWrite writes name = some w) : w.name = name := by
  simpa using List.find?_some h

theorem lastWrite_eq_none_iff :
    lastWrite writes name = none ↔ ∀ w ∈ writes, w.name ≠ name := by
  simp [lastWrite]

/-- Under distinct names every write is the last one under its name. -/
theorem lastWrite_of_nodup (hnodup : (writes.map Write.name).Nodup) (hw : w ∈ writes) :
    lastWrite writes w.name = some w := by
  obtain ⟨before, after, rfl⟩ := List.append_of_mem hw
  have hafter : lastWrite after w.name = none := by
    rw [lastWrite_eq_none_iff]
    intro later hlater heq
    rw [List.map_append, List.map_cons] at hnodup
    have hfresh := (List.nodup_cons.1 (List.nodup_append'.1 hnodup).2.1).1
    exact hfresh (heq ▸ List.mem_map_of_mem hlater)
  rw [← List.singleton_append, ← List.append_assoc, lastWrite_append, hafter, lastWrite_concat,
    if_pos rfl]
  rfl

end LastWrite

section Lookups

variable (c : Catalogue κ γ ε) (writes : List (Write κ γ ε)) (name : κ)

theorem writeAll_concat (w : Write κ γ ε) :
    c.writeAll (writes ++ [w]) = (c.writeAll writes).write w := by
  rw [writeAll, List.foldl_append]
  rfl

theorem lookup_files_write (w : Write κ γ ε) :
    (c.write w).files.lookup name =
      if name = w.name then some w.content else c.files.lookup name := by
  cases w with
  | described name' content entry => exact Dict.lookup_insert _ _ _ _
  | bare name' content => exact Dict.lookup_insert _ _ _ _

/-- A file holds what was last written to it. -/
theorem lookup_files_writeAll :
    (c.writeAll writes).files.lookup name =
      ((lastWrite writes name).map Write.content).or (c.files.lookup name) := by
  -- from the last write to the first
  induction writes using List.reverseRecOn with
  | nil => rfl
  | append_singleton writes w ih =>
      rw [writeAll_concat, lookup_files_write, lastWrite_concat, ih]
      by_cases h : w.name = name
      · rw [if_pos h.symm, if_pos h]
        rfl
      · rw [if_neg (Ne.symm h), if_neg h]

theorem lookup_files_of_lastWrite {writes : List (Write κ γ ε)} {name : κ} {w : Write κ γ ε}
    (h : lastWrite writes name = some w) :
    (c.writeAll writes).files.lookup name = some w.content := by
  rw [lookup_files_writeAll, h]
  rfl

/-- The key is written by the described writes alone. -/
theorem key_writeAll :
    (c.writeAll writes).key = c.key.insertAll (writes.filterMap Write.entry?) := by
  induction writes generalizing c with
  | nil => rfl
  | cons w writes ih =>
      cases w with
      | described name' content entry =>
          exact ih (c.write (.described name' content entry))
      | bare name' content => exact ih (c.write (.bare name' content))

theorem lookup_key_write_of_ne {w : Write κ γ ε} (h : w.name ≠ name) :
    (c.write w).key.lookup name = c.key.lookup name := by
  cases w with
  | described name' content entry => exact (Dict.lookup_insert _ _ _ _).trans (if_neg (Ne.symm h))
  | bare name' content => rfl

/-- The entry of a last write stays. -/
theorem lookup_key_writeAll_of_described {content : γ} {entry : ε} {writes : List (Write κ γ ε)}
    {name name' : κ} (h : lastWrite writes name = some (.described name' content entry)) :
    (c.writeAll writes).key.lookup name = some entry := by
  induction writes using List.reverseRecOn with
  | nil => cases h
  | append_singleton writes w ih =>
      rw [lastWrite_concat] at h
      rw [writeAll_concat]
      split at h
      · next hname =>
          cases h
          exact (Dict.lookup_insert _ _ _ _).trans (if_pos hname.symm)
      · next hname => rw [lookup_key_write_of_ne _ _ hname, ih h]

theorem lookup_key_writeAll_of_none {writes : List (Write κ γ ε)} {name : κ}
    (h : lastWrite writes name = none) :
    (c.writeAll writes).key.lookup name = c.key.lookup name := by
  induction writes using List.reverseRecOn with
  | nil => rfl
  | append_singleton writes w ih =>
      rw [lastWrite_concat] at h
      rw [writeAll_concat]
      split at h
      · cases h
      · next hname => rw [lookup_key_write_of_ne _ _ hname, ih h]

/-- Writes keep the entries true as long as every last write is true. -/
theorem described_writeAll {R : ε → γ → Prop} {c : Catalogue κ γ ε}
    {writes : List (Write κ γ ε)} (hc : c.Described R)
    (hfits : ∀ name w, lastWrite writes name = some w → w.Fits R) :
    (c.writeAll writes).Described R := by
  intro name entry hentry
  cases hlast : lastWrite writes name with
  | none =>
      rw [lookup_key_writeAll_of_none c hlast] at hentry
      rw [lookup_files_writeAll, hlast]
      exact hc name entry hentry
  | some w =>
      refine ⟨w.content, lookup_files_of_lastWrite c hlast, ?_⟩
      have hfit := hfits name w hlast
      cases w with
      | described name' content entry' =>
          rw [lookup_key_writeAll_of_described c hlast] at hentry
          cases hentry
          exact hfit
      | bare name' content => exact hfit entry

/-- The entry of a last write agrees with its file when all entries do. -/
theorem Described.of_lastWrite {R : ε → γ → Prop} {c : Catalogue κ γ ε}
    {writes : List (Write κ γ ε)} {name name' : κ} {content : γ} {entry : ε}
    (h : (c.writeAll writes).Described R)
    (hlast : lastWrite writes name = some (.described name' content entry)) : R entry content := by
  obtain ⟨found, hfound, hagrees⟩ := h name entry (lookup_key_writeAll_of_described c hlast)
  rw [lookup_files_of_lastWrite c hlast] at hfound
  cases hfound
  exact hagrees

end Lookups

end Catalogue

end TrojanDetection.Library
