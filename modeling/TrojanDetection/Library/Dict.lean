import Mathlib.Data.List.Nodup
import Mathlib.Data.List.Infix
import Mathlib.Data.List.Perm.Subperm

/-!
# Dictionaries with distinct keys

A dictionary is a list of entries in insertion order with pairwise distinct keys, so that an entry
is found by looking up its key. Keys that are grouped under prefixes are distinct once no prefix
begins with another one (`nodup_groupedKeys`).
-/

set_option autoImplicit false

namespace TrojanDetection.Library

universe u v w

/-- A finite map that remembers the order of its entries. -/
structure Dict (α : Type u) (β : Type v) where
  entries : List (α × β)
  nodup : (entries.map Prod.fst).Nodup

namespace Dict

variable {α : Type u} {β : Type v}

/-- The keys in insertion order. -/
def keys (d : Dict α β) : List α := d.entries.map Prod.fst

theorem map_fst_mapValues {γ : Type w} (f : α → β → γ) (entries : List (α × β)) :
    (entries.map fun e => (e.1, f e.1 e.2)).map Prod.fst = entries.map Prod.fst :=
  List.map_map

/-- The dictionary of the values computed from the old ones and their keys. -/
def mapValues {γ : Type w} (f : α → β → γ) (d : Dict α β) : Dict α γ where
  entries := d.entries.map fun e => (e.1, f e.1 e.2)
  nodup := (map_fst_mapValues f d.entries).symm ▸ d.nodup

variable [DecidableEq α]

/-- The value stored under a key. -/
def lookup (d : Dict α β) (key : α) : Option β := d.entries.lookup key

theorem lookup_eq_some_iff (d : Dict α β) {key : α} {value : β} :
    d.lookup key = some value ↔ (key, value) ∈ d.entries := by
  obtain ⟨entries, hnodup⟩ := d
  rw [lookup]
  induction entries with
  | nil => simp
  | cons e es ih =>
      obtain ⟨k, v⟩ := e
      rw [List.map_cons, List.nodup_cons] at hnodup
      rw [List.lookup_cons]
      by_cases hk : key = k
      · subst hk
        have hnot : (key, value) ∉ es := fun hmem =>
          hnodup.1 (List.mem_map.2 ⟨(key, value), hmem, rfl⟩)
        simp only [beq_self_eq_true, List.mem_cons, Prod.mk.injEq, true_and, hnot, or_false,
          Option.some.injEq]
        exact eq_comm
      · have hbeq : (key == k) = false := by simpa using hk
        simp only [hbeq, List.mem_cons, Prod.mk.injEq, hk, false_and, false_or]
        exact ih hnodup.2

theorem mem_keys_iff (d : Dict α β) {key : α} :
    key ∈ d.keys ↔ ∃ value, d.lookup key = some value := by
  rw [keys]
  rw [List.mem_map]
  constructor
  · rintro ⟨⟨k, value⟩, he, rfl⟩
    exact ⟨value, d.lookup_eq_some_iff.2 he⟩
  · rintro ⟨value, hvalue⟩
    exact ⟨(key, value), d.lookup_eq_some_iff.1 hvalue, rfl⟩

theorem lookup_eq_none_iff (d : Dict α β) {key : α} : d.lookup key = none ↔ key ∉ d.keys := by
  rw [d.mem_keys_iff, ← Option.ne_none_iff_exists', not_not]

theorem lookup_mapValues {γ : Type w} (f : α → β → γ) (d : Dict α β) (key : α) :
    (d.mapValues f).lookup key = (d.lookup key).map (f key) := by
  apply Option.ext
  intro value
  rw [lookup_eq_some_iff, mapValues, List.mem_map, Option.map_eq_some_iff]
  constructor
  · rintro ⟨⟨key', old⟩, hmem, heq⟩
    obtain ⟨rfl, rfl⟩ := Prod.mk.inj heq
    exact ⟨old, d.lookup_eq_some_iff.2 hmem, rfl⟩
  · rintro ⟨old, hold, rfl⟩
    exact ⟨(key, old), d.lookup_eq_some_iff.1 hold, rfl⟩

/-! ### Insertion -/

/-- The dictionary without entries. -/
def empty : Dict α β := ⟨[], List.nodup_nil⟩

/-- The entries after `d[key] = value`: an old entry is replaced in its place, a new one added at
the end. -/
def insertEntries (entries : List (α × β)) (key : α) (value : β) : List (α × β) :=
  if key ∈ entries.map Prod.fst then
    entries.map fun e => if e.1 = key then (key, value) else e
  else entries ++ [(key, value)]

theorem map_fst_insertEntries (entries : List (α × β)) (key : α) (value : β) :
    (insertEntries entries key value).map Prod.fst =
      if key ∈ entries.map Prod.fst then entries.map Prod.fst
      else entries.map Prod.fst ++ [key] := by
  rw [insertEntries]
  split
  · rw [List.map_map]
    apply List.map_congr_left
    intro e _
    by_cases he : e.1 = key
    · simp [he]
    · simp [he]
  · rw [List.map_append]
    rfl

theorem nodup_insertEntries {entries : List (α × β)} (h : (entries.map Prod.fst).Nodup) (key : α)
    (value : β) : ((insertEntries entries key value).map Prod.fst).Nodup := by
  rw [map_fst_insertEntries]
  split
  · exact h
  · next hkey =>
      rw [← List.concat_eq_append]
      exact h.concat hkey

theorem mem_insertEntries {entries : List (α × β)} {key : α} {value : β} {e : α × β} :
    e ∈ insertEntries entries key value ↔
      e = (key, value) ∨ (e.1 ≠ key ∧ e ∈ entries) := by
  rw [insertEntries]
  split
  · next hkey =>
      rw [List.mem_map]
      constructor
      · rintro ⟨e', he', rfl⟩
        by_cases h : e'.1 = key
        · exact Or.inl (if_pos h)
        · rw [if_neg h]
          exact Or.inr ⟨h, he'⟩
      · rintro (rfl | ⟨hne, he⟩)
        · obtain ⟨e', he', hfst⟩ := List.mem_map.1 hkey
          exact ⟨e', he', if_pos hfst⟩
        · exact ⟨e, he, if_neg hne⟩
  · next hkey =>
      rw [List.mem_append, List.mem_singleton, or_comm]
      apply or_congr_right
      constructor
      · intro he
        refine ⟨?_, he⟩
        rintro rfl
        exact hkey (List.mem_map.2 ⟨e, he, rfl⟩)
      · exact And.right

/-- `d[key] = value`. -/
def insert (d : Dict α β) (key : α) (value : β) : Dict α β where
  entries := insertEntries d.entries key value
  nodup := nodup_insertEntries d.nodup key value

theorem mem_keys_insert {d : Dict α β} {key key' : α} {value : β} :
    key' ∈ (d.insert key value).keys ↔ key' ∈ d.keys ∨ key' = key := by
  rw [keys, insert, map_fst_insertEntries, keys]
  split
  · next h =>
      constructor
      · exact Or.inl
      · rintro (hmem | rfl)
        · exact hmem
        · exact h
  · rw [List.mem_append, List.mem_singleton]

theorem entries_insert_of_not_mem {d : Dict α β} {key : α} (h : key ∉ d.keys) (value : β) :
    (d.insert key value).entries = d.entries ++ [(key, value)] :=
  if_neg h

/-- The last value stored under a key is found. -/
theorem lookup_insert (d : Dict α β) (key : α) (value : β) (key' : α) :
    (d.insert key value).lookup key' = if key' = key then some value else d.lookup key' := by
  apply Option.ext
  intro value'
  rw [lookup_eq_some_iff, insert, mem_insertEntries]
  by_cases h : key' = key
  · rw [if_pos h, h]
    simp [eq_comm]
  · rw [if_neg h, lookup_eq_some_iff]
    simp [h]

/-- A sequence of assignments. -/
def insertAll (d : Dict α β) (assignments : List (α × β)) : Dict α β :=
  assignments.foldl (fun d e => d.insert e.1 e.2) d

@[simp] theorem insertAll_nil (d : Dict α β) : d.insertAll [] = d := rfl

@[simp] theorem insertAll_cons (d : Dict α β) (e : α × β) (es : List (α × β)) :
    d.insertAll (e :: es) = (d.insert e.1 e.2).insertAll es := rfl

/-- Assignments to new and distinct keys are kept one after the other. -/
theorem entries_insertAll {d : Dict α β} {es : List (α × β)}
    (h : (d.keys ++ es.map Prod.fst).Nodup) :
    (d.insertAll es).entries = d.entries ++ es := by
  induction es generalizing d with
  | nil => simp
  | cons e es ih =>
      have hkey : e.1 ∉ d.keys := by
        intro hmem
        exact (List.nodup_append'.1 h).2.2 hmem List.mem_cons_self
      have hentries := entries_insert_of_not_mem hkey e.2
      have hrest : ((d.insert e.1 e.2).keys ++ es.map Prod.fst).Nodup := by
        rw [keys, hentries, List.map_append, List.append_assoc]
        exact h
      rw [insertAll_cons, ih hrest, hentries, List.append_assoc]
      rfl

theorem mem_keys_insertAll {d : Dict α β} {es : List (α × β)} {key : α} :
    key ∈ (d.insertAll es).keys ↔ key ∈ d.keys ∨ key ∈ es.map Prod.fst := by
  induction es generalizing d with
  | nil => simp
  | cons e es ih =>
      rw [insertAll_cons, ih, mem_keys_insert, List.map_cons, List.mem_cons, or_assoc]

/-- No assignment is lost exactly when the keys are distinct. -/
theorem length_insertAll_empty_iff {es : List (α × β)} :
    (empty.insertAll es : Dict α β).entries.length = es.length ↔ (es.map Prod.fst).Nodup := by
  constructor
  · intro hlen
    have hkeys : (empty.insertAll es : Dict α β).keys.length = (es.map Prod.fst).length := by
      rw [keys, List.length_map, List.length_map, hlen]
    have hsubperm : (empty.insertAll es : Dict α β).keys.Subperm (es.map Prod.fst) := by
      apply List.Nodup.subperm (empty.insertAll es).nodup
      intro key hkey
      rcases mem_keys_insertAll.1 hkey with h | h
      · exact absurd h List.not_mem_nil
      · exact h
    exact ((hsubperm.perm_of_length_le hkeys.ge).nodup_iff).1 (empty.insertAll es).nodup
  · intro h
    have hentries : (empty.insertAll es : Dict α β).entries = [] ++ es := entries_insertAll h
    rw [hentries, List.nil_append]

end Dict

/-! ## Keys under prefixes -/

/-- Neither text begins with the other. -/
def Apart (p q : String) : Prop := ¬ p.toList <+: q.toList ∧ ¬ q.toList <+: p.toList

instance (p q : String) : Decidable (Apart p q) := instDecidableAnd

/-- The keys of some groups, each given by a prefix and by what may follow it. -/
def groupedKeys (groups : List (String × List String)) : List String :=
  groups.flatMap fun g => g.2.map (g.1 ++ ·)

theorem Apart.append_ne {p q : String} (h : Apart p q) (x y : String) : p ++ x ≠ q ++ y := by
  intro heq
  have htext : p.toList ++ x.toList = q.toList ++ y.toList := by
    rw [← String.toList_append, ← String.toList_append, heq]
  have hp : p.toList <+: q.toList ++ y.toList := ⟨x.toList, htext⟩
  rcases List.prefix_or_prefix_of_prefix hp (List.prefix_append _ _) with hpq | hqp
  · exact h.1 hpq
  · exact h.2 hqp

theorem nodup_groupedKeys {groups : List (String × List String)}
    (hapart : groups.Pairwise fun g g' => Apart g.1 g'.1)
    (hnodup : ∀ g ∈ groups, g.2.Nodup) : (groupedKeys groups).Nodup := by
  rw [groupedKeys, List.nodup_flatMap]
  constructor
  · intro g hg
    apply (hnodup g hg).map
    intro x y hxy
    exact (String.append_right_inj g.1).1 hxy
  · apply hapart.imp
    intro g g' h key hkey hkey'
    obtain ⟨x, -, rfl⟩ := List.mem_map.1 hkey
    obtain ⟨y, -, hy⟩ := List.mem_map.1 hkey'
    exact h.append_ne x y hy.symm

/-- A character that is in no prefix and in nothing that follows one is in no key. -/
theorem not_mem_of_mem_groupedKeys {groups : List (String × List String)} {c : Char}
    (hfront : ∀ g ∈ groups, c ∉ g.1.toList)
    (hrest : ∀ g ∈ groups, ∀ rest ∈ g.2, c ∉ rest.toList) :
    ∀ key ∈ groupedKeys groups, c ∉ key.toList := by
  intro key hkey
  obtain ⟨g, hg, hmem⟩ := List.mem_flatMap.1 hkey
  obtain ⟨rest, hfollows, rfl⟩ := List.mem_map.1 hmem
  rw [String.toList_append, List.mem_append, not_or]
  exact ⟨hfront g hg, hrest g hg rest hfollows⟩

end TrojanDetection.Library
