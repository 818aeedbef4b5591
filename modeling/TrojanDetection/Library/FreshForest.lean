import TrojanDetection.Library.SharedForest
import Mathlib.Data.List.Range

/-!
# Forests without sharing

Where no node stands at two places, `visit` passes over nothing and is the plain pre-order `walk`
(`visit_eq_walk`). `number` makes such a forest out of any forest, by giving each place a number of
its own, and keeps the walk (`map_walk_number`). `ofList` is a forest written as the list of its
trees.
-/

set_option autoImplicit false

namespace TrojanDetection.Library.Forest

universe u v w x y

variable {ν : Type u} {β : Type v} {γ : Type y} {κ : Type w} {π : Type x}

/-! ## The plain walk -/

/-- All places in pre-order, with their names. -/
def walk (extend : π → ν → π) : π → Forest ν β → List (π × β)
  | _, nil => []
  | here, cons label node below rest =>
      (extend here label, node) ::
        (walk extend (extend here label) below ++ walk extend here rest)

/-- The keys of all places. -/
def keys (key : β → κ) (F : Forest ν β) : List κ := F.occurrences.map fun place => key place.1

variable {key : β → κ} {extend : π → ν → π}

@[simp] theorem walk_nil (here : π) : walk extend here (nil : Forest ν β) = [] := rfl

@[simp] theorem walk_cons (here : π) (label : ν) (node : β) (below rest : Forest ν β) :
    walk extend here (cons label node below rest) =
      (extend here label, node) ::
        (walk extend (extend here label) below ++ walk extend here rest) := rfl

@[simp] theorem keys_cons (label : ν) (node : β) (below rest : Forest ν β) :
    (cons label node below rest).keys key = key node :: (below.keys key ++ rest.keys key) := by
  simp [keys]

theorem exists_of_mem_walk {F : Forest ν β} {here : π} {entry : π × β}
    (h : entry ∈ walk extend here F) : ∃ below, (entry.2, below) ∈ F.occurrences := by
  induction F generalizing here with
  | nil => simp at h
  | cons label node below rest ihBelow ihRest =>
      rw [walk_cons, List.mem_cons, List.mem_append] at h
      simp only [occurrences_cons, List.mem_cons, List.mem_append]
      rcases h with rfl | hbelow | hrest
      · exact ⟨below, Or.inl rfl⟩
      · obtain ⟨b, hb⟩ := ihBelow hbelow
        exact ⟨b, Or.inr (Or.inl hb)⟩
      · obtain ⟨b, hb⟩ := ihRest hrest
        exact ⟨b, Or.inr (Or.inr hb)⟩

theorem shares_of_nodup {places : List (β × Forest ν β)}
    (h : (places.map fun place => key place.1).Nodup) : Shares key places := by
  intro a ha b hb hkey
  exact List.inj_on_of_nodup_map h ha hb hkey

/-- A walk that meets every key once passes over nothing. -/
theorem visit_eq_walk [DecidableEq κ] {F : Forest ν β} {seen : List κ} (hnodup : (F.keys key).Nodup)
    (hseen : ∀ k ∈ F.keys key, k ∉ seen) (here : π) :
    visit key extend seen here F = walk extend here F := by
  induction F generalizing seen here with
  | nil => rfl
  | cons label node below rest ihBelow ihRest =>
      rw [keys_cons, List.forall_mem_cons, List.forall_mem_append] at hseen
      rw [keys_cons, List.nodup_cons, List.mem_append, not_or, List.nodup_append] at hnodup
      obtain ⟨⟨hnotBelow, hnotRest⟩, hbelow, hrest, hapart⟩ := hnodup
      obtain ⟨hnode, hseenBelow, hseenRest⟩ := hseen
      have hinside : visit key extend (key node :: seen) (extend here label) below =
          walk extend (extend here label) below := by
        apply ihBelow hbelow
        intro k hk hmem
        rcases List.mem_cons.1 hmem with rfl | hmem
        · exact hnotBelow hk
        · exact hseenBelow k hk hmem
      rw [visit_cons_of_not_mem hnode, hinside, walk_cons, List.cons_append]
      congr 2
      -- what is met below has other keys than the siblings
      apply ihRest hrest
      intro k hk hmem
      rcases List.mem_append.1 hmem with hmem | hmem
      · exact hseenRest k hk hmem
      · rcases List.mem_cons.1 hmem with rfl | hmem
        · exact hnotRest hk
        · obtain ⟨entry, hentry, rfl⟩ := List.mem_map.1 hmem
          obtain ⟨b, hb⟩ := exists_of_mem_walk hentry
          exact hapart _ (List.mem_map.2 ⟨_, hb, rfl⟩) _ hk rfl

/-! ## Numbered places -/

/-- Every place gets a number, in pre-order from `n` on. -/
def number (mk : ℕ → γ → β) : ℕ → Forest ν γ → Forest ν β
  | _, nil => nil
  | n, cons label node below rest =>
      cons label (mk n node) (number mk (n + 1) below)
        (number mk (n + 1 + below.occurrences.length) rest)

variable {mk : ℕ → γ → β}

@[simp] theorem labels_number (n : ℕ) (F : Forest ν γ) : (number mk n F).labels = F.labels := by
  induction F generalizing n with
  | nil => rfl
  | cons label node below rest ihBelow ihRest =>
      rw [number, labels_cons, labels_cons, ihRest]

theorem distinctLabels_number {F : Forest ν γ} (h : F.DistinctLabels) (n : ℕ) :
    (number mk n F).DistinctLabels := by
  induction F generalizing n with
  | nil => trivial
  | cons label node below rest ihBelow ihRest =>
      obtain ⟨hlabel, hbelow, hrest⟩ := h
      refine ⟨?_, ihBelow hbelow _, ihRest hrest _⟩
      rw [labels_number]
      exact hlabel

/-- The numbers are consecutive. -/
theorem keys_number {key : β → ℕ} (hkey : ∀ n node, key (mk n node) = n) (n : ℕ)
    (F : Forest ν γ) : (number mk n F).keys key = List.range' n F.occurrences.length := by
  induction F generalizing n with
  | nil => rfl
  | cons label node below rest ihBelow ihRest =>
      rw [number, keys_cons, hkey, ihBelow, ihRest, occurrences_cons, List.length_cons,
        List.length_append, List.range'_succ]
      rw [← List.range'_append_1]

/-- Numbering keeps the walk. -/
theorem map_walk_number {project : β → γ} (hproject : ∀ n node, project (mk n node) = node) (n : ℕ)
    (here : π) (F : Forest ν γ) :
    (walk extend here (number mk n F)).map (fun entry => (entry.1, project entry.2)) =
      walk extend here F := by
  induction F generalizing n here with
  | nil => rfl
  | cons label node below rest ihBelow ihRest =>
      rw [number, walk_cons, walk_cons, List.map_cons, List.map_append, hproject, ihBelow, ihRest]

/-! ## Forests as lists of trees -/

/-- The trees one after the other; a tree is its label, its node and the forest below. -/
def ofList : List (ν × β × Forest ν β) → Forest ν β
  | [] => nil
  | (label, node, below) :: trees => cons label node below (ofList trees)

theorem labels_ofList (trees : List (ν × β × Forest ν β)) :
    (ofList trees).labels = trees.map Prod.fst := by
  induction trees with
  | nil => rfl
  | cons tree trees ih => rw [ofList, labels_cons, ih, List.map_cons]

theorem distinctLabels_ofList {trees : List (ν × β × Forest ν β)}
    (hlabels : (trees.map Prod.fst).Nodup) (hbelow : ∀ tree ∈ trees, tree.2.2.DistinctLabels) :
    (ofList trees).DistinctLabels := by
  induction trees with
  | nil => trivial
  | cons tree trees ih =>
      rw [List.map_cons, List.nodup_cons] at hlabels
      obtain ⟨htree, htrees⟩ := List.forall_mem_cons.1 hbelow
      refine ⟨?_, htree, ih hlabels.2 htrees⟩
      rw [labels_ofList]
      exact hlabels.1

theorem occurrences_ofList (trees : List (ν × β × Forest ν β)) :
    (ofList trees).occurrences = trees.flatMap fun tree => tree.2 :: tree.2.2.occurrences := by
  induction trees with
  | nil => rfl
  | cons tree trees ih =>
      rw [ofList, occurrences_cons, ih, List.flatMap_cons, List.cons_append]

theorem walk_ofList_append (here : π) (trees trees' : List (ν × β × Forest ν β)) :
    walk extend here (ofList (trees ++ trees')) =
      walk extend here (ofList trees) ++ walk extend here (ofList trees') := by
  induction trees with
  | nil => rfl
  | cons tree trees ih =>
      rw [List.cons_append, ofList, ofList, walk_cons, walk_cons, ih, List.cons_append,
        List.append_assoc]

end TrojanDetection.Library.Forest
