import Mathlib.Data.List.Nodup
import Mathlib.Data.List.Basic

/-!
# Forests with shared nodes

A forest of labelled trees whose nodes have an identity, the key. A node may stand at several
places; it is then one node with one forest below it (`Shares`).

`visit` walks a forest in pre-order and passes over a node that it has seen. The walk names a node
by the place where it is first met. How places are named is a parameter: names that follow the
paths of labels are the paths renamed (`visit_map`), and the paths are distinct if siblings have
distinct labels (`nodup_paths`). What was seen before matters only for the nodes of the forest
(`visit_congr`), and every node is visited (`exists_mem_visit`).
-/

set_option autoImplicit false

namespace TrojanDetection.Library

universe u v w x y

/-- Trees on labels, as first child and next sibling. -/
inductive Forest (ν : Type u) (β : Type v) : Type (max u v)
  | nil
  | cons (label : ν) (node : β) (below rest : Forest ν β)
  deriving DecidableEq

namespace Forest

variable {ν : Type u} {β : Type v}

/-- The labels of the trees. -/
def labels : Forest ν β → List ν
  | nil => []
  | cons label _ _ rest => label :: rest.labels

/-- Every place of the forest: the node there, and the forest below it. -/
def occurrences : Forest ν β → List (β × Forest ν β)
  | nil => []
  | cons _ node below rest => (node, below) :: (below.occurrences ++ rest.occurrences)

/-- Siblings have distinct labels, at every place. -/
def DistinctLabels : Forest ν β → Prop
  | nil => True
  | cons label _ below rest =>
      label ∉ rest.labels ∧ below.DistinctLabels ∧ rest.DistinctLabels

/-- The labels of siblings can be compared. -/
def decDistinctLabels [DecidableEq ν] : (F : Forest ν β) → Decidable F.DistinctLabels
  | nil => isTrue trivial
  | cons label _ below rest =>
      have := below.decDistinctLabels
      have := rest.decDistinctLabels
      inferInstanceAs
        (Decidable (label ∉ rest.labels ∧ below.DistinctLabels ∧ rest.DistinctLabels))

instance [DecidableEq ν] : DecidablePred (DistinctLabels : Forest ν β → Prop) :=
  decDistinctLabels

@[simp] theorem labels_nil : (nil : Forest ν β).labels = [] := rfl

@[simp] theorem labels_cons (label : ν) (node : β) (below rest : Forest ν β) :
    (cons label node below rest).labels = label :: rest.labels := rfl

@[simp] theorem occurrences_nil : (nil : Forest ν β).occurrences = [] := rfl

@[simp] theorem occurrences_cons (label : ν) (node : β) (below rest : Forest ν β) :
    (cons label node below rest).occurrences =
      (node, below) :: (below.occurrences ++ rest.occurrences) := rfl

/-- Below a place of a forest there are fewer places than in the forest. -/
theorem length_occurrences_lt {F : Forest ν β} {place : β × Forest ν β}
    (h : place ∈ F.occurrences) : place.2.occurrences.length < F.occurrences.length := by
  induction F with
  | nil => simp at h
  | cons label node below rest ihBelow ihRest =>
      simp only [occurrences_cons, List.mem_cons, List.mem_append] at h
      simp only [occurrences_cons, List.length_cons, List.length_append]
      rcases h with rfl | hbelow | hrest
      · simp only
        omega
      · have hlt := ihBelow hbelow
        omega
      · have hlt := ihRest hrest
        omega

/-! ## Sharing -/

variable {κ : Type w} {key : β → κ}

/-- A key stands for one node with one forest below it. -/
def Shares (key : β → κ) (places : List (β × Forest ν β)) : Prop :=
  ∀ a ∈ places, ∀ b ∈ places, key a.1 = key b.1 → a = b

instance [DecidableEq ν] [DecidableEq β] [DecidableEq κ]
    (places : List (β × Forest ν β)) : Decidable (Shares key places) :=
  inferInstanceAs (Decidable (∀ a ∈ places, ∀ b ∈ places, key a.1 = key b.1 → a = b))

theorem Shares.mono {places places' : List (β × Forest ν β)} (h : Shares key places')
    (hsub : places ⊆ places') : Shares key places := by
  intro a ha b hb
  exact h a (hsub ha) b (hsub hb)

/-- A node does not stand below itself. -/
theorem Shares.not_below {node : β} {below : Forest ν β}
    (h : Shares key ((node, below) :: below.occurrences)) :
    ∀ place ∈ below.occurrences, key place.1 ≠ key node := by
  intro place hplace hkey
  have heq : place = (node, below) :=
    h place (List.mem_cons_of_mem _ hplace) _ List.mem_cons_self hkey
  have hlt := length_occurrences_lt hplace
  rw [heq] at hlt
  exact Nat.lt_irrefl _ hlt

/-! ## The walk -/

section Visit

variable [DecidableEq κ] {π : Type x}

/-- The nodes in pre-order, each under the name of the place where it is first met. `extend` names
the place of a label from the name of the place above; `seen` has the keys met before. -/
def visit (key : β → κ) (extend : π → ν → π) : List κ → π → Forest ν β → List (π × β)
  | _, _, nil => []
  | seen, here, cons label node below rest =>
      if key node ∈ seen then visit key extend seen here rest
      else
        let found := (extend here label, node) ::
          visit key extend (key node :: seen) (extend here label) below
        found ++ visit key extend (seen ++ found.map fun entry => key entry.2) here rest

variable {extend : π → ν → π} {seen : List κ} {here : π}

@[simp] theorem visit_nil : visit key extend seen here (nil : Forest ν β) = [] := rfl

theorem visit_cons_of_mem {label : ν} {node : β} {below rest : Forest ν β}
    (h : key node ∈ seen) :
    visit key extend seen here (cons label node below rest) =
      visit key extend seen here rest :=
  if_pos h

theorem visit_cons_of_not_mem {label : ν} {node : β} {below rest : Forest ν β}
    (h : key node ∉ seen) :
    visit key extend seen here (cons label node below rest) =
      (extend here label, node) ::
          visit key extend (key node :: seen) (extend here label) below ++
        visit key extend (seen ++ key node ::
          (visit key extend (key node :: seen) (extend here label) below).map
            fun entry => key entry.2) here rest :=
  if_neg h

/-- Two walks that have seen the same of the forest are the same. -/
theorem visit_congr {F : Forest ν β} {seen seen' : List κ}
    (h : ∀ place ∈ F.occurrences, (key place.1 ∈ seen ↔ key place.1 ∈ seen')) (here : π) :
    visit key extend seen here F = visit key extend seen' here F := by
  induction F generalizing seen seen' here with
  | nil => rfl
  | cons label node below rest ihBelow ihRest =>
      simp only [occurrences_cons, List.forall_mem_cons, List.forall_mem_append] at h
      obtain ⟨hnode, hbelow, hrest⟩ := h
      by_cases hmem : key node ∈ seen
      · rw [visit_cons_of_mem hmem, visit_cons_of_mem (hnode.1 hmem)]
        exact ihRest hrest here
      · have hinside : visit key extend (key node :: seen) (extend here label) below =
            visit key extend (key node :: seen') (extend here label) below := by
          apply ihBelow
          intro place hplace
          simp only [List.mem_cons, hbelow place hplace]
        rw [visit_cons_of_not_mem hmem, visit_cons_of_not_mem (fun h => hmem (hnode.2 h)),
          hinside]
        congr 1
        apply ihRest
        intro place hplace
        simp only [List.mem_append, hrest place hplace]

/-- Names that are extended as other names are those names renamed. -/
theorem visit_map {ρ : Type y} {extend' : ρ → ν → ρ} (rename : π → ρ)
    (h : ∀ p label, rename (extend p label) = extend' (rename p) label) (F : Forest ν β)
    (seen : List κ) (here : π) :
    visit key extend' seen (rename here) F =
      (visit key extend seen here F).map fun entry => (rename entry.1, entry.2) := by
  induction F generalizing seen here with
  | nil => rfl
  | cons label node below rest ihBelow ihRest =>
      by_cases hmem : key node ∈ seen
      · rw [visit_cons_of_mem hmem, visit_cons_of_mem hmem, ihRest]
      · rw [visit_cons_of_not_mem hmem, visit_cons_of_not_mem hmem, ← h, ihBelow, ihRest]
        simp only [List.map_append, List.map_cons, List.map_map, Function.comp_def]

/-- What is visited stands in the forest. -/
theorem mem_occurrences_of_mem_visit {F : Forest ν β} {entry : π × β}
    (h : entry ∈ visit key extend seen here F) : ∃ below, (entry.2, below) ∈ F.occurrences := by
  induction F generalizing seen here with
  | nil => simp at h
  | cons label node below rest ihBelow ihRest =>
      simp only [occurrences_cons, List.mem_cons, List.mem_append]
      by_cases hmem : key node ∈ seen
      · rw [visit_cons_of_mem hmem] at h
        obtain ⟨b, hb⟩ := ihRest h
        exact ⟨b, Or.inr (Or.inr hb)⟩
      · rw [visit_cons_of_not_mem hmem, List.mem_append, List.mem_cons] at h
        rcases h with (rfl | hinside) | hafter
        · exact ⟨below, Or.inl rfl⟩
        · obtain ⟨b, hb⟩ := ihBelow hinside
          exact ⟨b, Or.inr (Or.inl hb)⟩
        · obtain ⟨b, hb⟩ := ihRest hafter
          exact ⟨b, Or.inr (Or.inr hb)⟩

end Visit

/-! ## Paths -/

section Paths

variable [DecidableEq κ]

/-- The path of a label below a path. -/
def snoc (path : List ν) (label : ν) : List ν := path ++ [label]

/-- The walk goes down through the labels of the forest. -/
theorem path_of_mem_visit {F : Forest ν β} {seen : List κ} {here : List ν}
    {entry : List ν × β} (h : entry ∈ visit key snoc seen here F) :
    ∃ label ∈ F.labels, ∃ tail, entry.1 = here ++ label :: tail := by
  induction F generalizing seen here with
  | nil => simp at h
  | cons label node below rest ihBelow ihRest =>
      simp only [labels_cons, List.exists_mem_cons_iff]
      by_cases hmem : key node ∈ seen
      · rw [visit_cons_of_mem hmem] at h
        exact Or.inr (ihRest h)
      · rw [visit_cons_of_not_mem hmem, List.mem_append, List.mem_cons] at h
        rcases h with (rfl | hinside) | hafter
        · exact Or.inl ⟨[], rfl⟩
        · obtain ⟨next, -, tail, htail⟩ := ihBelow hinside
          refine Or.inl ⟨next :: tail, ?_⟩
          rw [htail, snoc, List.append_assoc, List.singleton_append]
        · exact Or.inr (ihRest hafter)

/-- Where siblings have distinct labels no two nodes are visited under one path. -/
theorem nodup_paths {F : Forest ν β} (h : F.DistinctLabels) (seen : List κ) (here : List ν) :
    ((visit key snoc seen here F).map Prod.fst).Nodup := by
  induction F generalizing seen here with
  | nil => simp
  | cons label node below rest ihBelow ihRest =>
      obtain ⟨hlabel, hbelow, hrest⟩ := h
      by_cases hmem : key node ∈ seen
      · rw [visit_cons_of_mem hmem]
        exact ihRest hrest seen here
      · rw [visit_cons_of_not_mem hmem, List.map_append, List.map_cons, List.nodup_append,
          List.nodup_cons]
        refine ⟨⟨?_, ihBelow hbelow _ _⟩, ihRest hrest _ _, ?_⟩
        · -- the paths below are longer
          intro hin
          obtain ⟨entry, hentry, heq⟩ := List.mem_map.1 hin
          obtain ⟨next, -, tail, htail⟩ := path_of_mem_visit hentry
          rw [htail] at heq
          simpa using congrArg List.length heq
        · -- the paths of this tree go through its label, those of the others through theirs
          have hthrough : ∀ path ∈ snoc here label ::
              (visit key snoc (key node :: seen) (snoc here label) below).map Prod.fst,
              ∃ tail, path = here ++ label :: tail := by
            intro path hpath
            rcases List.mem_cons.1 hpath with rfl | hpath
            · exact ⟨[], rfl⟩
            · obtain ⟨entry, hentry, rfl⟩ := List.mem_map.1 hpath
              obtain ⟨next, -, tail, htail⟩ := path_of_mem_visit hentry
              refine ⟨next :: tail, ?_⟩
              rw [htail, snoc, List.append_assoc, List.singleton_append]
          intro path hpath path' hpath' heq
          obtain ⟨tail, rfl⟩ := hthrough path hpath
          obtain ⟨entry, hentry, rfl⟩ := List.mem_map.1 hpath'
          obtain ⟨other, hother, tail', htail'⟩ := path_of_mem_visit hentry
          rw [htail'] at heq
          have hlabels := List.cons.inj (List.append_cancel_left heq)
          exact hlabel (hlabels.1 ▸ hother)

end Paths

/-! ## Every node is visited -/

section Closed

/-- Below a node that was seen everything was seen, unless the walk is still below the node. -/
def Closed (key : β → κ) (places : List (β × Forest ν β)) (seen ongoing : List κ) : Prop :=
  ∀ place ∈ places, key place.1 ∈ seen → key place.1 ∈ ongoing ∨
    ∀ inner ∈ place.2.occurrences, key inner.1 ∈ seen

variable {places : List (β × Forest ν β)} {seen seen' ongoing : List κ} {node : β}
  {below : Forest ν β}

theorem Closed.congr (h : Closed key places seen ongoing) (hsame : ∀ k, k ∈ seen ↔ k ∈ seen') :
    Closed key places seen' ongoing := by
  intro place hplace hseen
  rcases h place hplace ((hsame _).2 hseen) with hongoing | hbelow
  · exact Or.inl hongoing
  · exact Or.inr fun inner hinner => (hsame _).1 (hbelow inner hinner)

/-- The walk goes below a node. -/
theorem Closed.enter (h : Closed key places seen ongoing) (k : κ) :
    Closed key places (k :: seen) (k :: ongoing) := by
  intro place hplace hseen
  rcases List.mem_cons.1 hseen with heq | hseen
  · exact Or.inl (List.mem_cons.2 (Or.inl heq))
  · rcases h place hplace hseen with hongoing | hbelow
    · exact Or.inl (List.mem_cons_of_mem _ hongoing)
    · exact Or.inr fun inner hinner => List.mem_cons_of_mem _ (hbelow inner hinner)

/-- The walk is done with what is below a node. -/
theorem Closed.leave (h : Closed key places seen (key node :: ongoing))
    (hshares : Shares key places) (hnode : (node, below) ∈ places)
    (hbelow : ∀ inner ∈ below.occurrences, key inner.1 ∈ seen) :
    Closed key places seen ongoing := by
  intro place hplace hseen
  rcases h place hplace hseen with hongoing | hdone
  · rcases List.mem_cons.1 hongoing with heq | hongoing
    · -- the place is one of the node itself
      right
      rw [hshares place hplace _ hnode heq]
      exact hbelow
    · exact Or.inl hongoing
  · exact Or.inr hdone

end Closed

section Complete

variable [DecidableEq κ] {π : Type x} {extend : π → ν → π}

/-- The keys met once a walk is over. -/
def seenAfter (key : β → κ) (extend : π → ν → π) (seen : List κ) (here : π)
    (F : Forest ν β) : List κ :=
  seen ++ (visit key extend seen here F).map fun entry => key entry.2

variable {places : List (β × Forest ν β)} {seen ongoing : List κ} {here : π} {label : ν}
  {node : β} {below rest : Forest ν β}

theorem seenAfter_cons_of_mem (h : key node ∈ seen) :
    seenAfter key extend seen here (cons label node below rest) =
      seenAfter key extend seen here rest := by
  rw [seenAfter, visit_cons_of_mem h, seenAfter]

theorem seenAfter_cons_of_not_mem (h : key node ∉ seen) :
    seenAfter key extend seen here (cons label node below rest) =
      seenAfter key extend (seen ++ key node ::
        (visit key extend (key node :: seen) (extend here label) below).map
          fun entry => key entry.2) here rest := by
  simp only [seenAfter, visit_cons_of_not_mem h, List.map_append, List.map_cons,
    List.append_assoc, List.cons_append]

/-- The keys that are seen when the walk goes on to the siblings of a node. -/
theorem mem_seenAfter_below_iff {k : κ} :
    k ∈ seenAfter key extend (key node :: seen) (extend here label) below ↔
      k ∈ seen ++ key node ::
        (visit key extend (key node :: seen) (extend here label) below).map
          fun entry => key entry.2 := by
  simp only [seenAfter, List.mem_append, List.mem_cons]
  tauto

/-- A walk that starts outside of what is ongoing sees all nodes of its forest, and leaves nothing
half seen. -/
theorem closed_seenAfter (hshares : Shares key places) {F : Forest ν β}
    (hsub : F.occurrences ⊆ places) (hclosed : Closed key places seen ongoing)
    (hfree : ∀ place ∈ F.occurrences, key place.1 ∉ ongoing) (here : π) :
    (∀ place ∈ F.occurrences, key place.1 ∈ seenAfter key extend seen here F) ∧
      Closed key places (seenAfter key extend seen here F) ongoing := by
  induction F generalizing seen ongoing here with
  | nil => exact ⟨by simp, by simpa [seenAfter] using hclosed⟩
  | cons label node below rest ihBelow ihRest =>
      simp only [occurrences_cons, List.cons_subset, List.append_subset] at hsub
      simp only [occurrences_cons, List.forall_mem_cons, List.forall_mem_append] at hfree ⊢
      obtain ⟨hsubNode, hsubBelow, hsubRest⟩ := hsub
      obtain ⟨hfreeNode, hfreeBelow, hfreeRest⟩ := hfree
      by_cases hmem : key node ∈ seen
      · -- the node was seen before, and with it all that is below
        have hbelow := (hclosed _ hsubNode hmem).resolve_left hfreeNode
        obtain ⟨hall, hdone⟩ := ihRest hsubRest hclosed hfreeRest here
        rw [seenAfter_cons_of_mem hmem]
        refine ⟨⟨List.mem_append_left _ hmem, ?_, hall⟩, hdone⟩
        intro place hplace
        exact List.mem_append_left _ (hbelow place hplace)
      · -- the node is met: first what is below, then the rest
        have hnotBelow : ∀ place ∈ below.occurrences, key place.1 ≠ key node :=
          (hshares.mono (List.cons_subset.2 ⟨hsubNode, hsubBelow⟩)).not_below
        have hfreeOpen : ∀ place ∈ below.occurrences, key place.1 ∉ key node :: ongoing := by
          intro place hplace hin
          rcases List.mem_cons.1 hin with heq | hin
          · exact hnotBelow place hplace heq
          · exact hfreeBelow place hplace hin
        obtain ⟨hallBelow, hdoneBelow⟩ :=
          ihBelow hsubBelow (hclosed.enter (key node)) hfreeOpen (extend here label)
        have hclosedRest := (hdoneBelow.leave hshares hsubNode hallBelow).congr
          fun k => mem_seenAfter_below_iff
        obtain ⟨hallRest, hdoneRest⟩ := ihRest hsubRest hclosedRest hfreeRest here
        rw [seenAfter_cons_of_not_mem hmem]
        refine ⟨⟨?_, ?_, hallRest⟩, hdoneRest⟩
        · exact List.mem_append_left _ (List.mem_append_right _ List.mem_cons_self)
        · intro place hplace
          exact List.mem_append_left _ (mem_seenAfter_below_iff.1 (hallBelow place hplace))

/-- Below a node every node is visited. -/
theorem exists_mem_visit {node : β} {F : Forest ν β}
    (hshares : Shares key ((node, F) :: F.occurrences)) (here : π) {place : β × Forest ν β}
    (hplace : place ∈ F.occurrences) :
    ∃ entry ∈ visit key extend [key node] here F, entry.2 = place.1 := by
  have hnotBelow := hshares.not_below
  have hclosed : Closed key ((node, F) :: F.occurrences) [key node] [key node] :=
    fun _ _ hseen => Or.inl hseen
  have hfree : ∀ place ∈ F.occurrences, key place.1 ∉ [key node] := by
    intro place hplace hin
    exact hnotBelow place hplace (List.mem_singleton.1 hin)
  have hsub : F.occurrences ⊆ (node, F) :: F.occurrences := List.subset_cons_self _ _
  have hall : key place.1 ∈ seenAfter key extend [key node] here F :=
    (closed_seenAfter hshares hsub hclosed hfree here).1 place hplace
  rcases List.mem_append.1 hall with hself | hvisited
  · exact absurd hself (hfree place hplace)
  · obtain ⟨entry, hentry, hkey⟩ := List.mem_map.1 hvisited
    obtain ⟨below, hbelow⟩ := mem_occurrences_of_mem_visit hentry
    have heq := hshares _ (hsub hbelow) _ (hsub hplace) hkey
    exact ⟨entry, hentry, congrArg Prod.fst heq⟩

end Complete

end Forest

end TrojanDetection.Library
