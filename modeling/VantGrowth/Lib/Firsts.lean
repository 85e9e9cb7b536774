import Mathlib.Data.Finset.Card
import Mathlib.Data.List.Forall2
import Mathlib.Data.List.Induction

namespace VantGrowth.Lib

section
variable {α β : Type} [DecidableEq β] (f : α → β)

/-- The first element of a list for every key, in order. -/
def firsts (l : List α) : List α :=
  l.foldl (fun kept a => if f a ∈ kept.map f then kept else kept ++ [a]) []

@[simp] theorem firsts_nil : firsts f [] = [] := rfl

theorem firsts_snoc (l : List α) (a : α) :
    firsts f (l ++ [a]) = if f a ∈ (firsts f l).map f then firsts f l else firsts f l ++ [a] := by
  simp [firsts, List.foldl_append]

/-- Every key of a list is that of a first. -/
theorem mem_firsts_keys (l : List α) (k : β) : k ∈ (firsts f l).map f ↔ k ∈ l.map f := by
  induction l using List.reverseRecOn with
  | nil => rfl
  | append_singleton l a ih =>
    rw [firsts_snoc]
    split
    · rename_i known
      rw [List.map_append, List.mem_append]
      refine ⟨fun h => Or.inl (ih.mp h), fun h => ?_⟩
      rcases h with old | last
      · exact ih.mpr old
      · obtain rfl : k = f a := by simpa using last
        exact known
    · simp only [List.map_append, List.mem_append, ih]

theorem firsts_nodup (l : List α) : ((firsts f l).map f).Nodup := by
  induction l using List.reverseRecOn with
  | nil => exact List.nodup_nil
  | append_singleton l a ih =>
    rw [firsts_snoc]
    split
    · exact ih
    · rename_i fresh
      rw [List.map_append]
      exact List.concat_eq_append ▸ List.Nodup.concat fresh ih

/-- What repeats known keys adds no first. -/
theorem firsts_absorb {l m : List α} (known : ∀ b ∈ m, f b ∈ l.map f) :
    firsts f (l ++ m) = firsts f l := by
  induction m using List.reverseRecOn with
  | nil => rw [List.append_nil]
  | append_singleton m b ih =>
    have earlier := ih fun c hc => known c (List.mem_append_left _ hc)
    rw [← List.append_assoc, firsts_snoc, earlier, if_pos]
    exact (mem_firsts_keys f l (f b)).mpr (known b (List.mem_append_right _ (List.mem_singleton_self b)))

theorem firsts_growing {l m : List α} (h : l <+: m) : firsts f l <+: firsts f m := by
  obtain ⟨rest, rfl⟩ := h
  induction rest using List.reverseRecOn with
  | nil => rw [List.append_nil]
  | append_singleton rest a ih =>
    rw [← List.append_assoc, firsts_snoc]
    split
    · exact ih
    · exact ih.trans (List.prefix_append _ _)

end

/-- Keys that tell the elements of a list apart pick the same firsts as the
elements themselves. -/
theorem firsts_eq_iff {α β : Type} [DecidableEq α] [DecidableEq β] (f : α → β) (l : List α) :
    (firsts f l).length = (firsts id l).length ↔ ∀ a ∈ l, ∀ b ∈ l, f a = f b → a = b := by
  have keys : (firsts f l).length = (l.toFinset.image f).card := by
    rw [← List.length_map f, ← List.toFinset_card_of_nodup (firsts_nodup f l)]
    refine congrArg Finset.card (Finset.ext fun k => ?_)
    rw [List.mem_toFinset, mem_firsts_keys]
    simp
  have elements : (firsts id l).length = l.toFinset.card := by
    rw [← List.length_map id, ← List.toFinset_card_of_nodup (firsts_nodup id l)]
    refine congrArg Finset.card (Finset.ext fun k => ?_)
    rw [List.mem_toFinset, mem_firsts_keys]
    simp
  rw [keys, elements, Finset.card_image_iff]
  simp [Set.InjOn]

theorem firsts_injective {α β : Type} [DecidableEq α] [DecidableEq β] {f : α → β} {l : List α}
    (apart : ∀ a ∈ l, ∀ b ∈ l, f a = f b → a = b) : firsts f l = firsts id l := by
  induction l using List.reverseRecOn with
  | nil => rfl
  | append_singleton l a ih =>
    have same := ih fun b hb c hc => apart b (List.mem_append_left _ hb) c (List.mem_append_left _ hc)
    have keys : f a ∈ (firsts f l).map f ↔ id a ∈ (firsts id l).map id := by
      rw [mem_firsts_keys, mem_firsts_keys, List.map_id, List.mem_map]
      refine ⟨?_, fun member => ⟨a, member, rfl⟩⟩
      rintro ⟨b, member, eq⟩
      rw [apart b (List.mem_append_left _ member) a (by simp) eq] at member
      exact member
    rw [firsts_snoc, firsts_snoc, same]
    rw [same] at keys
    exact if_congr keys rfl rfl

/-- Every element of a list has a partner in a list related to it one by one. -/
theorem partner {α β : Type} {R : α → β → Prop} {l : List α} {m : List β} (h : List.Forall₂ R l m)
    {a : α} (member : a ∈ l) : ∃ b ∈ m, R a b := by
  induction h with
  | nil => cases member
  | cons related _ ih =>
    rcases List.mem_cons.mp member with rfl | later
    · exact ⟨_, List.mem_cons_self, related⟩
    · obtain ⟨b, there, related⟩ := ih later
      exact ⟨b, List.mem_cons_of_mem _ there, related⟩

end VantGrowth.Lib
