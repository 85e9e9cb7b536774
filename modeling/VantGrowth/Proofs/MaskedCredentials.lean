import Mathlib.Data.List.Induction
import VantGrowth.Proofs.CredentialMarkers

namespace VantGrowth.Proofs.MaskedCredentials
open Lib Lib.Redaction Db CredentialMarkers

/-! What of a credential is left by the two patterns. -/

section
variable {α : Type} {look : α → UInt16}

/-- Units of the class lie after units outside it. -/
theorem skip {w t a k c : List α} (outside : ∀ x ∈ w, cred look x = false)
    (run : ∀ x ∈ k, cred look x = true) (filled : k ≠ []) (h : w ++ t = a ++ (k ++ c)) :
    ∃ a', a = w ++ a' ∧ t = a' ++ (k ++ c) := by
  obtain ⟨a', ha, ht⟩ | ⟨d, hw, hd⟩ := List.append_eq_append_iff.mp h
  · exact ⟨a', ha, ht⟩
  · cases d with
    | nil => exact ⟨[], by simpa using hw.symm, by simpa using hd.symm⟩
    | cons x d =>
      obtain ⟨y, k, rfl⟩ := List.exists_cons_of_ne_nil filled
      have same : y = x := (List.cons.inj hd).1
      have plain := outside x (by simp [hw])
      rw [← same, run y (by simp)] at plain
      cases plain

/-- A marker in a text that starts with a masked value: it is the one before the
value, or its word ends the value, or it comes later. -/
theorem place {m₂ v₂ t₂ a m v t : List α} (marker₂ : BearerMarker look m₂)
    (value₂ : ∀ x ∈ v₂, cred look x = true) (valued₂ : v₂ ≠ []) (stop₂ : Bounded (cred look) t₂)
    (marker : BearerMarker look m) (value : ∀ x ∈ v, cred look x = true) (valued : v ≠ [])
    (stop : Bounded (cred look) t) (h : m₂ ++ (v₂ ++ t₂) = a ++ (m ++ (v ++ t))) :
    (a = [] ∧ m = m₂ ∧ v = v₂ ∧ t = t₂) ∨
      (∃ e b w, m = b ++ w ∧ Spells look bearer b ∧ w ≠ [] ∧ (∀ x ∈ w, white look x = true) ∧
        a = m₂ ++ e ∧ v₂ = e ++ b ∧ t₂ = w ++ (v ++ t)) ∨
      ∃ a', a = m₂ ++ (v₂ ++ a') ∧ t₂ = a' ++ (m ++ (v ++ t)) := by
  obtain ⟨b₂, w₂, rfl, word₂, filled₂, spaces₂⟩ := marker₂
  obtain ⟨b, w, rfl, word, filled, spaces⟩ := marker
  have letters := bearer_cred word
  have apart : ∀ x ∈ w₂, cred look x = false := fun x member => white_plain (spaces₂ x member)
  simp only [List.append_assoc] at h
  obtain ⟨d, within, _⟩ | ⟨a₁, rfl, beyond⟩ :=
    align letters (white_bounded filled₂ spaces₂) h
  · have sizes := congrArg List.length within
    simp only [List.length_append, bearer_length word, bearer_length word₂] at sizes
    have none_ : a = [] := List.eq_nil_of_length_eq_zero (by omega)
    subst none_
    obtain ⟨rfl, rfl, same⟩ := bearer_unique word₂ word filled₂ filled spaces₂ spaces
      (cred_bounded valued₂ value₂) (cred_bounded valued value) h
    obtain ⟨rfl, rfl⟩ := run_unique value₂ stop₂ value stop same
    exact Or.inl ⟨rfl, rfl, rfl, rfl⟩
  · obtain ⟨a₂, rfl, later⟩ := skip apart letters (bearer_ne_nil word) beyond
    obtain ⟨d, rfl, rest⟩ | ⟨a₃, rfl, rest⟩ := align letters stop₂ later
    · cases d with
      | nil =>
        exact Or.inr (Or.inl ⟨a₂, b, w, rfl, word, filled, spaces, by simp, by simp, rest.symm⟩)
      | cons x d =>
        obtain ⟨y, w, rfl⟩ := List.exists_cons_of_ne_nil filled
        have same : y = x := (List.cons.inj rest).1
        have plain := white_plain (spaces y (by simp))
        rw [same, value₂ x (by simp)] at plain
        cases plain
    · exact Or.inr (Or.inr ⟨a₃, by simp, by simpa using rest⟩)

/-- A marker whose word ends the value of another, both followed by white space. -/
def Chained (look : α → UInt16) (l : List α) : Prop := ∃ a m v m', l = a ++ (m ++ (v ++ m')) ∧
  BearerMarker look m ∧ (∀ x ∈ v, cred look x = true) ∧ BearerMarker look m'

variable {mask : List α}

/-- The value after a marker is masked, or the marker's word was masked with a
value that it ends. -/
theorem masked_or_chained {s s' : List α}
    (h : Redacts (BearerMarker look) (cred look) mask s s') {a m v t : List α}
    (split : s = a ++ (m ++ (v ++ t))) (marker : BearerMarker look m)
    (value : ∀ x ∈ v, cred look x = true) (valued : v ≠ []) (stop : Bounded (cred look) t) :
    (∀ x ∈ s', x ∈ mask ∨ x ∈ a ∨ x ∈ m ∨ x ∈ t) ∨
      ∃ l p w, Reaches (BearerMarker look) (cred look) mask s l p (w ++ (v ++ t)) ∧
        a ++ m = l ++ w ∧ w ≠ [] ∧ (∀ x ∈ w, white look x = true) ∧ Chained look (l ++ w) := by
  induction h generalizing a with
  | nil =>
    have front : m = [] := (List.append_eq_nil_iff.mp (List.append_eq_nil_iff.mp split.symm).2).1
    exact absurd front (bearer_markers.filled m marker)
  | @copy y s s' plain _ ih =>
    cases a with
    | nil =>
      rw [split] at plain
      exact absurd (front_of_value marker valued value) plain
    | cons z a =>
      obtain ⟨rfl, rfl⟩ := List.cons.inj split
      obtain hidden | ⟨l, p, w, reaches, spelled, filled, spaces, e, m₁, v₁, m₂, hl, chain⟩ := ih rfl
      · left
        intro x member
        rcases List.mem_cons.mp member with rfl | later
        · simp
        · rcases hidden x later with masked | before | rest
          · exact Or.inl masked
          · exact Or.inr (Or.inl (List.mem_cons_of_mem _ before))
          · exact Or.inr (Or.inr rest)
      · exact Or.inr ⟨y :: l, y :: p, w, .copy plain reaches, by simp [spelled], filled, spaces,
          y :: e, m₁, v₁, m₂, by simp [hl], chain⟩
  | @hit m₂ v₂ t₂ t₂' marker₂ valued₂ value₂ stop₂ rest ih =>
    obtain ⟨rfl, rfl, rfl, rfl⟩ | ⟨e, b, w, rfl, word, filled, spaces, rfl, rfl, rfl⟩ |
      ⟨a', rfl, rfl⟩ := place marker₂ value₂ valued₂ stop₂ marker value valued stop split
    · left
      intro x member
      simp only [List.mem_append] at member
      rcases member with inside | masked | later
      · exact Or.inr (Or.inr (Or.inl inside))
      · exact Or.inl masked
      · rcases rest.mem later with after | masked
        · exact Or.inr (Or.inr (Or.inr after))
        · exact Or.inl masked
    · refine Or.inr ⟨m₂ ++ (e ++ b), m₂ ++ mask, w, .here marker₂ valued₂ value₂ stop₂, by simp,
        filled, spaces, [], m₂, e, b ++ w, by simp, marker₂, ?_, b, w, rfl, word, filled, spaces⟩
      exact fun x member => value₂ x (by simp [member])
    · obtain hidden | ⟨l, p, w, reaches, spelled, filled, spaces, e, m₁, v₁, m₃, hl, chain⟩ := ih rfl
      · left
        intro x member
        simp only [List.mem_append] at member ⊢
        rcases member with inside | masked | later
        · exact Or.inr (Or.inl (Or.inl inside))
        · exact Or.inl masked
        · rcases hidden x later with masked | before | rest
          · exact Or.inl masked
          · exact Or.inr (Or.inl (Or.inr (Or.inr before)))
          · exact Or.inr (Or.inr rest)
      · exact Or.inr ⟨_, _, w, .hit marker₂ valued₂ value₂ stop₂ reaches, by simp [spelled], filled,
          spaces, m₂ ++ (v₂ ++ e), m₁, v₁, m₃, by simp [hl], chain⟩

/-- Where markers are chained, a scan comes to a marker whose word it masked. -/
theorem reaches_of_chained {s s' : List α}
    (h : Redacts (BearerMarker look) (cred look) mask s s') {l₀ r₀ : List α} {x₀ : α}
    (split : s = l₀ ++ x₀ :: r₀) (first : cred look x₀ = true) (chained : Chained look l₀) :
    ∃ l p w x r a m, Reaches (BearerMarker look) (cred look) mask s l p (w ++ x :: r) ∧
      cred look x = true ∧ w ≠ [] ∧ (∀ y ∈ w, white look y = true) ∧ l ++ w = a ++ m ∧
        BearerMarker look m ∧ l ++ w <+: l₀ := by
  induction h generalizing l₀ with
  | nil => simp at split
  | @copy y s s' plain _ ih =>
    obtain ⟨a, m, v, m', rfl, marker, value, marker'⟩ := chained
    cases a with
    | nil =>
      obtain ⟨b, w, rfl, word, filled, spaces⟩ := marker'
      have run : ∀ z ∈ v ++ b, cred look z = true := fun z member =>
        (List.mem_append.mp member).elim (value z) (bearer_cred word z)
      have front := front_of_value (t := w ++ x₀ :: r₀) marker
        (List.append_ne_nil_of_right_ne_nil v (bearer_ne_nil word)) run
      rw [split] at plain
      simp only [List.nil_append, List.append_assoc] at plain front
      exact absurd front plain
    | cons z a =>
      obtain ⟨rfl, rfl⟩ := List.cons.inj split
      obtain ⟨l, p, w, x, r, b, n, reaches, start, filled, spaces, spelled, marker₁, short⟩ :=
        ih rfl ⟨a, m, v, m', rfl, marker, value, marker'⟩
      exact ⟨y :: l, y :: p, w, x, r, y :: b, n, .copy plain reaches, start, filled, spaces,
        by simp [spelled], marker₁, (List.prefix_cons_inj y).mpr short⟩
  | @hit m₂ v₂ t₂ t₂' marker₂ valued₂ value₂ stop₂ rest ih =>
    obtain ⟨a, m, v, m', rfl, marker, value, marker'⟩ := chained
    have marked := marker'
    obtain ⟨b', w', rfl, word', filled', spaces'⟩ := marked
    have run : ∀ z ∈ v ++ b', cred look z = true := fun z member =>
      (List.mem_append.mp member).elim (value z) (bearer_cred word' z)
    have valued : v ++ b' ≠ [] := List.append_ne_nil_of_right_ne_nil v (bearer_ne_nil word')
    have whole : m₂ ++ (v₂ ++ t₂) = a ++ (m ++ ((v ++ b') ++ (w' ++ x₀ :: r₀))) := by
      rw [split]
      simp
    obtain ⟨rfl, rfl, rfl, rfl⟩ | ⟨e, b, w, rfl, word, filled, spaces, rfl, rfl, rfl⟩ |
      ⟨a', rfl, later⟩ :=
        place marker₂ value₂ valued₂ stop₂ marker run valued (white_bounded filled' spaces') whole
    · refine ⟨_, _, w', x₀, r₀, m ++ v, b' ++ w', .here marker₂ valued₂ value₂ stop₂, first, filled',
        spaces', by simp, marker', ?_⟩
      simp
    · obtain ⟨x, r, hx⟩ := List.exists_cons_of_ne_nil valued
      have reaches : Reaches (BearerMarker look) (cred look) mask _ _ _ _ :=
        .here marker₂ valued₂ value₂ stop₂
      refine ⟨m₂ ++ (e ++ b), m₂ ++ mask, w, x, r ++ (w' ++ x₀ :: r₀), m₂ ++ e, b ++ w, ?_,
        run x (by simp [hx]), filled, spaces, by simp, marker, by simp⟩
      simpa only [hx, List.cons_append] using reaches
    · obtain ⟨l, p, w, x, r, b, n, reaches, start, filled, spaces, spelled, marker₁, short⟩ :=
        ih (show t₂ = (a' ++ (m ++ (v ++ (b' ++ w')))) ++ x₀ :: r₀ by simpa using later)
          ⟨a', m, v, b' ++ w', rfl, marker, value, marker'⟩
      refine ⟨_, _, w, x, r, m₂ ++ (v₂ ++ b), n, .hit marker₂ valued₂ value₂ stop₂ reaches, start,
        filled, spaces, by simp [spelled], marker₁, ?_⟩
      simp only [List.append_assoc]
      exact (List.prefix_append_right_inj m₂).mpr ((List.prefix_append_right_inj v₂).mpr short)

/-- Units of the class at the front stay, as only what follows white space is
masked. -/
theorem lead {r t s' : List α} (run : ∀ x ∈ r, cred look x = true) (stop : Bounded (cred look) t)
    (h : Redacts (BearerMarker look) (cred look) mask (r ++ t) s') :
    ∃ t', s' = r ++ t' ∧ Bounded (cred look) t' ∧ ∀ x ∈ t', x ∈ t ∨ x ∈ mask := by
  induction r generalizing s' with
  | nil => exact ⟨s', rfl, (h.bounded bearer_markers).mp stop, fun _ member => h.mem member⟩
  | cons a r ih =>
    by_cases front : Front (BearerMarker look) (cred look) ((a :: r) ++ t)
    · obtain ⟨m, v, t₂, split, marker, valued, value, stop₂⟩ := front.value
      rw [split] at h
      obtain ⟨t', rfl, rest⟩ := h.of_marker bearer_markers marker valued value stop₂
      obtain ⟨b, w, rfl, word, filled, spaces⟩ := marker
      simp only [List.append_assoc] at split ⊢
      obtain ⟨same, rfl⟩ := run_unique run stop (bearer_cred word) (white_bounded filled spaces) split
      refine ⟨w ++ (mask ++ t'), by rw [same], white_bounded filled spaces, ?_⟩
      intro x member
      simp only [List.mem_append] at member ⊢
      rcases member with inside | masked | later
      · exact Or.inl (Or.inl inside)
      · exact Or.inr masked
      · exact (rest.mem later).imp_left fun after => Or.inr (Or.inr after)
    · obtain ⟨t', rfl, rest⟩ := h.of_plain front
      obtain ⟨t'', rfl, bounded, inside⟩ := ih (fun x member => run x (by simp [member])) rest
      exact ⟨t'', rfl, bounded, inside⟩

/-- The first pattern masks an assignment and its value, or leaves both. -/
theorem masked_or_left {s s' : List α}
    (h : Redacts (BearerMarker look) (cred look) mask s s') {a m v t : List α}
    (split : s = a ++ (m ++ (v ++ t))) (marker : AssignmentMarker look m)
    (value : ∀ x ∈ v, cred look x = true) (stop : Bounded (cred look) t) :
    (∀ x ∈ s', x ∈ mask ∨ x ∈ a ∨ x ∈ m ∨ x ∈ t) ∨
      ∃ a' t', s' = a' ++ (m ++ (v ++ t')) ∧ Bounded (cred look) t' ∧
        (∀ x ∈ a', x ∈ a ∨ x ∈ mask) ∧ ∀ x ∈ t', x ∈ t ∨ x ∈ mask := by
  have credentials := marker.split.1
  have run : ∀ x ∈ m ++ v, cred look x = true := fun x member =>
    (List.mem_append.mp member).elim (credentials x) (value x)
  induction h generalizing a with
  | nil =>
    have front : m = [] := (List.append_eq_nil_iff.mp (List.append_eq_nil_iff.mp split.symm).2).1
    exact absurd front (assignment_markers.filled m marker)
  | @copy y s s' plain rest ih =>
    cases a with
    | nil =>
      have whole : Redacts (BearerMarker look) (cred look) mask ((m ++ v) ++ t) (y :: s') := by
        rw [List.append_assoc, ← List.nil_append (m ++ (v ++ t)), ← split]
        exact .copy plain rest
      obtain ⟨t', same, bounded, inside⟩ := lead run stop whole
      exact Or.inr ⟨[], t', by rw [same]; simp, bounded, by simp, inside⟩
    | cons z a =>
      obtain ⟨rfl, rfl⟩ := List.cons.inj split
      obtain hidden | ⟨a', t', rfl, bounded, before, after⟩ := ih rfl
      · left
        intro x member
        rcases List.mem_cons.mp member with rfl | later
        · simp
        · rcases hidden x later with masked | before | rest
          · exact Or.inl masked
          · exact Or.inr (Or.inl (List.mem_cons_of_mem _ before))
          · exact Or.inr (Or.inr rest)
      · refine Or.inr ⟨y :: a', t', rfl, bounded, ?_, after⟩
        intro x member
        rcases List.mem_cons.mp member with rfl | later
        · simp
        · exact (before x later).imp_left (List.mem_cons_of_mem _)
  | @hit m₂ v₂ t₂ t₂' marker₂ valued₂ value₂ stop₂ rest ih =>
    obtain ⟨b₂, w₂, rfl, word₂, filled₂, spaces₂⟩ := marker₂
    have apart : ∀ x ∈ w₂, cred look x = false := fun x member => white_plain (spaces₂ x member)
    have nonempty := assignment_markers.filled m marker
    simp only [List.append_assoc] at split
    obtain ⟨d, within, _⟩ | ⟨a₁, rfl, beyond⟩ :=
      align credentials (white_bounded filled₂ spaces₂) split
    · obtain ⟨-, n, e, rfl, signed, -⟩ := marker.split
      exact absurd signed (bearer_plain word₂ e (by simp [within])).1
    · obtain ⟨a₂, rfl, later⟩ := skip apart credentials nonempty beyond
      obtain ⟨d, rfl, after⟩ | ⟨a₃, rfl, after⟩ := align credentials stop₂ later
      · have tail : ∀ x ∈ d, cred look x = true := fun x member => value₂ x (by simp [member])
        obtain ⟨rfl, rfl⟩ := run_unique value stop tail stop₂ after
        left
        intro x member
        simp only [List.mem_append] at member ⊢
        rcases member with (inside | inside) | masked | later
        · exact Or.inr (Or.inl (Or.inl inside))
        · exact Or.inr (Or.inl (Or.inr (Or.inl inside)))
        · exact Or.inl masked
        · exact (rest.mem later).elim (fun h => Or.inr (Or.inr (Or.inr h))) Or.inl
      · obtain hidden | ⟨a', t', rfl, bounded, before, after⟩ := ih after
        · left
          intro x member
          simp only [List.mem_append] at member ⊢
          rcases member with (inside | inside) | masked | later
          · exact Or.inr (Or.inl (Or.inl inside))
          · exact Or.inr (Or.inl (Or.inr (Or.inl inside)))
          · exact Or.inl masked
          · rcases hidden x later with masked | before | rest
            · exact Or.inl masked
            · exact Or.inr (Or.inl (Or.inr (Or.inr (Or.inr before))))
            · exact Or.inr (Or.inr rest)
        · refine Or.inr ⟨b₂ ++ (w₂ ++ (mask ++ a')), t', by simp, bounded, ?_, after⟩
          intro x member
          simp only [List.mem_append] at member ⊢
          rcases member with inside | inside | masked | later
          · exact Or.inl (Or.inl inside)
          · exact Or.inl (Or.inr (Or.inl inside))
          · exact Or.inr masked
          · exact (before x later).imp_left fun h => Or.inr (Or.inr (Or.inr h))

/-- The second pattern masks the value of every assignment. -/
theorem assignment_masked {s s' : List α}
    (h : Redacts (AssignmentMarker look) (cred look) mask s s') {a m v t : List α}
    (split : s = a ++ (m ++ (v ++ t))) (marker : AssignmentMarker look m)
    (value : ∀ x ∈ v, cred look x = true) (valued : v ≠ []) (stop : Bounded (cred look) t) :
    ∀ x ∈ s', x ∈ mask ∨ x ∈ a ∨ x ∈ m ∨ x ∈ t := by
  have credentials := marker.split.1
  induction h generalizing a with
  | nil => simp
  | @copy y s s' plain _ ih =>
    cases a with
    | nil =>
      rw [split] at plain
      exact absurd (front_of_value marker valued value) plain
    | cons z a =>
      obtain ⟨rfl, rfl⟩ := List.cons.inj split
      intro x member
      rcases List.mem_cons.mp member with rfl | later
      · simp
      · rcases ih rfl x later with masked | before | rest
        · exact Or.inl masked
        · exact Or.inr (Or.inl (List.mem_cons_of_mem _ before))
        · exact Or.inr (Or.inr rest)
  | @hit m₂ v₂ t₂ t₂' marker₂ valued₂ value₂ stop₂ rest ih =>
    obtain ⟨credentials₂, n₂, e₂, rfl, signed₂, plain₂⟩ := marker₂.split
    have run : ∀ x ∈ (n₂ ++ [e₂]) ++ v₂, cred look x = true := fun x member =>
      (List.mem_append.mp member).elim (credentials₂ x) (value₂ x)
    rw [← List.append_assoc] at split
    obtain ⟨d, within, after⟩ | ⟨a', rfl, beyond⟩ := align credentials stop₂ split
    · have tail : ∀ x ∈ d, cred look x = true := fun x member => run x (by simp [within, member])
      obtain ⟨rfl, rfl⟩ := run_unique value stop tail stop₂ after
      -- The sign of the later assignment is not in the name of the earlier one.
      have front : ∃ e, a ++ m = (n₂ ++ [e₂]) ++ e := by
        rw [← List.append_assoc] at within
        obtain ⟨e, he, _⟩ | ⟨e, he, _⟩ := List.append_eq_append_iff.mp within
        · exact ⟨e, he⟩
        · cases e using List.reverseRecOn with
          | nil => exact ⟨[], by simpa using he.symm⟩
          | append_singleton e z =>
            obtain ⟨-, n, y, rfl, signed, -⟩ := marker.split
            rw [← List.append_assoc] at he
            have inside : y ∈ n₂ := by
              rw [(List.append_inj' he rfl).1]
              simp
            exact absurd signed (plain₂ y inside)
      obtain ⟨e, front⟩ := front
      intro x member
      rcases List.mem_append.mp member with inside | later
      · have early : x ∈ a ++ m := by
          rw [front]
          exact List.mem_append_left _ inside
        rcases List.mem_append.mp early with before | marked
        · exact Or.inr (Or.inl before)
        · exact Or.inr (Or.inr (Or.inl marked))
      · rcases List.mem_append.mp later with masked | later
        · exact Or.inl masked
        · exact (rest.mem later).elim (fun h => Or.inr (Or.inr (Or.inr h))) Or.inl
    · intro x member
      simp only [List.mem_append] at member ⊢
      rcases member with inside | masked | later
      · exact Or.inr (Or.inl (Or.inl (Or.inl inside)))
      · exact Or.inl masked
      · rcases ih beyond x later with masked | before | rest
        · exact Or.inl masked
        · exact Or.inr (Or.inl (Or.inr before))
        · exact Or.inr (Or.inr rest)

end

end VantGrowth.Proofs.MaskedCredentials
