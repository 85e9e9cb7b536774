import VantGrowth.Proofs.MaskedCredentials

namespace VantGrowth.Proofs.SettledErrors
open Lib Lib.Redaction Db CredentialMarkers MaskedCredentials

/-! Texts in which every marked value is the mask. -/

section
variable {α : Type} {look : α → UInt16} {write : UInt16 → α} (written : ∀ u, look (write u) = u)
include written

theorem mask_units : ∀ a ∈ mask write, cred look a = true ∧ look a ≠ sign := by
  have all : (JsString.ofString "[redacted]").all (fun u => isCredentialUnit u && u != sign) = true := by
    decide
  intro a member
  obtain ⟨u, inside, rfl⟩ := List.mem_map.mp member
  rw [cred, written]
  have one := List.all_eq_true.mp all u inside
  simpa using one

omit written in
theorem mask_filled : mask write ≠ [] := by
  intro empty
  cases List.map_eq_nil_iff.mp empty

omit written in
theorem mask_last (write : UInt16 → α) : ∃ d, mask write = d ++ [write 0x5D] :=
  ⟨(JsString.ofString "[redacted").map write, by rw [mask, ← List.map_singleton, ← List.map_append]; rfl⟩

/-- The mask, and no other value, stands where the class goes on. -/
theorem takeWhile_mask {t : List α} (stop : Bounded (cred look) t) :
    (mask write ++ t).takeWhile (cred look) = mask write :=
  takeWhile_run (fun a member => (mask_units written a member).1) stop

omit written in
theorem not_bounded {c : List α} : c.takeWhile (cred look) ≠ [] ↔ ¬ Bounded (cred look) c := by
  constructor
  · intro valued stop
    exact valued stop.takeWhile
  · intro goes empty
    refine goes ?_
    rw [← List.takeWhile_append_dropWhile (p := cred look) (l := c), empty]
    exact bounded_dropWhile c

omit written in
/-- A text that goes on with a value. -/
theorem value_split {c : List α} (valued : c.takeWhile (cred look) ≠ []) :
    ∃ v t, c = v ++ t ∧ v ≠ [] ∧ (∀ x ∈ v, cred look x = true) ∧ Bounded (cred look) t ∧
      c.takeWhile (cred look) = v :=
  ⟨_, _, (List.takeWhile_append_dropWhile (p := cred look) (l := c)).symm, valued,
    fun _ member => List.mem_takeWhile_imp member, bounded_dropWhile c, rfl⟩

/-- A word before white space and a value was read so, or its value was masked. -/
theorem word_read {s s' : List α}
    (h : Redacts (BearerMarker look) (cred look) (mask write) s s') {r w c : List α}
    (split : s' = r ++ (w ++ c)) (run : ∀ x ∈ r, cred look x = true) (filled : w ≠ [])
    (spaces : ∀ x ∈ w, white look x = true) (valued : c.takeWhile (cred look) ≠ []) :
    (∃ c', s = r ++ (w ++ c') ∧ c'.takeWhile (cred look) ≠ []) ∨
      c.takeWhile (cred look) = mask write := by
  induction h generalizing r w with
  | nil => exact absurd (List.append_eq_nil_iff.mp (List.append_eq_nil_iff.mp split.symm).2).1 filled
  | @copy y s s' _ rest ih =>
    cases r with
    | cons z r =>
      obtain ⟨rfl, rfl⟩ := List.cons.inj split
      obtain ⟨c', rfl, goes⟩ | masked := ih rfl (fun x member => run x (by simp [member])) filled spaces
      · exact Or.inl ⟨c', rfl, goes⟩
      · exact Or.inr masked
    | nil =>
      cases w with
      | nil => exact absurd rfl filled
      | cons z w =>
        obtain ⟨rfl, rfl⟩ := List.cons.inj split
        cases w with
        | nil =>
          refine Or.inl ⟨s, rfl, not_bounded.mpr ?_⟩
          rw [rest.bounded bearer_markers]
          exact not_bounded.mp valued
        | cons z w =>
          obtain ⟨c', rfl, goes⟩ | masked :=
            ih (r := []) (w := z :: w) rfl (by simp) (by simp)
              (fun x member => spaces x (List.mem_cons_of_mem _ member))
          · exact Or.inl ⟨c', rfl, goes⟩
          · exact Or.inr masked
  | @hit m₂ v₂ t₂ t₂' marker₂ valued₂ value₂ stop₂ rest ih =>
    obtain ⟨b₂, w₂, rfl, word₂, filled₂, spaces₂⟩ := marker₂
    obtain ⟨v, t, rfl, valued', value, stop, taken⟩ := value_split valued
    simp only [List.append_assoc] at split
    obtain ⟨rfl, after⟩ := run_unique (bearer_cred word₂) (white_bounded filled₂ spaces₂) run
      (white_bounded filled spaces) split
    have units : ∀ x ∈ mask write, cred look x = true := fun x member => (mask_units written x member).1
    obtain ⟨rfl, same⟩ := run_unique spaces₂ (cred_bounded mask_filled units) spaces
      (cred_bounded valued' value) after
    rw [← same]
    exact Or.inr (takeWhile_mask written ((rest.bounded bearer_markers).mp stop₂))

/-- The first pattern leaves no value after a marker but the mask. -/
theorem bearers_settled {s s' : List α}
    (h : Redacts (BearerMarker look) (cred look) (mask write) s s') :
    Settled (BearerMarker look) (cred look) (mask write) s' := by
  induction h with
  | nil =>
    intro a m c split marker _
    have front : m = [] := (List.append_eq_nil_iff.mp (List.append_eq_nil_iff.mp split.symm).2).1
    exact absurd front (bearer_markers.filled m marker)
  | @copy y s s' plain rest ih =>
    intro a m c split marker valued
    cases a with
    | cons z a => exact ih a m c (List.cons.inj split).2 marker valued
    | nil =>
      obtain ⟨b, w, rfl, word, filled, spaces⟩ := marker
      simp only [List.nil_append, List.append_assoc] at split
      obtain ⟨c', read, goes⟩ | masked :=
        word_read written (.copy plain rest) split (bearer_cred word) filled spaces valued
      · obtain ⟨v, t, rfl, valued', value, -, -⟩ := value_split goes
        have marker : BearerMarker look (b ++ w) := ⟨b, w, rfl, word, filled, spaces⟩
        have front := front_of_value (t := t) marker valued' value
        rw [List.append_assoc, ← read] at front
        exact absurd front plain
      · exact masked
  | @hit m₂ v₂ t₂ t₂' marker₂ valued₂ value₂ stop₂ rest ih =>
    intro a m c split marker valued
    obtain ⟨v, t, rfl, valued', value, stop, taken⟩ := value_split valued
    have units : ∀ x ∈ mask write, cred look x = true := fun x member => (mask_units written x member).1
    have stop' : Bounded (cred look) t₂' := (rest.bounded bearer_markers).mp stop₂
    obtain ⟨rfl, rfl, rfl, rfl⟩ | ⟨e, b, w, rfl, word, _, _, _, ends, _⟩ | ⟨a', _, later⟩ :=
      place marker₂ units mask_filled stop' marker value valued' stop split
    · exact taken
    · obtain ⟨d, last⟩ := mask_last write
      cases b using List.reverseRecOn with
      | nil => exact absurd rfl (bearer_ne_nil word)
      | append_singleton b z =>
        rw [last, ← List.append_assoc] at ends
        have same := (List.append_inj' ends rfl).2
        have bracket := (bearer_plain word z (by simp)).2
        rw [← (List.cons.inj same).1, written] at bracket
        exact absurd rfl bracket
    · exact ih a' m _ later marker valued

/-- A name and its sign before a value were read so, or the value was masked. -/
theorem sign_read {s s' : List α}
    (h : Redacts (AssignmentMarker look) (cred look) (mask write) s s') {n c : List α} {e : α}
    (split : s' = n ++ e :: c) (plain : ∀ x ∈ n, look x ≠ sign) (signed : look e = sign)
    (valued : c.takeWhile (cred look) ≠ []) :
    (∃ c', s = n ++ e :: c' ∧ c'.takeWhile (cred look) ≠ []) ∨
      c.takeWhile (cred look) = mask write := by
  induction h generalizing n with
  | nil => simp at split
  | @copy y s s' _ rest ih =>
    cases n with
    | cons z n =>
      obtain ⟨rfl, rfl⟩ := List.cons.inj split
      obtain ⟨c', rfl, goes⟩ | masked := ih rfl (fun x member => plain x (by simp [member]))
      · exact Or.inl ⟨c', rfl, goes⟩
      · exact Or.inr masked
    | nil =>
      obtain ⟨rfl, rfl⟩ := List.cons.inj split
      refine Or.inl ⟨s, rfl, not_bounded.mpr ?_⟩
      rw [rest.bounded assignment_markers]
      exact not_bounded.mp valued
  | @hit m₂ v₂ t₂ t₂' marker₂ _ _ stop₂ rest ih =>
    obtain ⟨-, n₂, e₂, rfl, signed₂, plain₂⟩ := marker₂.split
    simp only [List.append_assoc, List.singleton_append] at split
    obtain ⟨rfl, rfl, rfl⟩ := sign_unique plain₂ plain signed₂ signed split
    exact Or.inr (takeWhile_mask written ((rest.bounded assignment_markers).mp stop₂))

/-- The second pattern leaves no value after an assignment but the mask. -/
theorem assignments_settled {s s' : List α}
    (h : Redacts (AssignmentMarker look) (cred look) (mask write) s s') :
    Settled (AssignmentMarker look) (cred look) (mask write) s' := by
  induction h with
  | nil =>
    intro a m c split marker _
    have front : m = [] := (List.append_eq_nil_iff.mp (List.append_eq_nil_iff.mp split.symm).2).1
    exact absurd front (assignment_markers.filled m marker)
  | @copy y s s' plain rest ih =>
    intro a m c split marker valued
    cases a with
    | cons z a => exact ih a m c (List.cons.inj split).2 marker valued
    | nil =>
      obtain ⟨-, n, e, rfl, signed, named⟩ := marker.split
      simp only [List.nil_append, List.append_assoc, List.singleton_append] at split
      obtain ⟨c', read, goes⟩ | masked := sign_read written (.copy plain rest) split named signed valued
      · obtain ⟨v, t, rfl, valued', value, -, -⟩ := value_split goes
        have front := front_of_value (t := t) marker valued' value
        rw [List.append_assoc, List.singleton_append, ← read] at front
        exact absurd front plain
      · exact masked
  | @hit m₂ v₂ t₂ t₂' marker₂ valued₂ value₂ stop₂ rest ih =>
    intro a m c split marker valued
    have credentials := marker.split.1
    have stop' : Bounded (cred look) t₂' := (rest.bounded assignment_markers).mp stop₂
    rw [← List.append_assoc] at split
    obtain ⟨d, within, rfl⟩ | ⟨a', _, later⟩ := align credentials stop' split
    · obtain ⟨-, n₂, e₂, rfl, signed₂, plain₂⟩ := marker₂.split
      obtain ⟨-, n, e, rfl, signed, -⟩ := marker.split
      -- The run has one sign, so the assignment ends where the masked one does.
      have plain' : ∀ x ∈ mask write, look x ≠ sign := fun x member => (mask_units written x member).2
      have ends : d = mask write := by
        have whole : n₂ ++ e₂ :: mask write = (a ++ n) ++ e :: d := by simpa using within
        obtain ⟨f, hf, hd⟩ | ⟨f, hf, hd⟩ := List.append_eq_append_iff.mp whole
        · cases f with
          | nil => exact (List.cons.inj hd).2.symm
          | cons x f =>
            have inside : e ∈ mask write := by
              rw [(List.cons.inj hd).2]
              simp
            exact absurd signed (plain' e inside)
        · cases f with
          | nil => exact (List.cons.inj hd).2
          | cons x f =>
            have same : e = x := (List.cons.inj hd).1
            have inside : e ∈ n₂ := by
              rw [hf, same]
              simp
            exact absurd signed (plain₂ e inside)
      rw [ends]
      exact takeWhile_mask written stop'
    · exact ih a' m c later marker valued

/-- A word with no sign, before white space, is as it was read. -/
theorem word_kept {s s' : List α}
    (h : Redacts (AssignmentMarker look) (cred look) (mask write) s s') {r w c : List α}
    (split : s' = r ++ (w ++ c)) (run : ∀ x ∈ r, cred look x = true)
    (plain : ∀ x ∈ r, look x ≠ sign) (filled : w ≠ []) (spaces : ∀ x ∈ w, white look x = true) :
    ∃ c', s = r ++ (w ++ c') ∧
      Redacts (AssignmentMarker look) (cred look) (mask write) c' c := by
  induction h generalizing r w with
  | nil => exact absurd (List.append_eq_nil_iff.mp (List.append_eq_nil_iff.mp split.symm).2).1 filled
  | @copy y s s' _ rest ih =>
    cases r with
    | cons z r =>
      obtain ⟨rfl, rfl⟩ := List.cons.inj split
      obtain ⟨c', rfl, goes⟩ := ih rfl (fun x member => run x (by simp [member]))
        (fun x member => plain x (by simp [member])) filled spaces
      exact ⟨c', rfl, goes⟩
    | nil =>
      cases w with
      | nil => exact absurd rfl filled
      | cons z w =>
        obtain ⟨rfl, rfl⟩ := List.cons.inj split
        cases w with
        | nil => exact ⟨s, rfl, rest⟩
        | cons z w =>
          obtain ⟨c', rfl, goes⟩ := ih (r := []) (w := z :: w) rfl (by simp) (by simp) (by simp)
            (fun x member => spaces x (List.mem_cons_of_mem _ member))
          exact ⟨c', rfl, goes⟩
  | @hit m₂ v₂ t₂ t₂' marker₂ _ _ stop₂ rest _ =>
    obtain ⟨credentials₂, n₂, e₂, rfl, signed₂, -⟩ := marker₂.split
    have stop' : Bounded (cred look) t₂' := (rest.bounded assignment_markers).mp stop₂
    have run' : ∀ x ∈ (n₂ ++ [e₂]) ++ mask write, cred look x = true := fun x member =>
      (List.mem_append.mp member).elim (credentials₂ x) fun h => (mask_units written x h).1
    rw [← List.append_assoc] at split
    obtain ⟨rfl, -⟩ := run_unique run' stop' run (white_bounded filled spaces) split
    exact absurd signed₂ (plain e₂ (by simp))

omit written in
/-- A run with no sign stays. -/
theorem run_kept {r t s' : List α} (plain : ∀ x ∈ r, look x ≠ sign)
    (stop : Bounded (cred look) t)
    (h : Redacts (AssignmentMarker look) (cred look) (mask write) (r ++ t) s') :
    ∃ t', s' = r ++ t' ∧ Bounded (cred look) t' := by
  induction r generalizing s' with
  | nil => exact ⟨s', rfl, (h.bounded assignment_markers).mp stop⟩
  | cons a r ih =>
    have front : ¬ Front (AssignmentMarker look) (cred look) ((a :: r) ++ t) := by
      rintro ⟨m, x, u, split, marker, _⟩
      obtain ⟨credentials, n, e, rfl, signed, -⟩ := marker.split
      obtain ⟨d, within, _⟩ | ⟨a', empty, _⟩ := align (a := []) credentials stop split
      · exact plain e (by simp [within]) signed
      · cases empty
    obtain ⟨t', rfl, rest⟩ := h.of_plain front
    obtain ⟨t'', rfl, bounded⟩ := ih (fun x member => plain x (by simp [member])) rest
    exact ⟨t'', rfl, bounded⟩

/-- The second pattern adds no value after a marker of the first. -/
theorem bearers_kept {s s' : List α}
    (h : Redacts (AssignmentMarker look) (cred look) (mask write) s s')
    (settled : Settled (BearerMarker look) (cred look) (mask write) s) :
    Settled (BearerMarker look) (cred look) (mask write) s' := by
  induction h with
  | nil => exact settled
  | @copy y s s' plain rest ih =>
    intro a m c split marker valued
    cases a with
    | cons z a =>
      have tail : Settled (BearerMarker look) (cred look) (mask write) s := fun b m' c' same =>
        settled (y :: b) m' c' (by rw [same]; rfl)
      exact ih tail a m c (List.cons.inj split).2 marker valued
    | nil =>
      have marked := marker
      obtain ⟨b, w, rfl, word, filled, spaces⟩ := marked
      simp only [List.nil_append, List.append_assoc] at split
      obtain ⟨c', read, goes⟩ := word_kept written (.copy plain rest) split (bearer_cred word)
        (fun x member => (bearer_plain word x member).1) filled spaces
      have valued' : c'.takeWhile (cred look) ≠ [] := by
        rw [not_bounded, goes.bounded assignment_markers]
        exact not_bounded.mp valued
      have masked := settled [] (b ++ w) c' (by rw [read]; simp) marker valued'
      rw [← List.takeWhile_append_dropWhile (p := cred look) (l := c'), masked] at goes
      obtain ⟨t', rfl, bounded⟩ := run_kept (fun x member => (mask_units written x member).2)
        (bounded_dropWhile c') goes
      exact takeWhile_mask written bounded
  | @hit m₂ v₂ t₂ t₂' marker₂ _ _ stop₂ rest ih =>
    intro a m c split marker valued
    have stop' : Bounded (cred look) t₂' := (rest.bounded assignment_markers).mp stop₂
    have marked := marker
    obtain ⟨b, w, rfl, word, filled, spaces⟩ := marked
    have run : ∀ x ∈ m₂ ++ mask write, cred look x = true := fun x member =>
      (List.mem_append.mp member).elim (marker₂.split.1 x) fun h => (mask_units written x h).1
    have whole : (m₂ ++ mask write) ++ t₂' = a ++ (b ++ (w ++ c)) := by simpa using split
    obtain ⟨d, within, after⟩ | ⟨a', _, later⟩ := align (bearer_cred word) stop' whole
    · have tail : ∀ x ∈ d, cred look x = true := fun x member => run x (by simp [within, member])
      obtain ⟨y, w, rfl⟩ := List.exists_cons_of_ne_nil filled
      cases d with
      | cons x d =>
        have same : y = x := (List.cons.inj after).1
        have outside := white_plain (spaces y (by simp))
        rw [same, tail x (by simp)] at outside
        cases outside
      | nil =>
        obtain ⟨d, last⟩ := mask_last write
        cases b using List.reverseRecOn with
        | nil => exact absurd rfl (bearer_ne_nil word)
        | append_singleton b z =>
          rw [last, List.append_nil, ← List.append_assoc, ← List.append_assoc] at within
          have same := (List.append_inj' within rfl).2
          have bracket := (bearer_plain word z (by simp)).2
          rw [← (List.cons.inj same).1, written] at bracket
          exact absurd rfl bracket
    · have tail : Settled (BearerMarker look) (cred look) (mask write) t₂ := fun b' m' c' same =>
        settled (m₂ ++ (v₂ ++ b')) m' c' (by rw [same]; simp)
      exact ih tail a' (b ++ w) c (by simpa using later) marker valued

end

end VantGrowth.Proofs.SettledErrors
