import Mathlib.Data.List.Infix
import VantGrowth.Proofs.SettledErrors
import VantGrowth.Publisher.OutboxPublisher

namespace VantGrowth.Proofs.SanitizedErrors
open Lib Lib.Redaction Db CredentialMarkers MaskedCredentials SettledErrors

/-! Which units of a marked credential a sanitized error shows. -/

/-- Both patterns, before the text is cut. -/
def redacted (value : JsString) : JsString :=
  JsString.replaceAll assignmentHit (JsString.replaceAll bearerHit value)

section
variable {α : Type} (look : α → UInt16) (write : UInt16 → α)

/-- Both patterns over units that carry more than their code. -/
def masked (s : List α) : List α :=
  let first := rewriteFrom look write bearerCut s.length s
  rewriteFrom look write assignmentCut first.length first

end

/-- A unit and the position it has in the error, if it comes from there. -/
abbrev Mark := UInt16 × Option Nat

def numbered (value : JsString) : List Mark := value.zipIdx.map fun (u, i) => (u, some i)

/-- What is stored of an error, each unit with its origin. -/
def stored (limit : Nat) (value : JsString) : List Mark :=
  (masked Prod.fst (·, none) (numbered value)).take limit

def Marker (m : JsString) : Prop := BearerMarker id m ∨ AssignmentMarker id m

/-- No unit of the run that follows a marker is stored. -/
def Hides (limit : Nat) (value : JsString) : Prop :=
  ∀ before marker after, value = before ++ (marker ++ after) → Marker marker →
    ∀ i < (after.takeWhile isCredentialUnit).length,
      some (before.length + marker.length + i) ∉ (stored limit value).map Prod.snd

/-- Where the word of a `bearer` marker ends the value of another, no value follows
it, or what is before that value fills what is stored. -/
def Apart (limit : Nat) (value : JsString) : Prop :=
  ∀ before after, value = before ++ after → Chained id before →
    after.takeWhile isCredentialUnit ≠ [] → limit ≤ (redacted before).length

section
variable {α : Type} {look : α → UInt16} {write : UInt16 → α}

theorem masked_look (written : ∀ u, look (write u) = u) (s : List α) :
    (masked look write s).map look = redacted (s.map look) := by
  have first := rewriteFrom_look written bearerCut s.length s
  have size := congrArg List.length first
  rw [List.length_map] at size
  simp only [masked]
  rw [rewriteFrom_look written, first, size, redacted, JsString.replaceAll, JsString.replaceAll,
    asHit_bearer, asHit_assignment, List.length_map]

theorem masked_redacts (look : α → UInt16) (write : UInt16 → α) (s : List α) :
    ∃ first, Redacts (BearerMarker look) (cred look) (mask write) s first ∧
      Redacts (AssignmentMarker look) (cred look) (mask write) first (masked look write s) :=
  ⟨_, rewriteFrom_redacts bearer_markers bearer_finds (Nat.le_refl _),
    rewriteFrom_redacts assignment_markers assignment_finds (Nat.le_refl _)⟩

theorem masked_eq {s first s' : List α}
    (one : Redacts (BearerMarker look) (cred look) (mask write) s first)
    (two : Redacts (AssignmentMarker look) (cred look) (mask write) first s') :
    masked look write s = s' := by
  obtain ⟨first', one', two'⟩ := masked_redacts look write s
  rw [one.eq bearer_markers one'] at two
  exact two'.eq assignment_markers two

theorem masked_mem {s : List α} {x : α} (member : x ∈ masked look write s) :
    x ∈ s ∨ x ∈ mask write := by
  obtain ⟨first, one, two⟩ := masked_redacts look write s
  rcases two.mem member with inside | masked
  · exact one.mem inside
  · exact Or.inr masked

theorem masked_head (look : α → UInt16) (write : UInt16 → α) (s : List α) :
    (masked look write s).head? = s.head? := by
  obtain ⟨first, one, two⟩ := masked_redacts look write s
  rw [two.head assignment_markers, one.head bearer_markers]

/-- White space at the front stays. -/
theorem spaces_kept {mask w u s' : List α} (spaces : ∀ x ∈ w, white look x = true)
    (h : Redacts (BearerMarker look) (cred look) mask (w ++ u) s') :
    ∃ u', s' = w ++ u' ∧ Redacts (BearerMarker look) (cred look) mask u u' := by
  induction w generalizing s' with
  | nil => exact ⟨s', rfl, h⟩
  | cons a w ih =>
    have front : ¬ Front (BearerMarker look) (cred look) ((a :: w) ++ u) := by
      rintro ⟨m, x, t, split, ⟨b, w', rfl, word, _, _⟩, _⟩
      obtain ⟨z, zs, rfl⟩ := List.exists_cons_of_ne_nil (bearer_ne_nil word)
      have same : a = z := (List.cons.inj split).1
      have outside := white_plain (spaces a (by simp))
      rw [same, bearer_cred word z (by simp)] at outside
      cases outside
    obtain ⟨t', rfl, rest⟩ := h.of_plain front
    obtain ⟨u', rfl, kept⟩ := ih (fun x member => spaces x (by simp [member])) rest
    exact ⟨u', rfl, kept⟩

/-- Where a text ends outside the class, what follows is scanned by itself. -/
theorem parts {mask s t s' t' : List α}
    (h : Redacts (AssignmentMarker look) (cred look) mask s s')
    (rest : Redacts (AssignmentMarker look) (cred look) mask t t')
    (ends : ∀ z ∈ s.getLast?, cred look z = false) :
    Redacts (AssignmentMarker look) (cred look) mask (s ++ t) (s' ++ t') := by
  induction h with
  | nil => exact rest
  | @copy a s s' plain _ ih =>
    have tail : ∀ z ∈ s.getLast?, cred look z = false := by
      cases s with
      | nil => simp
      | cons b s => exact fun z last => ends z (by rwa [List.getLast?_cons_cons])
    refine .copy ?_ (ih tail)
    rintro ⟨m, x, u, split, marker, first⟩
    have run : ∀ y ∈ m ++ [x], cred look y = true := fun y member =>
      (List.mem_append.mp member).elim (marker.split.1 y) fun h => by
        rw [List.mem_singleton.mp h]
        exact first
    -- The marker and the first unit of its value end before the last unit does.
    obtain ⟨r, z, whole⟩ : ∃ r z, a :: s = r ++ [z] :=
      ⟨_, _, (List.dropLast_append_getLast (List.cons_ne_nil a s)).symm⟩
    have outside : cred look z = false := ends z (by rw [whole]; simp)
    have place : r ++ (z :: t) = [] ++ ((m ++ [x]) ++ u) := by
      have same : (a :: s) ++ t = m ++ x :: u := split
      rw [whole] at same
      simpa using same
    obtain ⟨d, within, _⟩ | ⟨e, empty, beyond⟩ := align run (bounded_cons outside) place
    · refine plain ⟨m, x, d ++ [z], ?_, marker, first⟩
      rw [whole, within]
      simp
    · rw [(List.append_eq_nil_iff.mp empty.symm).2, List.nil_append] at beyond
      cases m with
      | nil => exact absurd rfl (assignment_markers.filled _ marker)
      | cons y m =>
        rw [(List.cons.inj beyond).1, run y (by simp)] at outside
        cases outside
  | @hit m v s s' marker valued value stop _ ih =>
    cases s with
    | nil =>
      obtain ⟨v, z, rfl⟩ := (List.eq_nil_or_concat' v).resolve_left valued
      have outside := ends z (by simp)
      rw [value z (by simp)] at outside
      cases outside
    | cons b s =>
      have tail : ∀ z ∈ (b :: s).getLast?, cred look z = false := by
        intro z last
        refine ends z ?_
        rw [List.getLast?_append, List.getLast?_append, last]
        rfl
      simp only [List.append_assoc]
      exact .hit marker valued value (stop.append (by simp)) (ih tail)

/-- What follows a marker whose word was masked is scanned by itself. -/
theorem masked_split {s l p t w : List α}
    (h : Reaches (BearerMarker look) (cred look) (mask write) s l p t) (filled : w ≠ [])
    (spaces : ∀ x ∈ w, white look x = true) (u : List α) :
    masked look write (l ++ (w ++ u)) = masked look write (l ++ w) ++ masked look write u := by
  have from_ : ∀ u first, Redacts (BearerMarker look) (cred look) (mask write) u first →
      Redacts (BearerMarker look) (cred look) (mask write) (l ++ (w ++ u)) (p ++ (w ++ first)) := by
    intro u first one
    refine h.scan bearer_simple (white_bounded filled spaces) ?_
    have whole : Redacts (BearerMarker look) (cred look) (mask write) (w ++ u) _ :=
      rewriteFrom_redacts bearer_markers bearer_finds (Nat.le_refl (w ++ u).length)
    obtain ⟨u', same, rest⟩ := spaces_kept spaces whole
    rw [same, rest.eq bearer_markers one] at whole
    exact whole
  obtain ⟨first, one, two⟩ := masked_redacts look write u
  have alone := from_ [] [] .nil
  simp only [List.append_nil] at alone
  have second : Redacts (AssignmentMarker look) (cred look) (mask write) (p ++ w) _ :=
    rewriteFrom_redacts assignment_markers assignment_finds (Nat.le_refl (p ++ w).length)
  have ends : ∀ z ∈ (p ++ w).getLast?, cred look z = false := by
    intro z last
    obtain ⟨w, y, rfl⟩ := (List.eq_nil_or_concat' w).resolve_left filled
    rw [← List.append_assoc, List.getLast?_concat] at last
    cases last
    exact white_plain (spaces z (by simp))
  have both := parts second two ends
  rw [List.append_assoc] at both
  rw [masked_eq (from_ u first one) both, masked_eq alone second]

end

section
variable {α : Type} {look : α → UInt16}

theorem spells_codes {word : JsString} {b : List α} :
    Spells id word (b.map look) ↔ Spells look word b := by
  simp [Spells, List.map_map, Function.comp_def]

theorem bearer_codes {m : List α} : BearerMarker id (m.map look) ↔ BearerMarker look m := by
  constructor
  · rintro ⟨b, w, split, word, filled, spaces⟩
    obtain ⟨b, w, rfl, rfl, rfl⟩ := List.map_eq_append_iff.mp split
    refine ⟨b, w, rfl, spells_codes.mp word, by simpa using filled, ?_⟩
    exact fun a member => spaces (look a) (List.mem_map_of_mem member)
  · rintro ⟨b, w, rfl, word, filled, spaces⟩
    refine ⟨b.map look, w.map look, by simp, spells_codes.mpr word, by simpa using filled, ?_⟩
    intro u member
    obtain ⟨a, inside, rfl⟩ := List.mem_map.mp member
    exact spaces a inside

theorem assignment_codes {m : List α} :
    AssignmentMarker id (m.map look) ↔ AssignmentMarker look m := by
  simp only [AssignmentMarker, spells_codes]

theorem chained_codes {l : List α} : Chained id (l.map look) ↔ Chained look l := by
  constructor
  · rintro ⟨a, m, v, m', split, marker, value, marker'⟩
    obtain ⟨a, l₁, rfl, rfl, split₁⟩ := List.map_eq_append_iff.mp split
    obtain ⟨m, l₂, rfl, rfl, split₂⟩ := List.map_eq_append_iff.mp split₁
    obtain ⟨v, m', rfl, rfl, rfl⟩ := List.map_eq_append_iff.mp split₂
    refine ⟨a, m, v, m', rfl, bearer_codes.mp marker, ?_, bearer_codes.mp marker'⟩
    exact fun x member => value (look x) (List.mem_map_of_mem member)
  · rintro ⟨a, m, v, m', rfl, marker, value, marker'⟩
    refine ⟨a.map look, m.map look, v.map look, m'.map look, by simp, bearer_codes.mpr marker, ?_,
      bearer_codes.mpr marker'⟩
    intro u member
    obtain ⟨x, inside, rfl⟩ := List.mem_map.mp member
    exact value x inside

end

theorem written_code : ∀ u : UInt16, ((u, none) : Mark).1 = u := fun _ => rfl

theorem mask_origin {x : Mark} (h : x ∈ mask fun u => ((u, none) : Mark)) : x.2 = none := by
  obtain ⟨u, _, rfl⟩ := List.mem_map.mp h
  rfl

theorem numbered_get (value : JsString) (i : Nat) :
    (numbered value)[i]? = value[i]?.map fun u => (u, some i) := by
  simp [numbered, List.getElem?_map, List.getElem?_zipIdx]
  rfl

theorem numbered_codes (value : JsString) : (numbered value).map Prod.fst = value := by
  apply List.ext_getElem?
  intro i
  rw [List.getElem?_map, numbered_get]
  cases value[i]? <;> rfl

/-- A mark stands at its own position. -/
theorem numbered_at {value : JsString} {x : Mark} {i : Nat} (member : x ∈ numbered value)
    (origin : x.2 = some i) : (numbered value)[i]? = some x := by
  obtain ⟨j, at_⟩ := List.getElem?_of_mem member
  have found := at_
  rw [numbered_get] at found
  obtain ⟨u, _, rfl⟩ := Option.map_eq_some_iff.mp found
  cases origin
  exact at_

theorem numbered_origin {value : JsString} {x : Mark} {i : Nat}
    (at_ : (numbered value)[i]? = some x) : x.2 = some i := by
  rw [numbered_get] at at_
  obtain ⟨u, _, rfl⟩ := Option.map_eq_some_iff.mp at_
  rfl

theorem numbered_nodup (value : JsString) : (numbered value).Nodup := by
  rw [List.nodup_iff_getElem?_ne_getElem?]
  intro i j below inside same
  have inside' : i < (numbered value).length := Nat.lt_trans below inside
  have here := numbered_origin (List.getElem?_eq_getElem inside')
  have there := numbered_origin (same.symm.trans (List.getElem?_eq_getElem inside'))
  rw [here] at there
  cases there
  exact Nat.lt_irrefl _ below

/-- Parts of an error as parts of its marks. -/
theorem marks_split {value before marker after : JsString}
    (split : value = before ++ (marker ++ after)) :
    ∃ a m v t : List Mark, numbered value = a ++ (m ++ (v ++ t)) ∧ a.map Prod.fst = before ∧
      m.map Prod.fst = marker ∧ (v ++ t).map Prod.fst = after ∧
        v.map Prod.fst = after.takeWhile isCredentialUnit ∧ (∀ x ∈ v, cred Prod.fst x = true) ∧
          Bounded (cred Prod.fst) t := by
  have codes := numbered_codes value
  rw [split] at codes
  obtain ⟨a, rest, whole, front, back⟩ := List.map_eq_append_iff.mp codes
  obtain ⟨m, c, rfl, spelled, tail⟩ := List.map_eq_append_iff.mp back
  refine ⟨a, m, c.takeWhile (cred Prod.fst), c.dropWhile (cred Prod.fst), ?_, front, spelled, ?_, ?_,
    fun _ member => List.mem_takeWhile_imp member, bounded_dropWhile c⟩
  · rw [List.takeWhile_append_dropWhile, split, whole]
  · rw [List.takeWhile_append_dropWhile, tail]
  · rw [← tail, takeWhile_look]
    rfl

/-- A unit of the run that is stored would be one unit of the error. -/
theorem stored_unit {limit : Nat} {value : JsString} {a m v t : List Mark}
    (whole : numbered value = a ++ (m ++ (v ++ t))) {i : Nat} (inside : i < v.length)
    (shown : some (a.length + m.length + i) ∈ (stored limit value).map Prod.snd) :
    ∃ y ∈ stored limit value, y ∉ mask (fun u => ((u, none) : Mark)) ∧ y ∉ a ∧ y ∉ m ∧ y ∉ t := by
  obtain ⟨y, member, origin⟩ := List.mem_map.mp shown
  have plain : y ∉ mask fun u => ((u, none) : Mark) := by
    intro masked
    rw [mask_origin masked] at origin
    cases origin
  have read : y ∈ numbered value := (masked_mem (List.mem_of_mem_take member)).resolve_right plain
  have at_ := numbered_at read origin
  have unique := numbered_nodup value
  have run : y ∈ v := by
    rw [whole, ← List.append_assoc, List.getElem?_append_right (by simp),
      List.length_append, Nat.add_sub_cancel_left, List.getElem?_append_left inside] at at_
    exact List.mem_of_getElem? at_
  rw [whole, List.nodup_append, List.nodup_append, List.nodup_append] at unique
  obtain ⟨_, ⟨_, ⟨_, _, apart⟩, marked⟩, before⟩ := unique
  refine ⟨y, member, plain, ?_, ?_, ?_⟩
  · exact fun other => before y other y (by simp [run]) rfl
  · exact fun other => marked y other y (by simp [run]) rfl
  · exact fun other => apart y run y other rfl

theorem redacted_length (s : List Mark) :
    (redacted (s.map Prod.fst)).length = (masked Prod.fst (fun u => ((u, none) : Mark)) s).length := by
  rw [← masked_look written_code, List.length_map]

theorem hides_of_apart {limit : Nat} {value : JsString} (apart : Apart limit value) :
    Hides limit value := by
  intro before marker after split marked i inside shown
  obtain ⟨a, m, v, t, whole, rfl, rfl, rest, taken, run, stop⟩ := marks_split split
  rw [← taken, List.length_map] at inside
  rw [List.length_map, List.length_map] at shown
  obtain ⟨y, member, plain, before, inMarker, afterwards⟩ := stored_unit whole inside shown
  have valued : v ≠ [] := List.ne_nil_of_length_pos (Nat.lt_of_le_of_lt (Nat.zero_le i) inside)
  have written : y ∈ masked Prod.fst (fun u => ((u, none) : Mark)) (numbered value) :=
    List.mem_of_mem_take member
  obtain ⟨first, one, two⟩ := masked_redacts Prod.fst
    (fun u => ((u, none) : Mark)) (numbered value)
  rcases marked with bearer | assignment
  · obtain hidden | ⟨l, p, w, reaches, spelled, filled, spaces, chained⟩ :=
      masked_or_chained one whole (bearer_codes.mp bearer) run valued stop
    · have left := (two.mem written).resolve_right plain
      rcases hidden y left with h | h | h | h
      · exact plain h
      · exact before h
      · exact inMarker h
      · exact afterwards h
    · have room := apart (a.map Prod.fst ++ m.map Prod.fst) after (by rw [split]; simp)
        (by rw [← List.map_append, spelled]; exact chained_codes.mpr chained)
        (by rw [← taken]; simpa using valued)
      rw [← List.map_append, spelled, redacted_length] at room
      have parts := masked_split reaches filled spaces (v ++ t)
      rw [← reaches.split] at parts
      rw [stored, parts, List.take_append_of_le_length room] at member
      rcases masked_mem (List.mem_of_mem_take member) with early | masked
      · rw [← spelled] at early
        exact (List.mem_append.mp early).elim before inMarker
      · exact plain masked
  · have marker := assignment_codes.mp assignment
    have left := (two.mem written).resolve_right plain
    obtain hidden | ⟨a', t', rfl, stop', front, back⟩ := masked_or_left one whole marker run stop
    · rcases hidden y left with h | h | h | h
      · exact plain h
      · exact before h
      · exact inMarker h
      · exact afterwards h
    · rcases assignment_masked two rfl marker run valued stop' y written with h | h | h | h
      · exact plain h
      · exact (front y h).elim before plain
      · exact inMarker h
      · exact (back y h).elim afterwards plain

/-- Where markers are chained, the first unit after one whose word was masked is stored. -/
theorem apart_of_hides {limit : Nat} {value : JsString} (hides : Hides limit value) :
    Apart limit value := by
  intro before after split chained valued
  by_contra short
  obtain ⟨a, m, v, t, whole, rfl, empty, rest, taken, run, stop⟩ :=
    marks_split (show value = before ++ ([] ++ after) by simpa using split)
  rw [List.map_eq_nil_iff] at empty
  subst empty
  rw [← taken] at valued
  obtain ⟨x₀, r₀, rfl⟩ := List.exists_cons_of_ne_nil (show v ≠ [] by simpa using valued)
  obtain ⟨first, one, two⟩ := masked_redacts Prod.fst
    (fun u => ((u, none) : Mark)) (numbered value)
  obtain ⟨l, p, w, x, r, b, n, reaches, start, filled, spaces, spelled, marker, ⟨e, grown⟩⟩ :=
    reaches_of_chained one (show numbered value = a ++ x₀ :: (r₀ ++ t) by simpa using whole)
      (run x₀ (by simp)) (chained_codes.mp chained)
  have parts := masked_split reaches filled spaces (x :: r)
  rw [← reaches.split] at parts
  -- What is before the unit is no longer than what is before the given value.
  have room : (masked Prod.fst (fun u => ((u, none) : Mark)) (l ++ w)).length < limit := by
    have longer := masked_split reaches filled spaces e
    rw [← List.append_assoc, grown] at longer
    have size := congrArg List.length longer
    rw [List.length_append, ← redacted_length] at size
    omega
  obtain ⟨q, next⟩ : ∃ q, masked Prod.fst (fun u => ((u, none) : Mark)) (x :: r) = x :: q := by
    have head := masked_head Prod.fst (fun u => ((u, none) : Mark)) (x :: r)
    exact List.head?_eq_some_iff.mp head
  have split' : numbered value = b ++ (n ++ (x :: r)) := by
    rw [reaches.split, ← List.append_assoc, spelled, List.append_assoc]
  have origin : x.2 = some (b.length + n.length + 0) := by
    have at_ : (numbered value)[b.length + n.length + 0]? = some x := by
      rw [split', ← List.append_assoc, List.getElem?_append_right (by simp)]
      simp
    exact numbered_origin at_
  have shown : x ∈ stored limit value := by
    rw [stored, parts, next]
    rw [List.mem_take_iff_getElem]
    refine ⟨(masked Prod.fst (fun u => ((u, none) : Mark)) (l ++ w)).length, ?_, ?_⟩
    · simp
      omega
    · simp
  refine hides (b.map Prod.fst) (n.map Prod.fst) ((x :: r).map Prod.fst) ?_
    (Or.inl (bearer_codes.mpr marker)) 0 ?_ ?_
  · rw [← List.map_append, ← List.map_append, ← split', numbered_codes]
  · rw [takeWhile_look]
    have kept : cred Prod.fst x = true := start
    rw [cred] at kept
    simp [kept]
  · rw [List.length_map, List.length_map, ← origin]
    exact List.mem_map_of_mem shown

/-- What both patterns make of the front of a masked text, cut where it was cut. -/
theorem redacted_again (limit : Nat) (value : JsString) :
    (redacted ((redacted value).take limit)).take limit = (redacted value).take limit := by
  have codes : ∀ s : JsString, redacted s = masked id id s := by
    intro s
    have same : (masked id id s).map id = redacted (s.map id) := masked_look (fun _ => rfl) s
    simpa using same.symm
  simp only [codes]
  obtain ⟨first, one, two⟩ := masked_redacts id id value
  have bearers := bearers_kept (fun _ => rfl) two (bearers_settled (fun _ => rfl) one)
  have assignments := assignments_settled (fun _ => rfl) two
  have cut := List.take_append_drop limit (masked id id value)
  obtain ⟨again, one', two'⟩ := masked_redacts id id
    ((masked id id value).take limit)
  rw [← cut] at bearers
  obtain ⟨more, e, within⟩ := one'.of_settled bearer_markers bearers
  rw [cut] at within
  rw [← within] at assignments
  obtain ⟨more', less⟩ := two'.of_settled assignment_markers assignments
  rw [within] at less
  have longer := more.trans more'
  -- Both are fronts of the masked text, and neither is shorter than the other.
  obtain ⟨rest, grown⟩ := longer
  refine List.IsPrefix.eq_of_length (List.IsPrefix.take less limit) ?_
  have sizes := congrArg List.length grown
  have short := less.length_le
  simp only [List.length_append, List.length_take] at sizes ⊢
  omega

theorem sanitizeError_eq (value : String) :
    Publisher.sanitizeError value = (redacted (.ofString value)).take 1000 := rfl

theorem stored_codes (limit : Nat) (value : JsString) :
    (stored limit value).map Prod.fst = (redacted value).take limit := by
  rw [stored, List.map_take, masked_look written_code, numbered_codes]

/-- What the marks of a stored error spell, and when they hide what is marked. -/
theorem errors_hidden (value : JsString) (text again : String) :
    ((stored 2000 value).map Prod.fst = sanitizeErrorMessage value ∧
      ((Hides 2000 value ∧
          sanitizeErrorMessage (sanitizeErrorMessage value) = sanitizeErrorMessage value) ↔
        Apart 2000 value)) ∧
    (stored 1000 (.ofString text)).map Prod.fst = Publisher.sanitizeError text ∧
      ((Hides 1000 (.ofString text) ∧ (JsString.ofString again = Publisher.sanitizeError text →
          Publisher.sanitizeError again = Publisher.sanitizeError text)) ↔
        Apart 1000 (.ofString text)) := by
  constructor
  · refine ⟨stored_codes 2000 value, fun h => apart_of_hides h.1, fun apart => ?_⟩
    exact ⟨hides_of_apart apart, redacted_again 2000 value⟩
  · refine ⟨stored_codes 1000 _, fun h => apart_of_hides h.1, fun apart => ?_⟩
    refine ⟨hides_of_apart apart, fun same => ?_⟩
    rw [sanitizeError_eq, same]
    exact redacted_again 1000 (.ofString text)

/-- A key that follows two `bearer` words is stored. -/
theorem errors_shown : ¬ Hides 2000 (.ofString "bearer bearer xyz") := by
  intro hides
  have marker : Marker (.ofString "bearer ") :=
    Or.inl ⟨JsString.ofString "bearer", [0x20], rfl,
      show (JsString.ofString "bearer").map JsString.fold = bearer by decide, by decide,
      List.forall_mem_singleton.mpr (by decide)⟩
  have hidden := hides (.ofString "bearer ") (.ofString "bearer ") (.ofString "xyz") (by decide)
    marker 0 (by decide)
  exact absurd hidden (by decide)

end VantGrowth.Proofs.SanitizedErrors
