import VantGrowth.Lib.JsString

/-! Masking, in a scan from the left, of what follows a marker. -/

namespace VantGrowth.Lib.Redaction

/-- How a pattern matches at the front: the units that stay, the text written
after them and the units dropped. -/
structure Cut where
  kept : Nat
  text : JsString
  dropped : Nat

/-- The replacement and the rest. -/
def asHit (cut : JsString → Option Cut) (s : JsString) : Option (JsString × JsString) :=
  (cut s).map fun c => (s.take c.kept ++ c.text, s.drop (c.kept + c.dropped))

section
variable {α : Type}

/-- `replaceFrom` over units that carry more than their code. -/
def rewriteFrom (look : α → UInt16) (write : UInt16 → α) (cut : JsString → Option Cut) :
    Nat → List α → List α
  | 0, s => s
  | _ + 1, [] => []
  | n + 1, a :: s =>
    match cut (look a :: s.map look) with
    | some c => (a :: s).take c.kept ++ (c.text.map write ++
        rewriteFrom look write cut n ((a :: s).drop (c.kept + c.dropped)))
    | none => a :: rewriteFrom look write cut n s

theorem rewriteFrom_look {look : α → UInt16} {write : UInt16 → α}
    (written : ∀ u, look (write u) = u) (cut : JsString → Option Cut) (n : Nat) (s : List α) :
    (rewriteFrom look write cut n s).map look =
      JsString.replaceFrom (asHit cut) n (s.map look) := by
  induction n generalizing s with
  | zero => rfl
  | succ n ih =>
    cases s with
    | nil => rfl
    | cons a s =>
      have text : ∀ t : JsString, (t.map write).map look = t := by
        intro t
        rw [List.map_map]
        exact List.map_id'' written t
      cases found : cut (look a :: s.map look) with
      | none => simp [rewriteFrom, JsString.replaceFrom, asHit, found, ih]
      | some c =>
        have rest := ih ((a :: s).drop (c.kept + c.dropped))
        simp only [rewriteFrom, JsString.replaceFrom, asHit, found, List.map_append, text, rest,
          List.map_take, List.map_drop, List.map_cons, Option.map_some, List.append_assoc]

/-- A text that goes on with no unit of the class. -/
def Bounded (cred : α → Bool) (t : List α) : Prop := ∀ a ∈ t.head?, cred a = false

section
variable {cred : α → Bool}

theorem bounded_cons {a : α} {t : List α} (h : cred a = false) : Bounded cred (a :: t) := by
  simpa [Bounded] using h

theorem Bounded.append {s t : List α} (h : Bounded cred s) (filled : s ≠ []) :
    Bounded cred (s ++ t) := by
  cases s with
  | nil => exact absurd rfl filled
  | cons a s => exact bounded_cons (h a rfl)

theorem bounded_dropWhile (s : List α) : Bounded cred (s.dropWhile cred) := by
  intro a first
  have refused := List.head?_dropWhile_not cred s
  rw [Option.mem_def.mp first] at refused
  exact refused

theorem Bounded.takeWhile {t : List α} (h : Bounded cred t) : t.takeWhile cred = [] := by
  cases t with
  | nil => rfl
  | cons a t => simp [h a rfl]

theorem takeWhile_run {r t : List α} (run : ∀ a ∈ r, cred a = true) (stop : Bounded cred t) :
    (r ++ t).takeWhile cred = r := by
  rw [List.takeWhile_append_of_pos run, stop.takeWhile, List.append_nil]

/-- Runs that end where the class ends are the same. -/
theorem run_unique {r t r' t' : List α} (run : ∀ a ∈ r, cred a = true) (stop : Bounded cred t)
    (run' : ∀ a ∈ r', cred a = true) (stop' : Bounded cred t') (h : r ++ t = r' ++ t') :
    r = r' ∧ t = t' := by
  have same : r = r' := by
    rw [← takeWhile_run run stop, h, takeWhile_run run' stop']
  rw [same] at h
  exact ⟨same, List.append_cancel_left h⟩

/-- Units of the class that adjoin lie all before a unit outside the class, or
all from there on. -/
theorem align {r t a k c : List α} (run : ∀ x ∈ k, cred x = true)
    (stop : Bounded cred t) (h : r ++ t = a ++ (k ++ c)) :
    (∃ d, r = a ++ (k ++ d) ∧ c = d ++ t) ∨ ∃ a', a = r ++ a' ∧ t = a' ++ (k ++ c) := by
  obtain ⟨a', ha, ht⟩ | ⟨d, hr, hd⟩ := List.append_eq_append_iff.mp h
  · exact Or.inr ⟨a', ha, ht⟩
  · obtain ⟨k', hk, hc⟩ | ⟨e, he, hc⟩ := List.append_eq_append_iff.mp hd
    · exact Or.inl ⟨k', by rw [hr, hk], hc⟩
    · cases e with
      | nil =>
        refine Or.inl ⟨[], ?_, by simpa using hc.symm⟩
        rw [hr, he]
        simp
      | cons x e =>
        have inside := run x (by rw [he]; simp)
        have outside := stop x (by rw [hc]; rfl)
        rw [inside] at outside
        cases outside

end

variable (M : List α → Prop) (cred : α → Bool) (mask : List α)

/-- A marker stands at the front, and a value follows it. -/
def Front (s : List α) : Prop := ∃ m x t, s = m ++ x :: t ∧ M m ∧ cred x = true

/-- A scan that masks the value after each marker it comes upon. -/
inductive Redacts : List α → List α → Prop
  | nil : Redacts [] []
  | copy {a : α} {s s' : List α} : ¬ Front M cred (a :: s) → Redacts s s' →
      Redacts (a :: s) (a :: s')
  | hit {m v t t' : List α} : M m → v ≠ [] → (∀ x ∈ v, cred x = true) → Bounded cred t →
      Redacts t t' → Redacts (m ++ (v ++ t)) (m ++ (mask ++ t'))

/-- Markers are not empty, and a text starts with one at most. -/
structure Markers : Prop where
  filled : ∀ m, M m → m ≠ []
  unique : ∀ m m' x x' t t', M m → M m' → cred x = true → cred x' = true →
    m ++ x :: t = m' ++ x' :: t' → m = m'

/-- Every value that follows a marker is the mask. -/
def Settled (s : List α) : Prop := ∀ a m c, s = a ++ (m ++ c) → M m →
  c.takeWhile cred ≠ [] → c.takeWhile cred = mask

variable {M cred mask}

theorem front_of_value {m v t : List α} (marker : M m) (filled : v ≠ [])
    (value : ∀ x ∈ v, cred x = true) : Front M cred (m ++ (v ++ t)) := by
  cases v with
  | nil => exact absurd rfl filled
  | cons x v => exact ⟨m, x, v ++ t, rfl, marker, value x (by simp)⟩

/-- A value at a marker ends where the class does. -/
theorem Front.value {s : List α} (h : Front M cred s) : ∃ m v t, s = m ++ (v ++ t) ∧ M m ∧
    v ≠ [] ∧ (∀ x ∈ v, cred x = true) ∧ Bounded cred t := by
  obtain ⟨m, x, t, rfl, marker, first⟩ := h
  refine ⟨m, (x :: t).takeWhile cred, (x :: t).dropWhile cred, ?_, marker, ?_, ?_, ?_⟩
  · rw [List.takeWhile_append_dropWhile]
  · simp [first]
  · exact fun y member => List.mem_takeWhile_imp member
  · exact bounded_dropWhile _

namespace Redacts
variable {s s' : List α}

theorem of_nil (h : Redacts M cred mask [] s') (markers : Markers M cred) : s' = [] := by
  generalize e : ([] : List α) = s at h
  cases h with
  | nil => rfl
  | copy _ _ => cases e
  | hit marker _ _ _ _ => exact absurd (List.append_eq_nil_iff.mp e.symm).1 (markers.filled _ marker)

theorem of_plain {a : α} (h : Redacts M cred mask (a :: s) s') (plain : ¬ Front M cred (a :: s)) :
    ∃ t', s' = a :: t' ∧ Redacts M cred mask s t' := by
  generalize e : a :: s = whole at h plain
  cases h with
  | nil => cases e
  | copy _ rest =>
    cases e
    exact ⟨_, rfl, rest⟩
  | hit marker filled value _ _ => exact absurd (front_of_value marker filled value) plain

theorem of_marker (markers : Markers M cred) {m v t : List α} (marker : M m) (filled : v ≠ [])
    (value : ∀ x ∈ v, cred x = true) (stop : Bounded cred t)
    (h : Redacts M cred mask (m ++ (v ++ t)) s') :
    ∃ t', s' = m ++ (mask ++ t') ∧ Redacts M cred mask t t' := by
  have front : Front M cred (m ++ (v ++ t)) := front_of_value marker filled value
  generalize e : m ++ (v ++ t) = whole at h front
  cases h with
  | nil => exact absurd (List.append_eq_nil_iff.mp e).1 (markers.filled _ marker)
  | copy plain _ => exact absurd front plain
  | @hit m₂ v₂ t₂ t₂' marker₂ filled₂ value₂ stop₂ rest₂ =>
    obtain ⟨x, xs, rfl⟩ := List.exists_cons_of_ne_nil filled
    obtain ⟨y, ys, rfl⟩ := List.exists_cons_of_ne_nil filled₂
    have same : m = m₂ := markers.unique _ _ x y _ _ marker marker₂ (value x (by simp))
      (value₂ y (by simp)) e
    subst same
    obtain ⟨-, rfl⟩ := run_unique value stop value₂ stop₂ (List.append_cancel_left e)
    exact ⟨t₂', rfl, rest₂⟩

/-- A scan comes to one text. -/
theorem eq (markers : Markers M cred) (h : Redacts M cred mask s s') {s'' : List α}
    (h' : Redacts M cred mask s s'') : s' = s'' := by
  induction h generalizing s'' with
  | nil => exact (h'.of_nil markers).symm
  | copy plain _ ih =>
    obtain ⟨t', rfl, rest⟩ := h'.of_plain plain
    rw [ih rest]
  | hit marker filled value stop _ ih =>
    obtain ⟨t', rfl, rest⟩ := h'.of_marker markers marker filled value stop
    rw [ih rest]

/-- The first unit stays. -/
theorem head (markers : Markers M cred) (h : Redacts M cred mask s s') : s'.head? = s.head? := by
  cases h with
  | nil => rfl
  | copy _ _ => rfl
  | hit marker _ _ _ _ =>
    obtain ⟨x, xs, rfl⟩ := List.exists_cons_of_ne_nil (markers.filled _ marker)
    rfl

theorem bounded (markers : Markers M cred) (h : Redacts M cred mask s s') :
    Bounded cred s ↔ Bounded cred s' := by
  simp only [Bounded, h.head markers]

/-- What a scan writes is masked text or text it read. -/
theorem mem (h : Redacts M cred mask s s') {x : α} (member : x ∈ s') : x ∈ s ∨ x ∈ mask := by
  induction h with
  | nil => exact Or.inl member
  | copy _ _ ih =>
    rcases List.mem_cons.mp member with rfl | later
    · simp
    · exact (ih later).imp_left (List.mem_cons_of_mem _)
  | hit _ _ _ _ _ ih =>
    simp only [List.mem_append] at member ⊢
    rcases member with inside | masked | later
    · exact Or.inl (Or.inl inside)
    · exact Or.inr masked
    · exact (ih later).imp_left fun h => Or.inr (Or.inr h)

/-- A scan of the front of a settled text writes no less than the front, and no
more than the text. -/
theorem of_settled (markers : Markers M cred) {t r : List α} (h : Redacts M cred mask t r)
    {e : List α} (settled : Settled M cred mask (t ++ e)) : t <+: r ∧ r <+: t ++ e := by
  induction h generalizing e with
  | nil => exact ⟨List.prefix_refl _, List.prefix_append _ _⟩
  | @copy a s s' _ _ ih =>
    have tail : Settled M cred mask (s ++ e) := fun b m c split =>
      settled (a :: b) m c (by rw [List.cons_append, split]; rfl)
    obtain ⟨more, less⟩ := ih tail
    exact ⟨(List.prefix_cons_inj a).mpr more, (List.prefix_cons_inj a).mpr less⟩
  | @hit m v t t' marker filled value stop rest ih =>
    have masked := settled [] m (v ++ (t ++ e)) (by simp) marker
    cases t with
    | nil =>
      have run : v <+: (v ++ e).takeWhile cred := by
        rw [List.takeWhile_append_of_pos value]
        exact List.prefix_append _ _
      have some_ : (v ++ e).takeWhile cred ≠ [] := by
        intro none_
        rw [none_] at run
        exact filled (List.prefix_nil.mp run)
      rw [rest.of_nil markers]
      simp only [List.append_nil, List.nil_append] at masked ⊢
      rw [← masked some_]
      refine ⟨(List.prefix_append_right_inj m).mpr run, ?_⟩
      rw [List.append_assoc]
      exact (List.prefix_append_right_inj m).mpr (List.takeWhile_prefix cred)
    | cons a t =>
      have whole := takeWhile_run value ((stop.append (by simp) : Bounded cred ((a :: t) ++ e)))
      rw [whole] at masked
      rw [← masked filled]
      have tail : Settled M cred mask ((a :: t) ++ e) := fun b m' c split =>
        settled (m ++ (v ++ b)) m' c (by simp only [List.append_assoc, split])
      obtain ⟨more, less⟩ := ih tail
      refine ⟨?_, ?_⟩
      · exact (List.prefix_append_right_inj m).mpr ((List.prefix_append_right_inj v).mpr more)
      · simp only [List.append_assoc]
        exact (List.prefix_append_right_inj m).mpr ((List.prefix_append_right_inj v).mpr less)

end Redacts

/-- A pattern that finds the markers with a value, and the value's end. -/
structure Finds (M : List α → Prop) (cred : α → Bool) (mask : List α) (look : α → UInt16)
    (write : UInt16 → α) (cut : JsString → Option Cut) : Prop where
  plain : ∀ s, cut (s.map look) = none → ¬ Front M cred s
  found : ∀ s c, cut (s.map look) = some c → ∃ m v t, s = m ++ (v ++ t) ∧ M m ∧ v ≠ [] ∧
    (∀ x ∈ v, cred x = true) ∧ Bounded cred t ∧ c.kept = m.length ∧ c.text.map write = mask ∧
      c.dropped = v.length

theorem rewriteFrom_redacts {look : α → UInt16} {write : UInt16 → α}
    {cut : JsString → Option Cut} (markers : Markers M cred)
    (finds : Finds M cred mask look write cut) {n : Nat} {s : List α} (room : s.length ≤ n) :
    Redacts M cred mask s (rewriteFrom look write cut n s) := by
  induction n generalizing s with
  | zero =>
    rw [List.eq_nil_of_length_eq_zero (Nat.le_zero.mp room)]
    exact .nil
  | succ n ih =>
    cases s with
    | nil => exact .nil
    | cons a s =>
      cases h : cut (look a :: s.map look) with
      | none =>
        simp only [rewriteFrom, h]
        exact .copy (finds.plain (a :: s) h) (ih (Nat.le_of_succ_le_succ room))
      | some c =>
        obtain ⟨m, v, t, split, marker, filled, value, stop, kept, text, dropped⟩ :=
          finds.found (a :: s) c h
        have long : 0 < m.length := List.length_pos_iff.mpr (markers.filled m marker)
        have shorter : t.length ≤ n := by
          have lengths := congrArg List.length split
          simp only [List.length_append, List.length_cons] at lengths room
          omega
        have front : (m ++ (v ++ t)).take m.length = m := List.take_left
        have rest : (m ++ (v ++ t)).drop (m.length + v.length) = t := by
          rw [← List.append_assoc, ← List.length_append, List.drop_left]
        simp only [rewriteFrom, h, split, kept, text, dropped, front, rest]
        exact .hit marker filled value stop (ih shorter)

variable (M cred mask) in
/-- A scan comes to the rest of a text right after a value that it masks, having
read one text and written another. -/
inductive Reaches : List α → List α → List α → List α → Prop
  | here {m v t : List α} : M m → v ≠ [] → (∀ x ∈ v, cred x = true) → Bounded cred t →
      Reaches (m ++ (v ++ t)) (m ++ v) (m ++ mask) t
  | copy {a : α} {s l p t : List α} : ¬ Front M cred (a :: s) → Reaches s l p t →
      Reaches (a :: s) (a :: l) (a :: p) t
  | hit {m v s l p t : List α} : M m → v ≠ [] → (∀ x ∈ v, cred x = true) → Bounded cred s →
      Reaches s l p t → Reaches (m ++ (v ++ s)) (m ++ (v ++ l)) (m ++ (mask ++ p)) t

namespace Reaches
variable {s l p t : List α}

theorem split (h : Reaches M cred mask s l p t) : s = l ++ t := by
  induction h with
  | here => simp
  | copy _ _ ih => rw [ih, List.cons_append]
  | hit _ _ _ _ _ ih => simp [ih]

/-- What was read holds a marker with a value. -/
theorem front (h : Reaches M cred mask s l p t) : ∃ b c, l = b ++ c ∧ Front M cred c := by
  induction h with
  | @here m v _ marker filled value _ =>
    have front := front_of_value (t := []) marker filled value
    exact ⟨[], m ++ v, rfl, by simpa using front⟩
  | copy _ _ ih =>
    obtain ⟨b, c, rfl, front⟩ := ih
    exact ⟨_ :: b, c, rfl, front⟩
  | @hit m v _ _ _ _ _ _ _ _ _ ih =>
    obtain ⟨b, c, rfl, front⟩ := ih
    exact ⟨m ++ (v ++ b), c, by simp, front⟩

/-- The rest may be another text: the scan goes on from there all the same. -/
theorem scan (simple : ∀ b c, M (b ++ c) → ¬ Front M cred c)
    (h : Reaches M cred mask s l p t) {u u' : List α} (stop : Bounded cred u)
    (rest : Redacts M cred mask u u') : Redacts M cred mask (l ++ u) (p ++ u') := by
  induction h with
  | here marker filled value _ =>
    simp only [List.append_assoc]
    exact .hit marker filled value stop rest
  | @copy a s l p t plain reaches ih =>
    refine .copy ?_ ih
    rintro ⟨m, x, v, split, marker, first⟩
    rw [reaches.split, ← List.cons_append] at plain
    change (a :: l) ++ u = m ++ x :: v at split
    obtain ⟨e, hm, _⟩ | ⟨e, hl, he⟩ := List.append_eq_append_iff.mp split
    · obtain ⟨b, c, rfl, y, z, w, rfl, inside, value⟩ := reaches.front
      refine simple (a :: b) ((y ++ z :: w) ++ e) ?_ ⟨y, z, w ++ e, by simp, inside, value⟩
      simpa [hm] using marker
    · cases e with
      | nil =>
        obtain ⟨b, c, rfl, y, z, w, rfl, inside, value⟩ := reaches.front
        refine simple (a :: b) (y ++ z :: w) ?_ ⟨y, z, w, rfl, inside, value⟩
        rw [← List.cons_append] at hl
        simpa [hl] using marker
      | cons y e =>
        have same : x = y := (List.cons.inj he).1
        refine plain ⟨m, x, e ++ t, ?_, marker, first⟩
        rw [hl, same]
        simp
  | @hit m v s l p t marker filled value stop' reaches ih =>
    simp only [List.append_assoc]
    refine .hit marker filled value ?_ ih
    cases l with
    | nil =>
      obtain ⟨b, c, split, y, z, w, rfl, inside, value⟩ := reaches.front
      simp at split
    | cons a l =>
      rw [reaches.split] at stop'
      exact bounded_cons (stop' a rfl)

end Reaches

end

end VantGrowth.Lib.Redaction
