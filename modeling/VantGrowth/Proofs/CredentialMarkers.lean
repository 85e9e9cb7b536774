import VantGrowth.Db.ExternalActions
import VantGrowth.Lib.Redaction

/-! The two patterns for credentials, as scans for markers. -/

namespace VantGrowth.Proofs.CredentialMarkers
open Lib Lib.Redaction Db

theorem fold_credential (u : UInt16) : isCredentialUnit (JsString.fold u) = isCredentialUnit u := by
  unfold JsString.fold
  split
  · rename_i range
    simp only [Bool.and_eq_true, decide_eq_true_eq, UInt16.le_iff_toNat_le] at range
    have letters : ∀ n, 0x41 ≤ n → n ≤ 0x5A →
        isCredentialUnit (n.toUInt16 + 0x20) = isCredentialUnit n.toUInt16 := by
      intro n low high
      interval_cases n <;> decide
    have same : u.toNat.toUInt16 = u := by simp
    rw [← same]
    exact letters u.toNat range.1 range.2
  · rfl

theorem fold_sign {u : UInt16} (h : JsString.fold u = 0x3D) : u = 0x3D := by
  unfold JsString.fold at h
  split at h
  · rename_i range
    simp only [Bool.and_eq_true, decide_eq_true_eq, UInt16.le_iff_toNat_le] at range
    have sum := congrArg UInt16.toNat h
    rw [UInt16.toNat_add] at sum
    have low : 65 ≤ u.toNat := range.1
    have high : u.toNat ≤ 90 := range.2
    have value : (u.toNat + 32) % 65536 = 61 := sum
    omega
  · exact h

theorem space_plain {u : UInt16} (h : isCredentialUnit u = true) : JsString.isSpace u = false := by
  simp only [isCredentialUnit, Bool.not_eq_true', Bool.or_eq_false_iff] at h
  exact h.1.1

theorem dropWord_iff {word s rest : JsString} :
    JsString.dropWord word s = some rest ↔ ∃ b, s = b ++ rest ∧ b.map JsString.fold = word := by
  induction word generalizing s with
  | nil =>
    simp only [JsString.dropWord, Option.some.injEq, List.map_eq_nil_iff]
    constructor
    · rintro rfl
      exact ⟨[], rfl, rfl⟩
    · rintro ⟨b, rfl, rfl⟩
      rfl
  | cons w word ih =>
    cases s with
    | nil =>
      simp only [JsString.dropWord, reduceCtorEq, false_iff]
      rintro ⟨b, empty, spelled⟩
      rw [(List.append_eq_nil_iff.mp empty.symm).1] at spelled
      cases spelled
    | cons u s =>
      simp only [JsString.dropWord]
      split
      · rename_i same
        rw [ih]
        constructor
        · rintro ⟨b, rfl, rfl⟩
          exact ⟨u :: b, rfl, by simp [beq_iff_eq.mp same]⟩
        · rintro ⟨b, split, spelled⟩
          cases b with
          | nil => cases spelled
          | cons c b =>
            cases split
            exact ⟨b, rfl, (List.cons.inj spelled).2⟩
      · rename_i other
        simp only [reduceCtorEq, false_iff]
        rintro ⟨b, split, spelled⟩
        cases b with
        | nil => cases spelled
        | cons c b =>
          cases split
          exact other (beq_iff_eq.mpr (List.cons.inj spelled).1)

def bearer : JsString := .ofString "bearer"

def names : List String := ["api_key", "api-key", "apikey", "token", "secret"]

/-- The names with the sign that follows them. -/
def assignments : List JsString := names.map fun name => .ofString (name ++ "=")

def sign : UInt16 := 0x3D

theorem bearer_units {u : UInt16} (h : u ∈ bearer) : isCredentialUnit u = true ∧ u ≠ sign ∧
    u ≠ 0x5D := by
  have all : bearer.all (fun u => isCredentialUnit u && u != sign && u != 0x5D) = true := by
    decide
  have one := List.all_eq_true.mp all u h
  simpa [and_assoc] using one

/-- A name holds no sign. -/
theorem assignments_units {word : JsString} (h : word ∈ assignments) :
    (∀ u ∈ word, isCredentialUnit u = true) ∧ ∃ name, word = name ++ [sign] ∧ sign ∉ name := by
  have all : assignments.all (fun word => word.all isCredentialUnit &&
      word == word.dropLast ++ [sign] && !word.dropLast.contains sign) = true := by
    decide
  have one := List.all_eq_true.mp all word h
  simp only [Bool.and_eq_true, List.all_eq_true, beq_iff_eq, Bool.not_eq_true',
    List.contains_eq_mem, decide_eq_false_iff_not] at one
  exact ⟨one.1.1, _, one.1.2, one.2⟩

section
variable {α : Type} (look : α → UInt16) (write : UInt16 → α)

def cred (a : α) : Bool := isCredentialUnit (look a)

def white (a : α) : Bool := JsString.isSpace (look a)

/-- A word in any letter case. -/
def Spells (word : JsString) (s : List α) : Prop := s.map (fun a => JsString.fold (look a)) = word

def BearerMarker (m : List α) : Prop :=
  ∃ b w, m = b ++ w ∧ Spells look bearer b ∧ w ≠ [] ∧ ∀ a ∈ w, white look a = true

def AssignmentMarker (m : List α) : Prop := ∃ word ∈ assignments, Spells look word m

def mask : List α := (JsString.ofString "[redacted]").map write

end

section
variable {α : Type} {look : α → UInt16} {write : UInt16 → α}

theorem Spells.cred {word : JsString} {s : List α} (h : Spells look word s)
    (units : ∀ u ∈ word, isCredentialUnit u = true) : ∀ a ∈ s, cred look a = true := by
  intro a member
  have inside : JsString.fold (look a) ∈ word := by
    rw [← h]
    exact List.mem_map_of_mem member
  rw [CredentialMarkers.cred, ← fold_credential]
  exact units _ inside

theorem bearer_cred {b : List α} (h : Spells look bearer b) : ∀ a ∈ b, cred look a = true :=
  h.cred fun _ member => (bearer_units member).1

theorem bearer_length {b : List α} (h : Spells look bearer b) : b.length = 6 := by
  have size := congrArg List.length h
  rw [List.length_map] at size
  exact size

theorem bearer_ne_nil {b : List α} (h : Spells look bearer b) : b ≠ [] := by
  rintro rfl
  cases bearer_length h

/-- No letter of the word is the sign or the bracket that ends the mask. -/
theorem bearer_plain {b : List α} (h : Spells look bearer b) :
    ∀ a ∈ b, look a ≠ sign ∧ look a ≠ 0x5D := by
  intro a member
  have inside : JsString.fold (look a) ∈ bearer := by
    rw [← h]
    exact List.mem_map_of_mem member
  obtain ⟨_, sign_, bracket⟩ := bearer_units inside
  constructor
  · intro same
    rw [same] at sign_
    exact sign_ rfl
  · intro same
    rw [same] at bracket
    exact bracket rfl

theorem white_plain {a : α} (h : white look a = true) : cred look a = false := by
  cases credential : cred look a with
  | false => rfl
  | true =>
    have plain := space_plain credential
    rw [white, plain] at h
    cases h

theorem white_bounded {w t : List α} (filled : w ≠ []) (spaces : ∀ a ∈ w, white look a = true) :
    Bounded (cred look) (w ++ t) := by
  cases w with
  | nil => exact absurd rfl filled
  | cons a w => exact bounded_cons (white_plain (spaces a (by simp)))

theorem cred_bounded {v t : List α} (filled : v ≠ []) (value : ∀ a ∈ v, cred look a = true) :
    Bounded (white look) (v ++ t) := by
  cases v with
  | nil => exact absurd rfl filled
  | cons a v => exact bounded_cons (space_plain (value a (by simp)))

/-- An assignment is a name and the one sign in it. -/
theorem AssignmentMarker.split {m : List α} (h : AssignmentMarker look m) :
    (∀ a ∈ m, cred look a = true) ∧
      ∃ n e, m = n ++ [e] ∧ look e = sign ∧ ∀ a ∈ n, look a ≠ sign := by
  obtain ⟨word, member, spelled⟩ := h
  have ⟨units, name, split, plain⟩ := assignments_units member
  refine ⟨spelled.cred units, ?_⟩
  rw [Spells, split] at spelled
  obtain ⟨n, e, rfl, front, last⟩ := List.map_eq_append_iff.mp spelled
  obtain ⟨a, rfl, folded⟩ := List.map_eq_singleton_iff.mp last
  refine ⟨n, a, rfl, fold_sign folded, fun b inside same => plain ?_⟩
  have folded : JsString.fold (look b) ∈ name := by
    rw [← front]
    exact List.mem_map_of_mem inside
  rw [same] at folded
  exact folded

/-- Texts that go on from the first sign in each. -/
theorem sign_unique {n n' r r' : List α} {e e' : α} (plain : ∀ a ∈ n, look a ≠ sign)
    (plain' : ∀ a ∈ n', look a ≠ sign) (first : look e = sign) (first' : look e' = sign)
    (h : n ++ e :: r = n' ++ e' :: r') : n = n' ∧ e = e' ∧ r = r' := by
  let named : α → Bool := fun a => decide (look a ≠ sign)
  have stop : Bounded named (e :: r) := bounded_cons (by simpa [named] using first)
  have stop' : Bounded named (e' :: r') := bounded_cons (by simpa [named] using first')
  have ⟨same, rest⟩ := run_unique (fun a member => decide_eq_true (plain a member)) stop
    (fun a member => decide_eq_true (plain' a member)) stop' h
  exact ⟨same, (List.cons.inj rest).1, (List.cons.inj rest).2⟩

theorem bearer_unique {b b' w w' v v' : List α} (word : Spells look bearer b)
    (word' : Spells look bearer b') (filled : w ≠ []) (filled' : w' ≠ [])
    (spaces : ∀ a ∈ w, white look a = true) (spaces' : ∀ a ∈ w', white look a = true)
    (stop : Bounded (white look) v) (stop' : Bounded (white look) v')
    (h : b ++ (w ++ v) = b' ++ (w' ++ v')) : b = b' ∧ w = w' ∧ v = v' := by
  have ⟨same, rest⟩ := run_unique (bearer_cred word) (white_bounded filled spaces)
    (bearer_cred word') (white_bounded filled' spaces') h
  have ⟨same', rest'⟩ := run_unique spaces stop spaces' stop' rest
  exact ⟨same, same', rest'⟩

theorem bearer_markers : Markers (BearerMarker look) (cred look) where
  filled := by
    rintro m ⟨b, w, rfl, _, filled, _⟩ empty
    exact filled (List.append_eq_nil_iff.mp empty).2
  unique := by
    rintro m m' x x' t t' ⟨b, w, rfl, word, filled, spaces⟩ ⟨b', w', rfl, word', filled', spaces'⟩
      first first' same
    simp only [List.append_assoc] at same
    obtain ⟨rfl, rfl, -⟩ := bearer_unique word word' filled filled' spaces spaces'
      (bounded_cons (space_plain first)) (bounded_cons (space_plain first')) same
    rfl

theorem assignment_markers : Markers (AssignmentMarker look) (cred look) where
  filled := by
    rintro m marker rfl
    obtain ⟨-, n, e, split, -, -⟩ := marker.split
    simp at split
  unique := by
    intro m m' x x' t t' marker marker' _ _ same
    obtain ⟨-, n, e, rfl, first, plain⟩ := marker.split
    obtain ⟨-, n', e', rfl, first', plain'⟩ := marker'.split
    simp only [List.append_assoc, List.singleton_append] at same
    obtain ⟨rfl, rfl, -⟩ := sign_unique plain plain' first first' same
    rfl

/-- No marker with a value lies in a marker. -/
theorem bearer_simple (b c : List α) (h : BearerMarker look (b ++ c)) :
    ¬ Front (BearerMarker look) (cred look) c := by
  rintro ⟨m, x, t, rfl, ⟨b', w', rfl, word', filled', spaces'⟩, value⟩
  obtain ⟨b₀, w₀, split, word, filled, spaces⟩ := h
  have letters := bearer_cred word
  have bounded : Bounded (cred look) w₀ := by
    simpa using white_bounded (t := []) filled spaces
  have place : b₀ ++ w₀ = (b ++ (b' ++ w')) ++ ([x] ++ t) := by simp [← split]
  obtain ⟨d, within, _⟩ | ⟨a, _, beyond⟩ := align (by simpa using value) bounded place
  · obtain ⟨y, ys, rfl⟩ := List.exists_cons_of_ne_nil filled'
    have noncred := white_plain (spaces' y (by simp))
    rw [letters y (by simp [within])] at noncred
    cases noncred
  · have noncred := white_plain (spaces x (by simp [beyond]))
    rw [value] at noncred
    cases noncred

/-- A marker at the front with its value, where the first pattern masks it. -/
def bearerCut (s : JsString) : Option Cut := do
  let afterWord ← JsString.dropWord bearer s
  let spaces := afterWord.takeWhile JsString.isSpace
  let value := (afterWord.dropWhile JsString.isSpace).takeWhile isCredentialUnit
  guard (spaces ≠ [] ∧ value ≠ [])
  return ⟨6 + spaces.length, .ofString "[redacted]", value.length⟩

def assignmentCut (s : JsString) : Option Cut := do
  let word ← assignments.find? fun word => (JsString.dropWord word s).isSome
  let value ← JsString.dropWord word s
  guard (value.takeWhile isCredentialUnit ≠ [])
  return ⟨word.length, .ofString "[redacted]", (value.takeWhile isCredentialUnit).length⟩

theorem drop_takeWhile (p : UInt16 → Bool) (s : JsString) :
    s.drop (s.takeWhile p).length = s.dropWhile p := by
  have parts := List.takeWhile_append_dropWhile (p := p) (l := s)
  exact (congrArg (List.drop (s.takeWhile p).length) parts).symm.trans List.drop_left

theorem asHit_bearer : asHit bearerCut = bearerHit := by
  funext s
  unfold asHit bearerCut bearerHit
  cases h : JsString.dropWord (.ofString "bearer") s with
  | none => simp [show bearer = JsString.ofString "bearer" from rfl, h]
  | some afterWord =>
    obtain ⟨b, rfl, word⟩ := dropWord_iff.mp h
    have size : b.length = 6 := by
      have lengths := congrArg List.length word
      rw [List.length_map] at lengths
      exact lengths
    have rest : ∀ n, (b ++ afterWord).drop (6 + (afterWord.takeWhile JsString.isSpace).length + n) =
        (afterWord.dropWhile JsString.isSpace).drop n := by
      intro n
      rw [← List.drop_drop, ← List.drop_drop, List.drop_left' size, drop_takeWhile]
    simp only [show bearer = JsString.ofString "bearer" from rfl, h, Option.bind_eq_bind,
      Option.bind_some]
    by_cases valued : afterWord.takeWhile JsString.isSpace ≠ [] ∧
        (afterWord.dropWhile JsString.isSpace).takeWhile isCredentialUnit ≠ []
    · simp only [guard, if_pos valued, Option.pure_def, Option.bind_some, Option.map_some, rest,
        drop_takeWhile]
    · simp only [guard, if_neg valued]
      rfl

theorem assignments_find (s : JsString) :
    (assignments.find? fun word => (JsString.dropWord word s).isSome) =
      (names.find? fun name => (JsString.dropWord (.ofString (name ++ "=")) s).isSome).map
        fun name => .ofString (name ++ "=") := by
  rw [assignments, List.find?_map]
  rfl

theorem asHit_assignment : asHit assignmentCut = assignmentHit := by
  funext s
  unfold asHit assignmentCut assignmentHit
  rw [assignments_find]
  cases named : names.find? fun w => (JsString.dropWord (.ofString (w ++ "=")) s).isSome with
  | none =>
    have named' := named
    simp only [names] at named'
    simp only [named', Option.map_none, Option.bind_eq_bind, Option.bind_none]
  | some name =>
    cases h : JsString.dropWord (.ofString (name ++ "=")) s with
    | none =>
      simp only [names] at named
      simp only [named, h, Option.map_some, Option.bind_eq_bind, Option.bind_some, Option.bind_none,
        Option.map_none]
    | some value =>
      obtain ⟨b, rfl, word⟩ := dropWord_iff.mp h
      have spelled : JsString.ofString (name ++ "=") = JsString.ofString name ++ [sign] := by
        have all : ∀ name ∈ names,
            JsString.ofString (name ++ "=") = JsString.ofString name ++ [sign] := by decide
        exact all name (List.mem_of_find?_eq_some named)
      rw [spelled] at word
      obtain ⟨n, e, rfl, front, last⟩ := List.map_eq_append_iff.mp word
      obtain ⟨u, rfl, folded⟩ := List.map_eq_singleton_iff.mp last
      have size : n.length = jsLength name := by
        rw [jsLength, ← front, List.length_map]
      simp only [names] at named
      simp only [named, h, Option.map_some, Option.bind_eq_bind, Option.bind_some]
      by_cases valued : value.takeWhile isCredentialUnit ≠ []
      · simp only [guard, if_pos valued, Option.pure_def, Option.bind_some, Option.map_some]
        have whole : (JsString.ofString (name ++ "=")).length = (n ++ [u]).length := by
          rw [spelled]
          simp [size, jsLength]
        have same : u = sign := fold_sign folded
        have start : ((n ++ [u]) ++ value).take (jsLength name) = n := by
          rw [← size, List.append_assoc, List.take_left]
        have text : JsString.ofString "=[redacted]" = sign :: JsString.ofString "[redacted]" := rfl
        rw [whole, List.take_left, ← List.drop_drop, List.drop_left, drop_takeWhile, start, text,
          same, List.append_assoc, List.singleton_append]
      · simp only [guard, if_neg valued]
        rfl

theorem Spells.dropWord {word : JsString} {b : List α} (h : Spells look word b) (t : List α) :
    JsString.dropWord word ((b ++ t).map look) = some (t.map look) := by
  refine dropWord_iff.mpr ⟨b.map look, by simp, ?_⟩
  rw [List.map_map]
  exact h

/-- A word at the front of the codes is one at the front of the units. -/
theorem spells_of_dropWord {word rest : JsString} {s : List α}
    (h : JsString.dropWord word (s.map look) = some rest) :
    ∃ b t, s = b ++ t ∧ Spells look word b ∧ t.map look = rest := by
  obtain ⟨b, split, spelled⟩ := dropWord_iff.mp h
  obtain ⟨b', t, rfl, rfl, rfl⟩ := List.map_eq_append_iff.mp split
  rw [List.map_map] at spelled
  exact ⟨b', t, rfl, spelled, rfl⟩

theorem takeWhile_look (p : UInt16 → Bool) (s : List α) :
    (s.map look).takeWhile p = (s.takeWhile fun a => p (look a)).map look := by
  rw [List.takeWhile_map]
  rfl

theorem dropWhile_look (p : UInt16 → Bool) (s : List α) :
    (s.map look).dropWhile p = (s.dropWhile fun a => p (look a)).map look := by
  rw [List.dropWhile_map]
  rfl

theorem bearerCut_of {b w v t : List α} (word : Spells look bearer b) (filled : w ≠ [])
    (spaces : ∀ a ∈ w, white look a = true) (valued : v ≠ [])
    (value : ∀ a ∈ v, cred look a = true) (stop : Bounded (cred look) t) :
    bearerCut ((b ++ (w ++ (v ++ t))).map look) =
      some ⟨6 + w.length, .ofString "[redacted]", v.length⟩ := by
  have space : (w ++ (v ++ t)).takeWhile (white look) = w :=
    takeWhile_run spaces (cred_bounded valued value)
  have rest : (w ++ (v ++ t)).dropWhile (white look) = v ++ t := by
    have parts := List.takeWhile_append_dropWhile (p := white look) (l := w ++ (v ++ t))
    rw [space] at parts
    exact List.append_cancel_left parts
  have space' : ((w ++ (v ++ t)).map look).takeWhile JsString.isSpace = w.map look :=
    (takeWhile_look _ _).trans (congrArg _ space)
  have rest' : ((w ++ (v ++ t)).map look).dropWhile JsString.isSpace = (v ++ t).map look :=
    (dropWhile_look _ _).trans (congrArg _ rest)
  have run' : ((v ++ t).map look).takeWhile isCredentialUnit = v.map look :=
    (takeWhile_look _ _).trans (congrArg _ (takeWhile_run value stop))
  have guarded : w.map look ≠ [] ∧ v.map look ≠ [] := by simp [filled, valued]
  unfold bearerCut
  simp only [word.dropWord, Option.bind_eq_bind, Option.bind_some, space', rest', run', guard,
    if_pos guarded, Option.pure_def, List.length_map]

/-- Units of a class at the front of the codes are so at the front of the units. -/
theorem front_units {p : UInt16 → Bool} {s : List α} (h : (s.map look).takeWhile p ≠ []) :
    (s.takeWhile fun a => p (look a)) ≠ [] := by
  rw [takeWhile_look] at h
  simpa using h

theorem front_of_value_units {m s : List α} {M : List α → Prop} (marker : M m)
    (valued : (s.map look).takeWhile isCredentialUnit ≠ []) : Front M (cred look) (m ++ s) := by
  have units : s.takeWhile (cred look) ≠ [] := front_units valued
  rw [← List.takeWhile_append_dropWhile (p := cred look) (l := s)]
  exact front_of_value marker units fun _ member => List.mem_takeWhile_imp member

theorem bearer_finds :
    Finds (BearerMarker look) (cred look) (mask write) look write bearerCut where
  plain := by
    intro s none_ front
    obtain ⟨m, v, t, rfl, ⟨b, w, rfl, word, filled, spaces⟩, valued, value, stop⟩ := front.value
    rw [List.append_assoc, bearerCut_of word filled spaces valued value stop] at none_
    cases none_
  found := by
    intro s c cut
    have front : Front (BearerMarker look) (cred look) s := by
      unfold bearerCut at cut
      obtain ⟨afterWord, dropped, cut⟩ := Option.bind_eq_some_iff.mp cut
      obtain ⟨_, guarded, _⟩ := Option.bind_eq_some_iff.mp cut
      obtain ⟨b, rest, rfl, word, rfl⟩ := spells_of_dropWord dropped
      obtain ⟨spaced, valued⟩ : (rest.map look).takeWhile JsString.isSpace ≠ [] ∧
          ((rest.map look).dropWhile JsString.isSpace).takeWhile isCredentialUnit ≠ [] := by
        by_contra empty
        rw [guard, if_neg empty] at guarded
        cases guarded
      rw [dropWhile_look] at valued
      have marker : BearerMarker look (b ++ rest.takeWhile (white look)) :=
        ⟨b, _, rfl, word, front_units spaced, fun _ member => List.mem_takeWhile_imp member⟩
      have front := front_of_value_units marker valued
      rw [List.append_assoc] at front
      exact (List.takeWhile_append_dropWhile (p := white look) (l := rest)) ▸ front
    obtain ⟨m, v, t, rfl, ⟨b, w, rfl, word, filled, spaces⟩, valued, value, stop⟩ := front.value
    rw [List.append_assoc, bearerCut_of word filled spaces valued value stop] at cut
    cases cut
    refine ⟨b ++ w, v, t, rfl, ⟨b, w, rfl, word, filled, spaces⟩, valued, value, stop, ?_, rfl, rfl⟩
    rw [List.length_append, bearer_length word]

theorem assignmentCut_of {m v t : List α} (marker : AssignmentMarker look m) (valued : v ≠ [])
    (value : ∀ a ∈ v, cred look a = true) (stop : Bounded (cred look) t) :
    assignmentCut ((m ++ (v ++ t)).map look) =
      some ⟨m.length, .ofString "[redacted]", v.length⟩ := by
  have run : ((v ++ t).map look).takeWhile isCredentialUnit = v.map look :=
    (takeWhile_look _ _).trans (congrArg _ (takeWhile_run value stop))
  have guarded : v.map look ≠ [] := by simp [valued]
  have marked := marker
  obtain ⟨word, member, spelled⟩ := marked
  cases named : assignments.find? fun word =>
      (JsString.dropWord word ((m ++ (v ++ t)).map look)).isSome with
  | none =>
    have missing := List.find?_eq_none.mp named word member
    rw [spelled.dropWord] at missing
    exact absurd rfl missing
  | some other =>
    have dropped := List.find?_some named
    obtain ⟨rest, dropped⟩ := Option.isSome_iff_exists.mp dropped
    obtain ⟨m', t', split, spelled', rfl⟩ := spells_of_dropWord dropped
    have marker' : AssignmentMarker look m' := ⟨other, List.mem_of_find?_eq_some named, spelled'⟩
    obtain ⟨-, n, e, rfl, first, plain⟩ := marker.split
    obtain ⟨-, n', e', rfl, first', plain'⟩ := marker'.split
    simp only [List.append_assoc, List.singleton_append] at split
    obtain ⟨rfl, rfl, rfl⟩ := sign_unique plain plain' first first' split
    have size : other.length = (n ++ [e]).length := by
      rw [← spelled', List.length_map]
    unfold assignmentCut
    simp only [named, dropped, Option.bind_eq_bind, Option.bind_some, run, guard, if_pos guarded,
      Option.pure_def, List.length_map, size]

theorem assignment_finds :
    Finds (AssignmentMarker look) (cred look) (mask write) look write assignmentCut where
  plain := by
    intro s none_ front
    obtain ⟨m, v, t, rfl, marker, valued, value, stop⟩ := front.value
    rw [assignmentCut_of marker valued value stop] at none_
    cases none_
  found := by
    intro s c cut
    have front : Front (AssignmentMarker look) (cred look) s := by
      unfold assignmentCut at cut
      obtain ⟨word, named, cut⟩ := Option.bind_eq_some_iff.mp cut
      obtain ⟨value, dropped, cut⟩ := Option.bind_eq_some_iff.mp cut
      obtain ⟨_, guarded, _⟩ := Option.bind_eq_some_iff.mp cut
      obtain ⟨m, rest, rfl, spelled, rfl⟩ := spells_of_dropWord dropped
      have valued : (rest.map look).takeWhile isCredentialUnit ≠ [] := by
        intro empty
        rw [guard, if_neg (not_not.mpr empty)] at guarded
        cases guarded
      exact front_of_value_units ⟨word, List.mem_of_find?_eq_some named, spelled⟩ valued
    obtain ⟨m, v, t, rfl, marker, valued, value, stop⟩ := front.value
    rw [assignmentCut_of marker valued value stop] at cut
    cases cut
    exact ⟨m, v, t, rfl, marker, valued, value, stop, rfl, rfl, rfl⟩

end

end VantGrowth.Proofs.CredentialMarkers
