import VantGrowth.Db.StableJson
import VantGrowth.Lib.Firsts

namespace VantGrowth.Proofs.RequestDigests
open Db Lib

-- JSON values: finite numbers, and objects whose keys differ.
mutual

def IsJson : Json → Prop
  | .num (.finite _) => True
  | .num _ => False
  | .arr items => JsonItems items
  | .obj fields => (fields.map Prod.fst).Nodup ∧ JsonFields fields
  | .null | .bool _ | .str _ => True

def JsonItems : List Json → Prop
  | [] => True
  | item :: items => IsJson item ∧ JsonItems items

def JsonFields : Payload → Prop
  | [] => True
  | (_, value) :: fields => IsJson value ∧ JsonFields fields

end

-- The same JSON value up to the order of keys, at every depth.
mutual

def SameJson : Json → Json → Prop
  | .null, .null => True
  | .bool a, .bool b => a = b
  | .num m, .num n => m = n
  | .str s, .str t => s = t
  | .arr xs, .arr ys => SameItems xs ys
  | .obj xs, .obj ys => xs.length = ys.length ∧ SameFields xs ys
  | _, _ => False

def SameItems : List Json → List Json → Prop
  | [], [] => True
  | x :: xs, y :: ys => SameJson x y ∧ SameItems xs ys
  | _, _ => False

/-- Every field is there with the same value. -/
def SameFields : Payload → Payload → Prop
  | [], _ => True
  | (key, value) :: fields, others =>
    (∃ other, others.lookup key = some other ∧ SameJson value other) ∧ SameFields fields others

end

theorem isJson_arr (items : List Json) : IsJson (.arr items) ↔ ∀ item ∈ items, IsJson item := by
  have each : JsonItems items ↔ ∀ item ∈ items, IsJson item := by
    induction items with
    | nil => simp [JsonItems]
    | cons item items ih => simp [JsonItems, ih]
  simpa [IsJson] using each

theorem isJson_obj (fields : Payload) : IsJson (.obj fields) ↔
    (fields.map Prod.fst).Nodup ∧ ∀ field ∈ fields, IsJson field.2 := by
  have each : JsonFields fields ↔ ∀ field ∈ fields, IsJson field.2 := by
    induction fields with
    | nil => simp [JsonFields]
    | cons field fields ih => simp [JsonFields, ih]
  simp only [IsJson, each]

theorem sameItems_iff (xs ys : List Json) : SameItems xs ys ↔ List.Forall₂ SameJson xs ys := by
  induction xs generalizing ys with
  | nil => cases ys <;> simp [SameItems]
  | cons x xs ih => cases ys <;> simp [SameItems, ih]

theorem sameFields_iff (xs ys : Payload) : SameFields xs ys ↔
    ∀ field ∈ xs, ∃ other, ys.lookup field.1 = some other ∧ SameJson field.2 other := by
  induction xs with
  | nil => simp [SameFields]
  | cons field xs ih =>
    obtain ⟨key, value⟩ := field
    simp only [SameFields, ih, List.mem_cons, forall_eq_or_imp]

/-- Induction on JSON values. -/
theorem every_value {P : Json → Prop} (null : P .null) (bool : ∀ b, P (.bool b))
    (num : ∀ n, P (.num n)) (str : ∀ s, P (.str s))
    (arr : ∀ items, (∀ item ∈ items, P item) → P (.arr items))
    (obj : ∀ fields, (∀ field ∈ fields, P field.2) → P (.obj fields)) : (j : Json) → P j
  | .null => null
  | .bool b => bool b
  | .num n => num n
  | .str s => str s
  | .arr items => arr items fun item _ => every_value null bool num str arr obj item
  | .obj fields => obj fields fun field _ => every_value null bool num str arr obj field.2
termination_by j => sizeOf j
decreasing_by
  · have smaller := List.sizeOf_lt_of_mem ‹item ∈ items›
    simp
    omega
  · have smaller := List.sizeOf_lt_of_mem ‹field ∈ fields›
    obtain ⟨key, value⟩ := field
    simp at smaller ⊢
    omega

section
variable (numbers : NumberTexts)

/-- The character that stands for how the text of a value starts. -/
def opening : Json → Char
  | .null => 'n'
  | .bool true => 't'
  | .bool false => 'f'
  | .num _ => '0'
  | .str _ => '\x22'
  | .arr _ => '['
  | .obj _ => '\x7b'

/-- All characters of numbers stand for a number. -/
def openingOf (c : Char) : Char := if isNumberChar c then '0' else c

theorem text_opening {v : Json} (json : IsJson v) :
    ∃ c rest, stableText numbers v = c :: rest ∧ openingOf c = opening v := by
  cases v with
  | null => exact ⟨'n', ['u', 'l', 'l'], by simp [stableText], by decide⟩
  | bool b =>
    cases b with
    | true => exact ⟨'t', ['r', 'u', 'e'], by simp [stableText], by decide⟩
    | false => exact ⟨'f', ['a', 'l', 's', 'e'], by simp [stableText], by decide⟩
  | str s => exact ⟨'\x22', s.toList.flatMap escape ++ ['\x22'], by simp [stableText, quote], rfl⟩
  | arr items => exact ⟨_, _, stableText_arr numbers items, rfl⟩
  | obj fields => exact ⟨_, _, stableText_obj numbers fields, rfl⟩
  | num n =>
    cases n with
    | finite value =>
      cases written : numbers.text value with
      | nil => exact absurd written (numbers.filled value)
      | cons c rest =>
        have plain := numbers.plain value c (by simp [written])
        exact ⟨c, rest, by simp [stableText, written], by simp [openingOf, plain, opening]⟩
    | nan | negInfinity | posInfinity => exact json.elim

theorem openings {v w : Json} (json : IsJson v) (json' : IsJson w) {r s : List Char}
    (same : stableText numbers v ++ r = stableText numbers w ++ s) : opening v = opening w := by
  obtain ⟨c, rest, written, opens⟩ := text_opening numbers json
  obtain ⟨d, rest', written', opens'⟩ := text_opening numbers json'
  rw [written, written'] at same
  rw [← opens, ← opens', (List.cons.inj same).1]

/-- The text of the value, up to where it ends, is the text of no other. -/
def Reads (v : Json) : Prop :=
  IsJson v → ∀ w, IsJson w → ∀ r s, Closed r → Closed s →
    stableText numbers v ++ r = stableText numbers w ++ s → SameJson v w ∧ r = s

theorem constant_reads {v : Json} (only : ∀ w, opening v = opening w → w = v) (same : SameJson v v) :
    Reads numbers v := by
  intro json w json' r s _ _ texts
  obtain rfl := only w (openings numbers json json' texts)
  exact ⟨same, List.append_cancel_left texts⟩

theorem num_reads (n : JsNumber) : Reads numbers (.num n) := by
  intro json w json' r s closed closed' texts
  have kind := openings numbers json json' texts
  cases w with
  | num m =>
    cases n with
    | finite value =>
      cases m with
      | finite other =>
        simp only [stableText] at texts
        obtain ⟨words, ends⟩ := word_apart (numbers.plain value) (numbers.plain other) closed closed' texts
        exact ⟨by simp [SameJson, numbers.distinct words], ends⟩
      | nan | negInfinity | posInfinity => exact json'.elim
    | nan | negInfinity | posInfinity => exact json.elim
  | bool b => cases b <;> simp [opening] at kind
  | null | str t | arr items | obj fields => simp [opening] at kind

theorem str_reads (t : String) : Reads numbers (.str t) := by
  intro json w json' r s _ _ texts
  have kind := openings numbers json json' texts
  cases w with
  | str u =>
    simp only [stableText] at texts
    obtain ⟨chars, ends⟩ := quote_apart texts
    exact ⟨String.toList_inj.mp chars, ends⟩
  | bool b => cases b <;> simp [opening] at kind
  | null | num n | arr items | obj fields => simp [opening] at kind

/-- No value starts as a list ends. -/
theorem value_starts {v : Json} (json : IsJson v) :
    ∃ c rest, stableText numbers v = c :: rest ∧ c ≠ ']' := by
  obtain ⟨c, rest, written, opens⟩ := text_opening numbers json
  refine ⟨c, rest, written, ?_⟩
  rintro rfl
  have bracket : openingOf ']' = ']' := by decide
  rw [bracket] at opens
  cases v with
  | bool b => cases b <;> simp [opening] at opens
  | null | str t | num n | arr items | obj fields => simp [opening] at opens

theorem arr_reads (xs : List Json) (each : ∀ x ∈ xs, Reads numbers x) : Reads numbers (.arr xs) := by
  intro json w json' r s _ _ texts
  have kind := openings numbers json json' texts
  cases w with
  | arr ys =>
    rw [isJson_arr] at json json'
    rw [stableText_arr, stableText_arr] at texts
    simp only [List.cons_append, List.append_assoc, List.nil_append, List.cons.injEq, true_and] at texts
    have starts : ∀ x, x ∈ xs ∨ x ∈ ys → ∃ c rest, stableText numbers x = c :: rest ∧ c ≠ ']' :=
      fun x member => value_starts numbers (member.elim (json x) (json' x))
    obtain ⟨items, ends⟩ := listed_apart (R := SameJson) (Or.inl rfl) starts
      (fun x member y member' => each x member (json x member) y (json' y member')) texts
    exact ⟨(sameItems_iff xs ys).mpr items, ends⟩
  | bool b => cases b <;> simp [opening] at kind
  | null | num n | str t | obj fields => simp [opening] at kind

/-- One field of an object and another with the same key and value. -/
def SameField (f g : String × Json) : Prop := f.1 = g.1 ∧ SameJson f.2 g.2

theorem field_reads {f g : String × Json} (reads : Reads numbers f.2) (json : IsJson f.2)
    (json' : IsJson g.2) {r s : List Char} (closed : Closed r) (closed' : Closed s)
    (texts : fieldText numbers f ++ r = fieldText numbers g ++ s) : SameField f g ∧ r = s := by
  simp only [fieldText, List.append_assoc, List.cons_append] at texts
  obtain ⟨keys, rest⟩ := quote_apart texts
  obtain ⟨values, ends⟩ := reads json g.2 json' r s closed closed' (List.cons.inj rest).2
  exact ⟨⟨String.toList_inj.mp keys, values⟩, ends⟩

theorem lookup_member {ys : Payload} (distinct : (ys.map Prod.fst).Nodup) {g : String × Json}
    (member : g ∈ ys) : ys.lookup g.1 = some g.2 := by
  obtain ⟨before, after, rfl⟩ := List.append_of_mem member
  apply List.lookup_eq_some_iff.mpr
  refine ⟨before, after, rfl, ?_⟩
  intro other earlier
  simp only [List.map_append, List.map_cons, List.nodup_append] at distinct
  have apart := distinct.2.2 other.1 (List.mem_map.mpr ⟨other, earlier, rfl⟩) g.1 List.mem_cons_self
  simpa using fun same => apart same.symm

theorem sameFields_of_sorted {xs ys : Payload} (distinct : (ys.map Prod.fst).Nodup)
    (sorted : List.Forall₂ SameField (sortKeys xs) (sortKeys ys)) : SameJson (.obj xs) (.obj ys) := by
  constructor
  · rw [← (sortKeys_perm xs).length_eq, ← (sortKeys_perm ys).length_eq]
    exact sorted.length_eq
  · rw [sameFields_iff]
    intro f member
    obtain ⟨g, there, keys, values⟩ :=
      partner sorted ((sortKeys_perm xs).mem_iff.mpr member)
    refine ⟨g.2, ?_, values⟩
    rw [keys]
    exact lookup_member distinct ((sortKeys_perm ys).mem_iff.mp there)

theorem obj_reads (xs : Payload) (each : ∀ f ∈ xs, Reads numbers f.2) : Reads numbers (.obj xs) := by
  intro json w json' r s _ _ texts
  have kind := openings numbers json json' texts
  cases w with
  | obj ys =>
    rw [isJson_obj] at json json'
    rw [stableText_obj, stableText_obj] at texts
    simp only [List.cons_append, List.append_assoc, List.nil_append, List.cons.injEq, true_and] at texts
    have starts : ∀ f, f ∈ sortKeys xs ∨ f ∈ sortKeys ys →
        ∃ c rest, fieldText numbers f = c :: rest ∧ c ≠ '\x7d' := fun f _ => ⟨_, _, rfl, by decide⟩
    obtain ⟨fields, ends⟩ := listed_apart (R := SameField) (Or.inr rfl) starts
      (fun f member g member' r s closed closed' =>
        field_reads numbers (each f ((sortKeys_perm xs).mem_iff.mp member))
          (json.2 f ((sortKeys_perm xs).mem_iff.mp member))
          (json'.2 g ((sortKeys_perm ys).mem_iff.mp member')) closed closed') texts
    exact ⟨sameFields_of_sorted json'.1 fields, ends⟩
  | bool b => cases b <;> simp [opening] at kind
  | null | num n | str t | arr items => simp [opening] at kind

theorem value_reads (v : Json) : Reads numbers v := by
  apply every_value _ _ (num_reads numbers) (str_reads numbers) (arr_reads numbers) (obj_reads numbers)
  · apply constant_reads
    · intro w kind
      cases w with
      | null => rfl
      | bool b => cases b <;> simp [opening] at kind
      | num n | str t | arr items | obj fields => simp [opening] at kind
    · trivial
  · intro b
    apply constant_reads
    · intro w kind
      cases w with
      | bool a => cases a <;> cases b <;> simp [opening] at kind <;> rfl
      | null | num n | str t | arr items | obj fields => cases b <;> simp [opening] at kind
    · rfl

/-- Different JSON values have different texts. -/
theorem stableText_inj {v w : Json} (json : IsJson v) (json' : IsJson w)
    (same : stableText numbers v = stableText numbers w) : SameJson v w := by
  have ended : Closed [] := by simp [Closed]
  have texts : stableText numbers v ++ [] = stableText numbers w ++ [] := by rw [same]
  exact (value_reads numbers v json w json' [] [] ended ended texts).1

/-- The texts of the values of an object under their keys do not depend on the
order of the keys. -/
theorem texts_perm {xs ys : Payload} (distinct : (xs.map Prod.fst).Nodup)
    (sizes : xs.length = ys.length)
    (texts : ∀ f ∈ xs, ∃ other, ys.lookup f.1 = some other ∧
      stableText numbers f.2 = stableText numbers other) :
    (stableFields numbers xs).Perm (stableFields numbers ys) := by
  rw [stableFields_eq, stableFields_eq]
  have once : (xs.map fun f => (f.1, stableText numbers f.2)).Nodup := by
    apply List.Nodup.of_map Prod.fst
    rw [List.map_map]
    exact distinct
  apply List.Subperm.perm_of_length_le
  · apply List.subperm_of_subset once
    intro entry member
    obtain ⟨f, inside, rfl⟩ := List.mem_map.mp member
    obtain ⟨other, found, same⟩ := texts f inside
    obtain ⟨before, after, split, _⟩ := List.lookup_eq_some_iff.mp found
    have there : (f.1, other) ∈ ys := by simp [split]
    exact List.mem_map.mpr ⟨(f.1, other), there, by rw [same]⟩
  · simp [sizes]

theorem same_texts (v : Json) : IsJson v → ∀ w, IsJson w → SameJson v w →
    stableText numbers v = stableText numbers w := by
  induction v using every_value with
  | null =>
    intro _ w _ same
    cases w with
    | null => rfl
    | bool b | num n | str s | arr items | obj fields => exact same.elim
  | bool a =>
    intro _ w _ same
    cases w with
    | bool b => rw [show a = b from same]
    | null | num n | str s | arr items | obj fields => exact same.elim
  | num m =>
    intro _ w _ same
    cases w with
    | num n => rw [show m = n from same]
    | null | bool b | str s | arr items | obj fields => exact same.elim
  | str s =>
    intro _ w _ same
    cases w with
    | str t => rw [show s = t from same]
    | null | bool b | num n | arr items | obj fields => exact same.elim
  | arr xs each =>
    intro json w json' same
    cases w with
    | arr ys =>
      rw [isJson_arr] at json json'
      have items : List.Forall₂ SameJson xs ys := (sameItems_iff xs ys).mp same
      have texts : xs.map (stableText numbers) = ys.map (stableText numbers) := by
        clear same
        induction items with
        | nil => rfl
        | cons here _ ih =>
          rw [List.map_cons, List.map_cons, ih (fun x member => each x (List.mem_cons_of_mem _ member))
            (fun x member => json x (List.mem_cons_of_mem _ member))
            fun x member => json' x (List.mem_cons_of_mem _ member),
            each _ List.mem_cons_self (json _ List.mem_cons_self) _ (json' _ List.mem_cons_self) here]
      rw [stableText_arr, stableText_arr, texts]
    | null | bool b | num n | str s | obj fields => exact same.elim
  | obj xs each =>
    intro json w json' same
    cases w with
    | obj ys =>
      rw [isJson_obj] at json json'
      obtain ⟨sizes, fields⟩ := same
      rw [sameFields_iff] at fields
      have texts : ∀ f ∈ xs, ∃ other, ys.lookup f.1 = some other ∧
          stableText numbers f.2 = stableText numbers other := by
        intro f member
        obtain ⟨other, found, alike⟩ := fields f member
        obtain ⟨before, after, split, _⟩ := List.lookup_eq_some_iff.mp found
        have there : (f.1, other) ∈ ys := by simp [split]
        exact ⟨other, found, each f member (json.2 f member) other (json'.2 _ there) alike⟩
      have keys : ((stableFields numbers ys).map Prod.fst).Nodup := by
        rw [stableFields_eq, List.map_map]
        exact json'.1
      simp only [stableText, sortKeys_eq (texts_perm numbers json.1 sizes texts) keys]
    | null | bool b | num n | str s | arr items => exact same.elim

/-- JSON values are the same up to the order of keys exactly when their texts are. -/
theorem stableText_iff {v w : Json} (json : IsJson v) (json' : IsJson w) :
    stableText numbers v = stableText numbers w ↔ SameJson v w :=
  ⟨stableText_inj numbers json json', same_texts numbers v json w json'⟩

/-- Two requests ask for the same. -/
structure SameRequest (a b : ExternalActionRequest) : Prop where
  actionId : a.actionId = b.actionId
  actionType : a.actionType = b.actionType
  approvedBy : a.approvedBy = b.approvedBy
  idempotencyKey : a.idempotencyKey = b.idempotencyKey
  payload : SameJson (.obj a.requestPayload) (.obj b.requestPayload)

theorem content_json {request : ExternalActionRequest} (json : IsJson (.obj request.requestPayload)) :
    IsJson (digestContent request) := by
  rw [digestContent, isJson_obj]
  constructor
  · simp
  · simp [IsJson] at json ⊢
    exact json

theorem content_same (a b : ExternalActionRequest) :
    SameJson (digestContent a) (digestContent b) ↔ SameRequest a b := by
  have split : SameJson (digestContent a) (digestContent b) ↔
      (5 = 5 ∧ SameFields [("actionId", .str a.actionId), ("actionType", .str a.actionType),
        ("approvedBy", .str a.approvedBy), ("idempotencyKey", .str a.idempotencyKey),
        ("payload", .obj a.requestPayload)] [("actionId", .str b.actionId),
        ("actionType", .str b.actionType), ("approvedBy", .str b.approvedBy),
        ("idempotencyKey", .str b.idempotencyKey), ("payload", .obj b.requestPayload)]) := Iff.rfl
  rw [split, sameFields_iff]
  simp only [true_and, List.mem_cons, List.not_mem_nil, or_false, forall_eq_or_imp, forall_eq,
    List.lookup_cons, beq_self_eq_true, String.reduceBEq, Option.some.injEq, exists_eq_left']
  constructor
  · rintro ⟨action, type, approver, key, payload⟩
    exact ⟨action, type, approver, key, payload⟩
  · rintro ⟨action, type, approver, key, payload⟩
    exact ⟨action, type, approver, key, payload⟩

/-- Without a collision of their texts, two requests have one digest exactly
when they ask for the same. -/
theorem digest_eq_iff {sha256 : String → String} {a b : ExternalActionRequest}
    (json : IsJson (.obj a.requestPayload)) (json' : IsJson (.obj b.requestPayload))
    (apart : sha256 (stableJson numbers (digestContent a)) = sha256 (stableJson numbers (digestContent b)) →
      stableJson numbers (digestContent a) = stableJson numbers (digestContent b)) :
    externalActionRequestDigest numbers sha256 a = externalActionRequestDigest numbers sha256 b ↔
      SameRequest a b := by
  rw [← content_same, ← stableText_iff numbers (content_json json) (content_json json')]
  constructor
  · intro same
    exact String.ofList_inj.mp (apart same)
  · intro same
    unfold externalActionRequestDigest stableJson
    rw [same]

end

end VantGrowth.Proofs.RequestDigests
