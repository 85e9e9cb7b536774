import VantGrowth.Db.Contracts

namespace VantGrowth.Db.Zod
open Lib

/-- What a schema reads off a value; `none` where it refuses the value. -/
abbrev Schema (α : Type) := Json → Option α

/-- `z.string().min(1)` -/
def filled : Schema String
  | .str s => if s = "" then none else some s
  | _ => none

/-- `z.string().uuid()` -/
def uuid : Schema String
  | .str s => if isUuid s then some s else none
  | _ => none

/-- `z.string().trim().min(low).max(high)` -/
def trimmed (low high : Nat) : Schema String
  | .str s =>
    if low ≤ jsLength (jsTrim s) ∧ jsLength (jsTrim s) ≤ high then some (jsTrim s) else none
  | _ => none

/-- `z.string()` -/
def text : Schema String
  | .str s => some s
  | _ => none

/-- `z.string()` with a pattern. -/
def matching (pattern : String → Bool) : Schema String
  | .str s => if pattern s then some s else none
  | _ => none

/-- `z.string().min(low).max(high)` -/
def sized (low high : Nat) : Schema String :=
  matching fun s => low ≤ jsLength s && jsLength s ≤ high

/-- `z.literal(value)` -/
def literal (value : String) : Schema String := matching (· == value)

/-- `z.array(item)` -/
def array (item : Schema α) : Schema (List α)
  | .arr items => items.mapM item
  | _ => none

/-- `z.number().min(low).max(high)` -/
def numberIn (low high : ℚ) : Schema ℚ
  | .num (.finite value) => if low ≤ value ∧ value ≤ high then some value else none
  | _ => none

/-- `z.number().int().min(0)` -/
def count : Schema Nat
  | .num (.finite value) => if value.den = 1 ∧ 0 ≤ value then some value.num.toNat else none
  | _ => none

/-- `z.enum` -/
def oneOf (values : List (String × α)) : Schema α
  | .str s => values.lookup s
  | _ => none

/-- `z.boolean()` -/
def bool : Schema Bool
  | .bool b => some b
  | _ => none

/-- `schema.nullable()` -/
def nullable (schema : Schema α) : Schema (Option α)
  | .null => some none
  | value => (schema value).map some

/-- `z.record(z.unknown())` -/
def record : Schema Payload
  | .obj fields => some fields
  | _ => none

def required (p : Payload) (field : String) (schema : Schema α) : Option α :=
  (p.lookup field).bind schema

def optional (p : Payload) (field : String) (schema : Schema α) : Option (Option α) :=
  match p.lookup field with
  | none => some none
  | some value => (schema value).map some

def defaulted (p : Payload) (field : String) (schema : Schema α) (default : α) : Option α :=
  match p.lookup field with
  | none => some default
  | some value => schema value

theorem filled_eq_some {j : Json} {s : String} (h : filled j = some s) : s ≠ "" := by
  cases j with
  | str t =>
    simp only [filled] at h
    split at h
    · cases h
    · rename_i ht
      cases h
      exact ht
  | null => cases h
  | bool b => cases h
  | num n => cases h
  | arr items => cases h
  | obj fields => cases h

theorem uuid_eq_some {j : Json} {s : String} (h : uuid j = some s) : isUuid s = true := by
  cases j with
  | str t =>
    simp only [uuid] at h
    split at h
    · rename_i ht
      cases h
      exact ht
    · cases h
  | null => cases h
  | bool b => cases h
  | num n => cases h
  | arr items => cases h
  | obj fields => cases h

theorem numberIn_eq_some {low high value : ℚ} {j : Json} (h : numberIn low high j = some value) :
    low ≤ value ∧ value ≤ high := by
  cases j with
  | num n =>
    cases n with
    | finite v =>
      simp only [numberIn] at h
      split at h
      · cases h
        assumption
      · cases h
    | nan => cases h
    | negInfinity => cases h
    | posInfinity => cases h
  | null => cases h
  | bool b => cases h
  | str s => cases h
  | arr items => cases h
  | obj fields => cases h

theorem required_eq_some {p : Payload} {field : String} {schema : Schema α} {a : α}
    (h : required p field schema = some a) : ∃ j, p.lookup field = some j ∧ schema j = some a :=
  Option.bind_eq_some_iff.mp h

/-- What a schema promises of a value holds of an optional one. -/
theorem optional_all {p : Payload} {field : String} {schema : Schema α} {o : Option α}
    {check : α → Bool} (h : optional p field schema = some o)
    (promise : ∀ j a, schema j = some a → check a = true) : o.all check = true := by
  unfold optional at h
  split at h
  · cases h
    rfl
  · obtain ⟨a, read, rfl⟩ := Option.map_eq_some_iff.mp h
    exact promise _ a read

/-- What a schema promises of a value holds of every item of an array. -/
theorem array_all {item : Schema α} {j : Json} {values : List α} {check : α → Bool}
    (h : array item j = some values) (promise : ∀ j a, item j = some a → check a = true) :
    values.all check = true := by
  cases j with
  | arr items =>
    have read : items.mapM item = some values := h
    clear h
    induction items generalizing values with
    | nil =>
      cases read
      rfl
    | cons first rest ih =>
      simp only [List.mapM_cons, Option.bind_eq_bind, Option.bind_eq_some_iff] at read
      obtain ⟨a, head, as, tail, same⟩ := read
      cases same
      simp only [List.all_cons, Bool.and_eq_true]
      exact ⟨promise first a head, ih tail⟩
  | null => cases h
  | bool b => cases h
  | num n => cases h
  | str s => cases h
  | obj fields => cases h

end VantGrowth.Db.Zod
