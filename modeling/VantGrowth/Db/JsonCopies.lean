import VantGrowth.Db.Contracts

namespace VantGrowth.Db
open Lib

-- What `JSON.parse(JSON.stringify(value))` makes of a value: infinite numbers
-- are written as null.
mutual

def Json.copied : Json → Json
  | .null => .null
  | .bool b => .bool b
  | .num (.finite value) => .num (.finite value)
  | .num .nan => .null
  | .num .negInfinity => .null
  | .num .posInfinity => .null
  | .str s => .str s
  | .arr items => .arr (copiedItems items)
  | .obj fields => .obj (copiedFields fields)

def copiedItems : List Json → List Json
  | [] => []
  | item :: items => item.copied :: copiedItems items

def copiedFields : Payload → Payload
  | [] => []
  | (name, value) :: fields => (name, value.copied) :: copiedFields fields

end

-- JSON values without infinite numbers, which a JSON text always writes.
mutual

def Json.isFinite : Json → Bool
  | .num (.finite _) => true
  | .num _ => false
  | .arr items => finiteItems items
  | .obj fields => finiteFields fields
  | .null | .bool _ | .str _ => true

def finiteItems : List Json → Bool
  | [] => true
  | item :: items => item.isFinite && finiteItems items

def finiteFields : Payload → Bool
  | [] => true
  | (_, value) :: fields => value.isFinite && finiteFields fields

end

mutual

theorem Json.copied_again : (j : Json) → j.copied.copied = j.copied
  | .null | .bool _ | .str _ => by simp [Json.copied]
  | .num n => by cases n <;> simp [Json.copied]
  | .arr items => by simp [Json.copied, copiedItems_again items]
  | .obj fields => by simp [Json.copied, copiedFields_again fields]

theorem copiedItems_again : (items : List Json) → copiedItems (copiedItems items) = copiedItems items
  | [] => by simp [copiedItems]
  | item :: items => by simp [copiedItems, item.copied_again, copiedItems_again items]

theorem copiedFields_again : (p : Payload) → copiedFields (copiedFields p) = copiedFields p
  | [] => by simp [copiedFields]
  | (name, value) :: fields => by simp [copiedFields, value.copied_again, copiedFields_again fields]

end

mutual

theorem Json.copied_finite : (j : Json) → j.isFinite = true → j.copied = j
  | .null, _ | .bool _, _ | .str _, _ => by simp [Json.copied]
  | .num n, finite => by cases n <;> simp_all [Json.isFinite, Json.copied]
  | .arr items, finite => by
    simp only [Json.isFinite] at finite
    simp [Json.copied, copiedItems_finite items finite]
  | .obj fields, finite => by
    simp only [Json.isFinite] at finite
    simp [Json.copied, copiedFields_finite fields finite]

theorem copiedItems_finite : (items : List Json) → finiteItems items = true → copiedItems items = items
  | [], _ => by simp [copiedItems]
  | item :: items, finite => by
    simp only [finiteItems, Bool.and_eq_true] at finite
    simp [copiedItems, item.copied_finite finite.1, copiedItems_finite items finite.2]

theorem copiedFields_finite : (p : Payload) → finiteFields p = true → copiedFields p = p
  | [], _ => by simp [copiedFields]
  | (name, value) :: fields, finite => by
    simp only [finiteFields, Bool.and_eq_true] at finite
    simp [copiedFields, value.copied_finite finite.1, copiedFields_finite fields finite.2]

end

end VantGrowth.Db
