import VantGrowth.Db.ExternalActions
import VantGrowth.Lib.JsonText

namespace VantGrowth.Db
open Lib

section
variable (numbers : NumberTexts)

-- `stableJson`, as characters. The values of an object are written before its
-- keys are sorted.
mutual

def stableText : Json → List Char
  | .null => ['n', 'u', 'l', 'l']
  | .bool true => ['t', 'r', 'u', 'e']
  | .bool false => ['f', 'a', 'l', 's', 'e']
  | .num (.finite value) => numbers.text value
  | .num .nan => ['n', 'u', 'l', 'l']
  | .num .negInfinity => ['n', 'u', 'l', 'l']
  | .num .posInfinity => ['n', 'u', 'l', 'l']
  | .str s => quote s.toList
  | .arr items => '[' :: (listed (stableItems items) ++ [']'])
  | .obj fields =>
    '\x7b' :: (listed ((sortKeys (stableFields fields)).map fun field =>
      quote field.1.toList ++ ':' :: field.2) ++ ['\x7d'])

def stableItems : List Json → List (List Char)
  | [] => []
  | item :: items => stableText item :: stableItems items

def stableFields : Payload → List (String × List Char)
  | [] => []
  | (key, value) :: fields => (key, stableText value) :: stableFields fields

end

/-- A field of an object as it is written. -/
def fieldText (field : String × Json) : List Char :=
  quote field.1.toList ++ ':' :: stableText numbers field.2

theorem stableItems_eq (items : List Json) : stableItems numbers items = items.map (stableText numbers) := by
  induction items with
  | nil => simp [stableItems]
  | cons item items ih => simp [stableItems, ih]

theorem stableFields_eq (fields : Payload) :
    stableFields numbers fields = fields.map fun field => (field.1, stableText numbers field.2) := by
  induction fields with
  | nil => simp [stableFields]
  | cons field fields ih => simp [stableFields, ih]

theorem stableText_arr (items : List Json) :
    stableText numbers (.arr items) = '[' :: (listed (items.map (stableText numbers)) ++ [']']) := by
  simp [stableText, stableItems_eq]

/-- The text of an object, field by field in the order of its sorted keys. -/
theorem stableText_obj (fields : Payload) :
    stableText numbers (.obj fields) =
      '\x7b' :: (listed ((sortKeys fields).map (fieldText numbers)) ++ ['\x7d']) := by
  simp only [stableText, stableFields_eq, sortKeys_map, List.map_map]
  rfl

def stableJson (value : Json) : String := String.ofList (stableText numbers value)

/-- What the digest of a request is taken of. -/
def digestContent (request : ExternalActionRequest) : Json :=
  .obj [("actionId", .str request.actionId), ("actionType", .str request.actionType),
    ("approvedBy", .str request.approvedBy), ("idempotencyKey", .str request.idempotencyKey),
    ("payload", .obj request.requestPayload)]

/-- `sha256` is the hexadecimal digest of the UTF-8 bytes of a text. -/
def externalActionRequestDigest (sha256 : String → String) (request : ExternalActionRequest) : String :=
  sha256 (stableJson numbers (digestContent request))

end

end VantGrowth.Db
