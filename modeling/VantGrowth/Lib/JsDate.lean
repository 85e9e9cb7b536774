import Mathlib.Algebra.Order.Ring.Rat
import VantGrowth.Lib.Text

namespace VantGrowth.Lib
open Text

/-- A JavaScript number, exact where it is finite. -/
inductive JsNumber where
  | nan
  | negInfinity
  | finite (value : ℚ)
  | posInfinity

/-- `value <= 0`, false for a value that is not a number. -/
def JsNumber.atMostZero : JsNumber → Bool
  | .nan | .posInfinity => false
  | .negInfinity => true
  | .finite value => value ≤ 0

/-- Milliseconds since the epoch, as `Date.getTime` reports them. -/
abbrev Instant := Int

/-- A `Date` object, which may hold no time. -/
inductive JsDate where
  | invalid
  | valid (time : Instant)
deriving DecidableEq

namespace JsDate

/-- A date keeps whole milliseconds, drops the fraction towards zero and
reaches 100 000 000 days to either side of the epoch. -/
def ofTime (ms : ℚ) : JsDate :=
  if ms < -8640000000000000 ∨ 8640000000000000 < ms then .invalid
  else .valid (if ms < 0 then ms.ceil else ms.floor)

/-- `new Date(date.getTime() + ms)` -/
def plus : JsDate → JsNumber → JsDate
  | .valid time, .finite ms => ofTime (time + ms)
  | _, _ => .invalid

/-- `a.getTime() > b.getTime()` -/
def after : JsDate → JsDate → Bool
  | .valid a, .valid b => b < a
  | _, _ => false

end JsDate

/-- Year, month and day of a day counted from 1970-01-01. -/
def civilDate (day : Int) : Int × Nat × Nat :=
  let z := day + 719468
  let era := z.fdiv 146097
  let doe := (z - era * 146097).toNat
  let yoe := (doe - doe / 1460 + doe / 36524 - doe / 146096) / 365
  let doy := doe - (365 * yoe + yoe / 4 - yoe / 100)
  let mp := (5 * doy + 2) / 153
  let month := if mp < 10 then mp + 3 else mp - 9
  (yoe + era * 400 + (if month ≤ 2 then 1 else 0), month, doy - (153 * mp + 2) / 5 + 1)

def Instant.toISOString (t : Instant) : String :=
  let ms := (t.emod 86400000).toNat
  let (y, m, d) := civilDate (t.fdiv 86400000)
  let year :=
    if y < 0 then "-" ++ padStart 6 y.natAbs
    else if 9999 < y then "+" ++ padStart 6 y.natAbs else padStart 4 y.natAbs
  year ++ "-" ++ padStart 2 m ++ "-" ++ padStart 2 d ++ "T" ++ padStart 2 (ms / 3600000) ++ ":" ++
    padStart 2 (ms / 60000 % 60) ++ ":" ++ padStart 2 (ms / 1000 % 60) ++ "." ++
    padStart 3 (ms % 1000) ++ "Z"

example : Instant.toISOString 1784462400000 = "2026-07-19T12:00:00.000Z" := by decide

end VantGrowth.Lib
