import VantGrowth.Lib.JsObject
import VantGrowth.Lib.JsSort

namespace VantGrowth.Attribution
open Lib Lib.JsObject

structure Touchpoint where
  channel : JsString

/-- `attributionSignalSchema`, of the channels. -/
def validTouchpoints (touchpoints : List Touchpoint) : Bool := touchpoints.all (·.channel != [])

/-- The part of a rollup that is synthesized. -/
structure RollupCounts where
  totalTouchpoints : Nat
  uniqueChannels : Nat
  topChannel : Option JsString
deriving DecidableEq

def protoName : JsString := .ofString "__proto__"

/-- The functions that every object inherits, as `String` shows them. -/
def inheritedFunctions : List (JsString × String) :=
  ("constructor", "Object") :: (["__defineGetter__", "__defineSetter__", "hasOwnProperty",
    "__lookupGetter__", "__lookupSetter__", "isPrototypeOf", "propertyIsEnumerable", "toString",
    "valueOf", "toLocaleString"].map fun name => (name, name))
  |>.map fun (name, shown) => (JsString.ofString name, "function " ++ shown ++ "() \x7b [native code] \x7d")

/-- What the counting object holds under a channel: a number, or a text that
started as a function's. -/
inductive Tally where
  | count (n : Nat)
  | text (s : String)
deriving DecidableEq

/-- `value + 1`, which continues a text. -/
def Tally.plusOne : Tally → Tally
  | .count n => .count (n + 1)
  | .text s => .text (s ++ "1")

/-- `acc[channel] ?? 0` -/
def readTally (acc : InsertionMap JsString Tally) (channel : JsString) : Tally :=
  match acc.get channel with
  | some own => own
  | none =>
    match inheritedFunctions.lookup channel with
    | some shown => .text shown
    | none => .count 0

/-- One step of the count. The setter of `__proto__` takes objects only. -/
def countChannel (acc : InsertionMap JsString Tally) (channel : JsString) : InsertionMap JsString Tally :=
  if channel = protoName then acc else acc.set channel (readTally acc channel).plusOne

def counts (channels : List JsString) : InsertionMap JsString Tally :=
  channels.foldl countChannel .empty

/-- `right[1] - left[1]`, where no text is a number's and `sort` takes what is
no number for zero. -/
def compareCounts (left right : JsString × Tally) : Int :=
  match left.2, right.2 with
  | .count l, .count r => r - l
  | _, _ => 0

/-- What `synthesizeAttributionRollup` may return. -/
def Synthesizes (touchpoints : List Touchpoint) (rollup : RollupCounts) : Prop :=
  let channels := touchpoints.map (·.channel)
  ∃ sorted, SortsTo compareCounts (entries (counts channels)) sorted ∧
    rollup = ⟨touchpoints.length, channels.eraseDups.length, sorted.head?.map Prod.fst⟩

end VantGrowth.Attribution
