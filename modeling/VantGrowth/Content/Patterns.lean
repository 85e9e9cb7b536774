import VantGrowth.Lib.JsText

namespace VantGrowth.Content
open Lib

/-- What a pattern of the workers is made of. -/
inductive PatternPart where
  /-- Letters, in any case. -/
  | word (letters : String)
  /-- `\s+` -/
  | spaces
  /-- `\d` -/
  | digit
  /-- `\b` after a word character. -/
  | wordEnd

def isWordChar (c : Char) : Bool :=
  ('a' ≤ c && c ≤ 'z') || ('A' ≤ c && c ≤ 'Z') || ('0' ≤ c && c ≤ '9') || c == '_'

def dropWord : List Char → List Char → Option (List Char)
  | [], text => some text
  | w :: ws, c :: text => if c.toLower == w then dropWord ws text else none
  | _ :: _, [] => none

/-- Whether a text starts with a pattern. No part that follows spaces starts
with one, so a run of them is taken whole. -/
def startsLike : List PatternPart → List Char → Bool
  | [], _ => true
  | .word letters :: rest, text => (dropWord letters.toList text).any (startsLike rest)
  | .spaces :: rest, text =>
    text.head?.any isSpaceChar && startsLike rest (text.dropWhile isSpaceChar)
  | .digit :: rest, text => text.head?.any Char.isDigit && startsLike rest text.tail
  | .wordEnd :: rest, text => !text.head?.any isWordChar && startsLike rest text

/-- `pattern.test(text)` -/
def tests (pattern : List PatternPart) (text : String) : Bool :=
  text.toList.tails.any (startsLike pattern)

/-- Words with `\s+` between them. -/
def phrase : List String → List PatternPart
  | [] => []
  | [letters] => [.word letters]
  | letters :: more => .word letters :: .spaces :: phrase more

/-- The alternatives of the calls to action. -/
def CTA_PATTERNS : List (List PatternPart) :=
  [phrase ["book", "a"], phrase ["start", "your"], phrase ["get", "started"],
    phrase ["sign", "up"], phrase ["learn", "more"], phrase ["try", "it"],
    phrase ["contact", "us"], phrase ["schedule", "a"], phrase ["request", "a", "demo"],
    phrase ["free", "trial"]]

def hasCta (text : String) : Bool := CTA_PATTERNS.any (tests · text)

def isLineEnd (c : Char) : Bool :=
  c == '\n' || c == '\r' || c == '\u2028' || c == '\u2029'

/-- `#{1,most}\s+\S` at the front: what is left after it. -/
def dropHeading (most : Nat) (text : List Char) : Option (List Char) :=
  let hashes := text.takeWhile (· == '#')
  let after := text.drop hashes.length
  if 1 ≤ hashes.length ∧ hashes.length ≤ most ∧ after.head?.any isSpaceChar then
    match after.dropWhile isSpaceChar with
    | _ :: rest => some rest
    | [] => none
  else none

/-- The matches of `^#{1,most}\s+\S` with the flags `g` and `m`; each takes
characters, so the length is fuel enough. -/
def countHeadings (most : Nat) : (fuel : Nat) → (lineStart : Bool) → List Char → Nat
  | 0, _, _ => 0
  | _ + 1, _, [] => 0
  | n + 1, lineStart, c :: cs =>
    match if lineStart then dropHeading most (c :: cs) else none with
    | some rest => countHeadings most n false rest + 1
    | none => countHeadings most n (isLineEnd c) cs

def countMarkdownHeadings (markdown : String) : Nat :=
  countHeadings 6 markdown.toList.length true markdown.toList

def countWords (text : String) : Nat := (words text.toList).length

example : countMarkdownHeadings "# a\n\ntext ## b\n### c" = 2 := by decide

example : hasCta "Then BOOK  a call" = true := by decide

end VantGrowth.Content
