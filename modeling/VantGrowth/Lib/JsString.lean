import Mathlib.Data.List.TakeWhile
import Mathlib.Tactic.IntervalCases
import Mathlib.Logic.Function.Basic

namespace VantGrowth.Lib

/-- A JavaScript string: its UTF-16 code units, paired or not. -/
abbrev JsString := List UInt16

namespace JsString

/-- The code units of a text, a surrogate pair for each character above the
basic plane. -/
def ofString (s : String) : JsString :=
  s.toList.flatMap fun c =>
    if c.toNat < 0x10000 then [c.toNat.toUInt16]
    else [(0xD800 + (c.toNat - 0x10000) / 0x400).toUInt16,
      (0xDC00 + (c.toNat - 0x10000) % 0x400).toUInt16]

theorem ofString_ne_nil {s : String} (filled : s ≠ "") : ofString s ≠ [] := by
  intro empty
  refine filled (String.toList_inj.mp ?_)
  refine List.eq_nil_iff_forall_not_mem.mpr fun c member => ?_
  have units := List.flatMap_eq_nil_iff.mp empty c member
  split at units <;> cases units

/-- The class `\s`: white space and line terminators. -/
def isSpace (u : UInt16) : Bool :=
  (0x09 ≤ u && u ≤ 0x0D) || u == 0x20 || u == 0xA0 || u == 0x1680 ||
    (0x2000 ≤ u && u ≤ 0x200A) || u == 0x2028 || u == 0x2029 || u == 0x202F ||
    u == 0x205F || u == 0x3000 || u == 0xFEFF

/-- Case folding of the `i` flag, which moves no unit into or out of ASCII. -/
def fold (u : UInt16) : UInt16 := if 0x41 ≤ u && u ≤ 0x5A then u + 0x20 else u

/-- What is left after a lower-case word at the front, in any letter case. -/
def dropWord : JsString → JsString → Option JsString
  | [], s => some s
  | w :: ws, u :: s => if fold u == w then dropWord ws s else none
  | _ :: _, [] => none

/-- `replace` with a global pattern: `hit` tries the pattern at the front and
gives the replacement and the rest. A hit consumes at least one unit, so the
length is fuel enough. -/
def replaceFrom (hit : JsString → Option (JsString × JsString)) : Nat → JsString → JsString
  | 0, s => s
  | _ + 1, [] => []
  | n + 1, u :: s =>
    match hit (u :: s) with
    | some (out, rest) => out ++ replaceFrom hit n rest
    | none => u :: replaceFrom hit n s

def replaceAll (hit : JsString → Option (JsString × JsString)) (s : JsString) : JsString :=
  replaceFrom hit s.length s

theorem take_head {n : Nat} {s : JsString} (room : 0 < n) : (s.take n).head? = s.head? := by
  cases s with
  | nil => simp
  | cons u s =>
    obtain ⟨n, rfl⟩ := Nat.exists_eq_succ_of_ne_zero (Nat.ne_of_gt room)
    rfl

/-- A pattern whose replacements start as what they replace leaves the first
unit alone. -/
theorem replaceFrom_head {hit : JsString → Option (JsString × JsString)}
    (front : ∀ s out rest, hit s = some (out, rest) → out.head? = s.head?) (n : Nat) (s : JsString) :
    (replaceFrom hit n s).head? = s.head? := by
  cases n with
  | zero => rfl
  | succ n =>
    cases s with
    | nil => rfl
    | cons u s =>
      cases found : hit (u :: s) with
      | none => simp [replaceFrom, found]
      | some pair =>
        obtain ⟨out, rest⟩ := pair
        have first := front _ _ _ found
        simp [replaceFrom, found, List.head?_append, first]

end JsString

/-- `String.length`, which counts code units. -/
def jsLength (s : String) : Nat := (JsString.ofString s).length

def isSpaceChar (c : Char) : Bool := c.toNat < 0x10000 && JsString.isSpace c.toNat.toUInt16

/-- A unit that is not below the surrogates, nor above them, is no space. -/
theorem JsString.surrogate_plain {m : Nat} (low : 0xD800 ≤ m) (high : m ≤ 0xDBFF) :
    JsString.isSpace m.toUInt16 = false := by
  have same : m.toUInt16.toNat = m := by
    simp only [Nat.toUInt16, UInt16.toNat_ofNat']
    omega
  simp only [JsString.isSpace, UInt16.le_iff_toNat_le, ← UInt16.toNat_inj, same, beq_eq_decide,
    Bool.or_eq_false_iff, Bool.and_eq_false_iff, decide_eq_false_iff_not]
  simp
  omega

/-- A text that starts with no space starts with no space unit. -/
theorem JsString.ofString_head {s : String} {c : Char} (first : s.toList.head? = some c)
    (plain : isSpaceChar c = false) :
    ∃ u, (JsString.ofString s).head? = some u ∧ JsString.isSpace u = false := by
  obtain ⟨cs, split⟩ : ∃ cs, s.toList = c :: cs := by
    cases hs : s.toList with
    | nil => rw [hs] at first; cases first
    | cons c' cs =>
      rw [hs] at first
      cases first
      exact ⟨cs, rfl⟩
  unfold JsString.ofString
  rw [split, List.flatMap_cons]
  by_cases basic : c.toNat < 0x10000
  · refine ⟨c.toNat.toUInt16, by simp [basic], ?_⟩
    simpa [isSpaceChar, basic] using plain
  · refine ⟨(0xD800 + (c.toNat - 0x10000) / 0x400).toUInt16, by simp [basic], ?_⟩
    have bound : c.toNat < 0x110000 := by
      have valid := c.valid
      rcases valid with low | ⟨_, high⟩
      · exact Nat.lt_trans low (by decide)
      · exact high
    apply JsString.surrogate_plain <;> omega

/-- `String.trim` -/
def jsTrim (s : String) : String :=
  String.ofList ((s.toList.dropWhile isSpaceChar).reverse.dropWhile isSpaceChar).reverse

/-- A text with no space at its ends is its own trim. -/
theorem jsTrim_of_ends {s : String} (first : ∀ c ∈ s.toList.head?, isSpaceChar c = false)
    (last : ∀ c ∈ s.toList.getLast?, isSpaceChar c = false) : jsTrim s = s := by
  have front : s.toList.dropWhile isSpaceChar = s.toList := by
    cases hs : s.toList with
    | nil => rfl
    | cons c cs =>
      rw [List.dropWhile_cons, first c (by simp [hs])]
      rfl
  have back : s.toList.reverse.dropWhile isSpaceChar = s.toList.reverse := by
    cases hs : s.toList.reverse with
    | nil => rfl
    | cons c cs =>
      rw [List.dropWhile_cons, last c (by rw [← List.head?_reverse, hs]; rfl)]
      rfl
  simp [jsTrim, front, back]

theorem jsTrim_plain {s : String} (plain : ∀ c ∈ s.toList, isSpaceChar c = false) :
    jsTrim s = s :=
  jsTrim_of_ends (fun c hc => plain c (List.mem_of_mem_head? hc))
    fun c hc => plain c (List.mem_of_mem_getLast? hc)

theorem digit_plain {c : Char} (h : c.isDigit = true) : isSpaceChar c = false := by
  simp only [Char.isDigit, Bool.and_eq_true, decide_eq_true_eq] at h
  have low : 48 ≤ c.toNat := h.1
  have high : c.toNat ≤ 57 := h.2
  have digits : ∀ n, 48 ≤ n → n ≤ 57 →
      (n < 0x10000 && JsString.isSpace n.toUInt16 : Bool) = false := by
    intro n hl hh
    interval_cases n <;> decide
  exact digits c.toNat low high

theorem head_dropWhile {α : Type} {p : α → Bool} {l : List α} {c : α}
    (h : c ∈ (l.dropWhile p).head?) : p c = false := by
  have refused := List.head?_dropWhile_not p l
  rw [Option.mem_def.mp h] at refused
  exact refused

theorem jsTrim_head {s : String} {c : Char} (first : c ∈ (jsTrim s).toList.head?) :
    isSpaceChar c = false := by
  simp only [jsTrim, String.toList_ofList, List.head?_reverse] at first
  obtain ⟨ds, hds⟩ := List.dropWhile_suffix (l := (s.toList.dropWhile isSpaceChar).reverse)
    isSpaceChar
  refine head_dropWhile (Option.mem_def.mpr ?_ : c ∈ (s.toList.dropWhile isSpaceChar).head?)
  rw [← List.getLast?_reverse, ← hds, List.getLast?_append]
  simp [Option.mem_def.mp first]

/-- Trimming twice is trimming once. -/
theorem jsTrim_trim (s : String) : jsTrim (jsTrim s) = jsTrim s := by
  refine jsTrim_of_ends (fun c first => jsTrim_head first) ?_
  intro c hc
  simp only [jsTrim, String.toList_ofList, List.getLast?_reverse] at hc
  exact head_dropWhile hc

/-- What starts with no space is not trimmed away. -/
theorem trim_ne_nil {α : Type} {p : α → Bool} {l : List α} {c : α} (first : l.head? = some c)
    (plain : p c = false) : ((l.dropWhile p).reverse.dropWhile p).reverse ≠ [] := by
  cases l with
  | nil => cases first
  | cons c' cs =>
    cases first
    rw [List.dropWhile_cons, plain]
    intro empty
    have dropped : (c :: cs).reverse.dropWhile p = [] := by simpa using empty
    have space := List.dropWhile_eq_nil_iff.mp dropped c (by simp)
    rw [plain] at space
    cases space

theorem jsTrim_ne_empty {s : String} {c : Char} (first : s.toList.head? = some c)
    (plain : isSpaceChar c = false) : jsTrim s ≠ "" := by
  intro empty
  refine trim_ne_nil first plain ?_
  have chars := congrArg String.toList empty
  simpa [jsTrim] using chars

/-- A random generator by the texts it gives in turn, taken never to repeat
one and to give plain texts without surrounding space. -/
structure Supply where
  text : Nat → String
  distinct : Function.Injective text
  plain : ∀ n, jsTrim (text n) = text n ∧ text n ≠ ""

end VantGrowth.Lib
