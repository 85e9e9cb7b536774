import Mathlib.Algebra.Order.Field.Rat
import Mathlib.Data.Nat.Digits.Lemmas
import VantGrowth.Lib.Surrogates

/-! JSON texts as `JSON.parse` reads them and as `JSON.stringify` writes strings
and whole numbers. -/

namespace VantGrowth.Lib.JsonRead

/-- A JSON value; of members with one key the last one counts. -/
inductive Value where
  | null
  | bool (b : Bool)
  | num (q : ℚ)
  | str (s : JsString)
  | arr (items : List Value)
  | obj (members : List (JsString × Value))

def isJsonSpace (u : UInt16) : Bool := u == 0x20 || u == 0x09 || u == 0x0A || u == 0x0D

def skipSpace (s : JsString) : JsString := s.dropWhile isJsonSpace

def isDigit (u : UInt16) : Bool := 0x30 ≤ u && u ≤ 0x39

def digitValue (u : UInt16) : Nat := u.toNat - 0x30

/-- The number that digits stand for. -/
def digitsValue (ds : JsString) : Nat := ds.foldl (fun n u => 10 * n + digitValue u) 0

def hexDigitValue (u : UInt16) : Option Nat :=
  let n := u.toNat
  if 0x30 ≤ n ∧ n ≤ 0x39 then some (n - 0x30)
  else if 0x61 ≤ n ∧ n ≤ 0x66 then some (n - 0x57)
  else if 0x41 ≤ n ∧ n ≤ 0x46 then some (n - 0x37)
  else none

/-- The unit that `\u` and four digits stand for. -/
def hexUnit (a b c d : UInt16) : Option UInt16 := do
  let a ← hexDigitValue a
  let b ← hexDigitValue b
  let c ← hexDigitValue c
  let d ← hexDigitValue d
  return (a * 4096 + b * 256 + c * 16 + d).toUInt16

/-- The unit that a backslash and one more unit stand for. -/
def escaped (u : UInt16) : Option UInt16 :=
  if u = 0x22 ∨ u = 0x5C ∨ u = 0x2F then some u
  else if u = 0x62 then some 0x08
  else if u = 0x66 then some 0x0C
  else if u = 0x6E then some 0x0A
  else if u = 0x72 then some 0x0D
  else if u = 0x74 then some 0x09
  else none

def consUnit (u : UInt16) (read : Option (JsString × JsString)) : Option (JsString × JsString) :=
  read.map fun (s, rest) => (u :: s, rest)

/-- The rest of a string behind its opening quote. -/
def readString : JsString → Option (JsString × JsString)
  | [] => none
  | [u] => if u = 0x22 then some ([], []) else none
  | u :: e :: s =>
    if u = 0x22 then some ([], e :: s)
    else if u = 0x5C then
      if e = 0x75 then
        match s with
        | a :: b :: c :: d :: s => (hexUnit a b c d).bind fun v => consUnit v (readString s)
        | _ => none
      else (escaped e).bind fun v => consUnit v (readString s)
    else if u < 0x20 then none
    else consUnit u (readString (e :: s))

/-- The digits after a point, as a part of one. -/
def readFraction (s : JsString) : Option (ℚ × JsString) :=
  match s with
  | 0x2E :: s =>
    let ds := s.takeWhile isDigit
    if ds = [] then none
    else some ((digitsValue ds : ℚ) / (10 : ℚ) ^ ds.length, s.dropWhile isDigit)
  | s => some (0, s)

def readExponent (s : JsString) : Option (Int × JsString) :=
  match s with
  | e :: s =>
    if e = 0x65 ∨ e = 0x45 then
      let negative := s.head? = some 0x2D
      let s := if s.head? = some 0x2D ∨ s.head? = some 0x2B then s.tail else s
      let ds := s.takeWhile isDigit
      if ds = [] then none
      else some ((if negative then -(digitsValue ds : Int) else digitsValue ds), s.dropWhile isDigit)
    else some (0, e :: s)
  | [] => some (0, [])

/-- A number, exact: it is not rounded to a double. -/
def readNumber (s : JsString) : Option (ℚ × JsString) := do
  let negative := s.head? = some 0x2D
  let s := if negative then s.tail else s
  let ds := s.takeWhile isDigit
  guard (ds ≠ [] ∧ (ds.length = 1 ∨ ds.head? ≠ some 0x30))
  let (fraction, s) ← readFraction (s.dropWhile isDigit)
  let (exponent, s) ← readExponent s
  let size := ((digitsValue ds : ℚ) + fraction) * (10 : ℚ) ^ exponent
  return (if negative then -size else size, s)

/-- A word at the front. -/
def readWord (word : String) (v : Value) (s : JsString) : Option (Value × JsString) :=
  let units := JsString.ofString word
  if s.take units.length = units then some (v, s.drop units.length) else none

mutual

/-- A value at the front, after white space. Every call in turn is on a shorter
text, so that the length of the text is fuel enough. -/
def readValue : Nat → JsString → Option (Value × JsString)
  | 0, _ => none
  | n + 1, s =>
    match skipSpace s with
    | [] => none
    | u :: s =>
      if u = 0x22 then (readString s).map fun (t, rest) => (.str t, rest)
      else if u = 0x7B then
        if (skipSpace s).head? = some 0x7D then some (.obj [], (skipSpace s).tail)
        else (readMembers n s).map fun (members, rest) => (.obj members, rest)
      else if u = 0x5B then
        if (skipSpace s).head? = some 0x5D then some (.arr [], (skipSpace s).tail)
        else (readItems n s).map fun (items, rest) => (.arr items, rest)
      else if u = 0x74 then readWord "true" (.bool true) (u :: s)
      else if u = 0x66 then readWord "false" (.bool false) (u :: s)
      else if u = 0x6E then readWord "null" .null (u :: s)
      else (readNumber (u :: s)).map fun (q, rest) => (.num q, rest)

/-- Members up to the closing brace. -/
def readMembers : Nat → JsString → Option (List (JsString × Value) × JsString)
  | 0, _ => none
  | n + 1, s => do
    guard ((skipSpace s).head? = some 0x22)
    let (key, s) ← readString (skipSpace s).tail
    guard ((skipSpace s).head? = some 0x3A)
    let (v, s) ← readValue n (skipSpace s).tail
    if (skipSpace s).head? = some 0x2C then
      let (members, rest) ← readMembers n (skipSpace s).tail
      return ((key, v) :: members, rest)
    else
      guard ((skipSpace s).head? = some 0x7D)
      return ([(key, v)], (skipSpace s).tail)

/-- Items up to the closing bracket. -/
def readItems : Nat → JsString → Option (List Value × JsString)
  | 0, _ => none
  | n + 1, s => do
    let (v, s) ← readValue n s
    if (skipSpace s).head? = some 0x2C then
      let (items, rest) ← readItems n (skipSpace s).tail
      return (v :: items, rest)
    else
      guard ((skipSpace s).head? = some 0x5D)
      return ([v], (skipSpace s).tail)

end

/-- `JSON.parse`, which throws where there is no value. -/
def parse (s : JsString) : Option Value := do
  let (v, rest) ← readValue (s.length + 1) s
  guard (skipSpace rest = [])
  return v

/-- A property of a parsed object. -/
def Value.get (v : Value) (key : String) : Option Value :=
  match v with
  | .obj members => (members.reverse.lookup (JsString.ofString key))
  | _ => none

def hexLetter (n : Nat) : UInt16 := if n < 10 then (n + 0x30).toUInt16 else (n + 0x57).toUInt16

/-- `\u` and the four digits of a unit. -/
def hexEscape (u : UInt16) : JsString :=
  let n := u.toNat
  [0x5C, 0x75, hexLetter (n / 4096), hexLetter (n / 256 % 16), hexLetter (n / 16 % 16),
    hexLetter (n % 16)]

/-- A unit between quotes that is no half of a pair. -/
def escapeUnit (u : UInt16) : JsString :=
  if u = 0x22 then [0x5C, 0x22]
  else if u = 0x5C then [0x5C, 0x5C]
  else if u = 0x08 then [0x5C, 0x62]
  else if u = 0x0C then [0x5C, 0x66]
  else if u = 0x0A then [0x5C, 0x6E]
  else if u = 0x0D then [0x5C, 0x72]
  else if u = 0x09 then [0x5C, 0x74]
  else if u < 0x20 ∨ JsString.isHigh u = true ∨ JsString.isLow u = true then hexEscape u
  else [u]

/-- The units between the quotes that `JSON.stringify` writes. -/
def escape : JsString → JsString
  | [] => []
  | [u] => escapeUnit u
  | u :: v :: s =>
    if JsString.isHigh u && JsString.isLow v then u :: v :: escape s
    else escapeUnit u ++ escape (v :: s)

/-- `JSON.stringify` of a string. -/
def quoted (s : JsString) : JsString := 0x22 :: (escape s ++ [0x22])

def digits (n : Nat) : JsString :=
  if n = 0 then [0x30] else (Nat.digits 10 n).reverse.map fun d => (d + 0x30).toUInt16

/-- `JSON.stringify` of a whole number below 10^21 in size. -/
def whole (n : Int) : JsString := if n < 0 then 0x2D :: digits n.natAbs else digits n.natAbs

theorem hexLetter_value : ∀ n < 16, hexDigitValue (hexLetter n) = some n := by decide

theorem readString_plain {u : UInt16} (quote : u ≠ 0x22) (slash : u ≠ 0x5C) (control : ¬ u < 0x20)
    (t : JsString) : readString (u :: t) = consUnit u (readString t) := by
  cases t with
  | nil => simp [readString, quote, consUnit]
  | cons e t => rw [readString.eq_def]; simp [quote, slash, control]

theorem readString_escaped {e v : UInt16} (other : e ≠ 0x75) (named : escaped e = some v)
    (t : JsString) : readString (0x5C :: e :: t) = consUnit v (readString t) := by
  rw [readString.eq_def]
  simp [other, named]

theorem readString_hex (u : UInt16) (t : JsString) :
    readString (hexEscape u ++ t) = consUnit u (readString t) := by
  have bound := u.toNat_lt
  have value : hexUnit (hexLetter (u.toNat / 4096)) (hexLetter (u.toNat / 256 % 16))
      (hexLetter (u.toNat / 16 % 16)) (hexLetter (u.toNat % 16)) = some u := by
    have sum : u.toNat / 4096 * 4096 + u.toNat / 256 % 16 * 256 + u.toNat / 16 % 16 * 16 +
        u.toNat % 16 = u.toNat := by omega
    simp only [hexUnit, hexLetter_value (u.toNat / 4096) (by omega),
      hexLetter_value (u.toNat / 256 % 16) (by omega), hexLetter_value (u.toNat / 16 % 16) (by omega),
      hexLetter_value (u.toNat % 16) (by omega), Option.bind_eq_bind, Option.bind_some, sum]
    simp
  simp only [hexEscape, List.cons_append, List.nil_append]
  rw [readString]
  simp [value]

/-- A unit is read back from its escape. -/
theorem readString_unit (u : UInt16) (t : JsString) :
    readString (escapeUnit u ++ t) = consUnit u (readString t) := by
  unfold escapeUnit
  split
  · rename_i same
    rw [same]
    exact readString_escaped (by decide) (by decide) t
  split
  · rename_i same
    rw [same]
    exact readString_escaped (by decide) (by decide) t
  split
  · rename_i same
    rw [same]
    exact readString_escaped (by decide) (by decide) t
  split
  · rename_i same
    rw [same]
    exact readString_escaped (by decide) (by decide) t
  split
  · rename_i same
    rw [same]
    exact readString_escaped (by decide) (by decide) t
  split
  · rename_i same
    rw [same]
    exact readString_escaped (by decide) (by decide) t
  split
  · rename_i same
    rw [same]
    exact readString_escaped (by decide) (by decide) t
  split
  · exact readString_hex u t
  · rename_i quote slash _ _ _ _ _ special
    exact readString_plain quote slash (fun low => special (Or.inl low)) t

/-- A half of a pair is no quote, backslash or control. -/
theorem surrogate_plain {u : UInt16} (half : JsString.isHigh u = true ∨ JsString.isLow u = true) :
    u ≠ 0x22 ∧ u ≠ 0x5C ∧ ¬ u < 0x20 := by
  have above : 0xD800 ≤ u.toNat := by
    simp only [JsString.isHigh, JsString.isLow, Bool.and_eq_true, decide_eq_true_eq,
      UInt16.le_iff_toNat_le] at half
    rcases half with ⟨low, _⟩ | ⟨low, _⟩
    · exact low
    · exact Nat.le_trans (by decide) low
  refine ⟨?_, ?_, ?_⟩
  · rintro rfl
    exact absurd above (by decide)
  · rintro rfl
    exact absurd above (by decide)
  · intro low
    have small : u.toNat < 0x20 := UInt16.lt_iff_toNat_lt.mp low
    omega

theorem readString_end (rest : JsString) : readString (0x22 :: rest) = some ([], rest) := by
  cases rest with
  | nil => rfl
  | cons e rest =>
    rw [readString.eq_def]
    rfl

theorem readString_escape (s : JsString) (rest : JsString) :
    readString (escape s ++ 0x22 :: rest) = some (s, rest) := by
  induction s using escape.induct with
  | case1 => exact readString_end rest
  | case2 u =>
    rw [escape, readString_unit, readString_end]
    rfl
  | case3 u v s pair ih =>
    have both := Bool.and_eq_true_iff.mp pair
    obtain ⟨quote, slash, control⟩ := surrogate_plain (Or.inl both.1)
    obtain ⟨quote', slash', control'⟩ := surrogate_plain (Or.inr both.2)
    rw [escape, if_pos pair, List.cons_append, List.cons_append,
      readString_plain quote slash control, readString_plain quote' slash' control', ih]
    rfl
  | case4 u v s apart ih =>
    rw [escape, if_neg apart, List.append_assoc, readString_unit, ih]
    rfl

theorem paired_plain {s : JsString}
    (plain : ∀ u ∈ s, JsString.isHigh u = false ∧ JsString.isLow u = false) (t : JsString) :
    JsString.paired (s ++ t) = JsString.paired t := by
  induction s with
  | nil => rfl
  | cons u s ih =>
    have first := plain u List.mem_cons_self
    rw [List.cons_append, JsString.paired_single first.1 first.2,
      ih fun v member => plain v (List.mem_cons_of_mem _ member)]

theorem hexLetter_plain : ∀ n < 16, JsString.isHigh (hexLetter n) = false ∧
    JsString.isLow (hexLetter n) = false := by decide

theorem escapeUnit_plain (u : UInt16) :
    ∀ v ∈ escapeUnit u, JsString.isHigh v = false ∧ JsString.isLow v = false := by
  have bound := u.toNat_lt
  have two : ∀ a b : UInt16, (JsString.isHigh a = false ∧ JsString.isLow a = false) →
      (JsString.isHigh b = false ∧ JsString.isLow b = false) →
        ∀ v ∈ [a, b], JsString.isHigh v = false ∧ JsString.isLow v = false := by
    intro a b first second v member
    simp only [List.mem_cons, List.not_mem_nil, or_false] at member
    rcases member with rfl | rfl
    · exact first
    · exact second
  unfold escapeUnit
  split
  · exact two _ _ (by decide) (by decide)
  split
  · exact two _ _ (by decide) (by decide)
  split
  · exact two _ _ (by decide) (by decide)
  split
  · exact two _ _ (by decide) (by decide)
  split
  · exact two _ _ (by decide) (by decide)
  split
  · exact two _ _ (by decide) (by decide)
  split
  · exact two _ _ (by decide) (by decide)
  split
  · intro v member
    simp only [hexEscape, List.mem_cons, List.not_mem_nil, or_false] at member
    rcases member with rfl | rfl | rfl | rfl | rfl | rfl
    · decide
    · decide
    all_goals exact hexLetter_plain _ (by omega)
  · rename_i special
    intro v member
    rw [List.mem_singleton.mp member]
    simp only [not_or, Bool.not_eq_true] at special
    exact special.2

/-- What is written of a string holds no lone surrogate. -/
theorem escape_paired (s t : JsString) :
    JsString.paired (escape s ++ t) = JsString.paired t := by
  induction s using escape.induct with
  | case1 => rfl
  | case2 u => exact paired_plain (escapeUnit_plain u) t
  | case3 u v s pair ih =>
    have both := Bool.and_eq_true_iff.mp pair
    rw [escape, if_pos pair, List.cons_append, List.cons_append,
      JsString.paired_pair both.1 both.2, ih]
  | case4 u v s apart ih =>
    rw [escape, if_neg apart, List.append_assoc, paired_plain (escapeUnit_plain u), ih]

theorem digit_facts : ∀ d < 10, isDigit (d + 0x30).toUInt16 = true ∧
    digitValue (d + 0x30).toUInt16 = d ∧ ((d + 0x30).toUInt16 = 0x30 → d = 0) ∧
      (d + 0x30).toUInt16 ≠ 0x2D ∧
        JsString.isHigh (d + 0x30).toUInt16 = false ∧ JsString.isLow (d + 0x30).toUInt16 = false := by
  decide

theorem digitsValue_snoc (ds : JsString) (u : UInt16) :
    digitsValue (ds ++ [u]) = 10 * digitsValue ds + digitValue u := by
  simp [digitsValue]

theorem digitsValue_digits {ds : List Nat} (small : ∀ d ∈ ds, d < 10) :
    digitsValue (ds.reverse.map fun d => (d + 0x30).toUInt16) = Nat.ofDigits 10 ds := by
  induction ds with
  | nil => rfl
  | cons d ds ih =>
    have rest := ih fun e member => small e (List.mem_cons_of_mem _ member)
    rw [List.reverse_cons, List.map_append, List.map_singleton, digitsValue_snoc, rest,
      (digit_facts d (small d List.mem_cons_self)).2.1, Nat.ofDigits_cons]
    omega

/-- Digits as they are written: some, without a leading zero, for the number. -/
theorem digits_facts (n : Nat) : digits n ≠ [] ∧ (∀ u ∈ digits n, isDigit u = true ∧ u ≠ 0x2D ∧
    JsString.isHigh u = false ∧ JsString.isLow u = false) ∧ digitsValue (digits n) = n ∧
      ((digits n).length = 1 ∨ (digits n).head? ≠ some 0x30) := by
  unfold digits
  split
  · rename_i zero
    rw [zero]
    exact ⟨by simp, List.forall_mem_singleton.mpr (by decide), rfl, Or.inl rfl⟩
  · rename_i positive
    have small : ∀ d ∈ Nat.digits 10 n, d < 10 := fun d member =>
      Nat.digits_lt_base (by decide) member
    have filled : Nat.digits 10 n ≠ [] := Nat.digits_ne_nil_iff_ne_zero.mpr positive
    refine ⟨by simpa using filled, ?_, ?_, Or.inr ?_⟩
    · intro u member
      obtain ⟨d, inside, rfl⟩ := List.mem_map.mp member
      have facts := digit_facts d (small d (List.mem_reverse.mp inside))
      exact ⟨facts.1, facts.2.2.2.1, facts.2.2.2.2⟩
    · rw [digitsValue_digits small, Nat.ofDigits_digits]
    · intro zero
      have last := Nat.getLast_digit_ne_zero 10 positive
      rw [List.head?_map, List.head?_reverse, List.getLast?_eq_some_getLast filled] at zero
      have same := Option.some.inj zero
      exact last ((digit_facts _ (small _ (List.getLast_mem filled))).2.2.1 same)

theorem run_parts {p : UInt16 → Bool} {r t : JsString} (run : ∀ u ∈ r, p u = true)
    (stop : ∀ u ∈ t.head?, p u = false) :
    (r ++ t).takeWhile p = r ∧ (r ++ t).dropWhile p = t := by
  have rest : t.takeWhile p = [] ∧ t.dropWhile p = t := by
    cases t with
    | nil => exact ⟨rfl, rfl⟩
    | cons u t => simp [stop u rfl]
  rw [List.takeWhile_append_of_pos run, List.dropWhile_append_of_pos run, rest.1, rest.2]
  exact ⟨List.append_nil r, rfl⟩

/-- Digits before a closing brace are a whole number. -/
theorem readNumber_digits (n : Nat) (rest : JsString) :
    readNumber (digits n ++ 0x7D :: rest) = some ((n : ℚ), 0x7D :: rest) ∧
      readNumber (0x2D :: (digits n ++ 0x7D :: rest)) = some (-(n : ℚ), 0x7D :: rest) := by
  obtain ⟨filled, units, value, lead⟩ := digits_facts n
  obtain ⟨taken, left⟩ := run_parts (p := isDigit) (r := digits n) (t := 0x7D :: rest)
    (fun u member => (units u member).1) (by simp; decide)
  have guarded : digits n ≠ [] ∧ ((digits n).length = 1 ∨ (digits n).head? ≠ some 0x30) :=
    ⟨filled, lead⟩
  have sign : (digits n ++ 0x7D :: rest).head? ≠ some 0x2D := by
    obtain ⟨u, us, split⟩ := List.exists_cons_of_ne_nil filled
    rw [split]
    simpa using (units u (by simp [split])).2.1
  have ends : readExponent (0x7D :: rest) = some (0, 0x7D :: rest) := rfl
  have whole_ : readFraction (0x7D :: rest) = some (0, 0x7D :: rest) := rfl
  constructor
  · simp only [readNumber, sign, if_false, taken, left, guard, if_pos guarded, Option.pure_def,
      Option.bind_eq_bind, Option.bind_some, whole_, ends, value, add_zero, zpow_zero, mul_one]
  · simp only [readNumber, List.head?_cons, if_true, List.tail_cons, taken, left, guard,
      if_pos guarded, Option.pure_def, Option.bind_eq_bind, Option.bind_some, whole_, ends, value,
      add_zero, zpow_zero, mul_one]

theorem readNumber_whole (n : Int) (rest : JsString) :
    readNumber (whole n ++ 0x7D :: rest) = some ((n : ℚ), 0x7D :: rest) := by
  have both := readNumber_digits n.natAbs rest
  unfold whole
  split
  · rename_i negative
    have same : (n : ℚ) = -(n.natAbs : ℚ) := by
      have size : n = -(n.natAbs : Int) := by omega
      exact_mod_cast congrArg (Int.cast : Int → ℚ) size
    rw [same, List.cons_append]
    exact both.2
  · rename_i natural
    have same : (n : ℚ) = (n.natAbs : ℚ) := by
      have size : (n.natAbs : Int) = n := by omega
      calc (n : ℚ) = ((n.natAbs : Int) : ℚ) := by rw [size]
        _ = (n.natAbs : ℚ) := Int.cast_natCast n.natAbs
    rw [same]
    exact both.1

theorem whole_first (n : Int) : ∃ u us, whole n = u :: us ∧ (u = 0x2D ∨ isDigit u = true) := by
  obtain ⟨filled, units, _⟩ := digits_facts n.natAbs
  unfold whole
  split
  · exact ⟨_, _, rfl, Or.inl rfl⟩
  · obtain ⟨u, us, split⟩ := List.exists_cons_of_ne_nil filled
    exact ⟨u, us, split, Or.inr (units u (by simp [split])).1⟩

theorem digit_range {u : UInt16} (h : isDigit u = true) : 0x30 ≤ u.toNat ∧ u.toNat ≤ 0x39 := by
  simp only [isDigit, Bool.and_eq_true, decide_eq_true_eq, UInt16.le_iff_toNat_le] at h
  exact h

/-- A number is read as a value. -/
theorem readValue_whole (fuel : Nat) (n : Int) (rest : JsString) :
    readValue (fuel + 1) (whole n ++ 0x7D :: rest) = some (.num n, 0x7D :: rest) := by
  obtain ⟨u, us, split, first⟩ := whole_first n
  have number := readNumber_whole n rest
  have plain : isJsonSpace u = false ∧ u ≠ 0x22 ∧ u ≠ 0x7B ∧ u ≠ 0x5B ∧ u ≠ 0x74 ∧ u ≠ 0x66 ∧
      u ≠ 0x6E := by
    rcases first with rfl | digit
    · decide
    · have range := digit_range digit
      have all : ∀ m, 0x30 ≤ m → m ≤ 0x39 → isJsonSpace m.toUInt16 = false ∧ m.toUInt16 ≠ 0x22 ∧
          m.toUInt16 ≠ 0x7B ∧ m.toUInt16 ≠ 0x5B ∧ m.toUInt16 ≠ 0x74 ∧ m.toUInt16 ≠ 0x66 ∧
            m.toUInt16 ≠ 0x6E := by
        intro m low high
        interval_cases m <;> decide
      have same : u.toNat.toUInt16 = u := by simp
      have facts := all u.toNat range.1 range.2
      rwa [same] at facts
  have skipped : skipSpace (whole n ++ 0x7D :: rest) = whole n ++ 0x7D :: rest := by
    rw [split, List.cons_append, skipSpace, List.dropWhile_cons, plain.1]
    rfl
  rw [split, List.cons_append] at skipped number ⊢
  rw [readValue, skipped]
  simp only [plain, if_false, number, Option.map_some]

/-- A string is read as a value. -/
theorem readValue_quoted (fuel : Nat) (s rest : JsString) :
    readValue (fuel + 1) (quoted s ++ rest) = some (.str s, rest) := by
  have skipped : skipSpace (quoted s ++ rest) = quoted s ++ rest := rfl
  have read := readString_escape s rest
  rw [readValue, skipped, quoted]
  simp only [List.cons_append, List.append_assoc, List.nil_append, if_true, read, Option.map_some]

/-- A member before another one. -/
theorem readMembers_more {fuel : Nat} {key s t : JsString} {v : Value} {rest : JsString}
    {members : List (JsString × Value)} (value : readValue fuel s = some (v, 0x2C :: rest))
    (more : readMembers fuel rest = some (members, t)) :
    readMembers (fuel + 1) (quoted key ++ 0x3A :: s) = some ((key, v) :: members, t) := by
  have read := readString_escape key (0x3A :: s)
  have skipped : skipSpace (quoted key ++ 0x3A :: s) =
      0x22 :: (escape key ++ 0x22 :: 0x3A :: s) := by
    simp [quoted, skipSpace, isJsonSpace]
  have colon : skipSpace (0x3A :: s) = 0x3A :: s := rfl
  have comma : skipSpace (0x2C :: rest) = 0x2C :: rest := rfl
  rw [readMembers]
  simp only [skipped, List.head?_cons, guard, if_true, Option.pure_def, List.tail_cons, read, colon,
    value, comma, more, Option.bind_eq_bind, Option.bind_some]

/-- The last member. -/
theorem readMembers_last {fuel : Nat} {key s rest : JsString} {v : Value}
    (value : readValue fuel s = some (v, 0x7D :: rest)) :
    readMembers (fuel + 1) (quoted key ++ 0x3A :: s) = some ([(key, v)], rest) := by
  have read := readString_escape key (0x3A :: s)
  have skipped : skipSpace (quoted key ++ 0x3A :: s) =
      0x22 :: (escape key ++ 0x22 :: 0x3A :: s) := by
    simp [quoted, skipSpace, isJsonSpace]
  have colon : skipSpace (0x3A :: s) = 0x3A :: s := rfl
  have brace : skipSpace (0x7D :: rest) = 0x7D :: rest := rfl
  have other : ¬ (some 0x7D : Option UInt16) = some 0x2C := by decide
  rw [readMembers]
  simp only [skipped, List.head?_cons, guard, if_true, Option.pure_def, List.tail_cons, read, colon,
    value, brace, other, if_false, Option.bind_eq_bind, Option.bind_some]

/-- An object whose first member is written without space. -/
theorem readValue_members {fuel : Nat} {s rest : JsString} {members : List (JsString × Value)}
    (first : s.head? = some 0x22) (read : readMembers fuel s = some (members, rest)) :
    readValue (fuel + 1) (0x7B :: s) = some (.obj members, rest) := by
  have skipped : skipSpace (0x7B :: s) = 0x7B :: s := rfl
  have kept : skipSpace s = s := by
    obtain ⟨t, rfl⟩ := List.head?_eq_some_iff.mp first
    rfl
  have filled : ¬ s.head? = some 0x7D := by
    rw [first]
    decide
  rw [readValue, skipped]
  simp only [kept, filled, read, if_false, if_true, Option.map_some,
    show ¬ (0x7B : UInt16) = 0x22 by decide]

end VantGrowth.Lib.JsonRead
