import VantGrowth.Lib.JsText
import VantGrowth.Lib.JsonText

/-! UTF-8 as `TextEncoder` writes it and `TextDecoder` reads it. -/

namespace VantGrowth.Lib.Utf8

def encodeChar (c : Char) : List UInt8 :=
  let n := c.toNat
  if n < 0x80 then [n.toUInt8]
  else if n < 0x800 then [(0xC0 + n / 64).toUInt8, (0x80 + n % 64).toUInt8]
  else if n < 0x10000 then
    [(0xE0 + n / 4096).toUInt8, (0x80 + n / 64 % 64).toUInt8, (0x80 + n % 64).toUInt8]
  else
    [(0xF0 + n / 262144).toUInt8, (0x80 + n / 4096 % 64).toUInt8, (0x80 + n / 64 % 64).toUInt8,
      (0x80 + n % 64).toUInt8]

/-- `TextEncoder.encode`. A surrogate without its other half is written as the
replacement character. -/
def encode (s : JsString) : List UInt8 := (JsString.decode s).flatMap encodeChar

/-- A character that bytes are still to come of: how many, in which range the
next one is, and the bits so far. -/
structure Pending where
  needed : Nat
  low : Nat
  high : Nat
  bits : Nat

/-- The first byte of a character. -/
def first (b : UInt8) : List Char × Option Pending :=
  let n := b.toNat
  if n < 0x80 then ([Char.ofNat n], none)
  else if 0xC2 ≤ n ∧ n ≤ 0xDF then ([], some ⟨1, 0x80, 0xBF, n - 0xC0⟩)
  else if 0xE0 ≤ n ∧ n ≤ 0xEF then
    ([], some ⟨2, if n = 0xE0 then 0xA0 else 0x80, if n = 0xED then 0x9F else 0xBF, n - 0xE0⟩)
  else if 0xF0 ≤ n ∧ n ≤ 0xF4 then
    ([], some ⟨3, if n = 0xF0 then 0x90 else 0x80, if n = 0xF4 then 0x8F else 0xBF, n - 0xF0⟩)
  else (['\uFFFD'], none)

/-- Bytes that are no character come out as the replacement character, and a byte
that cannot go on is tried as a first one. -/
def decodeFrom : Option Pending → List UInt8 → List Char
  | none, [] => []
  | some _, [] => ['\uFFFD']
  | none, b :: rest => (first b).1 ++ decodeFrom (first b).2 rest
  | some p, b :: rest =>
    if p.low ≤ b.toNat ∧ b.toNat ≤ p.high then
      let bits := p.bits * 64 + b.toNat % 64
      if p.needed ≤ 1 then Char.ofNat bits :: decodeFrom none rest
      else decodeFrom (some ⟨p.needed - 1, 0x80, 0xBF, bits⟩) rest
    else '\uFFFD' :: ((first b).1 ++ decodeFrom (first b).2 rest)

/-- `TextDecoder.decode`, which skips a byte order mark at the front. -/
def decode (bytes : List UInt8) : JsString :=
  let chars := decodeFrom none bytes
  let text := if chars.head? = some '\uFEFF' then chars.tail else chars
  text.flatMap JsString.units

theorem byte_toNat {n : Nat} (small : n < 256) : n.toUInt8.toNat = n := by
  rw [Nat.toUInt8, UInt8.toNat_ofNat']
  exact Nat.mod_eq_of_lt small

/-- A later byte of a character. -/
theorem decodeFrom_next {p : Pending} {m : Nat} (small : m < 256) (low : p.low ≤ m)
    (high : m ≤ p.high) (rest : List UInt8) :
    decodeFrom (some p) (m.toUInt8 :: rest) =
      if p.needed ≤ 1 then Char.ofNat (p.bits * 64 + m % 64) :: decodeFrom none rest
      else decodeFrom (some ⟨p.needed - 1, 0x80, 0xBF, p.bits * 64 + m % 64⟩) rest := by
  rw [decodeFrom, byte_toNat small, if_pos ⟨low, high⟩]

/-- A character is read back from its bytes. -/
theorem decodeFrom_char (c : Char) (rest : List UInt8) :
    decodeFrom none (encodeChar c ++ rest) = c :: decodeFrom none rest := by
  obtain ⟨surrogate, bound⟩ := JsString.char_range c
  have named : ∀ m, m = c.toNat → Char.ofNat m = c := by
    rintro m rfl
    exact Char.ofNat_toNat c
  unfold encodeChar
  dsimp only
  split
  · rename_i one
    have lead : first c.toNat.toUInt8 = ([c], none) := by
      simp only [first, byte_toNat (show c.toNat < 256 by omega), one, if_true, named _ rfl]
    rw [List.singleton_append, decodeFrom, lead]
    rfl
  split
  · rename_i one two
    have lead : first (0xC0 + c.toNat / 64).toUInt8 = ([], some ⟨1, 0x80, 0xBF, c.toNat / 64⟩) := by
      have range : 0xC2 ≤ 0xC0 + c.toNat / 64 ∧ 0xC0 + c.toNat / 64 ≤ 0xDF := by omega
      simp only [first, byte_toNat (show 0xC0 + c.toNat / 64 < 256 by omega),
        if_neg (show ¬ 0xC0 + c.toNat / 64 < 0x80 by omega), if_pos range, Nat.add_sub_cancel_left]
    simp only [List.cons_append, List.nil_append]
    rw [decodeFrom, lead]
    dsimp only
    rw [List.nil_append, decodeFrom_next (by omega) (by simp) (by simp; omega), if_pos (by simp),
      named _ (by simp; omega)]
  split
  · rename_i one two three
    have lead : first (0xE0 + c.toNat / 4096).toUInt8 =
        ([], some ⟨2, if 0xE0 + c.toNat / 4096 = 0xE0 then 0xA0 else 0x80,
          if 0xE0 + c.toNat / 4096 = 0xED then 0x9F else 0xBF, c.toNat / 4096⟩) := by
      have range : 0xE0 ≤ 0xE0 + c.toNat / 4096 ∧ 0xE0 + c.toNat / 4096 ≤ 0xEF := by omega
      simp only [first, byte_toNat (show 0xE0 + c.toNat / 4096 < 256 by omega),
        if_neg (show ¬ 0xE0 + c.toNat / 4096 < 0x80 by omega),
        if_neg (show ¬ (0xC2 ≤ 0xE0 + c.toNat / 4096 ∧ 0xE0 + c.toNat / 4096 ≤ 0xDF) by omega),
        if_pos range, Nat.add_sub_cancel_left]
    simp only [List.cons_append, List.nil_append]
    rw [decodeFrom, lead]
    dsimp only
    -- The second byte is bounded where the first one alone would allow a shorter
    -- form or a surrogate.
    rw [List.nil_append, decodeFrom_next (by omega) (by dsimp only; split <;> omega)
      (by dsimp only; split <;> omega), if_neg (by simp), decodeFrom_next (by omega) (by simp)
      (by simp; omega), if_pos (by simp), named _ (by simp; omega)]
  · rename_i one two three
    have lead : first (0xF0 + c.toNat / 262144).toUInt8 =
        ([], some ⟨3, if 0xF0 + c.toNat / 262144 = 0xF0 then 0x90 else 0x80,
          if 0xF0 + c.toNat / 262144 = 0xF4 then 0x8F else 0xBF, c.toNat / 262144⟩) := by
      have range : 0xF0 ≤ 0xF0 + c.toNat / 262144 ∧ 0xF0 + c.toNat / 262144 ≤ 0xF4 := by omega
      simp only [first, byte_toNat (show 0xF0 + c.toNat / 262144 < 256 by omega),
        if_neg (show ¬ 0xF0 + c.toNat / 262144 < 0x80 by omega),
        if_neg (show ¬ (0xC2 ≤ 0xF0 + c.toNat / 262144 ∧ 0xF0 + c.toNat / 262144 ≤ 0xDF) by omega),
        if_neg (show ¬ (0xE0 ≤ 0xF0 + c.toNat / 262144 ∧ 0xF0 + c.toNat / 262144 ≤ 0xEF) by omega),
        if_pos range, Nat.add_sub_cancel_left]
    simp only [List.cons_append, List.nil_append]
    rw [decodeFrom, lead]
    dsimp only
    rw [List.nil_append, decodeFrom_next (by omega) (by dsimp only; split <;> omega)
      (by dsimp only; split <;> omega), if_neg (by simp), decodeFrom_next (by omega) (by simp)
      (by simp; omega), if_neg (by simp), decodeFrom_next (by omega) (by simp) (by simp; omega),
      if_pos (by simp), named _ (by simp; omega)]

theorem decodeFrom_chars (cs : List Char) : decodeFrom none (cs.flatMap encodeChar) = cs := by
  induction cs with
  | nil => rfl
  | cons c cs ih => rw [List.flatMap_cons, decodeFrom_char, ih]

theorem char_value {n : Nat} (valid : n.isValidChar) : (Char.ofNat n).toNat = n := by
  rw [Char.ofNat, dif_pos valid]
  rfl

/-- The units of a surrogate pair are those of one character. -/
theorem units_pair {u v : UInt16} (high : JsString.isHigh u = true) (low : JsString.isLow v = true) :
    JsString.units (Char.ofNat (0x10000 + (u.toNat - 0xD800) * 0x400 + (v.toNat - 0xDC00))) =
      [u, v] := by
  simp only [JsString.isHigh, JsString.isLow, Bool.and_eq_true, decide_eq_true_eq,
    UInt16.le_iff_toNat_le] at high low
  have low₁ : 0xD800 ≤ u.toNat := high.1
  have high₁ : u.toNat ≤ 0xDBFF := high.2
  have low₂ : 0xDC00 ≤ v.toNat := low.1
  have high₂ : v.toNat ≤ 0xDFFF := low.2
  have value := char_value
    (show (0x10000 + (u.toNat - 0xD800) * 0x400 + (v.toNat - 0xDC00)).isValidChar from
      Or.inr ⟨by omega, by omega⟩)
  have unit : ∀ {m : Nat} {w : UInt16}, m = w.toNat → m.toUInt16 = w := by
    rintro m w rfl
    exact UInt16.ofNat_toNat
  unfold JsString.units
  rw [value, if_neg (by omega), unit (w := u) (by omega), unit (w := v) (by omega)]

theorem units_single {u : UInt16} (plain : JsString.isHigh u = false)
    (apart : JsString.isLow u = false) : JsString.units (Char.ofNat u.toNat) = [u] := by
  simp only [JsString.isHigh, JsString.isLow, Bool.and_eq_false_iff, decide_eq_false_iff_not,
    UInt16.le_iff_toNat_le] at plain apart
  have bound := u.toNat_lt
  have outside : u.toNat < 0xD800 ∨ 0xDFFF < u.toNat := by
    have first : ¬ 0xD800 ≤ u.toNat ∨ ¬ u.toNat ≤ 0xDBFF := plain
    have second : ¬ 0xDC00 ≤ u.toNat ∨ ¬ u.toNat ≤ 0xDFFF := apart
    omega
  have value := char_value (show u.toNat.isValidChar from
    outside.imp id fun above => ⟨above, by omega⟩)
  unfold JsString.units
  rw [value, if_pos bound]
  simp

theorem not_surrogate {u : UInt16} (plain : JsString.isHigh u = false)
    (apart : JsString.isLow u = false) : (0xD800 ≤ u && u ≤ 0xDFFF : Bool) = false := by
  simp only [JsString.isHigh, JsString.isLow, Bool.and_eq_false_iff, decide_eq_false_iff_not,
    UInt16.le_iff_toNat_le] at plain apart ⊢
  have first : ¬ 0xD800 ≤ u.toNat ∨ ¬ u.toNat ≤ 0xDBFF := plain
  have second : ¬ 0xDC00 ≤ u.toNat ∨ ¬ u.toNat ≤ 0xDFFF := apart
  change ¬ 0xD800 ≤ u.toNat ∨ ¬ u.toNat ≤ 0xDFFF
  omega

/-- Paired surrogates are written out and read back. -/
theorem units_decode {s : JsString} (whole : JsString.paired s = true) :
    (JsString.decode s).flatMap JsString.units = s := by
  induction s using JsString.paired.induct with
  | case1 => rfl
  | case2 u =>
    simp only [JsString.paired, Bool.and_eq_true, Bool.not_eq_true'] at whole
    simp [JsString.decode, not_surrogate whole.1 whole.2, units_single whole.1 whole.2]
  | case3 u v s high ih =>
    simp only [JsString.paired, high, if_true, Bool.and_eq_true] at whole
    have both : (0xD800 ≤ u && u ≤ 0xDBFF && 0xDC00 ≤ v && v ≤ 0xDFFF : Bool) = true := by
      have low := whole.1
      simp only [JsString.isHigh, JsString.isLow, Bool.and_eq_true] at high low ⊢
      exact ⟨⟨high, low.1⟩, low.2⟩
    rw [JsString.decode, if_pos both, List.flatMap_cons, units_pair high whole.1, ih whole.2]
    rfl
  | case4 u v s plain ih =>
    simp only [JsString.paired, plain, if_false, Bool.and_eq_true, Bool.not_eq_true',
      Bool.false_eq_true] at whole
    have high : JsString.isHigh u = false := by simpa using plain
    have single : (0xD800 ≤ u && u ≤ 0xDBFF && 0xDC00 ≤ v && v ≤ 0xDFFF : Bool) = false := by
      have opens : (0xD800 ≤ u && u ≤ 0xDBFF : Bool) = false := high
      simp [opens]
    rw [JsString.decode, if_neg (by simp [single]), List.flatMap_cons, ih whole.2,
      not_surrogate high whole.1, if_neg (by simp), units_single high whole.1]
    rfl

theorem units_head (c : Char) (cs : List Char) :
    ((c :: cs).flatMap JsString.units).head? = (JsString.units c).head? := by
  rw [List.flatMap_cons, List.head?_append]
  cases h : JsString.units c with
  | nil => exact absurd h (JsString.units_filled c)
  | cons u us => rfl

/-- A text without a byte order mark is read back from its bytes. -/
theorem decode_encode {s : JsString} (whole : JsString.paired s = true)
    (mark : s.head? ≠ some 0xFEFF) : decode (encode s) = s := by
  have chars := units_decode whole
  unfold decode encode
  rw [decodeFrom_chars]
  dsimp only
  rw [if_neg, chars]
  intro marked
  obtain ⟨cs, split⟩ := List.head?_eq_some_iff.mp marked
  rw [split] at chars
  refine mark ?_
  rw [← chars, units_head]
  rfl

/-- A text that comes out in ASCII has no lone surrogates. -/
theorem paired_of_ascii {s : JsString} (ascii : ∀ c ∈ JsString.decode s, c.toNat < 0x80) :
    JsString.paired s = true := by
  have replaced : ¬ ('\uFFFD' : Char).toNat < 0x80 := by decide
  have plain : ∀ {u : UInt16} {cs : List Char},
      (∀ c ∈ (if 0xD800 ≤ u && u ≤ 0xDFFF then '\uFFFD' else Char.ofNat u.toNat) :: cs,
        c.toNat < 0x80) → JsString.isHigh u = false ∧ JsString.isLow u = false := by
    intro u cs small
    by_cases half : (0xD800 ≤ u && u ≤ 0xDFFF : Bool) = true
    · rw [if_pos half] at small
      exact absurd (small _ List.mem_cons_self) replaced
    · simp only [JsString.isHigh, JsString.isLow, Bool.and_eq_true, decide_eq_true_eq,
        UInt16.le_iff_toNat_le, Bool.and_eq_false_iff, decide_eq_false_iff_not] at half ⊢
      have outside : ¬ (0xD800 ≤ u.toNat ∧ u.toNat ≤ 0xDFFF) := half
      refine ⟨?_, ?_⟩
      · change ¬ 0xD800 ≤ u.toNat ∨ ¬ u.toNat ≤ 0xDBFF
        omega
      · change ¬ 0xDC00 ≤ u.toNat ∨ ¬ u.toNat ≤ 0xDFFF
        omega
  induction s using JsString.decode.induct with
  | case1 => rfl
  | case2 u =>
    have apart : JsString.isHigh u = false ∧ JsString.isLow u = false := by
      apply @plain u []
      simpa [JsString.decode] using ascii
    simp [JsString.paired, apart]
  | case3 u v s pair ih =>
    rw [JsString.decode, if_pos pair] at ascii
    simp only [Bool.and_eq_true] at pair
    have both : JsString.isHigh u = true ∧ JsString.isLow v = true := by
      simp only [JsString.isHigh, JsString.isLow, Bool.and_eq_true]
      exact ⟨pair.1.1, pair.1.2, pair.2⟩
    rw [JsString.paired_pair both.1 both.2]
    exact ih fun c member => ascii c (List.mem_cons_of_mem _ member)
  | case4 u v s apart ih =>
    rw [JsString.decode, if_neg apart] at ascii
    have first := plain ascii
    rw [JsString.paired_single first.1 first.2]
    exact ih fun c member => ascii c (List.mem_cons_of_mem _ member)

theorem ascii_decode {s : JsString} (ascii : ∀ u ∈ s, u.toNat < 0x80) :
    ∀ c ∈ JsString.decode s, c.toNat < 0x80 := by
  have unit : ∀ {u : UInt16}, u.toNat < 0x80 →
      (if 0xD800 ≤ u && u ≤ 0xDFFF then '\uFFFD' else Char.ofNat u.toNat).toNat < 0x80 := by
    intro u small
    have below : ¬ (0xD800 ≤ u && u ≤ 0xDFFF : Bool) = true := by
      simp only [Bool.and_eq_true, decide_eq_true_eq, UInt16.le_iff_toNat_le, not_and]
      intro above
      have above : 0xD800 ≤ u.toNat := above
      omega
    rw [if_neg below, char_value (Or.inl (by omega))]
    exact small
  induction s using JsString.decode.induct with
  | case1 => simp [JsString.decode]
  | case2 u =>
    intro c member
    rw [JsString.decode, List.mem_singleton] at member
    rw [member]
    exact unit (ascii u List.mem_cons_self)
  | case3 u v s pair _ =>
    simp only [Bool.and_eq_true, decide_eq_true_eq, UInt16.le_iff_toNat_le] at pair
    have above : 0xD800 ≤ u.toNat := pair.1.1.1
    have small := ascii u List.mem_cons_self
    omega
  | case4 u v s apart ih =>
    intro c member
    rw [JsString.decode, if_neg apart] at member
    rcases List.mem_cons.mp member with rfl | later
    · exact unit (ascii u List.mem_cons_self)
    · exact ih (fun w inside => ascii w (List.mem_cons_of_mem _ inside)) c later

/-- A text in ASCII is known from its bytes. -/
theorem encode_ascii_inj {s t : JsString} (ascii : ∀ u ∈ t, u.toNat < 0x80)
    (same : encode s = encode t) : s = t := by
  have chars : JsString.decode s = JsString.decode t := by
    have read := congrArg (decodeFrom none) same
    simpa only [encode, decodeFrom_chars] using read
  have small := ascii_decode ascii
  rw [← units_decode (paired_of_ascii small), ← chars, units_decode (paired_of_ascii (chars ▸ small))]

end VantGrowth.Lib.Utf8
