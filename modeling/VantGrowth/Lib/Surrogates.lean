import VantGrowth.Lib.JsString

/-! Strings whose surrogates come in pairs. -/

namespace VantGrowth.Lib.JsString

def isHigh (u : UInt16) : Bool := 0xD800 ≤ u && u ≤ 0xDBFF

def isLow (u : UInt16) : Bool := 0xDC00 ≤ u && u ≤ 0xDFFF

/-- No surrogate stands without its other half. -/
def paired : JsString → Bool
  | [] => true
  | [u] => !isHigh u && !isLow u
  | u :: v :: s => if isHigh u then isLow v && paired s else !isLow u && paired (v :: s)

theorem not_high_of_low {u : UInt16} (low : isLow u = true) : isHigh u = false := by
  simp only [isLow, isHigh, Bool.and_eq_true, decide_eq_true_eq, UInt16.le_iff_toNat_le,
    Bool.and_eq_false_iff, decide_eq_false_iff_not] at low ⊢
  simp at low ⊢
  omega

theorem paired_single {u : UInt16} (plain : isHigh u = false) (apart : isLow u = false)
    (s : JsString) : paired (u :: s) = paired s := by
  cases s with
  | nil => simp [paired, plain, apart]
  | cons v s => simp [paired, plain, apart]

theorem paired_pair {u v : UInt16} (high : isHigh u = true) (low : isLow v = true) (s : JsString) :
    paired (u :: v :: s) = paired s := by
  simp [paired, high, low]

/-- A high half that is kept has its low half after it. -/
theorem paired_next {s : JsString} (whole : paired s = true) {n : Nat} {u : UInt16}
    (there : s[n]? = some u) (high : isHigh u = true) : ∃ v, s[n + 1]? = some v ∧ isLow v = true := by
  induction s using paired.induct generalizing n with
  | case1 => simp at there
  | case2 a =>
    cases n with
    | zero =>
      cases there
      simp [paired, high] at whole
    | succ n => simp at there
  | case3 a b s first ih =>
    simp only [paired, first, ↓reduceIte, Bool.and_eq_true] at whole
    cases n with
    | zero => exact ⟨b, rfl, whole.1⟩
    | succ n =>
      cases n with
      | zero =>
        cases there
        rw [not_high_of_low whole.1] at high
        cases high
      | succ n => exact ih whole.2 there
  | case4 a b s first ih =>
    simp only [paired, first, Bool.false_eq_true, ↓reduceIte, Bool.and_eq_true] at whole
    cases n with
    | zero =>
      cases there
      exact absurd high first
    | succ n => exact ih whole.2 there

/-- Cutting behind a unit that opens no pair splits none. -/
theorem paired_take {s : JsString} (whole : paired s = true) {n : Nat}
    (between : ∀ u, s[n]? = some u → isHigh u = false) : paired (s.take (n + 1)) = true := by
  induction s using paired.induct generalizing n with
  | case1 => simpa using whole
  | case2 a => simpa using whole
  | case3 a b s first ih =>
    simp only [paired, first, ↓reduceIte, Bool.and_eq_true] at whole
    cases n with
    | zero =>
      have plain := between a rfl
      rw [first] at plain
      cases plain
    | succ n =>
      rw [List.take_succ_cons, List.take_succ_cons, paired_pair first whole.1]
      cases n with
      | zero => rfl
      | succ n => exact ih whole.2 between
  | case4 a b s first ih =>
    simp only [paired, first, Bool.false_eq_true, ↓reduceIte, Bool.and_eq_true,
      Bool.not_eq_true'] at whole
    rw [List.take_succ_cons, paired_single (by simpa using first) whole.1]
    cases n with
    | zero => rfl
    | succ n => exact ih whole.2 between

theorem paired_append {s t : JsString} (left : paired s = true) (right : paired t = true) :
    paired (s ++ t) = true := by
  induction s using paired.induct with
  | case1 => exact right
  | case2 a =>
    simp only [paired, Bool.and_eq_true, Bool.not_eq_true'] at left
    rw [List.singleton_append, paired_single left.1 left.2]
    exact right
  | case3 a b s first ih =>
    simp only [paired, first, ↓reduceIte, Bool.and_eq_true] at left
    rw [List.cons_append, List.cons_append, paired_pair first left.1]
    exact ih left.2
  | case4 a b s first ih =>
    simp only [paired, first, Bool.false_eq_true, ↓reduceIte, Bool.and_eq_true,
      Bool.not_eq_true'] at left
    rw [List.cons_append, paired_single (by simpa using first) left.1]
    exact ih left.2

theorem unit_value {n : Nat} (small : n < 65536) : n.toUInt16.toNat = n := by
  simp only [Nat.toUInt16, UInt16.toNat_ofNat']
  omega

/-- Every text is written in pairs: no character is a surrogate. -/
theorem ofString_paired (s : String) : paired (ofString s) = true := by
  unfold ofString
  induction s.toList with
  | nil => rfl
  | cons c cs ih =>
    rw [List.flatMap_cons]
    apply paired_append _ ih
    have valid := c.valid
    have number : c.val.toNat = c.toNat := rfl
    by_cases basic : c.toNat < 0x10000
    · have value := unit_value basic
      simp only [basic, ↓reduceIte, paired, isHigh, isLow, UInt16.le_iff_toNat_le, value]
      simp
      rcases valid with low | ⟨above, _⟩
      · change c.toNat < 0xd800 at low
        omega
      · change 0xdfff < c.toNat at above
        omega
    · have bound : c.toNat < 0x110000 := by
        rcases valid with low | ⟨_, high⟩
        · exact Nat.lt_trans low (by decide)
        · exact high
      have first : (0xD800 + (c.toNat - 0x10000) / 0x400) < 65536 := by omega
      have second : (0xDC00 + (c.toNat - 0x10000) % 0x400) < 65536 := by omega
      simp only [basic, ↓reduceIte, paired, isHigh, isLow, UInt16.le_iff_toNat_le, unit_value first,
        unit_value second]
      have opens : 55296 + (c.toNat - 65536) / 1024 ≤ 56319 := by omega
      simp [opens]
      omega

end VantGrowth.Lib.JsString
