import Mathlib.Data.List.Nodup

namespace VantGrowth.Lib.Text

/-- Texts that agree after joining with a separator neither first part holds
agree part by part. -/
theorem split_first {c : Char} {a a' b b' : List Char} (ha : c ∉ a) (ha' : c ∉ a')
    (h : a ++ c :: b = a' ++ c :: b') : a = a' ∧ b = b' := by
  induction a generalizing a' with
  | nil =>
    cases a' with
    | nil => exact ⟨rfl, by simpa using h⟩
    | cons x xs =>
      simp only [List.nil_append, List.cons_append, List.cons.injEq] at h
      exact absurd (h.1 ▸ List.mem_cons_self) ha'
  | cons x xs ih =>
    cases a' with
    | nil =>
      simp only [List.nil_append, List.cons_append, List.cons.injEq] at h
      exact absurd (h.1 ▸ List.mem_cons_self) ha
    | cons y ys =>
      simp only [List.cons_append, List.cons.injEq] at h
      obtain ⟨hx, hb⟩ := ih (fun hm => ha (List.mem_cons_of_mem x hm))
        (fun hm => ha' (List.mem_cons_of_mem y hm)) h.2
      exact ⟨by rw [h.1, hx], hb⟩

/-- `tag:rest`, the shape of every composed key. -/
def join (tag rest : String) : String := tag ++ ":" ++ rest

theorem join_toList (tag rest : String) :
    (join tag rest).toList = tag.toList ++ ':' :: rest.toList := by
  simp [join, String.toList_append]

theorem join_inj {t t' r r' : String} (ht : ':' ∉ t.toList) (ht' : ':' ∉ t'.toList)
    (h : join t r = join t' r') : t = t' ∧ r = r' := by
  have hl : (join t r).toList = (join t' r').toList := by rw [h]
  rw [join_toList, join_toList] at hl
  obtain ⟨h1, h2⟩ := split_first ht ht' hl
  exact ⟨String.toList_inj.mp h1, String.toList_inj.mp h2⟩

theorem join_right_inj {t r r' : String} (h : join t r = join t r') : r = r' := by
  have hl : (join t r).toList = (join t r').toList := by rw [h]
  rw [join_toList, join_toList] at hl
  exact String.toList_inj.mp (by simpa using hl)

theorem join_ne_empty (t r : String) : join t r ≠ "" := by
  intro h
  have hl := congrArg String.toList h
  rw [join_toList] at hl
  simp at hl

/-- The decimal text of a counter. -/
def decimal (n : Nat) : String := toString n

theorem decimal_inj {m n : Nat} (h : decimal m = decimal n) : m = n := by
  have hd : Nat.toDigits 10 m = Nat.toDigits 10 n := by
    simpa [decimal] using congrArg String.toList h
  calc
    m = Nat.ofDigitChars 10 (Nat.toDigits 10 m) 0 := Nat.ofDigitChars_ten_toDigits.symm
    _ = Nat.ofDigitChars 10 (Nat.toDigits 10 n) 0 := by rw [hd]
    _ = n := Nat.ofDigitChars_ten_toDigits

theorem decimal_digits {n : Nat} {c : Char} (hc : c ∈ (decimal n).toList) : c.isDigit = true := by
  simp only [decimal, Nat.toString_eq_ofList_toDigits, String.toList_ofList] at hc
  exact Nat.isDigit_of_mem_toDigits (by omega) (by omega) hc

theorem decimal_ne_nil (n : Nat) : (decimal n).toList ≠ [] := by
  simp only [decimal, Nat.toString_eq_ofList_toDigits, String.toList_ofList]
  exact Nat.toDigits_ne_nil

/-- `String(n).padStart(width, "0")`. -/
def padStart (width n : Nat) : String :=
  String.ofList (List.replicate (width - (decimal n).toList.length) '0' ++ (decimal n).toList)

theorem padStart_inj {w m n : Nat} (h : padStart w m = padStart w n) : m = n := by
  have hv : ∀ k, Nat.ofDigitChars 10 (padStart w k).toList 0 = k := by
    intro k
    simp [padStart, decimal, Nat.ofDigitChars_append, Nat.ofDigitChars_replicate_zero,
      Nat.ofDigitChars_ten_toDigits]
  rw [← hv m, h, hv n]

theorem padStart_digits {w n : Nat} {c : Char} (hc : c ∈ (padStart w n).toList) :
    c.isDigit = true := by
  simp only [padStart, String.toList_ofList, List.mem_append, List.mem_replicate] at hc
  rcases hc with ⟨_, rfl⟩ | hc
  · rfl
  · exact decimal_digits hc

end VantGrowth.Lib.Text
