import Mathlib.Tactic.IntervalCases
import VantGrowth.Lib.JsDate

namespace VantGrowth.Lib
open Text

/-- The number a text of decimal digits stands for. -/
def number (cs : List Char) : Option Nat :=
  if cs.all Char.isDigit then some (Nat.ofDigitChars 10 cs 0) else none

/-- The text is a number of these. -/
def isNumber (fits : Nat → Bool) (cs : List Char) : Bool := (number cs).any fits

def isLeapYear (year : Nat) : Bool := year % 4 == 0 && (year % 100 != 0 || year % 400 == 0)

def daysInMonth (year month : Nat) : Nat :=
  if month = 2 then if isLeapYear year then 29 else 28
  else if month ∈ [4, 6, 9, 11] then 30 else 31

/-- A day of the Gregorian calendar, written `YYYY-MM-DD`. -/
def isCalendarDay : List Char → Bool
  | [y₁, y₂, y₃, y₄, '-', m₁, m₂, '-', d₁, d₂] =>
    (number [y₁, y₂, y₃, y₄]).any fun year => (number [m₁, m₂]).any fun month =>
      1 ≤ month && month ≤ 12 &&
        isNumber (fun day => 1 ≤ day && day ≤ daysInMonth year month) [d₁, d₂]
  | _ => false

/-- The pattern `^\d{4}-\d{2}-\d{2}$`. -/
def isDayText (s : String) : Bool :=
  match s.toList with
  | [y₁, y₂, y₃, y₄, '-', m₁, m₂, '-', d₁, d₂] => [y₁, y₂, y₃, y₄, m₁, m₂, d₁, d₂].all Char.isDigit
  | _ => false

/-- `Z`, or an offset such as `+02:00` or `+0200`. -/
def isZone : List Char → Bool
  | ['Z'] => true
  | [sign, h₁, h₂, m₁, m₂] => (sign == '+' || sign == '-') && [h₁, h₂, m₁, m₂].all Char.isDigit
  | [sign, h₁, h₂, ':', m₁, m₂] =>
    (sign == '+' || sign == '-') && [h₁, h₂, m₁, m₂].all Char.isDigit
  | _ => false

/-- The fraction of a second, if there is one, and the zone. -/
def isFraction : List Char → Bool
  | '.' :: rest => rest.takeWhile Char.isDigit != [] && isZone (rest.dropWhile Char.isDigit)
  | rest => isZone rest

def isSeconds : List Char → Bool
  | ':' :: s₁ :: s₂ :: rest => isNumber (· < 60) [s₁, s₂] && isFraction rest
  | rest => isZone rest

def isTimeOfDay : List Char → Bool
  | h₁ :: h₂ :: ':' :: m₁ :: m₂ :: rest =>
    isNumber (· < 24) [h₁, h₂] && isNumber (· < 60) [m₁, m₂] && isSeconds rest
  | _ => false

/-- The pattern of `z.string().datetime({ offset: true })`. -/
def isDatetime (s : String) : Bool :=
  isCalendarDay (s.toList.take 10) && match s.toList.drop 10 with
    | 'T' :: time => isTimeOfDay time
    | _ => false

example : isDatetime "2024-02-29T23:59:59.5+02:00" = true := by decide

example : isDatetime "2023-02-29T00:00Z" = false := by decide

theorem padStart_length {w n : Nat} (wide : 0 < w) (small : n < 10 ^ w) :
    (padStart w n).toList.length = w := by
  have short : (decimal n).toList.length ≤ w := by
    simp only [decimal, Nat.toString_eq_ofList_toDigits, String.toList_ofList]
    exact (Nat.length_toDigits_le_iff (by decide) wide).mpr small
  simp only [padStart, String.toList_ofList, List.length_append, List.length_replicate]
  omega

/-- A padded number is read back. -/
theorem number_padStart (w n : Nat) : number (padStart w n).toList = some n := by
  have digits : (padStart w n).toList.all Char.isDigit = true :=
    List.all_eq_true.mpr fun c member => padStart_digits member
  have value : Nat.ofDigitChars 10 (padStart w n).toList 0 = n := by
    simp [padStart, decimal, Nat.ofDigitChars_append, Nat.ofDigitChars_replicate_zero,
      Nat.ofDigitChars_ten_toDigits]
  rw [number, if_pos digits, value]

theorem two_digits {n : Nat} (small : n < 100) :
    ∃ a b, (padStart 2 n).toList = [a, b] ∧ number [a, b] = some n := by
  have length := padStart_length (w := 2) (by omega) small
  have value := number_padStart 2 n
  match written : (padStart 2 n).toList with
  | [a, b] => exact ⟨a, b, rfl, written ▸ value⟩
  | [] => simp [written] at length
  | [_] => simp [written] at length
  | _ :: _ :: _ :: _ => simp [written] at length

theorem four_digits {n : Nat} (small : n < 10000) :
    ∃ a b c d, (padStart 4 n).toList = [a, b, c, d] ∧ number [a, b, c, d] = some n := by
  have length := padStart_length (w := 4) (by omega) small
  have value := number_padStart 4 n
  match written : (padStart 4 n).toList with
  | [a, b, c, d] => exact ⟨a, b, c, d, rfl, written ▸ value⟩
  | [] => simp [written] at length
  | [_] => simp [written] at length
  | [_, _] => simp [written] at length
  | [_, _, _] => simp [written] at length
  | _ :: _ :: _ :: _ :: _ :: _ => simp [written] at length

/-- In a century of an era a year has 366 days only where the next is divisible
by four, which the last year of the century is no case of. -/
theorem day_of_century {doe yoe c : Nat} (first : c ≤ 3) (low : c * 36524 ≤ doe)
    (high : doe < (c + 1) * 36524) (year : yoe = (doe - doe / 1460 + c) / 365) :
    yoe / 100 = c ∧ doe - (365 * yoe + yoe / 4 - c) ≤ 365 ∧
      (doe - (365 * yoe + yoe / 4 - c) = 365 → yoe % 4 = 3 ∧ yoe % 100 ≠ 99) := by
  obtain ⟨k, j, rfl, small⟩ : ∃ k j, yoe = 4 * k + j ∧ j < 4 :=
    ⟨yoe / 4, yoe % 4, by omega, by omega⟩
  have quarter : (4 * k + j) / 4 = k := by omega
  have rest : (4 * k + j) % 4 = j := by omega
  rw [quarter, rest]
  clear quarter rest
  have span : 365 * (4 * k + j) + k - c ≤ doe ∧ doe < 365 * (4 * k + j) + k - c + 366 := by
    interval_cases c <;> interval_cases j <;> omega
  refine ⟨by interval_cases c <;> omega, by omega, fun leap => ⟨?_, ?_⟩⟩
  · interval_cases c <;> interval_cases j <;> omega
  · interval_cases c <;> interval_cases j <;> omega

/-- The day of a year that starts in March, from the day of its 400 years. -/
theorem day_of_year {doe yoe : Nat} (era : doe < 146097)
    (year : yoe = (doe - doe / 1460 + doe / 36524 - doe / 146096) / 365) :
    yoe < 400 ∧ doe - (365 * yoe + yoe / 4 - yoe / 100) ≤ 365 ∧
      (doe - (365 * yoe + yoe / 4 - yoe / 100) = 365 → isLeapYear (yoe + 1) = true) := by
  by_cases last : doe = 146096
  · subst last
    obtain rfl : yoe = 399 := by omega
    decide
  · have first : doe / 36524 ≤ 3 := by omega
    have whole : doe / 146096 = 0 := by omega
    rw [whole, Nat.sub_zero] at year
    obtain ⟨century, short, leap⟩ := day_of_century first (by omega) (by omega) year
    rw [century]
    refine ⟨by omega, short, fun eq => ?_⟩
    obtain ⟨four, hundred⟩ := leap eq
    have next : (yoe + 1) % 4 = 0 := by omega
    have other : (yoe + 1) % 100 ≠ 0 := by omega
    simp [isLeapYear, next, other]

/-- The year a time falls in. -/
def Instant.year (t : Instant) : Int := (civilDate (t.fdiv 86400000)).1

/-- The months from March on, and the days of each. -/
theorem day_of_month {doy mp year : Nat} (low : 153 * mp ≤ 5 * doy + 2)
    (high : 5 * doy + 2 < 153 * mp + 153) (short : doy ≤ 365)
    (leap : doy = 365 → isLeapYear year = true) :
    doy - (153 * mp + 2) / 5 + 1 ≤
      daysInMonth year (if mp < 10 then mp + 3 else mp - 9) := by
  have months : mp ≤ 11 := by omega
  by_cases february : mp = 11
  · subst february
    have days : daysInMonth year 2 = if isLeapYear year then 29 else 28 := rfl
    show doy - 337 + 1 ≤ daysInMonth year 2
    rw [days]
    split
    · omega
    · rename_i common
      have before : doy ≠ 365 := fun eq => common (leap eq)
      omega
  · have earlier : mp ≤ 10 := by omega
    clear february leap
    interval_cases mp <;> simp [daysInMonth] <;> omega

/-- The month and the day of a calendar date are those of its year. -/
theorem civilDate_calendar (day : Int) (past : 0 ≤ (civilDate day).1) :
    1 ≤ (civilDate day).2.1 ∧ (civilDate day).2.1 ≤ 12 ∧ 1 ≤ (civilDate day).2.2 ∧
      (civilDate day).2.2 ≤ daysInMonth (civilDate day).1.natAbs (civilDate day).2.1 := by
  unfold civilDate at past ⊢
  dsimp only at past ⊢
  generalize hd : (day + 719468 - (day + 719468).fdiv 146097 * 146097).toNat = doe at past ⊢
  have era : doe < 146097 := by
    rw [Int.fdiv_eq_ediv_of_nonneg _ (by decide)] at hd
    omega
  generalize hy : (doe - doe / 1460 + doe / 36524 - doe / 146096) / 365 = yoe at past ⊢
  obtain ⟨_, short, leap⟩ := day_of_year era hy.symm
  generalize doe - (365 * yoe + yoe / 4 - yoe / 100) = doy at past short leap ⊢
  generalize hm : (5 * doy + 2) / 153 = mp at past ⊢
  have low : 153 * mp ≤ 5 * doy + 2 := by omega
  have high : 5 * doy + 2 < 153 * mp + 153 := by omega
  generalize (day + 719468).fdiv 146097 = cycle at past ⊢
  refine ⟨by split <;> omega, by split <;> omega, by omega, day_of_month low high short ?_⟩
  intro eq
  have last : mp = 11 := by omega
  have late : (if (if mp < 10 then mp + 3 else mp - 9) ≤ 2 then (1 : Int) else 0) = 1 := by
    subst last
    rfl
  rw [late] at past ⊢
  have same : isLeapYear (↑yoe + cycle * 400 + 1 : Int).natAbs = isLeapYear (yoe + 1) := by
    have four : (↑yoe + cycle * 400 + 1 : Int).natAbs % 4 = (yoe + 1) % 4 := by omega
    have hundred : (↑yoe + cycle * 400 + 1 : Int).natAbs % 100 = (yoe + 1) % 100 := by omega
    have whole : (↑yoe + cycle * 400 + 1 : Int).natAbs % 400 = (yoe + 1) % 400 := by omega
    simp only [isLeapYear, four, hundred, whole]
  rw [same, leap eq]

theorem isFraction_padStart (w n : Nat) : isFraction ('.' :: ((padStart w n).toList ++ ['Z'])) = true := by
  have digits : ∀ c ∈ (padStart w n).toList, c.isDigit = true := fun c => padStart_digits
  have filled : (padStart w n).toList ≠ [] := by
    intro empty
    simp only [padStart, String.toList_ofList, List.append_eq_nil_iff] at empty
    exact decimal_ne_nil n empty.2
  show (((padStart w n).toList ++ ['Z']).takeWhile Char.isDigit != [] &&
    isZone (((padStart w n).toList ++ ['Z']).dropWhile Char.isDigit)) = true
  rw [List.takeWhile_append_of_pos digits, List.dropWhile_append_of_pos digits]
  simp [filled, isZone, Char.isDigit]

/-- A time of day is written as one. -/
theorem isTimeOfDay_written {ms : Nat} (day : ms < 86400000) :
    isTimeOfDay ((padStart 2 (ms / 3600000)).toList ++ ':' :: ((padStart 2 (ms / 60000 % 60)).toList ++
      ':' :: ((padStart 2 (ms / 1000 % 60)).toList ++ '.' ::
        ((padStart 3 (ms % 1000)).toList ++ ['Z'])))) = true := by
  have hours : ms / 3600000 < 24 := by omega
  have minutes : ms / 60000 % 60 < 60 := by omega
  have seconds : ms / 1000 % 60 < 60 := by omega
  obtain ⟨h₁, h₂, hour, readHour⟩ := two_digits (Nat.lt_trans hours (by omega))
  obtain ⟨m₁, m₂, minute, readMinute⟩ := two_digits (Nat.lt_trans minutes (by omega))
  obtain ⟨s₁, s₂, second, readSecond⟩ := two_digits (Nat.lt_trans seconds (by omega))
  rw [hour, minute, second]
  simp [isTimeOfDay, isSeconds, isNumber, readHour, readMinute, readSecond, hours, minutes, seconds,
    isFraction_padStart]

/-- A time in a year of four digits is written with a calendar day. -/
theorem toISOString_day {t : Instant} (past : 0 ≤ t.year) (early : t.year ≤ 9999) :
    ∃ day time : List Char, t.toISOString.toList = day ++ 'T' :: time ∧ day.length = 10 ∧
      isCalendarDay day = true ∧ isTimeOfDay time = true := by
  obtain ⟨month, months, first, last⟩ := civilDate_calendar (t.fdiv 86400000) past
  unfold Instant.year at past early
  have ms : (t.emod 86400000).toNat < 86400000 := by
    have := Int.emod_lt_of_pos t (show (0 : Int) < 86400000 by decide)
    have := Int.emod_nonneg t (show (86400000 : Int) ≠ 0 by decide)
    simp only [HMod.hMod, Mod.mod] at *
    omega
  have time := isTimeOfDay_written ms
  unfold Instant.toISOString
  generalize (t.emod 86400000).toNat = ms at time ⊢
  generalize civilDate (t.fdiv 86400000) = date at *
  obtain ⟨y, m, d⟩ := date
  have days : daysInMonth y.natAbs m ≤ 31 := by
    unfold daysInMonth
    split <;> split <;> omega
  obtain ⟨y₁, y₂, y₃, y₄, year, readYear⟩ := four_digits (n := y.natAbs) (by dsimp only at *; omega)
  obtain ⟨m₁, m₂, writtenMonth, readMonth⟩ := two_digits (n := m) (by dsimp only at *; omega)
  obtain ⟨d₁, d₂, writtenDay, readDay⟩ := two_digits (n := d) (by dsimp only at *; omega)
  refine ⟨[y₁, y₂, y₃, y₄, '-', m₁, m₂, '-', d₁, d₂], _, ?_, rfl, ?_, time⟩
  · dsimp only at *
    rw [if_neg (by omega), if_neg (by omega)]
    simp [String.toList_append, year, writtenMonth, writtenDay]
  · dsimp only at *
    simp [isCalendarDay, isNumber, readYear, readMonth, readDay, month, months, first, last]

theorem toISOString_datetime {t : Instant} (past : 0 ≤ t.year) (early : t.year ≤ 9999) :
    isDatetime t.toISOString = true := by
  obtain ⟨day, time, written, length, calendar, clock⟩ := toISOString_day past early
  unfold isDatetime
  rw [written, List.take_left' length, List.drop_left' length, calendar]
  exact clock

theorem number_digits {cs : List Char} {n : Nat} (read : number cs = some n) :
    cs.all Char.isDigit = true := by
  unfold number at read
  split at read
  · assumption
  · cases read

theorem isCalendarDay_text {day : List Char} (calendar : isCalendarDay day = true) :
    isDayText (String.ofList day) = true := by
  unfold isCalendarDay at calendar
  split at calendar
  · simp only [Option.any_eq_true, isNumber, Bool.and_eq_true] at calendar
    obtain ⟨_, year, _, month, _, _, day, _⟩ := calendar
    have years := number_digits year
    have months := number_digits month
    have days := number_digits day
    simp only [List.all_cons, List.all_nil, Bool.and_true, Bool.and_eq_true] at years months days
    simp [isDayText, years, months, days]
  · cases calendar

/-- A text that starts with a sign is no day. -/
theorem isDayText_signed {sign : Char} (other : sign.isDigit = false) (rest : List Char) :
    isDayText (String.ofList (sign :: rest)) = false := by
  unfold isDayText
  split
  · rename_i same
    simp only [String.toList_ofList, List.cons.injEq] at same
    simp [← same.1, other]
  · rfl

/-- The day of a time is a text of four, two and two digits in these years
only. -/
theorem isDayText_iff (t : Instant) :
    isDayText (String.ofList (t.toISOString.toList.take 10)) = true ↔ 0 ≤ t.year ∧ t.year ≤ 9999 := by
  constructor
  · intro text
    have signed : ∀ sign : Char, sign.isDigit = false → t.toISOString.toList.head? ≠ some sign := by
      intro sign other head
      cases written : t.toISOString.toList with
      | nil => simp [written] at head
      | cons c cs =>
        rw [written] at head text
        cases head
        rw [List.take_succ_cons, isDayText_signed other] at text
        cases text
    refine ⟨?_, ?_⟩
    · by_contra before
      refine signed '-' (by decide) ?_
      have past : t.year < 0 := by omega
      unfold Instant.year at past
      unfold Instant.toISOString
      dsimp only
      rw [if_pos past]
      simp [String.toList_append]
    · by_contra after
      refine signed '+' (by decide) ?_
      have late : 9999 < t.year := by omega
      unfold Instant.year at late
      unfold Instant.toISOString
      dsimp only
      rw [if_neg (by omega), if_pos late]
      simp [String.toList_append]
  · rintro ⟨past, early⟩
    obtain ⟨day, time, written, length, calendar, _⟩ := toISOString_day past early
    rw [written, List.take_left' length]
    exact isCalendarDay_text calendar

end VantGrowth.Lib
