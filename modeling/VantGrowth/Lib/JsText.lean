import Mathlib.Algebra.Order.BigOperators.Group.List
import VantGrowth.Lib.JsString

/-!
String operations of JavaScript on texts. A text that is cut inside a surrogate
pair ends in the replacement character, which is what it is written out as.
-/

namespace VantGrowth.Lib

/-- The code units of a character. -/
def charUnits (c : Char) : Nat := if c.toNat < 0x10000 then 1 else 2

theorem jsLength_ofList (cs : List Char) : jsLength (String.ofList cs) = (cs.map charUnits).sum := by
  unfold jsLength JsString.ofString
  rw [String.toList_ofList, List.length_flatMap]
  refine congrArg List.sum (List.map_congr_left fun c _ => ?_)
  unfold charUnits
  split <;> rfl

theorem jsLength_eq (s : String) : jsLength s = (s.toList.map charUnits).sum := by
  rw [← jsLength_ofList, String.ofList_toList]

@[simp] theorem jsLength_append (s t : String) : jsLength (s ++ t) = jsLength s + jsLength t := by
  simp [jsLength_eq, String.toList_append]

def takeUnits : Nat → List Char → List Char
  | 0, _ => []
  | _ + 1, [] => []
  | n + 1, c :: cs =>
    if c.toNat < 0x10000 then c :: takeUnits n cs
    else if n = 0 then ['\uFFFD'] else c :: takeUnits (n - 1) cs

/-- `s.slice(0, n)` -/
def jsSlice (n : Nat) (s : String) : String := String.ofList (takeUnits n s.toList)

/-- A string of code units as the text it is written out as. -/
def JsString.decode : JsString → List Char
  | [] => []
  | [u] => [if 0xD800 ≤ u && u ≤ 0xDFFF then '\uFFFD' else Char.ofNat u.toNat]
  | u :: v :: s =>
    if 0xD800 ≤ u && u ≤ 0xDBFF && 0xDC00 ≤ v && v ≤ 0xDFFF then
      Char.ofNat (0x10000 + (u.toNat - 0xD800) * 0x400 + (v.toNat - 0xDC00)) :: decode s
    else (if 0xD800 ≤ u && u ≤ 0xDFFF then '\uFFFD' else Char.ofNat u.toNat) :: decode (v :: s)

def JsString.toText (s : JsString) : String := String.ofList (decode s)

theorem takeUnits_units (n : Nat) (cs : List Char) :
    ((takeUnits n cs).map charUnits).sum = min n (cs.map charUnits).sum := by
  fun_induction takeUnits n cs with
  | case1 => simp
  | case2 => simp
  | case3 n c cs basic ih =>
    simp only [List.map_cons, List.sum_cons, ih, charUnits, basic, ↓reduceIte]
    omega
  | case4 c cs pair =>
    have one : charUnits '\uFFFD' = 1 := rfl
    have two : charUnits c = 2 := if_neg pair
    simp only [List.map_cons, List.sum_cons, List.map_nil, List.sum_nil, one, two]
    omega
  | case5 n c cs pair more ih =>
    simp only [List.map_cons, List.sum_cons, ih, charUnits, pair, ↓reduceIte]
    omega

@[simp] theorem jsLength_slice (n : Nat) (s : String) :
    jsLength (jsSlice n s) = min n (jsLength s) := by
  rw [jsSlice, jsLength_ofList, takeUnits_units, jsLength_eq]

theorem jsLength_pos {s : String} : 0 < jsLength s ↔ s ≠ "" := by
  constructor
  · rintro long rfl
    exact absurd long (by decide)
  · intro filled
    exact List.length_pos_iff.mpr (JsString.ofString_ne_nil filled)

theorem jsLength_intercalate {part : String} {parts : List String} (sep : String)
    (member : part ∈ parts) : jsLength part ≤ jsLength (sep.intercalate parts) := by
  induction parts with
  | nil => cases member
  | cons first rest ih =>
    cases rest with
    | nil =>
      rw [List.mem_singleton.mp member, String.intercalate_singleton]
    | cons second rest =>
      rw [String.intercalate_cons_cons, jsLength_append, jsLength_append]
      rcases List.mem_cons.mp member with rfl | later
      · omega
      · have := ih later
        omega

/-- `s.trimEnd()` -/
def jsTrimEnd (s : String) : String :=
  String.ofList (s.toList.reverse.dropWhile isSpaceChar).reverse

theorem jsLength_trimEnd (s : String) : jsLength (jsTrimEnd s) ≤ jsLength s := by
  rw [jsTrimEnd, jsLength_ofList, jsLength_eq]
  refine List.Sublist.sum_le_sum (List.Sublist.map _ ?_) fun _ _ => Nat.zero_le _
  rw [← List.reverse_sublist, List.reverse_reverse]
  exact List.dropWhile_sublist _

/-- `replace(/[class]+/g, replacement)`: each run of the class becomes one
character. -/
def replaceRuns (inClass : Char → Bool) (replacement : Char) : (inRun : Bool) → List Char → List Char
  | _, [] => []
  | inRun, c :: cs =>
    if inClass c then
      if inRun then replaceRuns inClass replacement true cs
      else replacement :: replaceRuns inClass replacement true cs
    else c :: replaceRuns inClass replacement false cs

/-- `s.includes(part)` -/
def includes (s part : String) : Bool := s.toList.tails.any part.toList.isPrefixOf

/-- `s.startsWith(part)` -/
def startsWith (s part : String) : Bool := part.toList.isPrefixOf s.toList

/-- `s.split(/\s+/)` without its empty texts. -/
def words : List Char → List (List Char)
  | [] => []
  | c :: cs =>
    if isSpaceChar c then words cs
    else if cs.head?.any (!isSpaceChar ·) then
      match words cs with
      | w :: ws => (c :: w) :: ws
      | [] => [[c]]
    else [c] :: words cs

example : words "a  bc ".toList = [['a'], ['b', 'c']] := by decide

theorem words_filled {cs : List Char} : words cs ≠ [] ↔ ∃ c ∈ cs, isSpaceChar c = false := by
  induction cs with
  | nil => simp [words]
  | cons c cs ih =>
    unfold words
    by_cases space : isSpaceChar c = true
    · simp [space, ih]
    · simp only [space, Bool.false_eq_true, ↓reduceIte, List.mem_cons, exists_eq_or_imp, true_or,
        iff_true]
      split
      · split <;> simp
      · simp

/-- No word is empty. -/
theorem words_ne_nil {cs w : List Char} (member : w ∈ words cs) : w ≠ [] := by
  induction cs generalizing w with
  | nil => cases member
  | cons c cs ih =>
    unfold words at member
    split at member
    · exact ih member
    · split at member
      · split at member
        · rename_i first rest split_
          rcases List.mem_cons.mp member with rfl | later
          · exact List.cons_ne_nil _ _
          · exact ih (split_ ▸ List.mem_cons_of_mem first later)
        · rw [List.mem_singleton.mp member]
          exact List.cons_ne_nil _ _
      · rcases List.mem_cons.mp member with rfl | later
        · exact List.cons_ne_nil _ _
        · exact ih later

end VantGrowth.Lib
