import Mathlib.Data.List.Sort
import Mathlib.Algebra.Order.Field.Rat
import VantGrowth.Lib.Surrogates

/-! How JSON values are written, and that what is written can be read in one
way only. -/

namespace VantGrowth.Lib

namespace JsString

/-- Strings in the order of their code units. -/
def le : JsString → JsString → Bool
  | [], _ => true
  | _ :: _, [] => false
  | u :: s, v :: t => u < v || (u == v && le s t)

theorem le_total (s t : JsString) : le s t = true ∨ le t s = true := by
  induction s generalizing t with
  | nil => exact Or.inl rfl
  | cons u s ih =>
    cases t with
    | nil => exact Or.inr rfl
    | cons v t =>
      simp only [le, Bool.or_eq_true, decide_eq_true_eq, Bool.and_eq_true, beq_iff_eq]
      rcases Nat.lt_trichotomy u.toNat v.toNat with less | same | more
      · exact Or.inl (Or.inl (UInt16.lt_iff_toNat_lt.mpr less))
      · rcases ih t with here | there
        · exact Or.inl (Or.inr ⟨UInt16.toNat_inj.mp same, here⟩)
        · exact Or.inr (Or.inr ⟨UInt16.toNat_inj.mp same.symm, there⟩)
      · exact Or.inr (Or.inl (UInt16.lt_iff_toNat_lt.mpr more))

theorem le_trans {s t u : JsString} (first : le s t = true) (second : le t u = true) :
    le s u = true := by
  induction s generalizing t u with
  | nil => rfl
  | cons a s ih =>
    cases t with
    | nil => cases first
    | cons b t =>
      cases u with
      | nil => cases second
      | cons c u =>
        simp only [le, Bool.or_eq_true, decide_eq_true_eq, Bool.and_eq_true, beq_iff_eq] at *
        rcases first with less | ⟨rfl, here⟩
        · rcases second with later | ⟨rfl, _⟩
          · exact Or.inl (UInt16.lt_trans less later)
          · exact Or.inl less
        · rcases second with later | ⟨rfl, there⟩
          · exact Or.inl later
          · exact Or.inr ⟨rfl, ih here there⟩

theorem le_antisymm {s t : JsString} (first : le s t = true) (second : le t s = true) : s = t := by
  induction s generalizing t with
  | nil =>
    cases t with
    | nil => rfl
    | cons b t => cases second
  | cons a s ih =>
    cases t with
    | nil => cases first
    | cons b t =>
      simp only [le, Bool.or_eq_true, decide_eq_true_eq, Bool.and_eq_true, beq_iff_eq] at *
      rcases first with less | ⟨rfl, here⟩
      · rcases second with later | ⟨rfl, _⟩
        · exact absurd (UInt16.lt_trans less later) (UInt16.lt_irrefl a)
        · exact absurd less (UInt16.lt_irrefl _)
      · rcases second with later | ⟨_, there⟩
        · exact absurd later (UInt16.lt_irrefl _)
        · rw [ih here there]

end JsString

/-- A code whose words can be told apart whatever follows them. -/
theorem flatMap_code {f : α → List β} (filled : ∀ a, f a ≠ [])
    (apart : ∀ a b r s, f a ++ r = f b ++ s → a = b ∧ r = s) {xs ys : List α}
    (same : xs.flatMap f = ys.flatMap f) : xs = ys := by
  induction xs generalizing ys with
  | nil =>
    cases ys with
    | nil => rfl
    | cons y ys =>
      have nothing : f y ++ ys.flatMap f = [] := same.symm
      exact absurd (List.append_eq_nil_iff.mp nothing).1 (filled y)
  | cons x xs ih =>
    cases ys with
    | nil =>
      have nothing : f x ++ xs.flatMap f = [] := same
      exact absurd (List.append_eq_nil_iff.mp nothing).1 (filled x)
    | cons y ys =>
      obtain ⟨rfl, rest⟩ := apart x y _ _ same
      rw [ih rest]

/-- The same in front of a mark that no word starts with. -/
theorem flatMap_until {f : α → List β} {mark : β} (head : ∀ a, ∃ b rest, f a = b :: rest ∧ b ≠ mark)
    (apart : ∀ a b r s, f a ++ r = f b ++ s → a = b ∧ r = s) {xs ys : List α} {r s : List β}
    (same : xs.flatMap f ++ mark :: r = ys.flatMap f ++ mark :: s) : xs = ys ∧ r = s := by
  induction xs generalizing ys with
  | nil =>
    cases ys with
    | nil => exact ⟨rfl, (List.cons.inj same).2⟩
    | cons y ys =>
      obtain ⟨b, rest, word, other⟩ := head y
      rw [List.flatMap_cons, word] at same
      exact absurd (List.cons.inj same).1.symm other
  | cons x xs ih =>
    cases ys with
    | nil =>
      obtain ⟨b, rest, word, other⟩ := head x
      rw [List.flatMap_cons, word] at same
      exact absurd (List.cons.inj same).1 other
    | cons y ys =>
      rw [List.flatMap_cons, List.flatMap_cons, List.append_assoc, List.append_assoc] at same
      obtain ⟨rfl, rest⟩ := apart x y _ _ same
      obtain ⟨rfl, ends⟩ := ih rest
      exact ⟨rfl, ends⟩

namespace JsString

/-- The code units of one character. -/
def units (c : Char) : JsString :=
  if c.toNat < 0x10000 then [c.toNat.toUInt16]
  else [(0xD800 + (c.toNat - 0x10000) / 0x400).toUInt16,
    (0xDC00 + (c.toNat - 0x10000) % 0x400).toUInt16]

theorem units_filled (c : Char) : units c ≠ [] := by
  unfold units
  split <;> simp

theorem char_range (c : Char) : (c.toNat < 0xD800 ∨ 0xDFFF < c.toNat) ∧ c.toNat < 0x110000 := by
  rcases c.valid with low | ⟨above, high⟩
  · change c.toNat < 0xd800 at low
    omega
  · change 0xdfff < c.toNat at above
    change c.toNat < 0x110000 at high
    omega

theorem units_apart (c d : Char) (r s : JsString) (same : units c ++ r = units d ++ s) :
    c = d ∧ r = s := by
  obtain ⟨plain, bound⟩ := char_range c
  obtain ⟨plain', bound'⟩ := char_range d
  have value : ∀ {m n : Nat}, m.toUInt16 = n.toUInt16 → m < 65536 → n < 65536 → m = n := by
    intro m n equal small small'
    have numbers := congrArg UInt16.toNat equal
    rwa [unit_value small, unit_value small'] at numbers
  have named : c.toNat = d.toNat → c = d := fun numbers => Char.toNat_inj.mp numbers
  unfold units at same
  split at same
  · rename_i basic
    split at same
    · rename_i basic'
      obtain ⟨first, rest⟩ := List.cons.inj same
      exact ⟨named (value first basic basic'), rest⟩
    · have first := value (List.cons.inj same).1 basic (by omega)
      omega
  · rename_i basic
    split at same
    · rename_i basic'
      have first := value (List.cons.inj same).1 (by omega) basic'
      omega
    · obtain ⟨first, later⟩ := List.cons.inj same
      obtain ⟨second, rest⟩ := List.cons.inj later
      have high := value first (by omega) (by omega)
      have low := value second (by omega) (by omega)
      exact ⟨named (by omega), rest⟩

theorem ofString_inj {s t : String} (same : ofString s = ofString t) : s = t :=
  String.toList_inj.mp (flatMap_code units_filled units_apart same)

end JsString

/-- Keys in the order of their code units, as `Array.sort` puts them. -/
def keyLe (a b : String × ν) : Prop := JsString.le (JsString.ofString a.1) (JsString.ofString b.1) = true

instance (a b : String × ν) : Decidable (keyLe a b) := inferInstanceAs (Decidable (_ = true))

def sortKeys (entries : List (String × ν)) : List (String × ν) := entries.insertionSort keyLe

theorem sortKeys_perm (entries : List (String × ν)) : (sortKeys entries).Perm entries :=
  List.perm_insertionSort _ _

theorem sortKeys_map (f : ν → μ) (entries : List (String × ν)) :
    sortKeys (entries.map fun e => (e.1, f e.2)) = (sortKeys entries).map fun e => (e.1, f e.2) := by
  unfold sortKeys
  exact (List.map_insertionSort keyLe keyLe (fun e => (e.1, f e.2)) entries
    fun _ _ _ _ => Iff.rfl).symm

theorem sortKeys_sorted (entries : List (String × ν)) : (sortKeys entries).Pairwise keyLe := by
  have total : Std.Total (keyLe (ν := ν)) := ⟨fun _ _ => JsString.le_total _ _⟩
  have trans : IsTrans (String × ν) keyLe := ⟨fun _ _ _ => JsString.le_trans⟩
  exact List.pairwise_insertionSort _ _

/-- The order of the keys of an object does not show once they are sorted. -/
theorem sortKeys_eq {xs ys : List (String × ν)} (same : xs.Perm ys)
    (distinct : (ys.map Prod.fst).Nodup) : sortKeys xs = sortKeys ys := by
  apply List.Perm.eq_of_pairwise _ (sortKeys_sorted xs) (sortKeys_sorted ys)
    ((sortKeys_perm xs).trans (same.trans (sortKeys_perm ys).symm))
  intro a b left right first second
  have key := JsString.ofString_inj (JsString.le_antisymm first second)
  have there : a ∈ ys := same.subset ((sortKeys_perm xs).subset left)
  have here : b ∈ ys := (sortKeys_perm ys).subset right
  exact List.inj_on_of_nodup_map distinct there here key

-- In what follows `\x22` is a quote and `\x5c` a backslash.

def hexDigit (n : Nat) : Char := if n < 10 then Char.ofNat (48 + n) else Char.ofNat (87 + n)

def hexValue (c : Char) : Nat := if c.toNat < 58 then c.toNat - 48 else c.toNat - 87

/-- A character as `JSON.stringify` writes it between quotes. -/
def escape (c : Char) : List Char :=
  if c = '\x22' then ['\x5c', '\x22']
  else if c = '\x5c' then ['\x5c', '\x5c']
  else if c = '\x08' then ['\x5c', 'b']
  else if c = '\x0c' then ['\x5c', 'f']
  else if c = '\n' then ['\x5c', 'n']
  else if c = '\r' then ['\x5c', 'r']
  else if c = '\t' then ['\x5c', 't']
  else if c.toNat < 0x20 then
    ['\x5c', 'u', '0', '0', hexDigit (c.toNat / 16), hexDigit (c.toNat % 16)]
  else [c]

/-- Reads one character between quotes back. -/
def unescape : List Char → Option (Char × List Char)
  | [] => none
  | '\x22' :: _ => none
  | '\x5c' :: 'b' :: rest => some ('\x08', rest)
  | '\x5c' :: 'f' :: rest => some ('\x0c', rest)
  | '\x5c' :: 'n' :: rest => some ('\n', rest)
  | '\x5c' :: 'r' :: rest => some ('\r', rest)
  | '\x5c' :: 't' :: rest => some ('\t', rest)
  | '\x5c' :: 'u' :: _ :: _ :: a :: b :: rest => some (Char.ofNat (16 * hexValue a + hexValue b), rest)
  | '\x5c' :: c :: rest => some (c, rest)
  | c :: rest => some (c, rest)

theorem hex_read : ∀ n < 16, hexValue (hexDigit n) = n := by decide

theorem unescape_escape (c : Char) (rest : List Char) : unescape (escape c ++ rest) = some (c, rest) := by
  unfold escape
  split
  · simp [unescape, *]
  split
  · simp [unescape, *]
  split
  · simp [unescape, *]
  split
  · simp [unescape, *]
  split
  · simp [unescape, *]
  split
  · simp [unescape, *]
  split
  · simp [unescape, *]
  split
  · have whole : 16 * (c.toNat / 16) + c.toNat % 16 = c.toNat := by omega
    simp only [List.cons_append, List.nil_append, unescape, hex_read (c.toNat / 16) (by omega),
      hex_read (c.toNat % 16) (by omega), whole, Char.ofNat_toNat]
  · rename_i quoted slash _ _ _ _ _ _
    simp only [List.cons_append, List.nil_append]
    rw [unescape.eq_def]
    split <;> simp_all

/-- `JSON.stringify` of a text. -/
def quote (s : List Char) : List Char := '\x22' :: (s.flatMap escape ++ ['\x22'])

theorem escape_apart (c d : Char) (r s : List Char) (same : escape c ++ r = escape d ++ s) :
    c = d ∧ r = s := by
  have read := unescape_escape c r
  rw [same, unescape_escape] at read
  cases read
  exact ⟨rfl, rfl⟩

theorem escape_head (c : Char) : ∃ b rest, escape c = b :: rest ∧ b ≠ '\x22' := by
  cases written : escape c with
  | nil =>
    have read := unescape_escape c []
    rw [written] at read
    cases read
  | cons b rest =>
    refine ⟨b, rest, rfl, ?_⟩
    rintro rfl
    have read := unescape_escape c []
    rw [written] at read
    cases read

theorem quote_apart {s t r u : List Char} (same : quote s ++ r = quote t ++ u) : s = t ∧ r = u := by
  simp only [quote, List.cons_append, List.append_assoc, List.cons.injEq, true_and,
    List.nil_append] at same
  exact flatMap_until escape_head escape_apart same

/-- What may come after a value: the end, a comma or a closing bracket. -/
def Closed (rest : List Char) : Prop := ∀ c ∈ rest.head?, c = ',' ∨ c = ']' ∨ c = '\x7d'

/-- The characters numbers are written with. -/
def isNumberChar (c : Char) : Bool :=
  c.isDigit || c == '-' || c == '+' || c == '.' || c == 'e'

/-- How numbers are written: no two alike, and as no other value starts. -/
structure NumberTexts where
  text : ℚ → List Char
  distinct : Function.Injective text
  filled : ∀ q, text q ≠ []
  plain : ∀ q, ∀ c ∈ text q, isNumberChar c = true

/-- Words of such characters end where a value ends. -/
theorem word_apart {a b r s : List Char} (left : ∀ c ∈ a, isNumberChar c = true)
    (right : ∀ c ∈ b, isNumberChar c = true) (closed : Closed r) (closed' : Closed s)
    (same : a ++ r = b ++ s) : a = b ∧ r = s := by
  have stops : ∀ {c : Char} {word rest : List Char}, isNumberChar c = true → Closed (c :: word ++ rest) →
      False := by
    intro c word rest number closed
    rcases closed c rfl with rfl | rfl | rfl <;> cases number
  induction a generalizing b with
  | nil =>
    cases b with
    | nil => exact ⟨rfl, same⟩
    | cons d b =>
      rw [List.nil_append] at same
      exact (stops (right d List.mem_cons_self) (same ▸ closed)).elim
  | cons c a ih =>
    cases b with
    | nil =>
      rw [List.nil_append] at same
      exact (stops (left c List.mem_cons_self) (same ▸ closed')).elim
    | cons d b =>
      obtain ⟨rfl, rest⟩ := List.cons.inj same
      obtain ⟨rfl, ends⟩ := ih (fun e member => left e (List.mem_cons_of_mem _ member))
        (fun e member => right e (List.mem_cons_of_mem _ member)) rest
      exact ⟨rfl, ends⟩

/-- Texts with commas between them. -/
def listed (texts : List (List Char)) : List Char := [','].intercalate texts

theorem listed_cons (text : List Char) (texts : List (List Char)) (rest : List Char) :
    listed (text :: texts) ++ rest =
      text ++ (if texts = [] then rest else ',' :: (listed texts ++ rest)) := by
  cases texts with
  | nil => simp [listed, List.intercalate]
  | cons next texts => simp [listed, List.intercalate]

/-- Lists whose elements can be told apart can be told apart up to the bracket
that closes them. -/
theorem listed_apart {text : α → List Char} {R : α → α → Prop} {close : Char}
    (bracket : close = ']' ∨ close = '\x7d')
    {xs ys : List α} (starts : ∀ x, x ∈ xs ∨ x ∈ ys → ∃ c rest, text x = c :: rest ∧ c ≠ close)
    (each : ∀ x ∈ xs, ∀ y ∈ ys, ∀ r s, Closed r → Closed s → text x ++ r = text y ++ s → R x y ∧ r = s)
    {r s : List Char}
    (same : listed (xs.map text) ++ close :: r = listed (ys.map text) ++ close :: s) :
    List.Forall₂ R xs ys ∧ r = s := by
  have apart : close ≠ ',' := by
    rcases bracket with rfl | rfl <;> decide
  have closed : ∀ (texts : List (List Char)) (rest : List Char),
      Closed (if texts = [] then close :: rest else ',' :: (listed texts ++ close :: rest)) := by
    intro texts rest c head
    split at head
    · cases head
      exact Or.inr bracket
    · cases head
      exact Or.inl rfl
  induction xs generalizing ys with
  | nil =>
    cases ys with
    | nil => exact ⟨.nil, (List.cons.inj same).2⟩
    | cons y ys =>
      obtain ⟨c, rest, written, other⟩ := starts y (Or.inr List.mem_cons_self)
      rw [List.map_cons, listed_cons, written] at same
      exact absurd (List.cons.inj same).1.symm other
  | cons x xs ih =>
    cases ys with
    | nil =>
      obtain ⟨c, rest, written, other⟩ := starts x (Or.inl List.mem_cons_self)
      rw [List.map_cons, listed_cons, written] at same
      exact absurd (List.cons.inj same).1 other
    | cons y ys =>
      rw [List.map_cons, List.map_cons, listed_cons, listed_cons] at same
      obtain ⟨related, rest⟩ := each x List.mem_cons_self y List.mem_cons_self _ _ (closed _ _)
        (closed _ _) same
      have later := @ih ys
        (fun a member => starts a (member.imp (List.mem_cons_of_mem _) (List.mem_cons_of_mem _)))
        fun a member b member' =>
          each a (List.mem_cons_of_mem _ member) b (List.mem_cons_of_mem _ member')
      cases xs with
      | nil =>
        cases ys with
        | nil => exact ⟨.cons related .nil, (List.cons.inj rest).2⟩
        | cons y' ys => exact absurd (List.cons.inj rest).1 apart
      | cons x' xs =>
        cases ys with
        | nil => exact absurd (List.cons.inj rest).1.symm apart
        | cons y' ys =>
          obtain ⟨others, ends⟩ := later (List.cons.inj rest).2
          exact ⟨.cons related others, ends⟩

end VantGrowth.Lib
