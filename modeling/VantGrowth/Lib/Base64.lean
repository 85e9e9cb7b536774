import VantGrowth.Lib.Surrogates

/-! Base64 as `btoa` writes it and `atob` reads it. -/

namespace VantGrowth.Lib.Base64

/-- The letter of six bits. -/
def letter (n : Nat) : UInt16 :=
  if n < 26 then (n + 65).toUInt16
  else if n < 52 then (n + 71).toUInt16
  else if n < 62 then (n - 4).toUInt16
  else if n = 62 then 0x2B
  else 0x2F

/-- The six bits of a letter. -/
def sextet (u : UInt16) : Option Nat :=
  let n := u.toNat
  if 65 ≤ n ∧ n ≤ 90 then some (n - 65)
  else if 97 ≤ n ∧ n ≤ 122 then some (n - 71)
  else if 48 ≤ n ∧ n ≤ 57 then some (n + 4)
  else if n = 0x2B then some 62
  else if n = 0x2F then some 63
  else none

def pad : UInt16 := 0x3D

/-- Bytes in groups of six bits, the last group filled up with zeros. -/
def sextets : List UInt8 → List Nat
  | a :: b :: c :: rest =>
    a.toNat / 4 :: (a.toNat % 4 * 16 + b.toNat / 16) :: (b.toNat % 16 * 4 + c.toNat / 64) ::
      c.toNat % 64 :: sextets rest
  | [a, b] => [a.toNat / 4, a.toNat % 4 * 16 + b.toNat / 16, b.toNat % 16 * 4]
  | [a] => [a.toNat / 4, a.toNat % 4 * 16]
  | [] => []

/-- The signs that fill up the last four letters. -/
def pads (letters : Nat) : JsString :=
  if letters % 4 = 2 then [pad, pad] else if letters % 4 = 3 then [pad] else []

/-- `btoa` of a string of bytes. -/
def btoa (bytes : List UInt8) : JsString :=
  (sextets bytes).map letter ++ pads (sextets bytes).length

/-- Whole bytes from groups of six bits; bits that are left over are dropped. -/
def bytes : List Nat → List UInt8
  | a :: b :: c :: d :: rest =>
    (a * 4 + b / 16).toUInt8 :: (b % 16 * 16 + c / 4).toUInt8 :: (c % 4 * 64 + d).toUInt8 ::
      bytes rest
  | [a, b, c] => [(a * 4 + b / 16).toUInt8, (b % 16 * 16 + c / 4).toUInt8]
  | [a, b] => [(a * 4 + b / 16).toUInt8]
  | _ => []

def isAsciiSpace (u : UInt16) : Bool :=
  u == 0x09 || u == 0x0A || u == 0x0C || u == 0x0D || u == 0x20

/-- One or two `=` at the end are removed. -/
def withoutPads (s : JsString) : JsString :=
  match s.reverse with
  | a :: b :: rest =>
    if a = pad then if b = pad then rest.reverse else (b :: rest).reverse else s
  | [a] => if a = pad then [] else s
  | [] => []

/-- `atob`, which throws where there is no result. White space is skipped. -/
def atob (s : JsString) : Option (List UInt8) :=
  let data := s.filter fun u => !isAsciiSpace u
  let data := if data.length % 4 = 0 then withoutPads data else data
  if data.length % 4 = 1 then none else (data.mapM sextet).map bytes

theorem letter_facts : ∀ n < 64, sextet (letter n) = some n ∧ isAsciiSpace (letter n) = false ∧
    letter n ≠ pad ∧ letter n ≠ 0x2D ∧ letter n ≠ 0x5F ∧ letter n ≠ 0x2E := by
  decide

theorem sextets_small (bs : List UInt8) : ∀ n ∈ sextets bs, n < 64 := by
  induction bs using sextets.induct with
  | case1 a b c rest ih =>
    have ha := a.toNat_lt
    have hb := b.toNat_lt
    have hc := c.toNat_lt
    simp only [sextets, List.mem_cons]
    rintro n (rfl | rfl | rfl | rfl | later)
    · omega
    · omega
    · omega
    · omega
    · exact ih n later
  | case2 a b =>
    have ha := a.toNat_lt
    have hb := b.toNat_lt
    simp only [sextets, List.mem_cons, List.not_mem_nil, or_false]
    rintro n (rfl | rfl | rfl) <;> omega
  | case3 a =>
    have ha := a.toNat_lt
    simp only [sextets, List.mem_cons, List.not_mem_nil, or_false]
    rintro n (rfl | rfl) <;> omega
  | case4 => simp [sextets]

theorem sextets_length (bs : List UInt8) : (sextets bs).length % 4 ≠ 1 := by
  induction bs using sextets.induct with
  | case1 a b c rest ih =>
    simp only [sextets, List.length_cons]
    omega
  | _ => simp [sextets]

theorem byte_value {b : UInt8} {n : Nat} (h : n = b.toNat) : n.toUInt8 = b := by
  rw [h]
  exact UInt8.ofNat_toNat

theorem bytes_sextets (bs : List UInt8) : bytes (sextets bs) = bs := by
  induction bs using sextets.induct with
  | case1 a b c rest ih =>
    have ha := a.toNat_lt
    have hb := b.toNat_lt
    have hc := c.toNat_lt
    simp only [sextets, bytes, ih]
    rw [byte_value (b := a) (by omega), byte_value (b := b) (by omega),
      byte_value (b := c) (by omega)]
  | case2 a b =>
    have ha := a.toNat_lt
    have hb := b.toNat_lt
    simp only [sextets, bytes]
    rw [byte_value (b := a) (by omega), byte_value (b := b) (by omega)]
  | case3 a =>
    have ha := a.toNat_lt
    simp only [sextets, bytes]
    rw [byte_value (b := a) (by omega)]
  | case4 => rfl

/-- A letter is no white space, no filler and not special to a URL. -/
theorem letters_facts {ns : List Nat} (small : ∀ n ∈ ns, n < 64) :
    ∀ u ∈ ns.map letter, isAsciiSpace u = false ∧ u ≠ pad ∧ u ≠ 0x2D ∧ u ≠ 0x5F ∧ u ≠ 0x2E := by
  intro u member
  obtain ⟨n, inside, rfl⟩ := List.mem_map.mp member
  exact (letter_facts n (small n inside)).2

theorem mapM_sextet {ns : List Nat} (small : ∀ n ∈ ns, n < 64) :
    (ns.map letter).mapM sextet = some ns := by
  induction ns with
  | nil => rfl
  | cons n ns ih =>
    have rest := ih fun m member => small m (List.mem_cons_of_mem _ member)
    rw [List.map_cons, List.mapM_cons, (letter_facts n (small n List.mem_cons_self)).1, rest]
    rfl

theorem withoutPads_plain {s : JsString} (plain : ∀ u ∈ s, u ≠ pad) : withoutPads s = s := by
  unfold withoutPads
  have other : ∀ u ∈ s.reverse, u ≠ pad := fun u member => plain u (List.mem_reverse.mp member)
  split
  · rename_i a b rest h
    rw [if_neg (other a (by simp [h]))]
  · rename_i a h
    rw [if_neg (other a (by simp [h]))]
  · rename_i h
    exact (List.reverse_eq_nil_iff.mp h).symm

/-- The fillers are all that is removed. -/
theorem withoutPads_pads {s : JsString} (plain : ∀ u ∈ s, u ≠ pad) (n : Nat) :
    withoutPads (s ++ pads n) = s := by
  have other : ∀ u ∈ s.reverse, u ≠ pad := fun u member => plain u (List.mem_reverse.mp member)
  unfold pads
  split
  · simp [withoutPads]
  split
  · unfold withoutPads
    rw [List.reverse_append]
    cases h : s.reverse with
    | nil => simp [List.reverse_eq_nil_iff.mp h]
    | cons b rest =>
      have apart := other b (by simp [h])
      have back : rest.reverse ++ [b] = s := by simpa using (congrArg List.reverse h).symm
      simp [apart, back]
  · rw [List.append_nil]
    exact withoutPads_plain plain

theorem pads_length {n : Nat} (h : n % 4 ≠ 1) : (n + (pads n).length) % 4 = 0 := by
  unfold pads
  split
  · simp only [List.length_cons, List.length_nil]
    omega
  split
  · simp only [List.length_cons, List.length_nil]
    omega
  · simp only [List.length_nil]
    omega

/-- What is written in base64 is read back. -/
theorem atob_btoa (bs : List UInt8) : atob (btoa bs) = some bs := by
  have small := sextets_small bs
  have facts := letters_facts small
  have kept : (btoa bs).filter (fun u => !isAsciiSpace u) = btoa bs := by
    refine List.filter_eq_self.mpr fun u member => ?_
    rcases List.mem_append.mp member with letter_ | filler
    · simp [(facts u letter_).1]
    · unfold pads at filler
      split at filler
      · simp only [List.mem_cons, List.not_mem_nil, or_false, or_self] at filler
        rw [filler]
        rfl
      split at filler
      · simp only [List.mem_cons, List.not_mem_nil, or_false] at filler
        rw [filler]
        rfl
      · cases filler
  have size : (btoa bs).length % 4 = 0 := by
    rw [btoa, List.length_append, List.length_map]
    exact pads_length (sextets_length bs)
  have data : withoutPads (btoa bs) = (sextets bs).map letter :=
    withoutPads_pads (fun u member => (facts u member).2.1) _
  have goes : ¬ ((sextets bs).map letter).length % 4 = 1 := by
    rw [List.length_map]
    exact sextets_length bs
  simp only [atob, kept, size, if_true, data, goes, if_false, mapM_sextet small, Option.map_some,
    bytes_sextets]

end VantGrowth.Lib.Base64
