import VantGrowth.Db.Contracts

namespace VantGrowth.Core
open Db

/-- `Number.parseInt(c, 16)` as the bit operators see it. -/
def hexValue (c : Char) : Nat :=
  if c.isDigit then c.toNat - '0'.toNat
  else if 'a' ≤ c ∧ c ≤ 'f' then c.toNat - 'a'.toNat + 10
  else if 'A' ≤ c ∧ c ≤ 'F' then c.toNat - 'A'.toNat + 10
  else 0

section
variable (sha256 : String → String) (namespace_ : String)

/-- `deterministicUuid`, over the hexadecimal digest of a text. -/
def deterministicUuid : String :=
  let hash := (sha256 namespace_).toList
  let variant := hexValue (hash[16]?.getD '8') &&& 3 ||| 8
  String.ofList (hash.take 8 ++ '-' :: ((hash.drop 8).take 4 ++ '-' :: '5' :: ((hash.drop 13).take 3 ++
    '-' :: Nat.digitChar variant :: ((hash.drop 17).take 3 ++ '-' :: (hash.drop 20).take 12))))

theorem deterministicUuid_filled : deterministicUuid sha256 namespace_ ≠ "" := by
  intro empty
  have chars := congrArg String.toList empty
  simp [deterministicUuid] at chars

/-- A digest of 256 bits. -/
def isDigest (s : String) : Bool :=
  s.toList.length == 64 && s.toList.all fun c => c.isDigit || ('a' ≤ c && c ≤ 'f')

end

/-- What a uuid holds at a position. -/
def uuidAt (p : Char × Nat) : Bool :=
  if [8, 13, 18, 23].contains p.2 then p.1 == '-' else isHexDigit p.1

theorem hex_segment {l : List Char} {k : Nat} (hex : ∀ c ∈ l, isHexDigit c = true)
    (plain : ∀ i ∈ [8, 13, 18, 23], i < k ∨ k + l.length ≤ i) :
    (l.zipIdx k).all uuidAt = true := by
  refine List.all_eq_true.mpr fun ⟨c, i⟩ member => ?_
  obtain ⟨low, high, at_⟩ := List.mem_zipIdx member
  have inside : [8, 13, 18, 23].contains i = false := by
    simp only [List.contains_eq_mem, decide_eq_false_iff_not]
    intro dash
    rcases plain i dash with before | after <;> omega
  unfold uuidAt
  rw [inside]
  exact hex c (at_ ▸ List.getElem_mem _)

/-- A stable id is a uuid. -/
theorem deterministicUuid_uuid {sha256 : String → String} {namespace_ : String}
    (digest : isDigest (sha256 namespace_) = true) :
    isUuid (deterministicUuid sha256 namespace_) = true := by
  simp only [isDigest, Bool.and_eq_true, beq_iff_eq, List.all_eq_true] at digest
  obtain ⟨length, lower⟩ := digest
  unfold deterministicUuid
  dsimp only
  generalize (sha256 namespace_).toList = hash at length lower ⊢
  have hex : ∀ m n, ∀ c ∈ (hash.drop m).take n, isHexDigit c = true := by
    intro m n c member
    unfold isHexDigit
    rw [Bool.or_assoc, ← Bool.or_assoc, lower c (List.drop_subset _ _ (List.take_subset _ _ member))]
    rfl
  have variant : isHexDigit (Nat.digitChar (hexValue (hash[16]?.getD '8') &&& 3 ||| 8)) = true := by
    have small : hexValue (hash[16]?.getD '8') &&& 3 < 4 := Nat.and_lt_two_pow _ (by decide : 3 < 2 ^ 2)
    generalize hexValue (hash[16]?.getD '8') &&& 3 = v at small
    interval_cases v <;> decide
  have whole : ∀ s : String, s.toList.length = 36 → s.toList.zipIdx.all uuidAt = true →
      isUuid s = true := by
    intro s long all
    simp only [isUuid, long, beq_self_eq_true, Bool.true_and]
    exact all
  apply whole
  · simp [length]
  · simp only [String.toList_ofList, List.zipIdx_append, List.zipIdx_cons, List.all_append,
      List.all_cons, List.length_take, List.length_drop, length, Bool.and_eq_true]
    refine ⟨hex_segment (hex 0 8) ?_, rfl, hex_segment (hex 8 4) ?_, rfl, rfl,
      hex_segment (hex 13 3) ?_, rfl, ?_, hex_segment (hex 17 3) ?_, rfl, hex_segment (hex 20 12) ?_⟩
    · simp [length]
    · simp [length]
    · simp [length]
    · exact variant
    · simp [length]
    · simp [length]

end VantGrowth.Core
