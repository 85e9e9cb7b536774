import Mathlib.Data.List.Sort
import Mathlib.Data.List.Nodup
import VantGrowth.Db.Outbox

namespace VantGrowth.Db
open Lib Lib.Text

inductive SignalTypeValue where
  | competitive | community | icp | product | market | internal
deriving DecidableEq

namespace SignalTypeValue

def text : SignalTypeValue → String
  | competitive => "competitive"
  | community => "community"
  | icp => "icp"
  | product => "product"
  | market => "market"
  | internal => "internal"

end SignalTypeValue

def signalTypeValues : List SignalTypeValue :=
  [.competitive, .community, .icp, .product, .market, .internal]

structure SignalEventRecord where
  id : Nat
  tenantId : String
  signalType : SignalTypeValue
  source : String
  externalId : Option String
  payload : Payload
  processedAt : Option Instant
  processingLeaseOwner : Option String
  processingLeaseExpiresAt : Option Instant
  processingAttempts : Nat
  createdAt : Instant

/-- `signalEventRecordSchema` -/
def SignalEventRecord.valid (record : SignalEventRecord) : Bool :=
  isUuid record.tenantId && record.source != ""

structure IngestSignalParams where
  tenantId : String
  signalType : SignalTypeValue
  source : String
  externalId : Option String
  payload : Payload

structure IngestSignalResult where
  event : SignalEventRecord
  isDuplicate : Bool

structure SignalProcessingClaim where
  owner : String
  leaseMs : ℚ
deriving DecidableEq

/-- `signalProcessingClaimSchema` -/
def SignalProcessingClaim.valid (claim : SignalProcessingClaim) : Bool :=
  1 ≤ jsLength claim.owner && jsLength claim.owner ≤ 255 && claim.leaseMs.den == 1 &&
    1000 ≤ claim.leaseMs && claim.leaseMs ≤ 900000

structure InMemorySignalEventsRepository where
  records : List SignalEventRecord
  sequence : Nat
  externalIdIndex : List String

namespace InMemorySignalEventsRepository

def empty : InMemorySignalEventsRepository := ⟨[], 0, []⟩

def externalKey (tenantId source externalId : String) : String :=
  join tenantId (join source externalId)

/-- The external id, where it is truthy. -/
def IngestSignalParams.givenId (params : IngestSignalParams) : Option String :=
  params.externalId.filter (· != "")

/-- The record holds these. -/
def sameSignal (tenantId source externalId : String) (r : SignalEventRecord) : Bool :=
  r.tenantId == tenantId && r.source == source && r.externalId == some externalId

/-- The index is asked first, the records are searched only after a hit. -/
def duplicateOf (s : InMemorySignalEventsRepository) (params : IngestSignalParams) :
    Option SignalEventRecord :=
  (IngestSignalParams.givenId params).bind fun externalId =>
    if externalKey params.tenantId params.source externalId ∈ s.externalIdIndex then
      s.records.find? (sameSignal params.tenantId params.source externalId)
    else none

def remember (s : InMemorySignalEventsRepository) (params : IngestSignalParams) :
    InMemorySignalEventsRepository :=
  match IngestSignalParams.givenId params with
  | some externalId =>
    { s with externalIdIndex :=
        s.externalIdIndex.insert (externalKey params.tenantId params.source externalId) }
  | none => s

def newRecord (id : Nat) (now : Instant) (params : IngestSignalParams) : SignalEventRecord where
  id := id
  tenantId := params.tenantId
  signalType := params.signalType
  source := params.source
  externalId := params.externalId
  payload := params.payload
  processedAt := none
  processingLeaseOwner := none
  processingLeaseExpiresAt := none
  processingAttempts := 0
  createdAt := now

/-- `now` is the value `new Date()` has during the call. An id is drawn before
the record is checked. -/
def ingest (now : Instant) (params : IngestSignalParams) :
    Store DbError InMemorySignalEventsRepository IngestSignalResult := do
  Store.require (isUuid params.tenantId = true) .zod
  match ← Store.read (·.duplicateOf params) with
  | some existing => return { event := existing, isDuplicate := true }
  | none =>
    Store.modify (·.remember params)
    Store.modify fun s => { s with sequence := s.sequence + 1 }
    let record ← Store.read fun s => newRecord s.sequence now params
    Store.require (record.valid = true) .zod
    Store.modify fun s => { s with records := s.records ++ [record] }
    return { event := record, isDuplicate := false }

/-- Not processed, and under no lease that is still to expire. -/
def claimable (now : Instant) (tenantId : String) (signalType : SignalTypeValue)
    (r : SignalEventRecord) : Bool :=
  r.tenantId == tenantId && r.signalType == signalType && r.processedAt.isNone &&
    r.processingLeaseExpiresAt.all (· ≤ now)

def leased (now : Instant) (claim : SignalProcessingClaim) (r : SignalEventRecord) :
    SignalEventRecord :=
  { r with
    processingLeaseOwner := some claim.owner
    processingLeaseExpiresAt := some (now + claim.leaseMs.num)
    processingAttempts := r.processingAttempts + 1 }

/-- A claimed record is searched for by its id and written back with a lease. -/
def leaseRecord (now : Instant) (claim : SignalProcessingClaim) (r : SignalEventRecord) :
    Store DbError InMemorySignalEventsRepository Unit := do
  match ← Store.read fun s => s.records.findIdx? (·.id == r.id) with
  | none => return ()
  | some index =>
    Store.require ((leased now claim r).valid = true) .zod
    Store.modify fun s => { s with records := s.records.set index (leased now claim r) }

def claimUnprocessed (now : Instant) (tenantId : String) (signalType : SignalTypeValue)
    (limit : Nat) (claim : SignalProcessingClaim) :
    Store DbError InMemorySignalEventsRepository (List SignalEventRecord) := do
  Store.require (isUuid tenantId = true) .zod
  Store.require (claim.valid = true) .zod
  let claimed ← Store.read fun s =>
    ((s.records.filter (claimable now tenantId signalType)).insertionSort
      fun a b => a.id ≤ b.id).take limit
  claimed.forM (leaseRecord now claim)
  let copies := claimed.map (leased now claim)
  Store.require (copies.all (·.valid) = true) .zod
  return copies

def processed (now : Instant) (r : SignalEventRecord) : SignalEventRecord :=
  { r with
    processedAt := some now
    processingLeaseOwner := none
    processingLeaseExpiresAt := none }

def markProcessed (now : Instant) (tenantId : String) (ids : List Nat) :
    Store DbError InMemorySignalEventsRepository Unit :=
  Store.modify fun s => { s with records := s.records.map fun r =>
    if r.tenantId = tenantId ∧ r.id ∈ ids ∧ r.processedAt = none then processed now r else r }

def released (r : SignalEventRecord) : SignalEventRecord :=
  { r with
    processingLeaseOwner := none
    processingLeaseExpiresAt := none }

def releaseClaims (tenantId : String) (ids : List Nat) (owner : String) :
    Store DbError InMemorySignalEventsRepository Unit :=
  Store.modify fun s => { s with records := s.records.map fun r =>
    if r.tenantId = tenantId ∧ r.id ∈ ids ∧ r.processedAt = none ∧
      r.processingLeaseOwner = some owner then released r else r }

/-- Ids count up in the order of the records, which passed their schema. -/
structure Ordered (s : InMemorySignalEventsRepository) : Prop where
  ids : s.records.Pairwise fun a b => a.id < b.id
  drawn : ∀ r ∈ s.records, r.id ≤ s.sequence
  valid : ∀ r ∈ s.records, r.valid = true

theorem empty_ordered : empty.Ordered :=
  ⟨List.Pairwise.nil, by rintro r ⟨⟩, by rintro r ⟨⟩⟩

section
variable {s t : InMemorySignalEventsRepository} {now : Instant}

/-- A record is known by its id. -/
theorem Ordered.same_id (h : s.Ordered) {a b : SignalEventRecord} (ha : a ∈ s.records)
    (hb : b ∈ s.records) (same : a.id = b.id) : a = b := by
  have distinct : (s.records.map (·.id)).Nodup :=
    List.Pairwise.map _ (fun _ _ => Nat.ne_of_lt) h.ids
  exact List.inj_on_of_nodup_map distinct ha hb same

/-- Records that are changed in place, ids and required fields apart. -/
theorem Ordered.update (h : s.Ordered) {f : SignalEventRecord → SignalEventRecord}
    (id : ∀ r, (f r).id = r.id) (valid : ∀ r, (f r).valid = r.valid)
    (written : t = { s with records := s.records.map f }) : t.Ordered := by
  subst written
  refine ⟨?_, ?_, ?_⟩
  · refine List.pairwise_map.mpr (h.ids.imp ?_)
    intro a b less
    rwa [id, id]
  · intro r member
    obtain ⟨old, there, rfl⟩ := List.mem_map.mp member
    rw [id]
    exact h.drawn old there
  · intro r member
    obtain ⟨old, there, rfl⟩ := List.mem_map.mp member
    rw [valid]
    exact h.valid old there

/-- What a claim takes: the first of the claimable records, in order. -/
def taken (s : InMemorySignalEventsRepository) (now : Instant) (tenantId : String)
    (signalType : SignalTypeValue) (limit : Nat) : List SignalEventRecord :=
  (s.records.filter (claimable now tenantId signalType)).take limit

theorem Ordered.sorted (h : s.Ordered) (tenantId : String) (signalType : SignalTypeValue) :
    (s.records.filter (claimable now tenantId signalType)).insertionSort (fun a b => a.id ≤ b.id) =
      s.records.filter (claimable now tenantId signalType) := by
  refine List.Pairwise.insertionSort_eq ?_
  exact (h.ids.imp fun less => Nat.le_of_lt less).filter _

/-- The records with these ids are leased. -/
def leaseIn (now : Instant) (claim : SignalProcessingClaim) (ids : List Nat) (r : SignalEventRecord) :
    SignalEventRecord :=
  if r.id ∈ ids then leased now claim r else r

@[simp] theorem leaseIn_id (claim : SignalProcessingClaim) (ids : List Nat) (r : SignalEventRecord) :
    (leaseIn now claim ids r).id = r.id := by
  unfold leaseIn
  split <;> rfl

theorem set_leased {l : List SignalEventRecord} (increasing : l.Pairwise fun a b => a.id < b.id)
    (claim : SignalProcessingClaim) (ids : List Nat) {r : SignalEventRecord} (member : r ∈ l) :
    ∃ i, (l.map (leaseIn now claim ids)).findIdx? (·.id == r.id) = some i ∧
      (l.map (leaseIn now claim ids)).set i (leased now claim r) =
        l.map (leaseIn now claim (ids ++ [r.id])) := by
  induction l with
  | nil => cases member
  | cons a l ih =>
    obtain ⟨less, rest⟩ := List.pairwise_cons.mp increasing
    by_cases first : a = r
    · subst first
      refine ⟨0, by simp [List.findIdx?_cons], ?_⟩
      have same : l.map (leaseIn now claim ids) = l.map (leaseIn now claim (ids ++ [a.id])) := by
        refine List.map_congr_left fun b later => ?_
        have other : b.id ≠ a.id := Nat.ne_of_gt (less b later)
        simp [leaseIn, other]
      simp [leaseIn, same]
    · have later := (List.mem_cons.mp member).resolve_left (Ne.symm first)
      obtain ⟨i, found, written⟩ := ih rest later
      have other : a.id ≠ r.id := Nat.ne_of_lt (less r later)
      refine ⟨i + 1, ?_, ?_⟩
      · simp [List.findIdx?_cons, other, found]
      · have kept : leaseIn now claim ids a = leaseIn now claim (ids ++ [r.id]) a := by
          simp [leaseIn, other]
        simp [written, kept]

theorem leaseRecord_run (h : s.Ordered) (claim : SignalProcessingClaim) (ids : List Nat)
    {r : SignalEventRecord} (member : r ∈ s.records) :
    (leaseRecord now claim r).run { s with records := s.records.map (leaseIn now claim ids) } =
      (.ok (), { s with records := s.records.map (leaseIn now claim (ids ++ [r.id])) }) := by
  obtain ⟨i, found, written⟩ := @set_leased now s.records h.ids claim ids r member
  have valid : (leased now claim r).valid = true := h.valid r member
  simp [leaseRecord, Store.run_bind, found, valid, written]

theorem leaseRecords_run (h : s.Ordered) (claim : SignalProcessingClaim) {ids : List Nat}
    {l : List SignalEventRecord} (members : ∀ r ∈ l, r ∈ s.records) :
    (l.forM (leaseRecord now claim)).run { s with records := s.records.map (leaseIn now claim ids) } =
      (.ok (), { s with records := s.records.map (leaseIn now claim (ids ++ l.map (·.id))) }) := by
  induction l generalizing ids with
  | nil =>
    rw [List.map_nil, List.append_nil]
    rfl
  | cons r l ih =>
    have loop : (r :: l).forM (leaseRecord now claim) =
        leaseRecord now claim r >>= fun _ => l.forM (leaseRecord now claim) := rfl
    rw [loop, Store.run_bind, leaseRecord_run h claim ids (members r List.mem_cons_self)]
    dsimp only
    rw [ih fun b later => members b (List.mem_cons_of_mem _ later)]
    simp

/-- A claim leases what it takes, in place, and returns copies. -/
theorem claimUnprocessed_run (h : s.Ordered) {tenantId : String} (uuid : isUuid tenantId = true)
    (signalType : SignalTypeValue) (limit : Nat) {claim : SignalProcessingClaim}
    (fits : claim.valid = true) :
    (claimUnprocessed now tenantId signalType limit claim).run s =
      (.ok ((s.taken now tenantId signalType limit).map (leased now claim)),
        { s with records := s.records.map (leaseIn now claim
          ((s.taken now tenantId signalType limit).map (·.id))) }) := by
  have members : ∀ r ∈ s.taken now tenantId signalType limit, r ∈ s.records :=
    fun r member => (List.mem_filter.mp (List.take_subset _ _ member)).1
  have copies : ((s.taken now tenantId signalType limit).map (leased now claim)).all (·.valid) =
      true := by
    refine List.all_eq_true.mpr fun r member => ?_
    obtain ⟨old, there, rfl⟩ := List.mem_map.mp member
    exact h.valid old (members old there)
  have start : s = { s with records := s.records.map (leaseIn now claim []) } := by
    have same : leaseIn now claim [] = id := funext fun r => by simp [leaseIn]
    rw [same, List.map_id]
  have loop := @leaseRecords_run s now h claim [] _ members
  rw [← start, List.nil_append] at loop
  unfold claimUnprocessed
  simp only [Store.run_bind, Store.run_require, uuid, fits, if_true, Store.run_read,
    h.sorted tenantId signalType]
  unfold taken at loop copies ⊢
  rw [loop]
  dsimp only
  rw [if_pos copies]
  rfl

/-- A claim that is refused changes nothing. -/
theorem claimUnprocessed_refused {tenantId : String} {signalType : SignalTypeValue} {limit : Nat}
    {claim : SignalProcessingClaim} (refused : ¬ (isUuid tenantId = true ∧ claim.valid = true)) :
    (claimUnprocessed now tenantId signalType limit claim).run s = (.error .zod, s) := by
  unfold claimUnprocessed
  simp only [Store.run_bind, Store.run_require]
  by_cases uuid : isUuid tenantId = true
  · rw [if_pos uuid]
    have unfit : ¬ claim.valid = true := fun fits => refused ⟨uuid, fits⟩
    simp [unfit]
  · rw [if_neg uuid]

/-- What ingesting a signal comes to: the record it repeats, a new one at the
end, or a refusal that may use up an id. -/
inductive Ingests (now : Instant) (params : IngestSignalParams) (s : InMemorySignalEventsRepository)
    (x : Except DbError IngestSignalResult) (t : InMemorySignalEventsRepository) : Prop where
  | repeated (r : SignalEventRecord) (found : s.duplicateOf params = some r)
      (answer : x = .ok ⟨r, true⟩) (same : t = s)
  | stored (fresh : s.duplicateOf params = none)
      (answer : x = .ok ⟨newRecord (s.sequence + 1) now params, false⟩)
      (written : t = { s.remember params with
        records := s.records ++ [newRecord (s.sequence + 1) now params]
        sequence := s.sequence + 1 })
      (valid : (newRecord (s.sequence + 1) now params).valid = true)
  | refused (fresh : isUuid params.tenantId = true → s.duplicateOf params = none)
      (answer : x = .error .zod) (records : t.records = s.records)
      (drawn : s.sequence ≤ t.sequence) (index : s.externalIdIndex ⊆ t.externalIdIndex)

@[simp] theorem remember_records (params : IngestSignalParams) :
    (s.remember params).records = s.records := by
  unfold remember
  split <;> rfl

@[simp] theorem remember_sequence (params : IngestSignalParams) :
    (s.remember params).sequence = s.sequence := by
  unfold remember
  split <;> rfl

theorem remember_index (params : IngestSignalParams) :
    s.externalIdIndex ⊆ (s.remember params).externalIdIndex := by
  unfold remember
  split
  · exact fun k member => List.mem_insert_of_mem member
  · exact fun k member => member

theorem ingest_ingests (now : Instant) (params : IngestSignalParams)
    (s : InMemorySignalEventsRepository) : (ingest now params).Ends s (Ingests now params s) := by
  refine Store.Ends.require_bind (fun _ => ?_) fun uuid => Store.Ends.read_bind ?_
  · rename_i refused
    exact .refused (fun uuid => absurd uuid refused) rfl rfl (Nat.le_refl _) fun k member => member
  · split
    · rename_i r found
      exact Store.Ends.pure (.repeated r found rfl rfl)
    · rename_i fresh
      refine Store.Ends.modify_bind (Store.Ends.modify_bind (Store.Ends.read_bind
        (Store.Ends.require_bind (fun _ => ?_) fun valid => Store.Ends.modify_bind
          (Store.Ends.pure ?_))))
      · exact .refused (fun _ => fresh) rfl (remember_records params) (by simp) (remember_index params)
      · dsimp only at valid ⊢
        rw [remember_sequence] at valid ⊢
        rw [remember_records]
        exact .stored fresh rfl rfl valid

theorem Ingests.ordered {params : IngestSignalParams} {x : Except DbError IngestSignalResult}
    (h : Ingests now params s x t) (before : s.Ordered) : t.Ordered := by
  cases h with
  | repeated r found answer same => exact same ▸ before
  | stored fresh answer written valid =>
    subst written
    refine ⟨?_, ?_, ?_⟩
    · refine List.pairwise_append.mpr ⟨before.ids, List.pairwise_singleton _ _, ?_⟩
      intro a member b new
      cases List.mem_singleton.mp new
      exact Nat.lt_succ_of_le (before.drawn a member)
    · intro r member
      rcases List.mem_append.mp member with old | new
      · exact Nat.le_succ_of_le (before.drawn r old)
      · cases List.mem_singleton.mp new
        exact Nat.le_refl _
    · intro r member
      rcases List.mem_append.mp member with old | new
      · exact before.valid r old
      · cases List.mem_singleton.mp new
        exact valid
  | refused fresh answer records drawn index =>
    exact ⟨records ▸ before.ids, fun r member => Nat.le_trans (before.drawn r (records ▸ member)) drawn,
      fun r member => before.valid r (records ▸ member)⟩

end

end InMemorySignalEventsRepository

end VantGrowth.Db
