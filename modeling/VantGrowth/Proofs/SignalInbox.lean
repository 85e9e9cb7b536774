import Mathlib.Data.List.Induction
import Mathlib.Data.List.Pairwise
import VantGrowth.Db.SignalEvents
import VantGrowth.Lib.Runs

namespace VantGrowth.Proofs.SignalInbox
open Db Db.InMemorySignalEventsRepository Lib

/-- A call of the repository. -/
inductive Call where
  | ingest (params : IngestSignalParams)
  | claimUnprocessed (tenantId : String) (signalType : SignalTypeValue) (limit : Nat)
      (claim : SignalProcessingClaim)
  | markProcessed (tenantId : String) (ids : List Nat)
  | releaseClaims (tenantId : String) (ids : List Nat) (owner : String)

/-- A call and what it came to. -/
inductive Event where
  | ingested (params : IngestSignalParams) (answer : Except DbError IngestSignalResult)
  | claimed (tenantId : String) (signalType : SignalTypeValue) (limit : Nat)
      (claim : SignalProcessingClaim) (answer : Except DbError (List SignalEventRecord))
  | marked (tenantId : String) (ids : List Nat)
  | released (tenantId : String) (ids : List Nat) (owner : String)

/-- An event, when it happened and the inbox it met. -/
structure Entry where
  time : Instant
  before : InMemorySignalEventsRepository
  event : Event

def perform (now : Instant) (s : InMemorySignalEventsRepository) :
    Call → Event × InMemorySignalEventsRepository
  | .ingest params =>
    let (answer, t) := (ingest now params).run s
    (.ingested params answer, t)
  | .claimUnprocessed tenantId signalType limit claim =>
    let (answer, t) := (claimUnprocessed now tenantId signalType limit claim).run s
    (.claimed tenantId signalType limit claim answer, t)
  | .markProcessed tenantId ids =>
    (.marked tenantId ids, ((markProcessed now tenantId ids).run s).2)
  | .releaseClaims tenantId ids owner =>
    (.released tenantId ids owner, ((releaseClaims tenantId ids owner).run s).2)

/-- What happened so far. -/
structure History where
  state : InMemorySignalEventsRepository
  clock : Instant
  log : List Entry

def opened (clock : Instant) : History := ⟨.empty, clock, []⟩

/-- The next call, some milliseconds later. -/
def next (h : History) (c : Nat × Call) : History :=
  let (event, t) := perform (h.clock + c.1) h.state c.2
  ⟨t, h.clock + c.1, h.log ++ [⟨h.clock + c.1, h.state, event⟩]⟩

/-- A signal is ingested without an external id or with one that is not empty. -/
def Call.named : Call → Bool
  | ingest params => params.externalId != some ""
  | _ => true

/-- The ids of the records a claim returned. -/
def Event.ids : Event → List Nat
  | claimed _ _ _ _ (.ok returned) => returned.map (·.id)
  | _ => []

/-- This id is released for its owner and tenant. -/
def Event.frees (owner tenantId : String) (id : Nat) : Event → Prop
  | released tenantId' ids owner' => owner' = owner ∧ tenantId' = tenantId ∧ id ∈ ids
  | _ => False

/-- What a claim returns are the oldest of the claimable records, in order, and
as many as the limit allows. -/
structure Oldest (s : InMemorySignalEventsRepository) (now : Instant) (tenantId : String)
    (signalType : SignalTypeValue) (limit : Nat) (returned : List SignalEventRecord) : Prop where
  increasing : returned.Pairwise fun a b => a.id < b.id
  free : ∀ r ∈ returned, ∃ old ∈ s.records, old.id = r.id ∧
    claimable now tenantId signalType old = true
  count : returned.length = min limit (s.records.countP (claimable now tenantId signalType))
  oldest : ∀ r ∈ s.records, claimable now tenantId signalType r = true →
    r.id ∈ returned.map (·.id) ∨ ∀ taken ∈ returned, taken.id < r.id

/-- The two records are of one signal. -/
def SameKey (a b : SignalEventRecord) : Prop :=
  a.tenantId = b.tenantId ∧ a.source = b.source ∧ a.externalId ≠ none ∧ a.externalId = b.externalId

/-- The inbox after any calls. -/
structure Inbox (h : History) : Prop where
  single : h.state.records.Pairwise fun a b => ¬ SameKey a b
  repeated : ∀ time before params answer, ⟨time, before, .ingested params answer⟩ ∈ h.log →
    ∀ r ∈ before.records, r.tenantId = params.tenantId → r.source = params.source →
      params.externalId ≠ none → r.externalId = params.externalId → answer = .ok ⟨r, true⟩
  settled : ∀ r ∈ h.state.records, r.processedAt ≠ none →
    r.processingLeaseOwner = none ∧ r.processingLeaseExpiresAt = none
  processed : ∀ a e b, h.log = a ++ e :: b → ∀ r ∈ e.before.records, r.processedAt ≠ none →
    ∀ f ∈ e :: b, r.id ∉ f.event.ids
  leased : ∀ a time before tenantId signalType limit claim answer b f c,
    h.log = a ++ ⟨time, before, .claimed tenantId signalType limit claim answer⟩ :: b ++ f :: c →
    ∀ id ∈ (Event.claimed tenantId signalType limit claim answer).ids,
      (∀ g ∈ b, ¬ g.event.frees claim.owner tenantId id) → f.time < time + claim.leaseMs.num →
      id ∉ f.event.ids
  attempts : ∀ r ∈ h.state.records,
    r.processingAttempts = h.log.countP fun e => e.event.ids.contains r.id
  oldest : ∀ time before tenantId signalType limit claim returned,
    ⟨time, before, .claimed tenantId signalType limit claim (.ok returned)⟩ ∈ h.log →
    Oldest before time tenantId signalType limit returned

/-- What a call does to the inbox. -/
inductive Change (now : Instant) (s : InMemorySignalEventsRepository) :
    Event → InMemorySignalEventsRepository → Prop where
  | ingested (params : IngestSignalParams) (answer : Except DbError IngestSignalResult)
      (t : InMemorySignalEventsRepository) (effect : Ingests now params s answer t) :
      Change now s (.ingested params answer) t
  | claimed (tenantId : String) (signalType : SignalTypeValue) (limit : Nat)
      (claim : SignalProcessingClaim) :
      Change now s (.claimed tenantId signalType limit claim
        (.ok ((s.taken now tenantId signalType limit).map (leased now claim))))
        { s with records := s.records.map (leaseIn now claim
          ((s.taken now tenantId signalType limit).map (·.id))) }
  | refused (tenantId : String) (signalType : SignalTypeValue) (limit : Nat)
      (claim : SignalProcessingClaim) (e : DbError) :
      Change now s (.claimed tenantId signalType limit claim (.error e)) s
  | marked (tenantId : String) (ids : List Nat) :
      Change now s (.marked tenantId ids) { s with
        records := s.records.map fun r =>
          if r.tenantId = tenantId ∧ r.id ∈ ids ∧ r.processedAt = none then processed now r else r }
  | released (tenantId : String) (ids : List Nat) (owner : String) :
      Change now s (.released tenantId ids owner) { s with
        records := s.records.map fun r =>
          if r.tenantId = tenantId ∧ r.id ∈ ids ∧ r.processedAt = none ∧
            r.processingLeaseOwner = some owner then released r else r }

section
variable {now : Instant} {s t : InMemorySignalEventsRepository} {event : Event}

theorem perform_change (now : Instant) (h : s.Ordered) (c : Call) :
    Change now s (perform now s c).1 (perform now s c).2 := by
  cases c with
  | ingest params => exact .ingested params _ _ (ingest_ingests now params s)
  | claimUnprocessed tenantId signalType limit claim =>
    by_cases fits : isUuid tenantId = true ∧ claim.valid = true
    · simp only [perform, claimUnprocessed_run h fits.1 signalType limit fits.2]
      exact .claimed tenantId signalType limit claim
    · simp only [perform, claimUnprocessed_refused fits]
      exact .refused tenantId signalType limit claim .zod
  | markProcessed tenantId ids => exact .marked tenantId ids
  | releaseClaims tenantId ids owner => exact .released tenantId ids owner

/-- A record that was changed in place is still the record of its signal. -/
structure SameSignal (a b : SignalEventRecord) : Prop where
  id : b.id = a.id
  tenant : b.tenantId = a.tenantId
  source : b.source = a.source
  external : b.externalId = a.externalId

/-- How one record may change: a lease is only replaced when none is in force,
and a processed record stays as it is. -/
structure Moves (now : Instant) (event : Event) (a b : SignalEventRecord) : Prop where
  same : SameSignal a b
  processed : a.processedAt ≠ none → b.processedAt ≠ none
  settled : (a.processedAt ≠ none → a.processingLeaseOwner = none ∧ a.processingLeaseExpiresAt = none) →
    b.processedAt ≠ none → b.processingLeaseOwner = none ∧ b.processingLeaseExpiresAt = none
  attempts : b.processingAttempts = a.processingAttempts + if event.ids.contains a.id then 1 else 0
  held : ∀ owner expires, a.processingLeaseOwner = some owner →
    a.processingLeaseExpiresAt = some expires → now < expires →
    ¬ event.frees owner a.tenantId a.id → b.processedAt ≠ none ∨
      b.processingLeaseOwner = some owner ∧ b.processingLeaseExpiresAt = some expires

theorem Moves.still (now : Instant) {a : SignalEventRecord} (silent : a.id ∉ event.ids) :
    Moves now event a a := by
  refine ⟨⟨rfl, rfl, rfl, rfl⟩, id, id, ?_, fun owner expires hOwner hExpires _ _ => Or.inr
    ⟨hOwner, hExpires⟩⟩
  simp [silent]

theorem mem_taken {tenantId : String} {signalType : SignalTypeValue} {limit : Nat}
    {r : SignalEventRecord} (member : r ∈ s.taken now tenantId signalType limit) :
    r ∈ s.records ∧ claimable now tenantId signalType r = true :=
  List.mem_filter.mp (List.take_subset _ _ member)

/-- A record with the id of one that is taken is taken. -/
theorem taken_id (h : s.Ordered) {tenantId : String} {signalType : SignalTypeValue} {limit : Nat}
    {r : SignalEventRecord} (stored : r ∈ s.records)
    (id : r.id ∈ (s.taken now tenantId signalType limit).map (·.id)) :
    claimable now tenantId signalType r = true := by
  obtain ⟨old, member, same⟩ := List.mem_map.mp id
  obtain ⟨there, free⟩ := mem_taken member
  exact h.same_id there stored same ▸ free

theorem lease_moves (h : s.Ordered) (tenantId : String) (signalType : SignalTypeValue) (limit : Nat)
    (claim : SignalProcessingClaim) {r : SignalEventRecord} (stored : r ∈ s.records) :
    Moves now (.claimed tenantId signalType limit claim
      (.ok ((s.taken now tenantId signalType limit).map (leased now claim)))) r
      (leaseIn now claim ((s.taken now tenantId signalType limit).map (·.id)) r) := by
  have ids : (Event.claimed tenantId signalType limit claim
      (.ok ((s.taken now tenantId signalType limit).map (leased now claim)))).ids =
        (s.taken now tenantId signalType limit).map (·.id) := by
    simp [Event.ids, leased, Function.comp_def]
  by_cases member : r.id ∈ (s.taken now tenantId signalType limit).map (·.id)
  · have free := taken_id h stored member
    simp only [claimable, Bool.and_eq_true, Option.isNone_iff_eq_none] at free
    have moved : leaseIn now claim ((s.taken now tenantId signalType limit).map (·.id)) r =
        leased now claim r := if_pos member
    rw [moved]
    refine ⟨⟨rfl, rfl, rfl, rfl⟩, id, ?_, ?_, ?_⟩
    · intro _ done
      exact absurd free.1.2 done
    · rw [ids]
      simp only [List.contains_iff_mem, member, if_true]
      rfl
    · intro owner expires _ hExpires unexpired _
      rw [hExpires] at free
      have lapsed : expires ≤ now := by simpa using free.2
      exact absurd unexpired (not_lt.mpr lapsed)
  · have kept : leaseIn now claim ((s.taken now tenantId signalType limit).map (·.id)) r = r :=
      if_neg member
    rw [kept]
    exact .still now (ids ▸ member)

theorem mark_moves (tenantId : String) (ids : List Nat) (r : SignalEventRecord) :
    Moves now (.marked tenantId ids) r
      (if r.tenantId = tenantId ∧ r.id ∈ ids ∧ r.processedAt = none then processed now r else r) := by
  split
  · exact ⟨⟨rfl, rfl, rfl, rfl⟩, fun _ => by simp [processed], fun _ _ => ⟨rfl, rfl⟩, rfl,
      fun _ _ _ _ _ _ => Or.inl (by simp [processed])⟩
  · exact .still now List.not_mem_nil

theorem release_moves (tenantId : String) (ids : List Nat) (owner : String) (r : SignalEventRecord) :
    Moves now (.released tenantId ids owner) r
      (if r.tenantId = tenantId ∧ r.id ∈ ids ∧ r.processedAt = none ∧
        r.processingLeaseOwner = some owner then released r else r) := by
  split
  · rename_i hit
    refine ⟨⟨rfl, rfl, rfl, rfl⟩, fun done => absurd hit.2.2.1 done, fun _ _ => ⟨rfl, rfl⟩, rfl, ?_⟩
    intro owner' expires held _ _ kept
    obtain rfl : owner' = owner := Option.some.inj (held.symm.trans hit.2.2.2)
    exact absurd ⟨rfl, hit.1.symm, hit.2.1⟩ kept
  · exact .still now List.not_mem_nil

/-- A call ingests a signal, or it changes records in place. -/
theorem Change.moves (change : Change now s event t) (h : s.Ordered) :
    (∃ params answer, event = .ingested params answer ∧ Ingests now params s answer t) ∨
      ∃ f, t = { s with records := s.records.map f } ∧ ∀ r ∈ s.records, Moves now event r (f r) := by
  cases change with
  | ingested params answer t effect => exact Or.inl ⟨params, answer, rfl, effect⟩
  | claimed tenantId signalType limit claim =>
    exact Or.inr ⟨_, rfl, fun r stored => lease_moves h tenantId signalType limit claim stored⟩
  | refused tenantId signalType limit claim e =>
    refine Or.inr ⟨id, ?_, fun r _ => .still now List.not_mem_nil⟩
    rw [List.map_id]
  | marked tenantId ids => exact Or.inr ⟨_, rfl, fun r _ => mark_moves tenantId ids r⟩
  | released tenantId ids owner => exact Or.inr ⟨_, rfl, fun r _ => release_moves tenantId ids owner r⟩

/-- A claim returns copies of stored records that were claimable. -/
theorem Change.claimed_free (change : Change now s event t) {id : Nat} (member : id ∈ event.ids) :
    ∃ r ∈ s.records, r.id = id ∧ r.processedAt = none ∧
      r.processingLeaseExpiresAt.all (· ≤ now) = true := by
  cases change with
  | claimed tenantId signalType limit claim =>
    simp only [Event.ids, List.map_map, List.mem_map, Function.comp_apply] at member
    obtain ⟨r, taken, rfl⟩ := member
    obtain ⟨stored, free⟩ := mem_taken taken
    simp only [claimable, Bool.and_eq_true, Option.isNone_iff_eq_none] at free
    exact ⟨r, stored, rfl, free.1.2, free.2⟩
  | ingested params answer t effect => cases member
  | refused tenantId signalType limit claim e => cases member
  | marked tenantId ids => cases member
  | released tenantId ids owner => cases member

/-- The bookkeeping the inbox rests on: every external id is indexed. -/
structure Indexed (s : InMemorySignalEventsRepository) : Prop where
  ordered : s.Ordered
  single : s.records.Pairwise fun a b => ¬ SameKey a b
  indexed : ∀ r ∈ s.records, ∀ e, r.externalId = some e →
    e ≠ "" ∧ externalKey r.tenantId r.source e ∈ s.externalIdIndex
  settled : ∀ r ∈ s.records, r.processedAt ≠ none →
    r.processingLeaseOwner = none ∧ r.processingLeaseExpiresAt = none

theorem SameKey.symm {a b : SignalEventRecord} (h : SameKey a b) : SameKey b a :=
  ⟨h.1.symm, h.2.1.symm, h.2.2.2 ▸ h.2.2.1, h.2.2.2.symm⟩

/-- The record of a signal is found by its key. -/
theorem Indexed.found (h : Indexed s) {params : IngestSignalParams} {r : SignalEventRecord}
    (stored : r ∈ s.records) (tenant : r.tenantId = params.tenantId) (source : r.source = params.source)
    (given : params.externalId ≠ none) (external : r.externalId = params.externalId) :
    s.duplicateOf params = some r := by
  obtain ⟨e, he⟩ := Option.ne_none_iff_exists'.mp given
  obtain ⟨filled, key⟩ := h.indexed r stored e (external.trans he)
  have there : ∃ a ∈ s.records, sameSignal params.tenantId params.source e a = true :=
    ⟨r, stored, by simp [sameSignal, tenant, source, external, he]⟩
  obtain ⟨a, found⟩ := Option.isSome_iff_exists.mp (List.find?_isSome.mpr there)
  have hit := List.find?_some found
  simp only [sameSignal, Bool.and_eq_true, beq_iff_eq] at hit
  have same : a = r := by
    by_contra other
    have symmetric : Std.Symm fun a b => ¬ SameKey a b := ⟨fun _ _ apart same => apart same.symm⟩
    have apart := h.single.forall (List.mem_of_find?_eq_some found) stored other
    refine apart ⟨hit.1.1.trans tenant.symm, hit.1.2.trans source.symm, by simp [hit.2], ?_⟩
    rw [hit.2, external, he]
  rw [tenant, source] at key
  have givenId : IngestSignalParams.givenId params = some e := by
    simp [IngestSignalParams.givenId, he, filled]
  simp [duplicateOf, givenId, key, found, same]

theorem empty_indexed : Indexed .empty :=
  ⟨empty_ordered, List.Pairwise.nil, by rintro r ⟨⟩, by rintro r ⟨⟩⟩

theorem Indexed.ingested (h : Indexed s) {params : IngestSignalParams}
    (named : params.externalId ≠ some "") {answer : Except DbError IngestSignalResult}
    (effect : Ingests now params s answer t) : Indexed t := by
  have ordered := effect.ordered h.ordered
  cases effect with
  | repeated r found answered same => exact same ▸ h
  | refused fresh answered records drawn index =>
    exact ⟨ordered, records ▸ h.single, fun r stored e external =>
      have old := h.indexed r (records ▸ stored) e external
      ⟨old.1, index old.2⟩, fun r stored => h.settled r (records ▸ stored)⟩
  | stored fresh answered written valid =>
    subst written
    refine ⟨ordered, ?_, ?_, ?_⟩
    · refine List.pairwise_append.mpr ⟨h.single, List.pairwise_singleton _ _, ?_⟩
      intro a member b new same
      cases List.mem_singleton.mp new
      have found := h.found member same.1 same.2.1 (fun none_ => same.2.2.1 (same.2.2.2.trans none_))
        same.2.2.2
      rw [fresh] at found
      cases found
    · intro r member e external
      rcases List.mem_append.mp member with old | new
      · have before := h.indexed r old e external
        exact ⟨before.1, remember_index params before.2⟩
      · cases List.mem_singleton.mp new
        have given : params.externalId = some e := external
        have filled : e ≠ "" := fun empty => named (empty ▸ given)
        refine ⟨filled, ?_⟩
        have givenId : IngestSignalParams.givenId params = some e := by
          simp [IngestSignalParams.givenId, given, filled]
        unfold remember
        rw [givenId]
        exact List.mem_insert_self
    · intro r member done
      rcases List.mem_append.mp member with old | new
      · exact h.settled r old done
      · cases List.mem_singleton.mp new
        exact absurd rfl done

theorem Indexed.moved (h : Indexed s) {f : SignalEventRecord → SignalEventRecord}
    (moves : ∀ r ∈ s.records, Moves now event r (f r)) :
    Indexed { s with records := s.records.map f } := by
  refine ⟨⟨?_, ?_, ?_⟩, ?_, ?_, ?_⟩
  · refine List.pairwise_map.mpr (h.ordered.ids.imp_of_mem ?_)
    intro a b ha hb less
    rwa [(moves a ha).same.id, (moves b hb).same.id]
  · intro r member
    obtain ⟨old, stored, rfl⟩ := List.mem_map.mp member
    rw [(moves old stored).same.id]
    exact h.ordered.drawn old stored
  · intro r member
    obtain ⟨old, stored, rfl⟩ := List.mem_map.mp member
    have same := (moves old stored).same
    unfold SignalEventRecord.valid
    rw [same.tenant, same.source]
    exact h.ordered.valid old stored
  · refine List.pairwise_map.mpr (h.single.imp_of_mem ?_)
    intro a b ha hb apart key
    have one := (moves a ha).same
    have other := (moves b hb).same
    refine apart ⟨?_, ?_, ?_, ?_⟩
    · rw [← one.tenant, key.1, other.tenant]
    · rw [← one.source, key.2.1, other.source]
    · rw [← one.external]
      exact key.2.2.1
    · rw [← one.external, key.2.2.2, other.external]
  · intro r member e external
    obtain ⟨old, stored, rfl⟩ := List.mem_map.mp member
    have same := (moves old stored).same
    rw [same.tenant, same.source]
    exact h.indexed old stored e (same.external ▸ external)
  · intro r member
    obtain ⟨old, stored, rfl⟩ := List.mem_map.mp member
    exact (moves old stored).settled (h.settled old stored)

/-- Every stored record is there after a call, as the call may change it. -/
theorem Change.survives (change : Change now s event t) (h : s.Ordered) {r : SignalEventRecord}
    (stored : r ∈ s.records) : ∃ r' ∈ t.records, Moves now event r r' := by
  rcases change.moves h with ⟨params, answer, rfl, effect⟩ | ⟨f, rfl, moves⟩
  · refine ⟨r, ?_, .still now List.not_mem_nil⟩
    cases effect with
    | repeated r' found answered same => exact same ▸ stored
    | refused fresh answered records drawn index => exact records ▸ stored
    | stored fresh answered written valid =>
      subst written
      exact List.mem_append_left _ stored
  · exact ⟨f r, List.mem_map_of_mem stored, moves r stored⟩

/-- Every record after a call was there before it, or is a new one that was
never claimed. -/
theorem Change.origin (change : Change now s event t) (h : s.Ordered) {r' : SignalEventRecord}
    (stored : r' ∈ t.records) : (∃ r ∈ s.records, Moves now event r r') ∨
      s.sequence < r'.id ∧ r'.processingAttempts = 0 ∧ event.ids = [] := by
  rcases change.moves h with ⟨params, answer, rfl, effect⟩ | ⟨f, rfl, moves⟩
  · cases effect with
    | repeated r found answered same =>
      exact Or.inl ⟨r', same ▸ stored, .still now List.not_mem_nil⟩
    | refused fresh answered records drawn index =>
      exact Or.inl ⟨r', records ▸ stored, .still now List.not_mem_nil⟩
    | stored fresh answered written valid =>
      subst written
      rcases List.mem_append.mp stored with old | new
      · exact Or.inl ⟨r', old, .still now List.not_mem_nil⟩
      · cases List.mem_singleton.mp new
        exact Or.inr ⟨Nat.lt_succ_self _, rfl, rfl⟩
  · obtain ⟨r, there, rfl⟩ := List.mem_map.mp stored
    exact Or.inl ⟨r, there, moves r there⟩

theorem Change.drawn (change : Change now s event t) (h : s.Ordered) : s.sequence ≤ t.sequence := by
  rcases change.moves h with ⟨params, answer, rfl, effect⟩ | ⟨f, rfl, moves⟩
  · cases effect with
    | repeated r found answered same => exact same ▸ Nat.le_refl _
    | refused fresh answered records drawn index => exact drawn
    | stored fresh answered written valid =>
      subst written
      exact Nat.le_succ _
  · exact Nat.le_refl _

/-- What a claim returned is leased to its owner. -/
theorem Change.leases {tenantId : String} {signalType : SignalTypeValue} {limit : Nat}
    {claim : SignalProcessingClaim} {answer : Except DbError (List SignalEventRecord)}
    (change : Change now s (.claimed tenantId signalType limit claim answer) t) {id : Nat}
    (member : id ∈ (Event.claimed tenantId signalType limit claim answer).ids) :
    ∃ r ∈ t.records, r.id = id ∧ r.tenantId = tenantId ∧ r.processingLeaseOwner = some claim.owner ∧
      r.processingLeaseExpiresAt = some (now + claim.leaseMs.num) := by
  cases change with
  | refused _ _ _ _ e => cases member
  | claimed =>
    simp only [Event.ids, List.map_map, List.mem_map, Function.comp_apply] at member
    obtain ⟨r, taken, rfl⟩ := member
    obtain ⟨stored, free⟩ := mem_taken taken
    simp only [claimable, Bool.and_eq_true, beq_iff_eq] at free
    have moved : leaseIn now claim ((s.taken now tenantId signalType limit).map (·.id)) r =
        leased now claim r := if_pos (List.mem_map_of_mem taken)
    refine ⟨_, List.mem_map_of_mem stored, ?_⟩
    rw [moved]
    exact ⟨rfl, free.1.1.1, rfl, rfl⟩

theorem Change.oldest {tenantId : String} {signalType : SignalTypeValue} {limit : Nat}
    {claim : SignalProcessingClaim} {returned : List SignalEventRecord} (h : s.Ordered)
    (change : Change now s (.claimed tenantId signalType limit claim (.ok returned)) t) :
    Oldest s now tenantId signalType limit returned := by
  cases change with
  | claimed =>
    have sorted : (s.records.filter (claimable now tenantId signalType)).Pairwise
        fun a b => a.id < b.id := h.ids.filter _
    refine ⟨?_, ?_, ?_, ?_⟩
    · exact List.pairwise_map.mpr (sorted.sublist (List.take_sublist _ _))
    · intro r member
      obtain ⟨old, taken, rfl⟩ := List.mem_map.mp member
      obtain ⟨stored, free⟩ := mem_taken taken
      exact ⟨old, stored, rfl, free⟩
    · simp [taken, List.countP_eq_length_filter]
    · intro r stored free
      have member : r ∈ s.records.filter (claimable now tenantId signalType) :=
        List.mem_filter.mpr ⟨stored, free⟩
      rw [← List.take_append_drop limit (s.records.filter _)] at member sorted
      rcases List.mem_append.mp member with early | late
      · refine Or.inl (List.mem_map.mpr ⟨leased now claim r, List.mem_map_of_mem early, rfl⟩)
      · refine Or.inr fun taken' there => ?_
        obtain ⟨old, early, rfl⟩ := List.mem_map.mp there
        exact (List.pairwise_append.mp sorted).2.2 old early r late

end

/-- What the inbox remembers of the calls so far. -/
structure Kept (h : History) : Prop where
  indexed : Indexed h.state
  past : ∀ e ∈ h.log, e.time ≤ h.clock
  drawn : ∀ e ∈ h.log, ∀ id ∈ e.event.ids, id ≤ h.state.sequence
  closed : ∀ e ∈ h.log, ∀ r ∈ e.before.records, r.processedAt ≠ none →
    ∃ r' ∈ h.state.records, r'.id = r.id ∧ r'.processedAt ≠ none
  held : ∀ a time before tenantId signalType limit claim answer b,
    h.log = a ++ ⟨time, before, .claimed tenantId signalType limit claim answer⟩ :: b →
    ∀ id ∈ (Event.claimed tenantId signalType limit claim answer).ids,
      (∀ g ∈ b, ¬ g.event.frees claim.owner tenantId id) →
      ∃ r ∈ h.state.records, r.id = id ∧ r.tenantId = tenantId ∧ (r.processedAt ≠ none ∨
        time + claim.leaseMs.num ≤ h.clock ∨ r.processingLeaseOwner = some claim.owner ∧
          r.processingLeaseExpiresAt = some (time + claim.leaseMs.num))

theorem opened_kept (clock : Instant) : Kept (opened clock) := by
  refine ⟨empty_indexed, by rintro e ⟨⟩, by rintro e ⟨⟩, by rintro e ⟨⟩, ?_⟩
  intro a time before tenantId signalType limit claim answer b split
  simp [opened] at split

theorem opened_inbox (clock : Instant) : Inbox (opened clock) := by
  refine ⟨List.Pairwise.nil, by rintro time before params answer ⟨⟩, by rintro r ⟨⟩, ?_, ?_,
    by rintro r ⟨⟩, by rintro time before tenantId signalType limit claim returned ⟨⟩⟩
  · intro a e b split
    simp [opened] at split
  · intro a time before tenantId signalType limit claim answer b f c split
    simp [opened] at split

section
variable {h : History} {elapsed : Nat} {call : Call}

/-- The entry a call adds to the log. -/
def entryOf (h : History) (c : Nat × Call) : Entry :=
  ⟨h.clock + c.1, h.state, (perform (h.clock + c.1) h.state c.2).1⟩

theorem next_log (h : History) (c : Nat × Call) : (next h c).log = h.log ++ [entryOf h c] := rfl

theorem next_change (kept : Kept h) (c : Nat × Call) :
    Change (h.clock + c.1) h.state (entryOf h c).event (next h c).state :=
  perform_change _ kept.indexed.ordered c.2

theorem next_indexed (kept : Kept h) {c : Nat × Call} (named : c.2.named = true) :
    Indexed (next h c).state := by
  rcases (next_change kept c).moves kept.indexed.ordered with
    ⟨params, answer, event, effect⟩ | ⟨f, written, moves⟩
  · obtain ⟨elapsed, call⟩ := c
    cases call with
    | ingest params' =>
      cases event
      exact kept.indexed.ingested (by simpa [Call.named] using named) effect
    | claimUnprocessed tenantId signalType limit claim => cases event
    | markProcessed tenantId ids => cases event
    | releaseClaims tenantId ids owner => cases event
  · rw [written]
    exact kept.indexed.moved moves

theorem next_kept (kept : Kept h) {c : Nat × Call} (named : c.2.named = true) :
    Kept (next h c) := by
  have change := next_change kept c
  have ordered := kept.indexed.ordered
  have clock : h.clock ≤ (next h c).clock := Int.le_add_of_nonneg_right (Int.natCast_nonneg c.1)
  refine ⟨next_indexed kept named, ?_, ?_, ?_, ?_⟩
  · intro e member
    rw [next_log] at member
    rcases List.mem_append.mp member with old | new
    · exact le_trans (kept.past e old) clock
    · cases List.mem_singleton.mp new
      exact le_refl _
  · intro e member id claimed
    rw [next_log] at member
    refine Nat.le_trans ?_ (change.drawn ordered)
    rcases List.mem_append.mp member with old | new
    · exact kept.drawn e old id claimed
    · cases List.mem_singleton.mp new
      obtain ⟨r, stored, rfl, _⟩ := change.claimed_free claimed
      exact ordered.drawn r stored
  · intro e member r stored done
    rw [next_log] at member
    obtain ⟨old, there, same, closed⟩ : ∃ r' ∈ h.state.records, r'.id = r.id ∧ r'.processedAt ≠ none := by
      rcases List.mem_append.mp member with old | new
      · exact kept.closed e old r stored done
      · cases List.mem_singleton.mp new
        exact ⟨r, stored, rfl, done⟩
    obtain ⟨r', after, moves⟩ := change.survives ordered there
    exact ⟨r', after, moves.same.id.trans same, moves.processed closed⟩
  · intro a time before tenantId signalType limit claim answer b split id claimed unreleased
    rw [next_log] at split
    rcases List.eq_nil_or_concat b with rfl | ⟨b, last, rfl⟩
    · obtain ⟨rfl, entry⟩ := List.append_inj' split rfl
      have same : entryOf h c = ⟨time, before, .claimed tenantId signalType limit claim answer⟩ := by
        simpa using entry
      have event := congrArg Entry.event same
      have at_ : h.clock + c.1 = time := congrArg Entry.time same
      rw [event] at change
      obtain ⟨r, stored, rid, tenant, owner, expires⟩ := change.leases claimed
      exact ⟨r, stored, rid, tenant, Or.inr (Or.inr ⟨owner, at_ ▸ expires⟩)⟩
    · rw [List.concat_eq_append, ← List.cons_append, ← List.append_assoc] at split
      obtain ⟨before_, entry⟩ := List.append_inj' split rfl
      obtain rfl : entryOf h c = last := by simpa using entry
      obtain ⟨r, stored, rid, tenant, state⟩ := kept.held a time before tenantId signalType limit claim
        answer b before_ id claimed fun g member => unreleased g (by simp [member])
      obtain ⟨r', after, moves⟩ := change.survives ordered stored
      refine ⟨r', after, moves.same.id.trans rid, moves.same.tenant.trans tenant, ?_⟩
      rcases state with done | expired | ⟨owner, expires⟩
      · exact Or.inl (moves.processed done)
      · exact Or.inr (Or.inl (le_trans expired clock))
      · by_cases unexpired : h.clock + c.1 < time + claim.leaseMs.num
        · have mine : ¬ (entryOf h c).event.frees claim.owner r.tenantId r.id := by
            rw [rid, tenant]
            exact unreleased _ (by simp)
          rcases moves.held _ _ owner expires unexpired mine with done | same
          · exact Or.inl done
          · exact Or.inr (Or.inr same)
        · exact Or.inr (Or.inl (not_lt.mp unexpired))

theorem next_inbox (kept : Kept h) (inbox : Inbox h) {c : Nat × Call} (named : c.2.named = true) :
    Inbox (next h c) := by
  have change := next_change kept c
  have ordered := kept.indexed.ordered
  have after := next_indexed kept named
  refine ⟨after.single, ?_, after.settled, ?_, ?_, ?_, ?_⟩
  · intro time before params answer member r stored tenant source given external
    rw [next_log] at member
    rcases List.mem_append.mp member with old | new
    · exact inbox.repeated time before params answer old r stored tenant source given external
    · have same := List.mem_singleton.mp new
      have event := congrArg Entry.event same
      have state := congrArg Entry.before same
      dsimp only at event state
      subst state
      rw [← event] at change
      have found := kept.indexed.found stored tenant source given external
      cases change with
      | ingested _ _ _ effect =>
        cases effect with
        | repeated r' found' answered same =>
          rw [found] at found'
          cases found'
          exact answered
        | stored fresh answered written valid =>
          rw [found] at fresh
          cases fresh
        | refused fresh answered records drawn index =>
          have uuid : isUuid params.tenantId = true := by
            have valid := ordered.valid r stored
            simp only [SignalEventRecord.valid, Bool.and_eq_true] at valid
            exact tenant ▸ valid.1
          rw [fresh uuid] at found
          cases found
  · intro a e b split r stored done f member claimed
    rw [next_log] at split
    -- a claim the new call makes returns no record that was processed
    have last : ∀ g ∈ h.log ++ [entryOf h c], (∃ r' ∈ g.before.records, r'.id = r.id ∧
        r'.processedAt ≠ none) → r.id ∉ (entryOf h c).event.ids := by
      rintro g there ⟨old, earlier, same, closed⟩ now_
      obtain ⟨r', present, id', closed'⟩ : ∃ r' ∈ h.state.records, r'.id = r.id ∧
          r'.processedAt ≠ none := by
        rcases List.mem_append.mp there with before | new
        · obtain ⟨r', present, id', closed'⟩ := kept.closed g before old earlier closed
          exact ⟨r', present, id'.trans same, closed'⟩
        · cases List.mem_singleton.mp new
          exact ⟨old, earlier, same, closed⟩
      obtain ⟨free, stored', rid, none_, _⟩ := change.claimed_free now_
      have one := ordered.same_id present stored' (id'.trans rid.symm)
      exact closed' (one ▸ none_)
    have there : e ∈ h.log ++ [entryOf h c] := split ▸ List.mem_append_right _ List.mem_cons_self
    rcases List.eq_nil_or_concat b with rfl | ⟨b, tail, rfl⟩
    · obtain ⟨rfl, entry⟩ := List.append_inj' split rfl
      obtain rfl : entryOf h c = e := by simpa using entry
      cases List.mem_singleton.mp member
      exact last _ there ⟨r, stored, rfl, done⟩ claimed
    · rw [List.concat_eq_append, ← List.cons_append, ← List.append_assoc] at split
      obtain ⟨before_, entry⟩ := List.append_inj' split rfl
      obtain rfl : entryOf h c = tail := by simpa using entry
      rw [List.concat_eq_append, ← List.cons_append] at member
      rcases List.mem_append.mp member with old | new
      · exact inbox.processed a e b before_ r stored done f old claimed
      · cases List.mem_singleton.mp new
        exact last e there ⟨r, stored, rfl, done⟩ claimed
  · intro a time before tenantId signalType limit claim answer b f d split id claimed unreleased early
    rw [next_log] at split
    rcases List.eq_nil_or_concat d with rfl | ⟨d, tail, rfl⟩
    · obtain ⟨before_, entry⟩ := List.append_inj' split rfl
      obtain rfl : entryOf h c = f := by simpa using entry
      obtain ⟨r, stored, rfl, _, state⟩ := kept.held a time before tenantId signalType limit claim
        answer b before_ id claimed unreleased
      intro again
      obtain ⟨free, stored', rid, none_, lapsed⟩ := change.claimed_free again
      obtain rfl := ordered.same_id stored' stored rid
      rcases state with done | expired | ⟨_, expires⟩
      · exact done none_
      · have later : h.clock ≤ h.clock + c.1 := Int.le_add_of_nonneg_right (Int.natCast_nonneg c.1)
        exact absurd early (not_lt.mpr (le_trans expired later))
      · rw [expires] at lapsed
        have ended : time + claim.leaseMs.num ≤ h.clock + c.1 := by simpa using lapsed
        exact absurd early (not_lt.mpr ended)
    · rw [List.concat_eq_append, ← List.cons_append, ← List.append_assoc] at split
      obtain ⟨before_, _⟩ := List.append_inj' split rfl
      exact inbox.leased a time before tenantId signalType limit claim answer b f d before_ id claimed
        unreleased early
  · intro r' stored
    rw [next_log, List.countP_append, List.countP_singleton]
    rcases change.origin ordered stored with ⟨r, there, moves⟩ | ⟨fresh, never, silent⟩
    · rw [moves.attempts, inbox.attempts r there, moves.same.id]
    · have none_ : h.log.countP (fun e => e.event.ids.contains r'.id) = 0 := by
        refine List.countP_eq_zero.mpr fun e member claimed => ?_
        have bound := kept.drawn e member r'.id (by simpa using claimed)
        omega
      rw [never, none_, silent]
      rfl
  · intro time before tenantId signalType limit claim returned member
    rw [next_log] at member
    rcases List.mem_append.mp member with old | new
    · exact inbox.oldest time before tenantId signalType limit claim returned old
    · have same := List.mem_singleton.mp new
      have event := congrArg Entry.event same
      have state := congrArg Entry.before same
      have at_ := congrArg Entry.time same
      dsimp only at event state at_
      rw [← event] at change
      rw [state, at_]
      exact change.oldest ordered

/-- The inbox after any calls at times that never go back, where signals are
ingested without an external id or with one that is not empty. -/
theorem inbox_holds (clock : Instant) (calls : List (Nat × Call))
    (named : ∀ c ∈ calls, c.2.named = true) : Inbox (runs next (opened clock) calls) := by
  suffices both : Kept (runs next (opened clock) calls) ∧ Inbox (runs next (opened clock) calls) from
    both.2
  induction calls using List.reverseRecOn with
  | nil => exact ⟨opened_kept clock, opened_inbox clock⟩
  | append_singleton calls c ih =>
    obtain ⟨kept, inbox⟩ := ih fun d member => named d (List.mem_append_left _ member)
    have last : c.2.named = true := named c (by simp)
    rw [runs_append]
    exact ⟨next_kept kept last, next_inbox kept inbox last⟩

end

def acme : String := "00000000-0000-4000-8000-000000000001"

def pricingChange : IngestSignalParams where
  tenantId := acme
  signalType := .competitive
  source := "competitor.watch"
  externalId := some "pricing-1"
  payload := [("kind", .str "competitor.pricing_change")]

/-- Two routers take turns on a signal that is reported twice. -/
def sharedInbox : List (Nat × Call) :=
  [(0, .ingest pricingChange), (5, .ingest pricingChange),
    (10, .claimUnprocessed acme .competitive 50 ⟨"router-1", 60000⟩),
    (20, .claimUnprocessed acme .competitive 50 ⟨"router-2", 60000⟩),
    (60000, .claimUnprocessed acme .competitive 50 ⟨"router-2", 60000⟩),
    (1, .releaseClaims acme [1] "router-1"), (1, .markProcessed acme [1])]

theorem shared_inbox_holds : Inbox (runs next (opened 0) sharedInbox) :=
  inbox_holds 0 sharedInbox (by decide)

end VantGrowth.Proofs.SignalInbox
