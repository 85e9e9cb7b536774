import VantGrowth.Db.PostgresSignalEvents

namespace VantGrowth.Proofs.SignalClaims
open Db Lib Lib.RowLocks Lib.Prog
open Db.InMemorySignalEventsRepository (claimable leased processed released newRecord)
open Db.PostgresSignalEventsRepository

abbrev Record := SignalEventRecord

abbrev Steps := History Nat Record

abbrev Entry := RowLocks.Entry Nat Record Call (List Record)

abbrev Log := List Entry

/-- What a call may make of a row. -/
inductive Changes : Call → Record → Record → Prop where
  | leases (now : Instant) (tenantId : String) (signalType : SignalTypeValue) (limit : Nat)
      (claim : SignalProcessingClaim) (old : Record) (valid : claim.valid = true)
      (free : claimable now (uuidColumn tenantId) signalType old = true) :
      Changes (.claimUnprocessed now tenantId signalType limit claim) old (leased now claim old)
  | finishes (now : Instant) (tenantId : String) (ids : List Nat) (old : Record)
      (mine : old.tenantId = uuidColumn tenantId) (open_ : old.processedAt = none) :
      Changes (.markProcessed now tenantId ids) old (processed now old)
  | frees (tenantId : String) (ids : List Nat) (owner : String) (old : Record)
      (mine : old.tenantId = uuidColumn tenantId) (held : old.processingLeaseOwner = some owner)
      (open_ : old.processedAt = none) : Changes (.releaseClaims tenantId ids owner) old (released old)

/-- A call may write this of what it locked, if nothing it locked was told in two
versions. -/
def Justified (s : Call) (h : Steps) (k : Nat) (v : Record) : Prop :=
  ∃ old, Locked h k old ∧ ((∀ r, Locked h k r → r = old) → Changes s old v)

def Admitted (s : Call) (h : Steps) (op : RowOp Nat Record) : Prop :=
  Careful h op ∧ ∀ k v, op = .write k v → Justified s h k v

/-- Nothing has been written yet. -/
def Fresh (h : Steps) : Prop := ∀ k row, ¬ Wrote h k row

section
variable {s : Call} {where_ : Row → Bool} {h : Steps}

theorem Fresh.snoc (fresh : Fresh h) {d : Did RowRes} (reads : writing d = none) : Fresh (h ++ [d]) := by
  intro k row wrote
  rcases wrote_snoc.mp wrote with before | now
  · exact fresh k row before
  · rw [reads] at now
    cases now

theorem meets_select (rows : List Row) (limit : Nat) (fresh : Fresh h) :
    Meets (Admitted s) (fun h' ids => Fresh h' ∧ ids.length ≤ limit ∧
      ∀ id ∈ ids, ∃ r, Locked h' id r ∧ where_ (id, r) = true) h (selectForUpdate where_ limit rows) := by
  induction rows generalizing limit h with
  | nil =>
    cases limit with
    | zero => exact ⟨fresh, Nat.le_refl 0, by simp⟩
    | succ limit => exact ⟨fresh, Nat.zero_le _, by simp⟩
  | cons row rows ih =>
    cases limit with
    | zero => exact ⟨fresh, Nat.le_refl 0, by simp⟩
    | succ limit =>
      refine meets_perform_bind ⟨fresh row.1, by simp⟩ fun r => ?_
      have later : Fresh (h ++ [⟨.tryLock row.1, r⟩]) := fresh.snoc rfl
      cases r with
      | none => exact ih (limit + 1) later
      | some current =>
        refine meets_ite (fun matches_ => ?_) fun _ => ih (limit + 1) later
        refine meets_bind (meets_grows (ih limit later)) ?_
        rintro h' ids ⟨⟨still, short, found⟩, grown⟩
        refine meets_pure ⟨still, Nat.succ_le_succ short, fun id member => ?_⟩
        rcases List.mem_cons.mp member with rfl | member
        · refine ⟨current, ?_, matches_⟩
          obtain ⟨rest, rfl⟩ := grown
          exact locked_mono (locked_snoc.mpr (Or.inr rfl))
        · exact found id member

/-- The rows an update wrote after `h`, in order. -/
structure Updated (where_ : Row → Bool) (rows : List Row) (h h' : Steps) (updated : List Record)
    (ws : List (Nat × Record)) : Prop where
  writes : h'.filterMap writing = h.filterMap writing ++ ws
  returned : ws.map Prod.snd = updated
  keys : (ws.map Prod.fst).Sublist (rows.map Prod.fst)
  matched : ∀ w ∈ ws, ∃ r, where_ (w.1, r) = true

theorem Updated.skip {rows : List Row} {row : Row} {d : Did RowRes} (reads : writing d = none) {h' : Steps}
    {updated : List Record} {ws : List (Nat × Record)} (later : Updated where_ rows (h ++ [d]) h' updated ws) :
    Updated where_ (row :: rows) h h' updated ws where
  writes := by
    rw [later.writes, List.filterMap_append, List.filterMap_cons_none reads, List.filterMap_nil, List.append_nil]
  returned := later.returned
  keys := later.keys.cons _
  matched := later.matched

theorem Updated.write {rows : List Row} {row : Row} {d e : Did RowRes} (reads : writing d = none) {v : Record}
    (writes : writing e = some (row.1, v)) {r : Record} (matches_ : where_ (row.1, r) = true) {h' : Steps}
    {updated : List Record} {ws : List (Nat × Record)} (later : Updated where_ rows (h ++ [d] ++ [e]) h' updated ws) :
    Updated where_ (row :: rows) h h' (v :: updated) ((row.1, v) :: ws) where
  writes := by
    rw [later.writes, List.filterMap_append, List.filterMap_append, List.filterMap_cons_none reads,
      List.filterMap_cons_some writes]
    simp
  returned := by rw [List.map_cons, later.returned]
  keys := by
    rw [List.map_cons, List.map_cons]
    exact later.keys.cons_cons _
  matched w member := by
    rcases List.mem_cons.mp member with rfl | member
    · exact ⟨r, matches_⟩
    · exact later.matched w member

theorem meets_update {set_ : Record → Record} (rows : List Row) (once : (rows.map Prod.fst).Nodup)
    (fresh : ∀ k ∈ rows.map Prod.fst, ∀ v, ¬ Wrote h k v)
    (justified : ∀ g k r, Locked (h ++ g) k r → where_ (k, r) = true → Justified s (h ++ g) k (set_ r)) :
    Meets (Admitted s) (fun h' updated => ∃ ws, Updated where_ rows h h' updated ws) h
      (updateRows where_ set_ rows) := by
  induction rows generalizing h with
  | nil => exact ⟨[], by simp, rfl, List.Sublist.refl _, by simp⟩
  | cons row rows ih =>
    obtain ⟨new, once⟩ := List.nodup_cons.mp once
    have mine := fresh row.1 List.mem_cons_self
    refine meets_perform_bind ⟨mine, by simp⟩ fun r => ?_
    have unwritten : ∀ k ∈ row.1 :: rows.map Prod.fst, ∀ v, ¬ Wrote (h ++ [⟨.lock row.1, r⟩]) k v := by
      intro k member v wrote
      rcases wrote_snoc.mp wrote with before | now
      · exact fresh k member v before
      · cases now
    have still : ∀ g k r', Locked (h ++ [⟨.lock row.1, r⟩] ++ g) k r' → where_ (k, r') = true →
        Justified s (h ++ [⟨.lock row.1, r⟩] ++ g) k (set_ r') := by
      intro g k r' locked matches_
      rw [List.append_assoc] at locked ⊢
      exact justified _ k r' locked matches_
    have skip : Meets (Admitted s) (fun h' updated => ∃ ws, Updated where_ (row :: rows) h h' updated ws)
        (h ++ [⟨.lock row.1, r⟩]) (updateRows where_ set_ rows) := by
      refine meets_weaken (ih once (fun k member => unwritten k (List.mem_cons_of_mem _ member)) still) ?_
      rintro h' updated ⟨ws, later⟩
      exact ⟨ws, later.skip rfl⟩
    cases r with
    | none => exact skip
    | some current =>
      refine meets_ite (fun matches_ => ?_) fun _ => skip
      have locked : Locked (h ++ [⟨.lock row.1, some current⟩]) row.1 current := locked_snoc.mpr (Or.inr rfl)
      refine meets_perform_bind ⟨⟨⟨current, locked⟩, unwritten row.1 List.mem_cons_self⟩, ?_⟩ fun r => ?_
      · rintro k v ⟨⟩
        have here := still [] row.1 current (by simpa using locked) matches_
        rwa [List.append_nil] at here
      · refine meets_bind (ih once ?_ ?_) ?_
        · intro k member v wrote
          rcases wrote_snoc.mp wrote with before | now
          · exact unwritten k (List.mem_cons_of_mem _ member) v before
          · cases now
            exact new member
        · intro g k r' found matches_
          rw [List.append_assoc] at found ⊢
          exact still _ k r' found matches_
        · rintro h' updated ⟨ws, later⟩
          exact meets_pure ⟨_, later.write rfl rfl matches_⟩

end

/-- A call returns what it wrote, each row once, and a claim no more than it may. -/
structure Returned (s : Call) (h : Steps) (answer : List Record) : Prop where
  written : (h.filterMap writing).map Prod.snd = answer
  once : ((h.filterMap writing).map Prod.fst).Nodup
  limited : ∀ now tenantId signalType limit claim,
    s = .claimUnprocessed now tenantId signalType limit claim → answer.length ≤ limit

section
variable {s : Call} {where_ : Row → Bool} {h : Steps}

theorem Fresh.writes (fresh : Fresh h) : h.filterMap writing = [] :=
  List.eq_nil_iff_forall_not_mem.mpr fun w member => fresh w.1 w.2 member

/-- An update at whose start nothing is written. -/
theorem meets_first {set_ : Record → Record} (fresh : Fresh h)
    (justified : ∀ g k r, Locked (h ++ g) k r → where_ (k, r) = true → Justified s (h ++ g) k (set_ r)) :
    Meets (Admitted s) (fun h' updated => (h'.filterMap writing).map Prod.snd = updated ∧
      ((h'.filterMap writing).map Prod.fst).Nodup ∧ ∀ w ∈ h'.filterMap writing, ∃ r, where_ (w.1, r) = true) h
      (update where_ set_) := by
  refine meets_perform_bind ⟨trivial, by simp⟩ fun rows => ?_
  have still : Fresh (h ++ [⟨.rows, rows⟩]) := fresh.snoc rfl
  have once : ((rows.entries.filter where_).map Prod.fst).Nodup :=
    rows.unique.sublist ((List.filter_sublist).map Prod.fst)
  refine meets_weaken (meets_update (rows.entries.filter where_) once (fun k _ v => still k v) ?_) ?_
  · intro g k r locked matches_
    rw [List.append_assoc] at locked ⊢
    exact justified _ k r locked matches_
  · rintro h' updated ⟨ws, result⟩
    have writes := result.writes
    rw [still.writes, List.nil_append] at writes
    rw [writes]
    exact ⟨result.returned, once.sublist result.keys, result.matched⟩

theorem fresh_nil : Fresh [] := fun _ _ wrote => List.not_mem_nil wrote

theorem claim_meets (now : Instant) (tenantId : String) (signalType : SignalTypeValue) (limit : Nat)
    {claim : SignalProcessingClaim} (valid : claim.valid = true) :
    Meets (Admitted (.claimUnprocessed now tenantId signalType limit claim))
      (Returned (.claimUnprocessed now tenantId signalType limit claim)) []
      (claimUnprocessed now tenantId signalType limit claim) := by
  refine meets_perform_bind ⟨trivial, by simp⟩ fun rows => ?_
  refine meets_bind (meets_select _ limit (fresh_nil.snoc rfl)) ?_
  rintro h claimedIds ⟨fresh, short, found⟩
  refine meets_ite (fun _ => ?_) fun _ => ?_
  · refine meets_pure ⟨by rw [fresh.writes]; rfl, by rw [fresh.writes]; exact List.nodup_nil, ?_⟩
    rintro now' tenantId' signalType' limit' claim' ⟨⟩
    exact Nat.zero_le limit
  · refine meets_bind (meets_first fresh fun g k r locked matches_ => ?_) ?_
    · simp only [Bool.and_eq_true, List.contains_iff_mem] at matches_
      obtain ⟨claimed, before, free⟩ := found k matches_.1.2
      refine ⟨r, locked, fun same => ?_⟩
      rw [same claimed (locked_mono before)] at free
      exact .leases now tenantId signalType limit claim r valid free
    · rintro h' updated ⟨written, once, matched⟩
      refine meets_require_bind fun _ => meets_pure ⟨written, once, ?_⟩
      rintro now' tenantId' signalType' limit' claim' ⟨⟩
      have inside : (h'.filterMap writing).map Prod.fst ⊆ claimedIds := by
        intro k member
        obtain ⟨w, there, rfl⟩ := List.mem_map.mp member
        obtain ⟨r, matches_⟩ := matched w there
        simp only [Bool.and_eq_true, List.contains_iff_mem] at matches_
        exact matches_.1.2
      calc
        updated.length = ((h'.filterMap writing).map Prod.fst).length := by rw [← written]; simp
        _ ≤ claimedIds.length := (List.subperm_of_subset once inside).length_le
        _ ≤ limit := short

/-- Every transaction writes only what its call may, and returns what it wrote. -/
theorem transaction_meets (s : Call) (p : Transaction (List Record)) (program : transaction s = some p) :
    Meets (Admitted s) (Returned s) [] p := by
  cases s with
  | claimUnprocessed now tenantId signalType limit claim =>
    obtain ⟨allowed, same⟩ := Option.ite_none_right_eq_some.mp program
    cases same
    exact claim_meets now tenantId signalType limit (Bool.and_eq_true_iff.mp allowed).2
  | markProcessed now tenantId ids =>
    obtain ⟨allowed, same⟩ := Option.ite_none_right_eq_some.mp program
    cases same
    refine meets_weaken (meets_first fresh_nil fun g k r locked matches_ => ?_) ?_
    · simp only [Bool.and_eq_true, beq_iff_eq, Option.isNone_iff_eq_none] at matches_
      exact ⟨r, locked, fun _ => .finishes now tenantId ids r matches_.1.1 matches_.2⟩
    · rintro h updated ⟨written, once, _⟩
      exact ⟨written, once, by rintro now' tenantId' signalType' limit' claim' ⟨⟩⟩
  | releaseClaims tenantId ids owner =>
    obtain ⟨allowed, same⟩ := Option.ite_none_right_eq_some.mp program
    cases same
    refine meets_weaken (meets_first fresh_nil fun g k r locked matches_ => ?_) ?_
    · simp only [Bool.and_eq_true, beq_iff_eq, Option.isNone_iff_eq_none] at matches_
      exact ⟨r, locked, fun _ => .frees tenantId ids owner r matches_.1.1.1 matches_.1.2 matches_.2⟩
    · rintro h updated ⟨written, once, _⟩
      exact ⟨written, once, by rintro now' tenantId' signalType' limit' claim' ⟨⟩⟩

end

/-- A log of commits that the calls may have made. -/
abbrev Commits (log : Log) : Prop := Serial signalEvents Admitted Returned log

theorem admitted_careful (s : Call) (h : Steps) (op : RowOp Nat Record) (admitted : Admitted s h op) : Careful h op :=
  admitted.1

theorem Changes.id {s : Call} {old new : Record} (changes : Changes s old new) : new.id = old.id := by
  cases changes <;> rfl

theorem ingest_new (id : Nat) (now : Instant) (params : IngestSignalParams) {rows : InsertionMap Nat Record}
    (fresh : rows.get id = none) :
    (ingest id now params).Ends rows fun _ after => ∀ r, after.get id = some r →
      r = newRecord id now { params with tenantId := uuidColumn params.tenantId } := by
  have none_ : ∀ r, rows.get id = some r →
      r = newRecord id now { params with tenantId := uuidColumn params.tenantId } := by
    intro r found
    rw [fresh] at found
    cases found
  refine Store.Ends.require_bind (fun _ => none_) fun _ => ?_
  refine Store.Ends.transaction (R := fun _ after => ∀ r, after.get id = some r →
    r = newRecord id now { params with tenantId := uuidColumn params.tenantId }) (Store.Ends.read_bind ?_)
    (fun _ _ kept => kept) fun _ _ _ => none_
  split
  · refine Store.Ends.modify_bind (Store.Ends.require_bind (fun _ => ?_) fun _ => Store.Ends.pure ?_)
    · intro r found
      rw [InsertionMap.get_set_self] at found
      exact (Option.some.inj found).symm
    · intro r found
      rw [InsertionMap.get_set_self] at found
      exact (Option.some.inj found).symm
  · exact Store.Ends.require_bind (fun _ => none_) fun _ => Store.Ends.pure none_

/-- The entry returned a record of this id from this call. -/
def Touches (s : Call) (r : Record) : Entry → Prop
  | .committed t _ x => t = s ∧ r ∈ x
  | .inserted _ _ => False

/-- What an entry does to the row of an id. -/
inductive RowStep (e : Entry) (k : Nat) : Option Record → Option Record → Prop where
  | still (o : Option Record) (apart : ∀ s r, Touches s r e → r.id ≠ k) : RowStep e k o o
  | arrives (r : Record) (id : r.id = k) (attempts : r.processingAttempts = 0) (open_ : r.processedAt = none)
      (apart : ∀ s r, ¬ Touches s r e) : RowStep e k none (some r)
  | changes (s : Call) (old new : Record) (id : new.id = k) (touches : Touches s new e) (changes : Changes s old new)
      (only : ∀ t r, Touches t r e → r.id = k → t = s ∧ r = new) : RowStep e k (some old) (some new)

section
variable {log a b : Log} {e : Entry} {s : Call} {h : Steps} {x : List Record} {k : Nat} {v r : Record}

/-- At its commit a transaction wrote what its call may make of the row as it is
then. -/
theorem commit_changes (serial : Commits log) (split : log = a ++ .committed s h x :: b) (wrote : Wrote h k v) :
    ∃ old, (replay a).get k = some old ∧ Changes s old v := by
  obtain ⟨_, each, current⟩ := serial.committed a s h x b split
  obtain ⟨d, there, writes⟩ := List.mem_filterMap.mp wrote
  obtain ⟨before, after, parts⟩ := List.append_of_mem there
  obtain ⟨op, answer⟩ := d
  cases op with
  | write j version =>
    cases writes
    obtain ⟨old, locked, changes⟩ := (each before _ after parts).2 k v rfl
    have grown : ∀ r, Locked before k r → (replay a).get k = some r := fun r found =>
      current k r (parts ▸ locked_mono found)
    have there := grown old locked
    exact ⟨old, there, changes fun r found => Option.some.inj ((grown r found).symm.trans there)⟩
  | rows => cases writes
  | tryLock j => cases writes
  | lock j => cases writes

theorem commit_get (serial : Commits log) (split : log = a ++ .committed s h x :: b) (wrote : Wrote h k v) :
    (apply (replay a) (.committed s h x : Entry)).get k = some v :=
  commit_wrote admitted_careful (serial.committed a s h x b split).2.1 wrote

theorem insert_new (serial : Commits log) (split : log = a ++ .inserted k r :: b) :
    (replay a).get k = none ∧ ∃ now params, r = newRecord k now params := by
  obtain ⟨fresh, arrival, inserted⟩ := serial.inserted a k r b split
  obtain ⟨stored, found, same⟩ := Option.map_eq_some_iff.mp inserted
  cases same
  exact ⟨fresh, arrival.now, _, ingest_new arrival.id arrival.now arrival.params fresh r found⟩

/-- Rows are stored under their ids. -/
theorem replay_id (serial : Commits log) (found : (replay log).get k = some r) : r.id = k := by
  induction log using List.reverseRecOn generalizing k r with
  | nil => cases found
  | append_singleton log e ih =>
    rw [replay_snoc] at found
    cases e with
    | inserted j row =>
      simp only [RowLocks.apply, InsertionMap.get_set] at found
      split at found
      · rename_i same
        cases found
        obtain ⟨_, now, params, rfl⟩ := insert_new serial rfl
        exact same.symm
      · exact ih serial.init found
    | committed s h x =>
      by_cases written : ∃ v, Wrote h k v
      · obtain ⟨v, wrote⟩ := written
        rw [commit_get serial rfl wrote] at found
        cases found
        obtain ⟨old, there, changes⟩ := commit_changes serial rfl wrote
        exact changes.id.trans (ih serial.init there)
      · rw [RowLocks.apply, overlay_unwritten fun row wrote => written ⟨row, wrote⟩] at found
        exact ih serial.init found

/-- A commit returns the rows it wrote. -/
theorem mem_answer (serial : Commits log) (split : log = a ++ .committed s h x :: b) :
    r ∈ x ↔ Wrote h r.id r := by
  have returned := (serial.committed a s h x b split).1
  rw [← returned.written]
  constructor
  · intro member
    obtain ⟨w, wrote, rfl⟩ := List.mem_map.mp member
    obtain ⟨old, there, changes⟩ := commit_changes serial split (k := w.1) (v := w.2) wrote
    have earlier : Commits a := Serial.init (b := .committed s h x :: b) (split ▸ serial)
    have id : w.2.id = w.1 := changes.id.trans (replay_id earlier there)
    rw [id]
    exact wrote
  · exact fun wrote => List.mem_map.mpr ⟨_, wrote, rfl⟩

theorem row_step (serial : Commits log) (split : log = a ++ e :: b) (k : Nat) :
    RowStep e k ((replay a).get k) ((replay (a ++ [e])).get k) := by
  rw [replay_snoc]
  cases e with
  | inserted j row =>
    obtain ⟨fresh, now, params, rfl⟩ := insert_new serial split
    simp only [RowLocks.apply, InsertionMap.get_set]
    split
    · rename_i same
      rw [same, fresh]
      exact .arrives _ rfl rfl rfl fun s r touches => touches
    · exact .still _ fun s r touches => touches.elim
  | committed s h x =>
    by_cases written : ∃ v, Wrote h k v
    · obtain ⟨v, wrote⟩ := written
      obtain ⟨old, there, changes⟩ := commit_changes serial split wrote
      have earlier : Commits a := Serial.init (b := .committed s h x :: b) (split ▸ serial)
      have id : v.id = k := changes.id.trans (replay_id earlier there)
      rw [there, commit_get serial split wrote]
      refine .changes s old v id ⟨rfl, (mem_answer serial split).mpr (id.symm ▸ wrote)⟩ changes ?_
      rintro t r ⟨same, member⟩ here
      have other := (mem_answer serial split).mp member
      rw [here] at other
      exact ⟨same.symm, (serial.committed a s h x b split).2.1.once (admitted_careful s) wrote other⟩
    · rw [RowLocks.apply, overlay_unwritten fun row wrote => written ⟨row, wrote⟩]
      refine .still _ ?_
      rintro t r ⟨_, member⟩ here
      exact written ⟨r, here ▸ (mem_answer serial split).mp member⟩

end

/-- A claim that returned the row of this id. -/
def returns (id : Nat) : Entry → Bool
  | .committed (.claimUnprocessed _ _ _ _ _) _ x => x.any (·.id == id)
  | _ => false

/-- A release that returned the row of this id. -/
def frees (id : Nat) : Entry → Bool
  | .committed (.releaseClaims _ _ _) _ x => x.any (·.id == id)
  | _ => false

/-- Whoever asks before this time finds the row leased, or done. -/
def LeasedUntil (until_ : Instant) (o : Option Record) : Prop :=
  ∃ r, o = some r ∧ (r.processedAt ≠ none ∨ ∃ expires, r.processingLeaseExpiresAt = some expires ∧ until_ ≤ expires)

section
variable {log a b : Log} {e : Entry} {s : Call} {h : Steps} {x : List Record} {k : Nat} {r : Record}

theorem returns_iff : returns k e = true ↔ ∃ now tenantId signalType limit claim r,
    Touches (.claimUnprocessed now tenantId signalType limit claim) r e ∧ r.id = k := by
  constructor
  · intro returned
    cases e with
    | inserted j row => cases returned
    | committed s h x =>
      cases s with
      | claimUnprocessed now tenantId signalType limit claim =>
        obtain ⟨r, member, same⟩ := List.any_eq_true.mp returned
        exact ⟨now, tenantId, signalType, limit, claim, r, ⟨rfl, member⟩, beq_iff_eq.mp same⟩
      | markProcessed now tenantId ids => cases returned
      | releaseClaims tenantId ids owner => cases returned
  · rintro ⟨now, tenantId, signalType, limit, claim, r, touches, same⟩
    cases e with
    | inserted j row => exact touches.elim
    | committed s h x =>
      obtain ⟨rfl, member⟩ := touches
      exact List.any_eq_true.mpr ⟨r, member, beq_iff_eq.mpr same⟩

theorem frees_touches {tenantId : String} {ids : List Nat} {owner : String}
    (touches : Touches (.releaseClaims tenantId ids owner) r e) : frees r.id e = true := by
  cases e with
  | inserted j row => exact touches.elim
  | committed s h x =>
    obtain ⟨rfl, member⟩ := touches
    exact List.any_eq_true.mpr ⟨r, member, beq_self_eq_true r.id⟩

theorem Changes.open_ {old new : Record} (changes : Changes s old new) : old.processedAt = none := by
  cases changes with
  | leases now tenantId signalType limit claim _ valid free =>
    simp only [claimable, Bool.and_eq_true, Option.isNone_iff_eq_none] at free
    exact free.1.2
  | finishes now tenantId ids _ mine open_ => exact open_
  | frees tenantId ids owner _ mine held open_ => exact open_

/-- Only a claim is counted, and only for a row it returned. -/
theorem returns_false (apart : ∀ now tenantId signalType limit claim r,
    Touches (.claimUnprocessed now tenantId signalType limit claim) r e → r.id ≠ k) : returns k e = false := by
  by_contra returned
  obtain ⟨now, tenantId, signalType, limit, claim, r, touches, same⟩ :=
    returns_iff.mp (Bool.not_eq_false _ ▸ returned)
  exact apart now tenantId signalType limit claim r touches same

/-- One commit, as a count of the claims that returned a row. -/
theorem step_counted {o o' : Option Record} (step : RowStep e k o o') :
    o'.elim 0 (·.processingAttempts) = o.elim 0 (·.processingAttempts) + if returns k e then 1 else 0 := by
  cases step with
  | still o apart =>
    have quiet : returns k e = false := returns_false fun _ _ _ _ _ r touches => apart _ r touches
    rw [quiet]
    rfl
  | arrives r id attempts open_ apart =>
    have quiet : returns k e = false := returns_false fun _ _ _ _ _ r touches => absurd touches (apart _ r)
    rw [quiet]
    exact attempts
  | changes s old new id touches changes only =>
    cases changes with
    | leases now tenantId signalType limit claim _ valid free =>
      rw [if_pos (returns_iff.mpr ⟨now, tenantId, signalType, limit, claim, _, touches, id⟩)]
      rfl
    | finishes now tenantId ids _ mine open_ =>
      have quiet : returns k e = false := returns_false fun _ _ _ _ _ r claimed same => by
        cases (only _ r claimed same).1
      rw [quiet]
      rfl
    | frees tenantId ids owner _ mine held open_ =>
      have quiet : returns k e = false := returns_false fun _ _ _ _ _ r claimed same => by
        cases (only _ r claimed same).1
      rw [quiet]
      rfl

theorem attempts_counted (serial : Commits log) :
    ((replay log).get k).elim 0 (·.processingAttempts) = log.countP (returns k) := by
  induction log using List.reverseRecOn with
  | nil => rfl
  | append_singleton log e ih =>
    rw [step_counted (row_step serial (b := []) rfl k), ih serial.init, List.countP_append, List.countP_singleton]

/-- Only a release ends a lease before its time. -/
theorem step_leased {o o' : Option Record} {until_ : Instant} (step : RowStep e k o o')
    (quiet : frees k e = false) (leased : LeasedUntil until_ o) : LeasedUntil until_ o' := by
  obtain ⟨r, found, held⟩ := leased
  cases step with
  | still o apart => exact ⟨r, found, held⟩
  | arrives r' id attempts open_ apart => cases found
  | changes s old new id touches changes only =>
    cases found
    have lease := held.resolve_left (not_not_intro changes.open_)
    cases changes with
    | leases now tenantId signalType limit claim _ valid free =>
      refine ⟨_, rfl, Or.inr ⟨_, rfl, ?_⟩⟩
      obtain ⟨expires, stored, later⟩ := lease
      simp only [claimable, stored, Bool.and_eq_true, Option.all_some, decide_eq_true_eq] at free
      have past : expires ≤ now := free.2
      have forward : 0 ≤ claim.leaseMs.num := by
        simp only [SignalProcessingClaim.valid, Bool.and_eq_true, decide_eq_true_eq] at valid
        exact Rat.num_nonneg.mpr (le_trans (by norm_num) valid.1.2)
      calc
        until_ ≤ expires := later
        _ ≤ now := past
        _ ≤ now + claim.leaseMs.num := Int.le_add_of_nonneg_right forward
    | finishes now tenantId ids _ mine open_ => exact ⟨_, rfl, Or.inl (Option.some_ne_none now)⟩
    | frees tenantId ids owner _ mine held open_ =>
      have freed := frees_touches touches
      rw [id, quiet] at freed
      cases freed

theorem leased_until {until_ : Instant} (serial : Commits (a ++ b)) (leased : LeasedUntil until_ ((replay a).get k))
    (quiet : ∀ e ∈ b, frees k e = false) : LeasedUntil until_ ((replay (a ++ b)).get k) := by
  induction b using List.reverseRecOn with
  | nil => rwa [List.append_nil]
  | append_singleton b e ih =>
    rw [← List.append_assoc] at serial ⊢
    have before := ih serial.init fun f member => quiet f (List.mem_append_left _ member)
    exact step_leased (row_step serial (b := []) rfl k) (quiet e (by simp)) before

/-- No commit changes or returns a row that is done. -/
theorem step_done {o' : Option Record} (step : RowStep e k (some r) o') (done : r.processedAt ≠ none) :
    o' = some r ∧ ∀ s t, Touches s t e → t.id ≠ k := by
  cases step with
  | still o apart => exact ⟨rfl, apart⟩
  | changes s old new id touches changes only => exact absurd changes.open_ done

theorem done_stays (serial : Commits (a ++ b)) (there : (replay a).get k = some r) (done : r.processedAt ≠ none) :
    (replay (a ++ b)).get k = some r ∧ ∀ e ∈ b, ∀ s t, Touches s t e → t.id ≠ k := by
  induction b using List.reverseRecOn with
  | nil =>
    rw [List.append_nil]
    exact ⟨there, by simp⟩
  | append_singleton b e ih =>
    rw [← List.append_assoc] at serial ⊢
    obtain ⟨still, apart⟩ := ih serial.init
    have step := row_step serial (b := []) rfl k
    rw [still] at step
    obtain ⟨same, last⟩ := step_done step done
    refine ⟨same, fun f member => ?_⟩
    rcases List.mem_append.mp member with before | now
    · exact apart f before
    · exact List.mem_singleton.mp now ▸ last

/-- What a call returns are rows as they were before it, changed as it may. -/
theorem answer_changes (serial : Commits log) (split : log = a ++ .committed s h x :: b) (member : r ∈ x) :
    ∃ old, (replay a).get r.id = some old ∧ Changes s old r :=
  commit_changes serial split ((mem_answer serial split).mp member)

theorem answer_get (serial : Commits log) (split : log = a ++ .committed s h x :: b) (member : r ∈ x) :
    (replay (a ++ [.committed s h x])).get r.id = some r := by
  rw [replay_snoc]
  exact commit_get serial split ((mem_answer serial split).mp member)

/-- A call returns no row twice. -/
theorem answer_once (serial : Commits log) (split : log = a ++ .committed s h x :: b) : (x.map (·.id)).Nodup := by
  have returned := (serial.committed a s h x b split).1
  have ids : x.map (·.id) = (h.filterMap writing).map Prod.fst := by
    rw [← returned.written, List.map_map]
    refine List.map_congr_left fun w wrote => ?_
    obtain ⟨old, there, changes⟩ := commit_changes serial split (k := w.1) (v := w.2) wrote
    exact changes.id.trans (replay_id (Serial.init (b := .committed s h x :: b) (split ▸ serial)) there)
  rw [ids]
  exact returned.once

end

/-- The claims of an inbox, in the order of their commits. -/
structure ClaimedInTurn (log : Log) : Prop where
  granted : ∀ a now tenantId signalType limit claim h x b,
    log = a ++ .committed (.claimUnprocessed now tenantId signalType limit claim) h x :: b →
    x.length ≤ limit ∧ (x.map (·.id)).Nodup ∧ ∀ r ∈ x, ∃ old, (replay a).get r.id = some old ∧
      claimable now (uuidColumn tenantId) signalType old = true ∧ r = leased now claim old
  /-- A row returned twice was freed in between, or its lease had expired. -/
  exclusive : ∀ a now tenantId signalType limit claim h x b now' tenantId' signalType' limit' claim' h' x' c,
    log = a ++ .committed (.claimUnprocessed now tenantId signalType limit claim) h x ::
      (b ++ .committed (.claimUnprocessed now' tenantId' signalType' limit' claim') h' x' :: c) →
    ∀ r ∈ x, ∀ r' ∈ x', r.id = r'.id → now + claim.leaseMs.num ≤ now' ∨ ∃ e ∈ b, frees r.id e = true
  counted : ∀ id r, (replay log).get id = some r → r.processingAttempts = log.countP (returns id)
  finished : ∀ a now tenantId ids h x b, log = a ++ .committed (.markProcessed now tenantId ids) h x :: b →
    ∀ r ∈ x, (replay log).get r.id = some r ∧ ∀ e ∈ b, ∀ s t, Touches s t e → t.id ≠ r.id

theorem commits_granted {log a b : Log} {now : Instant} {tenantId : String} {signalType : SignalTypeValue} {limit : Nat}
    {claim : SignalProcessingClaim} {h : Steps} {x : List Record} (serial : Commits log)
    (split : log = a ++ .committed (.claimUnprocessed now tenantId signalType limit claim) h x :: b) {r : Record}
    (member : r ∈ x) : ∃ old, (replay a).get r.id = some old ∧
      claimable now (uuidColumn tenantId) signalType old = true ∧ r = leased now claim old := by
  obtain ⟨old, there, changes⟩ := answer_changes serial split member
  cases changes with
  | leases _ _ _ _ _ _ valid free => exact ⟨old, there, free, rfl⟩

theorem commits_claimed {log : Log} (serial : Commits log) : ClaimedInTurn log where
  granted a now tenantId signalType limit claim h x b split :=
    ⟨(serial.committed a _ h x b split).1.limited _ _ _ _ _ rfl, answer_once serial split, fun r member =>
      commits_granted serial split member⟩
  exclusive a now tenantId signalType limit claim h x b now' tenantId' signalType' limit' claim' h' x' c split := by
    intro r member r' member' same
    by_contra early
    simp only [not_or, not_exists, not_and, Bool.not_eq_true] at early
    obtain ⟨before, quiet⟩ := early
    have parts : log = (a ++ [.committed (.claimUnprocessed now tenantId signalType limit claim) h x] ++ b) ++
        .committed (.claimUnprocessed now' tenantId' signalType' limit' claim') h' x' :: c := by
      rw [split]
      simp
    obtain ⟨first, there, _, rfl⟩ := commits_granted serial split member
    have start : LeasedUntil (now + claim.leaseMs.num)
        ((replay (a ++ [.committed (.claimUnprocessed now tenantId signalType limit claim) h x])).get r'.id) := by
      rw [← same, answer_get serial split member]
      exact ⟨_, rfl, Or.inr ⟨_, rfl, le_refl _⟩⟩
    obtain ⟨second, found, free, _⟩ := commits_granted serial parts member'
    obtain ⟨row, here, held⟩ := leased_until (Serial.init (parts ▸ serial)) start fun e inside => same ▸ quiet e inside
    rw [found] at here
    cases here
    simp only [claimable, Bool.and_eq_true, Option.isNone_iff_eq_none] at free
    obtain ⟨expires, stored, later⟩ := held.resolve_left (not_not_intro free.1.2)
    have past := free.2
    simp only [stored, Option.all_some, decide_eq_true_eq] at past
    exact before (le_trans later past)
  counted id r found := by
    rw [← attempts_counted serial, found]
    rfl
  finished a now tenantId ids h x b split r member := by
    have parts : log = (a ++ [.committed (.markProcessed now tenantId ids) h x]) ++ b := by
      rw [split]
      simp
    obtain ⟨old, _, changes⟩ := answer_changes serial split member
    have done : r.processedAt ≠ none := by
      cases changes with
      | finishes _ _ _ _ mine open_ => exact Option.some_ne_none now
    subst parts
    exact done_stays serial (answer_get serial split member) done

/-- Whatever the workers' transactions and their interleaving, what they lock, wait
for and pass over, a signal is out to one claim at a time. -/
theorem signals_claimed_in_turn (labels : List (Label Call Arrival)) :
    ClaimedInTurn (runs signalEvents.step Database.initial labels).log ∧
      (runs signalEvents.step Database.initial labels).rows =
        replay (runs signalEvents.step Database.initial labels).log := by
  obtain ⟨serial, state⟩ := runs_serial (d := signalEvents) transaction_meets admitted_careful labels
  exact ⟨commits_claimed serial, state⟩

def tenant : String := "00000000-0000-4000-8000-000000000001"

def arrival (id : Nat) : Label Call Arrival := .insert ⟨id, 0, tenant, .market, "s", none, []⟩

/-- Two signals, and two workers that claim one each before either commits. -/
def contended : List (Label Call Arrival) :=
  [arrival 1, arrival 2, .begin (.claimUnprocessed 1 tenant .market 1 ⟨"a", 1000⟩),
    .begin (.claimUnprocessed 2 tenant .market 1 ⟨"b", 1000⟩)] ++
  [0, 1, 0, 1, 1, 0, 0, 1, 1, 0, 0, 1].map .run ++ [.commit 1, .commit 0]

def answered : Entry → List Nat
  | .committed _ _ x => x.map (·.id)
  | .inserted _ _ => []

/-- The second passes over the row that the first holds. -/
example : (runs signalEvents.step Database.initial contended).log.map answered = [[], [], [2], [1]] := by
  decide +kernel

end VantGrowth.Proofs.SignalClaims
