import VantGrowth.Proofs.BriefRequests
import VantGrowth.Proofs.SignalPipeline

namespace VantGrowth.Proofs.PoisonSignals
open Core Db Db.InMemorySignalEventsRepository Lib Lib.Text Lib.Prog Signals SignalPipeline

/-- Processing this signal fails every time. -/
def Fails (d : Deployment) (r : SignalEventRecord) : Prop :=
  ∀ now grade later, d.refuses (routingOf r now grade) = true ∨
    d.refuses (requestOf d r now grade later) = true

/-- Nothing keeps this signal from being processed. -/
def Succeeds (d : Deployment) (r : SignalEventRecord) : Prop :=
  ∀ now grade later, d.refuses (routingOf r now grade) = false ∧
    d.refuses (requestOf d r now grade later) = false

/-- The world and how long each of the next operations is waited for. -/
structure Paced where
  world : World
  delays : List Nat

def wait (w : World) (ms : Nat) : World := { w with clock := w.clock + ms }

/-- One operation, after some time and without a fault. -/
def paced (d : Deployment) (op : Op) : Store WorkerError Paced (Res op) :=
  ⟨fun p =>
    (((exec d op).run ⟨wait p.world (p.delays.headD 0), []⟩).1,
      ⟨((exec d op).run ⟨wait p.world (p.delays.headD 0), []⟩).2.state, p.delays.tail⟩)⟩

/-- How long after the last call a call is made, and the time its operations
take. -/
structure Pace where
  idle : Nat
  delays : List Nat

/-- A worker that calls `processTenant` for one tenant. -/
structure Caller where
  worker : SignalIngestionWorker
  tenantId : String
  batchSize : Nat

def Caller.claim (c : Caller) : SignalProcessingClaim := ⟨c.worker.claimOwner, c.worker.claimLeaseMs⟩

/-- The world after one more call. -/
def call (d : Deployment) (c : Caller) (w : World) (pace : Pace) : World :=
  ((runAlone (paced d) (processTenant d c.worker c.tenantId c.batchSize)).run
    ⟨wait w pace.idle, pace.delays⟩).2.world

/-- A signal of the type was not processed and is now. -/
def Progress (tenantId : String) (signalType : SignalTypeValue)
    (s t : InMemorySignalEventsRepository) : Prop :=
  ∃ r ∈ s.records, r.tenantId = tenantId ∧ r.signalType = signalType ∧ r.processedAt = none ∧
    ∃ r' ∈ t.records, r'.id = r.id ∧ r'.processedAt ≠ none

/-- However they are paced, this many calls process a signal of the type. -/
def ProcessesWithin (d : Deployment) (c : Caller) (signalType : SignalTypeValue) (calls : Nat)
    (w : World) : Prop :=
  ∀ paces : List Pace, paces.length = calls →
    Progress c.tenantId signalType w.signals (runs (call d c) w paces).signals

section
variable {r : SignalEventRecord}

theorem routing_valid (valid : r.valid = true) (now : Instant) (grade : Option SignalGrade) :
    (routingOf r now grade).valid = true := by
  simp only [SignalEventRecord.valid, Bool.and_eq_true] at valid
  have type : isOutboxEventType "signal.routed.v1" = true := by decide
  have tenant : isUuid (routingOf r now grade).tenantId = true := valid.1
  have key : (routingOf r now grade).idempotencyKey ≠ "" := join_ne_empty _ _
  simp only [EnqueueOutboxEvent.valid, Bool.and_eq_true, bne_iff_ne]
  exact ⟨⟨tenant, type⟩, key⟩

theorem request_valid {d : Deployment} (valid : r.valid = true) (now : Instant)
    (grade : Option SignalGrade) (later : Instant) :
    (requestOf d r now grade later).valid = true := by
  simp only [SignalEventRecord.valid, Bool.and_eq_true] at valid
  have keyed := request_keyed (d := d) (r := r) now grade later
  have type : isOutboxEventType (requestType r) = true := by
    rcases requestType_cases r with intel | work
    · rw [intel]
      decide
    · rw [work]
      decide
  have filled : requestKey r ≠ "" := by
    unfold requestKey
    split <;> exact join_ne_empty _ _
  simp only [EnqueueOutboxEvent.valid, Bool.and_eq_true, bne_iff_ne]
  rw [keyed.tenant, keyed.type, keyed.key]
  exact ⟨⟨valid.1, type⟩, filled⟩

theorem incoming_valid (valid : r.valid = true) : (incomingSignal r).valid = true := by
  simp only [SignalEventRecord.valid, Bool.and_eq_true, bne_iff_ne] at valid
  have kind : resolveSignalKind r ≠ "" := by
    intro empty
    have long := (BriefRequests.kind_sized r).1
    rw [empty] at long
    exact absurd long (by decide)
  have id : decimal r.id ≠ "" := fun empty => decimal_ne_nil r.id (by simp [empty])
  simp only [IncomingSignal.valid, Bool.and_eq_true, bne_iff_ne]
  exact ⟨⟨⟨⟨valid.1, id⟩, join_ne_empty _ _⟩, valid.2⟩, kind⟩

theorem routed_valid (valid : r.valid = true) (now : Instant) {grade : Option SignalGrade}
    (graded : grade.all SignalGrade.valid = true) :
    (routedOf now (incomingSignal r) grade).valid = true := by
  have classified : (classifySignal (incomingSignal r)).targetAgent ≠ "" ∧
      0 < (classifySignal (incomingSignal r)).halfLifeMinutes := by
    unfold classifySignal
    split_ifs <;> decide
  have incoming : (routedOf now (incomingSignal r) grade).toIncomingSignal.valid = true :=
    incoming_valid valid
  simp only [RoutedSignal.valid, Bool.and_eq_true, bne_iff_ne, decide_eq_true_eq]
  exact ⟨⟨⟨incoming, classified.1⟩, classified.2⟩, graded⟩

end

/-- Time goes on, and stands still once no more delays are in store. -/
structure Later (p q : Paced) : Prop where
  bound : p.world.clock ≤ q.world.clock
  steady : p.delays = [] → q.delays = [] ∧ q.world.clock = p.world.clock

theorem Later.refl (p : Paced) : Later p p := ⟨le_refl _, fun empty => ⟨empty, rfl⟩⟩

theorem Later.trans {p q s : Paced} (first : Later p q) (second : Later q s) : Later p s := by
  refine ⟨le_trans first.bound second.bound, fun empty => ?_⟩
  obtain ⟨none_, same⟩ := first.steady empty
  obtain ⟨still, equal⟩ := second.steady none_
  exact ⟨still, equal.trans same⟩

/-- Nothing happened to the inbox. -/
structure Quiet (p q : Paced) : Prop where
  later : Later p q
  sound : Sound q.world
  signals : q.world.signals = p.world.signals

theorem Quiet.trans {p q s : Paced} (first : Quiet p q) (second : Quiet q s) : Quiet p s :=
  ⟨first.later.trans second.later, second.sound, second.signals.trans first.signals⟩

section
variable {d : Deployment} {p : Paced}

/-- An operation that leaves the clock alone. -/
theorem paced_ends (op : Op) {R : Except WorkerError (Res op) → World → Prop} (h : Sound p.world)
    (body : ∀ w, Sound w → w.signals = p.world.signals →
      (exec d op).Ends ⟨w, []⟩ fun x t => t.state.clock = w.clock ∧ R x t.state) :
    (paced d op).Ends p fun x q => Later p q ∧ Sound q.world ∧ R x q.world := by
  have waited : Sound (wait p.world (p.delays.headD 0)) := ⟨h.ordered, h.consistent⟩
  obtain ⟨clock, result⟩ := body _ waited rfl
  have step := exec_step (d := d) (s := ⟨wait p.world (p.delays.headD 0), []⟩) op waited
  refine ⟨⟨?_, ?_⟩, ⟨step.ordered, step.consistent⟩, result⟩
  · exact le_of_le_of_eq (Int.le_add_of_nonneg_right (Int.natCast_nonneg _)) clock.symm
  · intro empty
    refine ⟨by simp [paced, empty], clock.trans ?_⟩
    simp [wait, empty]

theorem now_ends (h : Sound p.world) :
    (runAlone (paced d) (ExceptT.lift (await .now) : Attempt Instant).run).Ends p fun x q =>
      ∃ y, x = .ok y ∧ (∃ now, y = .ok now) ∧ Quiet p q := by
  have body := paced_ends (d := d) .now
    (R := fun x v => (∃ now, x = .ok now) ∧ v.signals = p.world.signals) h
    fun w _ signals => ⟨rfl, ⟨_, rfl⟩, signals⟩
  refine Store.Ends.bind body ?_ ?_
  · rintro e q ⟨_, _, ⟨now, ⟨⟩⟩, _⟩
  · rintro now q ⟨later, sound, _, signals⟩
    exact Store.Ends.pure ⟨_, rfl, ⟨now, rfl⟩, later, sound, signals⟩

theorem filtered_grade (grade : Option SignalGrade) :
    (grade.filter SignalGrade.valid).all SignalGrade.valid = true := by
  cases grade with
  | none => rfl
  | some g => cases valid : g.valid <;> simp [Option.filter, valid]

theorem grade_ends (h : Sound p.world) (input : IncomingSignal) :
    (runAlone (paced d) (Signals.gradeSignal d input).run).Ends p fun x q =>
      ∃ y, x = .ok y ∧ (∃ grade, y = .ok grade ∧ grade.all SignalGrade.valid = true) ∧ Quiet p q := by
  unfold Signals.gradeSignal
  split
  · have body := paced_ends (d := d) (.gradeSignal input)
      (R := fun x v => (∃ grade, x = .ok grade ∧ grade.all SignalGrade.valid = true) ∧
        v.signals = p.world.signals) h
      fun w _ signals => ⟨rfl, ⟨_, rfl, filtered_grade _⟩, signals⟩
    refine Store.Ends.bind body ?_ ?_
    · rintro e q ⟨_, _, ⟨grade, ⟨⟩, _⟩, _⟩
    · rintro grade q ⟨later, sound, ⟨_, ⟨⟩, valid⟩, signals⟩
      exact Store.Ends.pure ⟨_, rfl, ⟨grade, rfl, valid⟩, later, sound, signals⟩
  · exact Store.Ends.pure ⟨_, rfl, ⟨none, rfl, rfl⟩, .refl p, h, rfl⟩

/-- The outbox takes a valid command unless its storage refuses it. -/
theorem enqueue_ends (h : Sound p.world) {command : EnqueueOutboxEvent}
    (valid : command.valid = true) :
    (runAlone (paced d) (enqueueCommand command).run).Ends p fun x q =>
      ∃ y, x = .ok y ∧ (y = .ok () ↔ d.refuses command = false) ∧ Quiet p q := by
  have body := paced_ends (d := d) (.enqueue command)
    (R := fun x v => (∃ y, x = .ok y ∧ ((∃ e, y = .ok e) ↔ d.refuses command = false)) ∧
      v.signals = p.world.signals) h ?_
  · refine Store.Ends.bind body ?_ ?_
    · rintro e q ⟨_, _, ⟨y, ⟨⟩, _⟩, _⟩
    · rintro y q ⟨later, sound, ⟨_, ⟨⟩, taken⟩, signals⟩
      cases y with
      | ok e => exact Store.Ends.pure ⟨_, rfl, by simp [← taken], later, sound, signals⟩
      | error e => exact Store.Ends.pure ⟨_, rfl, by simp [← taken], later, sound, signals⟩
  · intro w sound signals
    have call : (Signals.enqueue d w.clock command).Ends w.outbox fun x _ =>
        (∃ e, x = .ok e) ↔ d.refuses command = false := by
      refine Store.Ends.require_bind (fun refused => ?_) fun taken => ?_
      · exact ⟨by rintro ⟨e, ⟨⟩⟩, fun taken => absurd taken refused⟩
      · refine (InMemoryOutboxRepository.enqueue_sends sound.consistent w.clock valid).weaken ?_
        exact fun x _ sent => ⟨fun _ => taken, fun _ => sent.1⟩
    obtain ⟨y, taken, same, _⟩ := outbox_ends (f := fun now => Signals.enqueue d now command) call
    refine ⟨rfl, ⟨_, rfl, ?_⟩, signals⟩
    refine Iff.trans ?_ taken
    cases y with
    | ok e => exact ⟨fun _ => ⟨e, rfl⟩, fun _ => ⟨e, same⟩⟩
    | error e => exact ⟨fun ⟨_, answer⟩ => (by cases same.symm.trans answer), by rintro ⟨_, ⟨⟩⟩⟩

theorem mark_ends (h : Sound p.world) (tenantId : String) (ids : List Nat) :
    (runAlone (paced d) (ExceptT.mk (await (.markProcessed tenantId ids)) : Attempt Unit).run).Ends p
      fun x q => ∃ y, x = .ok y ∧ y = .ok () ∧ Later p q ∧ Sound q.world ∧
        ∃ now, q.world.signals = ((markProcessed now tenantId ids).run p.world.signals).2 := by
  have body := paced_ends (d := d) (.markProcessed tenantId ids)
    (R := fun x v => x = .ok (.ok ()) ∧
      ∃ now, v.signals = ((markProcessed now tenantId ids).run p.world.signals).2) h
    fun w _ signals => ⟨rfl, rfl, w.clock, by rw [← signals]; rfl⟩
  refine Store.Ends.bind body ?_ ?_
  · rintro e q ⟨_, _, ⟨⟩, _⟩
  · rintro y q ⟨later, sound, ⟨⟩, marked⟩
    exact Store.Ends.pure ⟨_, rfl, rfl, later, sound, marked⟩

theorem release_ends (h : Sound p.world) (tenantId : String) (ids : List Nat) (owner : String) :
    (paced d (.releaseClaims tenantId ids owner)).Ends p fun x q => Later p q ∧ Sound q.world ∧
      x = .ok () ∧ q.world.signals = ((releaseClaims tenantId ids owner).run p.world.signals).2 :=
  paced_ends (.releaseClaims tenantId ids owner) (R := fun x v => x = .ok () ∧
    v.signals = ((releaseClaims tenantId ids owner).run p.world.signals).2) h
    fun w _ signals => ⟨rfl, rfl, by rw [← signals]; rfl⟩

end

/-- How processing a signal ends. -/
inductive Outcome (d : Deployment) (r : SignalEventRecord) (p q : Paced) : Except WorkerError Unit → Prop
  | failed (e : WorkerError) (quiet : Quiet p q) (unfit : ¬ Succeeds d r) : Outcome d r p q (.error e)
  | done (later : Later p q) (sound : Sound q.world) (now : Instant)
      (marked : q.world.signals = ((markProcessed now r.tenantId [r.id]).run p.world.signals).2)
      (fit : ¬ Fails d r) : Outcome d r p q (.ok ())

section
variable {d : Deployment} {r : SignalEventRecord} {p : Paced}

theorem route_ends (h : Sound p.world) (valid : r.valid = true) :
    (runAlone (paced d) (route d (incomingSignal r)).run).Ends p fun x q => ∃ y, x = .ok y ∧
      Quiet p q ∧ match y with
        | .ok routed => ∃ now grade, routed = routedOf now (incomingSignal r) grade ∧
            d.refuses (routingOf r now grade) = false
        | .error _ => ¬ Succeeds d r := by
  unfold route
  rw [if_pos (incoming_valid valid)]
  refine runAlone_attempt_bind (grade_ends h (incomingSignal r)) ?_ ?_
  · rintro grade q ⟨⟨_, ⟨⟩, graded⟩, first⟩
    refine runAlone_attempt_bind (now_ends first.sound) ?_ ?_
    · rintro now t ⟨_, second⟩
      have quiet := first.trans second
      dsimp only
      rw [if_pos (routed_valid valid now graded)]
      refine runAlone_attempt_bind (enqueue_ends quiet.sound (routing_valid valid now grade)) ?_ ?_
      · rintro _ u ⟨taken, third⟩
        exact Store.Ends.pure ⟨_, rfl, quiet.trans third, now, grade, rfl, taken.mp rfl⟩
      · rintro e u ⟨taken, third⟩
        refine ⟨_, rfl, quiet.trans third, fun fit => ?_⟩
        cases taken.mpr (fit now grade now).1
    · rintro e t ⟨⟨now, ⟨⟩⟩, _⟩
  · rintro e q ⟨⟨grade, ⟨⟩, _⟩, _⟩

theorem processSignal_ends (h : Sound p.world) (valid : r.valid = true) :
    (runAlone (paced d) (processSignal d r).run).Ends p fun x q =>
      ∃ y, x = .ok y ∧ Outcome d r p q y := by
  unfold processSignal
  refine runAlone_attempt_bind (route_ends h valid) ?_ ?_
  · rintro routed q ⟨first, now, grade, rfl, routedTaken⟩
    refine runAlone_attempt_bind (now_ends first.sound) ?_ ?_
    · rintro later t ⟨_, second⟩
      have quiet := first.trans second
      refine runAlone_attempt_bind
        (enqueue_ends quiet.sound (request_valid valid now grade later)) ?_ ?_
      · rintro _ u ⟨taken, third⟩
        have before := quiet.trans third
        refine (mark_ends before.sound r.tenantId [r.id]).weaken ?_
        rintro x v ⟨y, rfl, rfl, further, sound, at_, marked⟩
        rw [before.signals] at marked
        refine ⟨_, rfl, .done (before.later.trans further) sound at_ marked fun unfit => ?_⟩
        have requestTaken : d.refuses (requestOf d r now grade later) = false := taken.mp rfl
        rcases unfit now grade later with refused | refused
        · rw [routedTaken] at refused
          cases refused
        · rw [requestTaken] at refused
          cases refused
      · rintro e u ⟨taken, third⟩
        refine ⟨_, rfl, .failed e (quiet.trans third) fun fit => ?_⟩
        cases taken.mpr (fit now grade later).2
    · rintro e t ⟨⟨now, ⟨⟩⟩, _⟩
  · rintro e q ⟨quiet, unfit⟩
    exact ⟨_, rfl, .failed e quiet unfit⟩

/-- What taking up a claimed signal does. -/
inductive Taken (d : Deployment) (owner : String) (r : SignalEventRecord) (p q : Paced) : Prop
  | released (unfit : ¬ Succeeds d r)
      (signals : q.world.signals = ((releaseClaims r.tenantId [r.id] owner).run p.world.signals).2)
  | done (fit : ¬ Fails d r) (now : Instant)
      (signals : q.world.signals = ((markProcessed now r.tenantId [r.id]).run p.world.signals).2)

theorem processClaimed_ends (h : Sound p.world) (valid : r.valid = true) (w : SignalIngestionWorker)
    (result : SignalProcessingResult) :
    (runAlone (paced d) (processClaimed d w result r)).Ends p fun x q => (∃ b, x = .ok b) ∧
      Later p q ∧ Sound q.world ∧ Taken d w.claimOwner r p q := by
  unfold processClaimed
  rw [runAlone_bind]
  refine Store.Ends.bind (processSignal_ends h valid) ?_ ?_
  · rintro e q ⟨_, ⟨⟩, _⟩
  · rintro x q ⟨_, ⟨⟩, outcome⟩
    cases outcome with
    | failed e quiet unfit =>
      refine Store.Ends.bind (release_ends quiet.sound r.tenantId [r.id] w.claimOwner) ?_ ?_
      · rintro e t ⟨_, _, ⟨⟩, _⟩
      · rintro _ t ⟨further, sound, _, freed⟩
        rw [quiet.signals] at freed
        exact Store.Ends.pure ⟨⟨_, rfl⟩, quiet.later.trans further, sound, .released unfit freed⟩
    | done later sound now marked fit =>
      exact Store.Ends.pure ⟨⟨_, rfl⟩, later, sound, .done fit now marked⟩

end

/-- Records are changed in place, those that `only` does not admit not at all. -/
def Changes (only : SignalEventRecord → Prop) (s t : InMemorySignalEventsRepository) : Prop :=
  ∃ f, t.records = s.records.map f ∧ ∀ x ∈ s.records, ingested (f x) = ingested x ∧
    (x.processedAt ≠ none → (f x).processedAt ≠ none) ∧ (¬ only x → f x = x)

section
variable {only : SignalEventRecord → Prop} {s t u : InMemorySignalEventsRepository}

theorem Changes.refl (only : SignalEventRecord → Prop) (s : InMemorySignalEventsRepository) :
    Changes only s s :=
  ⟨id, s.records.map_id.symm, fun _ _ => ⟨rfl, id, fun _ => rfl⟩⟩

theorem Changes.trans (first : Changes only s t) (second : Changes only t u) : Changes only s u := by
  obtain ⟨f, written, kept⟩ := first
  obtain ⟨g, written', kept'⟩ := second
  refine ⟨g ∘ f, by rw [written', written, List.map_map], fun x there => ?_⟩
  obtain ⟨same, stays, fixed⟩ := kept x there
  obtain ⟨same', stays', fixed'⟩ := kept' (f x) (written ▸ List.mem_map_of_mem there)
  refine ⟨same'.trans same, fun closed => stays' (stays closed), fun free => ?_⟩
  have first := fixed free
  rw [first] at fixed'
  exact (congrArg g first).trans (fixed' free)

theorem Changes.weaken {only' : SignalEventRecord → Prop} (h : Changes only s t)
    (sub : ∀ x ∈ s.records, only x → only' x) : Changes only' s t := by
  obtain ⟨f, written, kept⟩ := h
  refine ⟨f, written, fun x there => ?_⟩
  obtain ⟨same, stays, fixed⟩ := kept x there
  exact ⟨same, stays, fun free => fixed fun chosen => free (sub x there chosen)⟩

/-- A record that is there now was there before. -/
theorem Changes.back (h : Changes only s t) {x : SignalEventRecord} (there : x ∈ t.records) :
    ∃ old ∈ s.records, ingested x = ingested old := by
  obtain ⟨f, written, kept⟩ := h
  rw [written] at there
  obtain ⟨old, stored, rfl⟩ := List.mem_map.mp there
  exact ⟨old, stored, (kept old stored).1⟩

theorem Changes.forth (h : Changes only s t) {x : SignalEventRecord} (there : x ∈ s.records) :
    ∃ new ∈ t.records, ingested new = ingested x ∧ (x.processedAt ≠ none → new.processedAt ≠ none) := by
  obtain ⟨f, written, kept⟩ := h
  obtain ⟨same, stays, _⟩ := kept x there
  exact ⟨f x, written ▸ List.mem_map_of_mem there, same, stays⟩

theorem leased_changes {now : Instant} {claim : SignalProcessingClaim} {ids : List Nat}
    (written : t.records = s.records.map (leaseIn now claim ids)) :
    Changes (fun x => x.id ∈ ids) s t := by
  refine ⟨_, written, fun x _ => ?_⟩
  unfold leaseIn
  by_cases chosen : x.id ∈ ids
  · rw [if_pos chosen]
    exact ⟨rfl, id, fun free => absurd chosen free⟩
  · rw [if_neg chosen]
    exact ⟨rfl, id, fun _ => rfl⟩

theorem released_changes {r : SignalEventRecord} {owner : String}
    (written : t = ((releaseClaims r.tenantId [r.id] owner).run s).2) :
    Changes (fun x => x.id = r.id) s t := by
  refine ⟨_, congrArg InMemorySignalEventsRepository.records written, fun x _ => ?_⟩
  split
  · rename_i chosen
    exact ⟨rfl, id, fun free => absurd (List.mem_singleton.mp chosen.2.1) free⟩
  · exact ⟨rfl, id, fun _ => rfl⟩

theorem marked_changes {r : SignalEventRecord} {now : Instant}
    (written : t = ((markProcessed now r.tenantId [r.id]).run s).2) :
    Changes (fun x => x.id = r.id) s t := by
  refine ⟨_, congrArg InMemorySignalEventsRepository.records written, fun x _ => ?_⟩
  split
  · rename_i chosen
    exact ⟨rfl, fun _ => Option.some_ne_none _, fun free => absurd (List.mem_singleton.mp chosen.2.1) free⟩
  · exact ⟨rfl, id, fun _ => rfl⟩

theorem Taken.changes {d : Deployment} {owner : String} {r : SignalEventRecord} {p q : Paced}
    (h : Taken d owner r p q) : Changes (fun x => x.id = r.id) p.world.signals q.world.signals := by
  cases h with
  | released unfit signals => exact released_changes signals
  | done fit now signals => exact marked_changes signals

end

/-- The signals a claim is about. -/
def Of (tenantId : String) (signalType : SignalTypeValue) (r : SignalEventRecord) : Prop :=
  r.tenantId = tenantId ∧ r.signalType = signalType

theorem of_same {a b : SignalEventRecord} (same : ingested a = ingested b) {tenantId : String}
    {signalType : SignalTypeValue} (h : Of tenantId signalType a) : Of tenantId signalType b := by
  have tenant := congrArg SignalEventRecord.tenantId same
  have type := congrArg SignalEventRecord.signalType same
  exact ⟨tenant.symm.trans h.1, type.symm.trans h.2⟩

theorem claimable_of {now : Instant} {tenantId : String} {signalType : SignalTypeValue}
    {r : SignalEventRecord} (h : claimable now tenantId signalType r = true) :
    Of tenantId signalType r ∧ r.processedAt = none := by
  simp only [claimable, Bool.and_eq_true, beq_iff_eq, Option.isNone_iff_eq_none] at h
  exact ⟨h.1.1, h.1.2⟩

theorem mem_taken {s : InMemorySignalEventsRepository} {now : Instant} {tenantId : String}
    {signalType : SignalTypeValue} {limit : Nat} {r : SignalEventRecord}
    (member : r ∈ s.taken now tenantId signalType limit) :
    r ∈ s.records ∧ claimable now tenantId signalType r = true :=
  List.mem_filter.mp (List.take_subset _ _ member)

section
variable {d : Deployment} {c : Caller} {p : Paced}

theorem claim_ends (h : Sound p.world) (uuid : isUuid c.tenantId = true)
    (fits : c.claim.valid = true) (σ : SignalTypeValue) :
    (paced d (.claimUnprocessed c.tenantId σ c.batchSize c.claim)).Ends p fun x q =>
      Later p q ∧ Sound q.world ∧
        x = .ok ((p.world.signals.taken q.world.clock c.tenantId σ c.batchSize).map
          (leased q.world.clock c.claim)) ∧
        q.world.signals.records = p.world.signals.records.map (leaseIn q.world.clock c.claim
          ((p.world.signals.taken q.world.clock c.tenantId σ c.batchSize).map (·.id))) := by
  refine paced_ends (.claimUnprocessed c.tenantId σ c.batchSize c.claim) (R := fun x v =>
    x = .ok ((p.world.signals.taken v.clock c.tenantId σ c.batchSize).map (leased v.clock c.claim)) ∧
      v.signals.records = p.world.signals.records.map (leaseIn v.clock c.claim
        ((p.world.signals.taken v.clock c.tenantId σ c.batchSize).map (·.id)))) h ?_
  intro w sound signals
  have run := @claimUnprocessed_run _ w.clock sound.ordered _ uuid σ c.batchSize _ fits
  have body : (onSignals fun now => claimUnprocessed now c.tenantId σ c.batchSize c.claim).run w =
      (.ok ((w.signals.taken w.clock c.tenantId σ c.batchSize).map (leased w.clock c.claim)),
        { w with signals := { w.signals with
          records := w.signals.records.map (leaseIn w.clock c.claim
            ((w.signals.taken w.clock c.tenantId σ c.batchSize).map (·.id))) } }) := by
    simp only [onSignals, Store.run_bind, Store.run_read, Store.zoom, Store.mapError, run]
    rfl
  refine Store.Ends.calm (R := fun x v => v.clock = w.clock ∧
    x = .ok ((p.world.signals.taken v.clock c.tenantId σ c.batchSize).map (leased v.clock c.claim)) ∧
      v.signals.records = p.world.signals.records.map (leaseIn v.clock c.claim
        ((p.world.signals.taken v.clock c.tenantId σ c.batchSize).map (·.id)))) ?_ fun x t result => result
  unfold Store.Ends
  rw [body, ← signals]
  exact ⟨rfl, rfl, rfl⟩

/-- What holds once the claim is made, and is kept by taking up each of the
claimed signals. -/
theorem processType_ends {K : List SignalEventRecord → Paced → Prop} (h : Sound p.world)
    (uuid : isUuid c.tenantId = true) (fits : c.claim.valid = true) (σ : SignalTypeValue)
    (result : SignalProcessingResult)
    (claimed : ∀ q, Later p q → Sound q.world →
      q.world.signals.records = p.world.signals.records.map (leaseIn q.world.clock c.claim
        ((p.world.signals.taken q.world.clock c.tenantId σ c.batchSize).map (·.id))) →
      K ((p.world.signals.taken q.world.clock c.tenantId σ c.batchSize).map
        (leased q.world.clock c.claim)) q)
    (each : ∀ r rest q t, Later p q → Later q t → K (r :: rest) q →
      Taken d c.worker.claimOwner r q t → K rest t) :
    (runAlone (paced d) (processType d c.worker c.tenantId c.batchSize result σ)).Ends p fun x q =>
      (∃ b, x = .ok b) ∧ Later p q ∧ Sound q.world ∧ K [] q := by
  refine Store.Ends.bind (claim_ends h uuid fits σ) ?_ ?_
  · rintro e q ⟨_, _, ⟨⟩, _⟩
  · rintro l q ⟨later, sound, ⟨⟩, written⟩
    have valid : ∀ r ∈ (p.world.signals.taken q.world.clock c.tenantId σ c.batchSize).map
        (leased q.world.clock c.claim), r.valid = true := by
      intro r member
      obtain ⟨old, there, rfl⟩ := List.mem_map.mp member
      exact h.ordered.valid old (mem_taken there).1
    refine (runAlone_foldlM (J := fun rest t => Later p t ∧ Sound t.world ∧
      (∀ r ∈ rest, r.valid = true) ∧ K rest t) ?_ _
        ⟨later, sound, valid, claimed q later sound written⟩).weaken ?_
    · rintro r rest a t ⟨waited, sound', fit, kept⟩
      refine (processClaimed_ends sound' (fit r List.mem_cons_self) c.worker a).weaken ?_
      rintro x u ⟨returned, further, sound'', taken⟩
      exact ⟨returned, waited.trans further, sound'', fun other member =>
        fit other (List.mem_cons_of_mem r member), each r rest t u waited further kept taken⟩
    · rintro x t ⟨returned, waited, sound', _, kept⟩
      exact ⟨returned, waited, sound', kept⟩

/-- Whatever the type, records are changed in place. -/
theorem any_type_ends (h : Sound p.world) (uuid : isUuid c.tenantId = true)
    (fits : c.claim.valid = true) (σ : SignalTypeValue) (result : SignalProcessingResult) :
    (runAlone (paced d) (processType d c.worker c.tenantId c.batchSize result σ)).Ends p fun x q =>
      (∃ b, x = .ok b) ∧ Later p q ∧ Sound q.world ∧
        Changes (fun _ => True) p.world.signals q.world.signals := by
  refine processType_ends (K := fun _ q => Changes (fun _ => True) p.world.signals q.world.signals)
    h uuid fits σ result ?_ ?_
  · exact fun q _ _ written => (leased_changes written).weaken fun _ _ _ => trivial
  · exact fun r rest q t _ _ kept taken => kept.trans (taken.changes.weaken fun _ _ _ => trivial)

/-- Taking up the signals of another type leaves those of this type alone. -/
theorem other_type_ends (h : Sound p.world) (uuid : isUuid c.tenantId = true)
    (fits : c.claim.valid = true) {σ τ : SignalTypeValue} (other : σ ≠ τ)
    (result : SignalProcessingResult) :
    (runAlone (paced d) (processType d c.worker c.tenantId c.batchSize result σ)).Ends p fun x q =>
      (∃ b, x = .ok b) ∧ Later p q ∧ Sound q.world ∧
        Changes (fun x => ¬ Of c.tenantId τ x) p.world.signals q.world.signals := by
  have apart : ∀ x, Of c.tenantId σ x → ¬ Of c.tenantId τ x :=
    fun x first second => other (first.2.symm.trans second.2)
  refine (processType_ends (K := fun rest q =>
    Changes (fun x => ¬ Of c.tenantId τ x) p.world.signals q.world.signals ∧
      ∀ r ∈ rest, ∀ x ∈ q.world.signals.records, x.id = r.id → ¬ Of c.tenantId τ x)
    h uuid fits σ result ?_ ?_).weaken fun x q ends => ⟨ends.1, ends.2.1, ends.2.2.1, ends.2.2.2.1⟩
  · intro q _ _ written
    have changes := leased_changes written
    refine ⟨changes.weaken ?_, ?_⟩
    · intro x there chosen
      obtain ⟨old, taken, same⟩ := List.mem_map.mp chosen
      obtain ⟨stored, free⟩ := mem_taken taken
      obtain rfl := h.ordered.same_id stored there same
      exact apart old (claimable_of free).1
    · intro r member x there same
      obtain ⟨old, taken, rfl⟩ := List.mem_map.mp member
      obtain ⟨stored, free⟩ := mem_taken taken
      obtain ⟨before, present, equal⟩ := changes.back there
      obtain rfl := h.ordered.same_id present stored ((ingested_id equal).symm.trans same)
      exact apart x (of_same equal.symm (claimable_of free).1)
  · rintro r rest q t _ _ ⟨changes, others⟩ taken
    have touched := taken.changes
    refine ⟨changes.trans (touched.weaken fun x there same => others r List.mem_cons_self x there same),
      ?_⟩
    intro r' member x there same of
    obtain ⟨old, present, equal⟩ := touched.back there
    exact others r' (List.mem_cons_of_mem r member) old present
      ((ingested_id equal).symm.trans same) (of_same equal of)

end

section
variable {tenantId : String} {τ : SignalTypeValue} {s t u : InMemorySignalEventsRepository}

theorem Progress.later {only : SignalEventRecord → Prop} (h : Progress tenantId τ s t)
    (changes : Changes only t u) : Progress tenantId τ s u := by
  obtain ⟨r, there, tenant, type, free, r', present, same, closed⟩ := h
  obtain ⟨new, stored, equal, stays⟩ := changes.forth present
  exact ⟨r, there, tenant, type, free, new, stored, (ingested_id equal).trans same, stays closed⟩

/-- Records that are changed alike are claimed alike. -/
theorem taken_map {f : SignalEventRecord → SignalEventRecord} {now : Instant}
    (written : t.records = s.records.map f)
    (same : ∀ x ∈ s.records, claimable now tenantId τ (f x) = claimable now tenantId τ x)
    (limit : Nat) : t.taken now tenantId τ limit = (s.taken now tenantId τ limit).map f := by
  unfold taken
  rw [written, List.filter_map, List.map_take]
  refine congrArg (fun l => (l.map f).take limit) (List.filter_congr ?_)
  exact fun x there => same x there

/-- Where a type is left alone, the same signals of it are claimed. -/
theorem Changes.taken {now : Instant} (h : Changes (fun x => ¬ Of tenantId τ x) s t) (limit : Nat) :
    t.taken now tenantId τ limit = s.taken now tenantId τ limit := by
  obtain ⟨f, written, kept⟩ := h
  have fixed : ∀ x ∈ s.records, Of tenantId τ x → f x = x :=
    fun x there of => (kept x there).2.2 fun free => free of
  have same : ∀ x ∈ s.records, claimable now tenantId τ (f x) = claimable now tenantId τ x := by
    intro x there
    by_cases of : Of tenantId τ x
    · rw [fixed x there of]
    · have none_ : claimable now tenantId τ x = false :=
        Bool.eq_false_iff.mpr fun free => of (claimable_of free).1
      have still : claimable now tenantId τ (f x) = false :=
        Bool.eq_false_iff.mpr fun free =>
          of (of_same (kept x there).1 (claimable_of free).1)
      rw [none_, still]
  rw [taken_map written same]
  calc
    (s.taken now tenantId τ limit).map f = (s.taken now tenantId τ limit).map id := by
      refine List.map_congr_left fun x member => ?_
      obtain ⟨there, free⟩ := mem_taken member
      exact fixed x there (claimable_of free).1
    _ = s.taken now tenantId τ limit := List.map_id _

end

theorem Succeeds.same {d : Deployment} {a b : SignalEventRecord} (same : ingested a = ingested b)
    (h : Succeeds d a) : Succeeds d b := by
  intro now grade later
  rw [← routingOf_same same, ← requestOf_same same]
  exact h now grade later

theorem Fails.same {d : Deployment} {a b : SignalEventRecord} (same : ingested a = ingested b)
    (h : Fails d a) : Fails d b := by
  intro now grade later
  rw [← routingOf_same same, ← requestOf_same same]
  exact h now grade later

/-- Marking a signal that is stored leaves it processed. -/
theorem marked_processed {s t : InMemorySignalEventsRepository} {r x : SignalEventRecord}
    {now : Instant} (there : x ∈ s.records) (same : ingested x = ingested r)
    (written : t = ((markProcessed now r.tenantId [r.id]).run s).2) :
    ∃ y ∈ t.records, y.id = x.id ∧ y.processedAt ≠ none := by
  have tenant := congrArg SignalEventRecord.tenantId same
  by_cases free : x.processedAt = none
  · refine ⟨processed now x, ?_, rfl, Option.some_ne_none now⟩
    rw [written]
    refine List.mem_map.mpr ⟨x, there, if_pos ⟨tenant, ?_, free⟩⟩
    exact List.mem_singleton.mpr (ingested_id same)
  · refine ⟨x, ?_, rfl, free⟩
    rw [written]
    exact List.mem_map.mpr ⟨x, there, if_neg fun chosen => free chosen.2.2⟩

section
variable {d : Deployment} {c : Caller} {p : Paced} {τ : SignalTypeValue}

/-- A signal that is claimed and succeeds is processed. -/
theorem good_type_ends (h : Sound p.world) (uuid : isUuid c.tenantId = true)
    (fits : c.claim.valid = true) (result : SignalProcessingResult)
    (good : ∀ now, p.world.clock ≤ now →
      ∃ r ∈ p.world.signals.taken now c.tenantId τ c.batchSize, Succeeds d r) :
    (runAlone (paced d) (processType d c.worker c.tenantId c.batchSize result τ)).Ends p fun x q =>
      (∃ b, x = .ok b) ∧ Later p q ∧ Sound q.world ∧
        Progress c.tenantId τ p.world.signals q.world.signals := by
  refine (processType_ends (K := fun rest q =>
    Changes (fun _ => True) p.world.signals q.world.signals ∧
      ((∃ r ∈ p.world.signals.records, Of c.tenantId τ r ∧ r.processedAt = none ∧ Succeeds d r ∧
        ∃ next ∈ rest, ingested next = ingested r) ∨
      Progress c.tenantId τ p.world.signals q.world.signals))
    h uuid fits τ result ?_ ?_).weaken ?_
  · intro q later _ written
    refine ⟨(leased_changes written).weaken fun _ _ _ => trivial, Or.inl ?_⟩
    obtain ⟨r, taken, fit⟩ := good q.world.clock later.bound
    obtain ⟨there, free⟩ := mem_taken taken
    exact ⟨r, there, (claimable_of free).1, (claimable_of free).2, fit,
      leased q.world.clock c.claim r, List.mem_map_of_mem taken, rfl⟩
  · rintro next rest q t _ _ ⟨changes, state⟩ taken
    have touched := taken.changes
    refine ⟨changes.trans (touched.weaken fun _ _ _ => trivial), ?_⟩
    rcases state with ⟨r, there, of, free, fit, other, member, same⟩ | done
    · rcases List.mem_cons.mp member with rfl | waiting
      · cases taken with
        | released unfit signals => exact absurd (fit.same same.symm) unfit
        | done fit now signals =>
          obtain ⟨x, present, equal, _⟩ := changes.forth there
          obtain ⟨y, stored, id, closed⟩ :=
            marked_processed present (equal.trans same.symm) signals
          exact Or.inr ⟨r, there, of.1, of.2, free, y, stored, id.trans (ingested_id equal), closed⟩
      · exact Or.inl ⟨r, there, of, free, fit, other, waiting, same⟩
    · exact Or.inr (done.later touched)
  · rintro x q ⟨returned, later, sound, _, ⟨_, _, _, _, _, _, ⟨⟩, _⟩ | done⟩
    exact ⟨returned, later, sound, done⟩

/-- What becomes of a record while signals of its type fail and `rest` is still
to be taken up. -/
structure Held (now : Instant) (tenantId : String) (τ : SignalTypeValue) (owner : String)
    (rest : List Nat) (x y : SignalEventRecord) : Prop where
  same : ingested y = ingested x
  processed : y.processedAt = x.processedAt
  free : x.id ∉ rest → claimable now tenantId τ y = claimable now tenantId τ x
  leased : x.id ∈ rest → claimable now tenantId τ x = true ∧
    (y.processingLeaseOwner = some owner ∨ claimable now tenantId τ y = true)

theorem claimable_released {now : Instant} {tenantId : String} {r : SignalEventRecord}
    (of : Of tenantId τ r) (unprocessed : r.processedAt = none) :
    claimable now tenantId τ (released r) = true := by
  simp [claimable, released, of.1, of.2, unprocessed]

/-- The owner releases a claimed signal of the type. -/
theorem Held.release {now : Instant} {tenantId owner : String} {rest : List Nat}
    {r x y : SignalEventRecord} (h : Held now tenantId τ owner (r.id :: rest) x y)
    (tenant : r.tenantId = tenantId) :
    Held now tenantId τ owner rest x
      (if y.tenantId = r.tenantId ∧ y.id ∈ [r.id] ∧ y.processedAt = none ∧
        y.processingLeaseOwner = some owner then released y else y) := by
  have freed : claimable now tenantId τ x = true → Of tenantId τ y ∧ y.processedAt = none := by
    intro claimed
    obtain ⟨of, open_⟩ := claimable_of claimed
    exact ⟨of_same h.same.symm of, h.processed.trans open_⟩
  have id : y.id = x.id := ingested_id h.same
  by_cases chosen : y.tenantId = r.tenantId ∧ y.id ∈ [r.id] ∧ y.processedAt = none ∧
      y.processingLeaseOwner = some owner
  · have member : x.id ∈ r.id :: rest := by
      rw [← id, List.mem_singleton.mp chosen.2.1]
      exact List.mem_cons_self
    obtain ⟨claimed, _⟩ := h.leased member
    have open_ : claimable now tenantId τ (released y) = true :=
      claimable_released (freed claimed).1 (freed claimed).2
    rw [if_pos chosen]
    exact ⟨h.same, h.processed, fun _ => open_.trans claimed.symm, fun _ => ⟨claimed, Or.inr open_⟩⟩
  · rw [if_neg chosen]
    refine ⟨h.same, h.processed, fun done => ?_, fun member =>
      h.leased (List.mem_cons_of_mem r.id member)⟩
    by_cases first : x.id = r.id
    · obtain ⟨claimed, owned | open_⟩ := h.leased (first ▸ List.mem_cons_self)
      · obtain ⟨of, unprocessed⟩ := freed claimed
        refine absurd ⟨of.1.trans tenant.symm, ?_, unprocessed, owned⟩ chosen
        exact List.mem_singleton.mpr (id.trans first)
      · exact open_.trans claimed.symm
    · refine h.free fun member => ?_
      rcases List.mem_cons.mp member with same | later
      · exact first same
      · exact done later

/-- Each signal of the type is claimed as before, and none is processed. -/
def Alike (now : Instant) (tenantId : String) (τ : SignalTypeValue)
    (s t : InMemorySignalEventsRepository) : Prop :=
  ∃ f, t.records = s.records.map f ∧ ∀ x ∈ s.records, ingested (f x) = ingested x ∧
    (Of tenantId τ x → (f x).processedAt = x.processedAt ∧
      claimable now tenantId τ (f x) = claimable now tenantId τ x)

/-- While nothing but failing signals is claimed, a type stays as it is. -/
theorem stuck_type_ends (h : Sound p.world) (uuid : isUuid c.tenantId = true)
    (fits : c.claim.valid = true) (result : SignalProcessingResult) (still : p.delays = [])
    (stuck : ∀ r ∈ p.world.signals.taken p.world.clock c.tenantId τ c.batchSize, Fails d r) :
    (runAlone (paced d) (processType d c.worker c.tenantId c.batchSize result τ)).Ends p fun x q =>
      (∃ b, x = .ok b) ∧ Later p q ∧ Sound q.world ∧
        Alike p.world.clock c.tenantId τ p.world.signals q.world.signals := by
  refine (processType_ends (K := fun rest q =>
    (∀ r ∈ rest, r.tenantId = c.tenantId ∧ Fails d r) ∧
      ∃ f, q.world.signals.records = p.world.signals.records.map f ∧
        ∀ x ∈ p.world.signals.records,
          Held p.world.clock c.tenantId τ c.worker.claimOwner (rest.map (·.id)) x (f x))
    h uuid fits τ result ?_ ?_).weaken ?_
  · intro q later _ written
    rw [(later.steady still).2] at written ⊢
    refine ⟨?_, _, written, ?_⟩
    · intro r member
      obtain ⟨old, taken, rfl⟩ := List.mem_map.mp member
      exact ⟨(claimable_of (mem_taken taken).2).1.1, (stuck old taken).same rfl⟩
    · intro x there
      have ids : ((p.world.signals.taken p.world.clock c.tenantId τ c.batchSize).map
          (leased p.world.clock c.claim)).map (·.id) =
          (p.world.signals.taken p.world.clock c.tenantId τ c.batchSize).map (·.id) := by
        rw [List.map_map]
        rfl
      rw [ids]
      by_cases chosen : x.id ∈ (p.world.signals.taken p.world.clock c.tenantId τ c.batchSize).map (·.id)
      · obtain ⟨old, taken, same⟩ := List.mem_map.mp chosen
        obtain ⟨stored, free⟩ := mem_taken taken
        obtain rfl := h.ordered.same_id stored there same
        unfold leaseIn
        rw [if_pos chosen]
        exact ⟨rfl, rfl, fun other => absurd chosen other, fun _ => ⟨free, Or.inl rfl⟩⟩
      · unfold leaseIn
        rw [if_neg chosen]
        exact ⟨rfl, rfl, fun _ => rfl, fun member => absurd member chosen⟩
  · rintro r rest q t _ _ ⟨failing, f, written, held⟩ taken
    cases taken with
    | done fit now signals => exact absurd (failing r List.mem_cons_self).2 fit
    | released unfit signals =>
      refine ⟨fun other member => failing other (List.mem_cons_of_mem r member),
        (fun y => if y.tenantId = r.tenantId ∧ y.id ∈ [r.id] ∧ y.processedAt = none ∧
          y.processingLeaseOwner = some c.worker.claimOwner then released y else y) ∘ f, ?_, ?_⟩
      · rw [signals, ← List.map_map, ← written]
        rfl
      · exact fun x there => (held x there).release (failing r List.mem_cons_self).1
  · rintro x q ⟨returned, later, sound, _, f, written, held⟩
    refine ⟨returned, later, sound, f, written, fun x there => ?_⟩
    obtain ⟨same, processed, free, _⟩ := held x there
    exact ⟨same, fun _ => ⟨processed, free List.not_mem_nil⟩⟩

theorem Alike.refl (now : Instant) (tenantId : String) (s : InMemorySignalEventsRepository) :
    Alike now tenantId τ s s :=
  ⟨id, s.records.map_id.symm, fun _ _ => ⟨rfl, fun _ => ⟨rfl, rfl⟩⟩⟩

theorem Alike.trans {now : Instant} {tenantId : String} {s t u : InMemorySignalEventsRepository}
    (first : Alike now tenantId τ s t) (second : Alike now tenantId τ t u) :
    Alike now tenantId τ s u := by
  obtain ⟨f, written, kept⟩ := first
  obtain ⟨g, written', kept'⟩ := second
  refine ⟨g ∘ f, by rw [written', written, List.map_map], fun x there => ?_⟩
  obtain ⟨same, alike⟩ := kept x there
  obtain ⟨same', alike'⟩ := kept' (f x) (written ▸ List.mem_map_of_mem there)
  refine ⟨same'.trans same, fun of => ?_⟩
  obtain ⟨processed, free⟩ := alike of
  obtain ⟨processed', free'⟩ := alike' (of_same same.symm of)
  exact ⟨processed'.trans processed, free'.trans free⟩

theorem Changes.alike {tenantId : String} {s t : InMemorySignalEventsRepository}
    (h : Changes (fun x => ¬ Of tenantId τ x) s t) (now : Instant) : Alike now tenantId τ s t := by
  obtain ⟨f, written, kept⟩ := h
  refine ⟨f, written, fun x there => ⟨(kept x there).1, fun of => ?_⟩⟩
  have fixed : f x = x := (kept x there).2.2 fun free => free of
  exact ⟨congrArg SignalEventRecord.processedAt fixed, congrArg (claimable now tenantId τ) fixed⟩

/-- What is claimed is of the signals that were claimed before. -/
theorem Alike.taken {now : Instant} {tenantId : String} {s t : InMemorySignalEventsRepository}
    (h : Alike now tenantId τ s t) (limit : Nat) :
    ∀ r ∈ t.taken now tenantId τ limit, ∃ old ∈ s.taken now tenantId τ limit,
      ingested old = ingested r := by
  obtain ⟨f, written, kept⟩ := h
  have same : ∀ x ∈ s.records, claimable now tenantId τ (f x) = claimable now tenantId τ x := by
    intro x there
    obtain ⟨equal, alike⟩ := kept x there
    by_cases of : Of tenantId τ x
    · exact (alike of).2
    · refine Bool.eq_iff_iff.mpr ⟨fun free => ?_, fun free => absurd (claimable_of free).1 of⟩
      exact absurd (of_same equal (claimable_of free).1) of
  rw [taken_map written same]
  intro r member
  obtain ⟨old, taken, rfl⟩ := List.mem_map.mp member
  exact ⟨old, taken, (kept old (mem_taken taken).1).1.symm⟩

theorem Alike.no_progress {now : Instant} {tenantId : String} {s t : InMemorySignalEventsRepository}
    (h : Alike now tenantId τ s t) (ordered : s.Ordered) : ¬ Progress tenantId τ s t := by
  obtain ⟨f, written, kept⟩ := h
  rintro ⟨r, there, tenant, type, free, r', present, same, closed⟩
  rw [written] at present
  obtain ⟨x, stored, rfl⟩ := List.mem_map.mp present
  obtain rfl := ordered.same_id stored there ((ingested_id (kept x stored).1).symm.trans same)
  exact closed (((kept x stored).2 ⟨tenant, type⟩).1.trans free)

theorem Progress.earlier {tenantId : String} {s t u : InMemorySignalEventsRepository}
    (changes : Changes (fun x => ¬ Of tenantId τ x) s t) (h : Progress tenantId τ t u) :
    Progress tenantId τ s u := by
  obtain ⟨f, written, kept⟩ := changes
  obtain ⟨r, there, tenant, type, free, later⟩ := h
  rw [written] at there
  obtain ⟨x, stored, rfl⟩ := List.mem_map.mp there
  have of : Of tenantId τ x := of_same (kept x stored).1 ⟨tenant, type⟩
  have fixed : f x = x := (kept x stored).2.2 fun apart => apart of
  rw [fixed] at tenant type free later
  exact ⟨x, stored, tenant, type, free, later⟩

theorem mem_signalTypeValues (σ : SignalTypeValue) : σ ∈ signalTypeValues := by
  cases σ <;> decide

/-- A call, by what holds while types are left to be gone through. -/
theorem processTenant_ends {K : List SignalTypeValue → Paced → Prop} (h : Sound p.world)
    (start : K signalTypeValues p)
    (each : ∀ σ rest a q, Later p q → Sound q.world → K (σ :: rest) q →
      (runAlone (paced d) (processType d c.worker c.tenantId c.batchSize a σ)).Ends q fun x t =>
        (∃ b, x = .ok b) ∧ Later q t ∧ Sound t.world ∧ K rest t) :
    (runAlone (paced d) (processTenant d c.worker c.tenantId c.batchSize)).Ends p fun _ q =>
      Later p q ∧ Sound q.world ∧ K [] q := by
  refine (runAlone_foldlM (J := fun rest q => Later p q ∧ Sound q.world ∧ K rest q) ?_ _
    ⟨.refl p, h, start⟩).weaken fun _ _ ends => ends.2
  rintro σ rest a q ⟨later, sound, kept⟩
  refine (each σ rest a q later sound kept).weaken ?_
  rintro x t ⟨returned, further, sound', kept'⟩
  exact ⟨returned, later.trans further, sound', kept'⟩

end

section
variable {d : Deployment} {c : Caller} {w : World} {τ : SignalTypeValue} (pace : Pace)
  (h : Sound w) (uuid : isUuid c.tenantId = true) (fits : c.claim.valid = true)
include h uuid fits

theorem call_changes : Sound (call d c w pace) ∧
    Changes (fun _ => True) w.signals (call d c w pace).signals := by
  have waited : Sound (wait w pace.idle) := ⟨h.ordered, h.consistent⟩
  have ends := processTenant_ends (d := d) (c := c) (p := ⟨wait w pace.idle, pace.delays⟩)
    (K := fun _ q => Changes (fun _ => True) w.signals q.world.signals) waited (.refl _ _) ?_
  · exact ends.2
  · intro σ rest a q _ sound kept
    refine (any_type_ends sound uuid fits σ a).weaken ?_
    rintro x t ⟨returned, later, sound', changes⟩
    exact ⟨returned, later, sound', kept.trans changes⟩

/-- A call that claims a signal that succeeds processes one. -/
theorem call_progress (good : ∀ t : Nat, ∃ r ∈ w.signals.taken (w.clock + t) c.tenantId τ c.batchSize,
    Succeeds d r) : Progress c.tenantId τ w.signals (call d c w pace).signals := by
  have waited : Sound (wait w pace.idle) := ⟨h.ordered, h.consistent⟩
  have ends := processTenant_ends (d := d) (c := c) (p := ⟨wait w pace.idle, pace.delays⟩)
    (K := fun rest q =>
      τ ∈ rest ∧ Changes (fun x => ¬ Of c.tenantId τ x) w.signals q.world.signals ∨
        Progress c.tenantId τ w.signals q.world.signals)
    waited (Or.inl ⟨mem_signalTypeValues τ, .refl _ _⟩) ?_
  · rcases ends.2.2 with ⟨⟨⟩, _⟩ | done
    exact done
  · rintro σ rest a q later sound (⟨waiting, untouched⟩ | done)
    · by_cases first : σ = τ
      · subst first
        have fresh : ∀ now, q.world.clock ≤ now →
            ∃ r ∈ q.world.signals.taken now c.tenantId σ c.batchSize, Succeeds d r := by
          intro now bound
          have idle : w.clock ≤ w.clock + pace.idle :=
            Int.le_add_of_nonneg_right (Int.natCast_nonneg _)
          obtain ⟨n, reached⟩ := Int.le.dest (le_trans idle (le_trans later.bound bound))
          rw [untouched.taken, ← reached]
          exact good n
        refine (good_type_ends sound uuid fits a fresh).weaken ?_
        rintro x t ⟨returned, later', sound', done⟩
        exact ⟨returned, later', sound', Or.inr (done.earlier untouched)⟩
      · refine (other_type_ends sound uuid fits first a).weaken ?_
        rintro x t ⟨returned, later', sound', changes⟩
        have left : τ ∈ rest := (List.mem_cons.mp waiting).resolve_left (Ne.symm first)
        exact ⟨returned, later', sound', Or.inl ⟨left, untouched.trans changes⟩⟩
    · refine (any_type_ends sound uuid fits σ a).weaken ?_
      rintro x t ⟨returned, later', sound', changes⟩
      exact ⟨returned, later', sound', Or.inr (done.later changes)⟩

/-- A call that claims only signals that fail leaves the type as it was. -/
theorem call_stuck (still : pace.delays = [])
    (stuck : ∀ r ∈ w.signals.taken (w.clock + pace.idle) c.tenantId τ c.batchSize, Fails d r) :
    (call d c w pace).clock = w.clock + pace.idle ∧
      Alike (w.clock + pace.idle) c.tenantId τ w.signals (call d c w pace).signals := by
  have waited : Sound (wait w pace.idle) := ⟨h.ordered, h.consistent⟩
  have ends := processTenant_ends (d := d) (c := c) (p := ⟨wait w pace.idle, pace.delays⟩)
    (K := fun _ q => Alike (w.clock + pace.idle) c.tenantId τ w.signals q.world.signals)
    waited (.refl _ _ _) ?_
  · exact ⟨(ends.1.steady still).2, ends.2.2⟩
  · intro σ rest a q later sound alike
    obtain ⟨steady, clock⟩ := later.steady still
    by_cases first : σ = τ
    · subst first
      have failing : ∀ r ∈ q.world.signals.taken q.world.clock c.tenantId σ c.batchSize, Fails d r := by
        rw [clock]
        intro r member
        obtain ⟨old, taken, same⟩ := alike.taken c.batchSize r member
        exact (stuck old taken).same same
      refine (stuck_type_ends sound uuid fits a steady failing).weaken ?_
      rintro x t ⟨returned, later', sound', alike'⟩
      rw [clock] at alike'
      exact ⟨returned, later', sound', alike.trans alike'⟩
    · refine (other_type_ends sound uuid fits first a).weaken ?_
      rintro x t ⟨returned, later', sound', changes⟩
      exact ⟨returned, later', sound', alike.trans (changes.alike _)⟩

theorem calls_changes (paces : List Pace) :
    Changes (fun _ => True) w.signals (runs (call d c) w paces).signals := by
  induction paces generalizing w with
  | nil => exact .refl _ _
  | cons pace paces ih =>
    obtain ⟨sound, changes⟩ := call_changes (d := d) pace h uuid fits
    exact changes.trans (ih sound)

/-- Calls in quick succession that claim only signals that fail. -/
theorem calls_stuck (n : Nat)
    (stuck : ∀ r ∈ w.signals.taken w.clock c.tenantId τ c.batchSize, Fails d r) :
    Alike w.clock c.tenantId τ w.signals
      (runs (call d c) w (List.replicate n ⟨0, []⟩)).signals := by
  induction n generalizing w with
  | zero => exact .refl _ _ _
  | succ n ih =>
    have now : w.clock + ((0 : Nat) : Int) = w.clock := Int.add_zero _
    obtain ⟨clock, alike⟩ := call_stuck (d := d) (τ := τ) ⟨0, []⟩ h uuid fits rfl
      (by rw [now]; exact stuck)
    rw [now] at clock alike
    have rest := ih (call_changes (d := d) ⟨0, []⟩ h uuid fits).1 (by
      rw [clock]
      intro r member
      obtain ⟨old, taken, same⟩ := alike.taken c.batchSize r member
      exact (stuck old taken).same same)
    rw [clock] at rest
    exact alike.trans rest

/-- Once a batch of failing signals is claimed, no number of calls helps. -/
theorem stuck_forever {t : Nat} (calls : Nat) (pos : 0 < calls)
    (stuck : ∀ r ∈ w.signals.taken (w.clock + t) c.tenantId τ c.batchSize, Fails d r) :
    ¬ ProcessesWithin d c τ calls w := by
  intro within
  obtain ⟨n, rfl⟩ := Nat.exists_eq_succ_of_ne_zero (Nat.pos_iff_ne_zero.mp pos)
  obtain ⟨clock, alike⟩ := call_stuck ⟨t, []⟩ h uuid fits rfl stuck
  have rest := calls_stuck (d := d) (τ := τ)
    (call_changes (d := d) ⟨t, []⟩ h uuid fits).1 uuid fits n (by
      rw [clock]
      intro r member
      obtain ⟨old, taken, same⟩ := alike.taken c.batchSize r member
      exact (stuck old taken).same same)
  rw [clock] at rest
  have all := alike.trans rest
  exact all.no_progress h.ordered (within (⟨t, []⟩ :: List.replicate n ⟨0, []⟩) (by simp))

end

/-- Where every signal of the type fails always or never, any number of calls
processes one of them exactly if the batch that is claimed, whenever that is,
holds one that succeeds. -/
theorem processes_within_iff (d : Deployment) (c : Caller) (τ : SignalTypeValue) (w : World)
    (sound : Sound w) (uuid : isUuid c.tenantId = true) (fits : c.claim.valid = true)
    (settled : ∀ r ∈ w.signals.records, Of c.tenantId τ r → Fails d r ∨ Succeeds d r)
    (calls : Nat) (pos : 0 < calls) :
    ProcessesWithin d c τ calls w ↔
      ∀ t : Nat, ∃ r ∈ w.signals.taken (w.clock + t) c.tenantId τ c.batchSize, Succeeds d r := by
  constructor
  · intro within t
    by_contra none_
    refine stuck_forever sound uuid fits calls pos ?_ within (t := t)
    intro r taken
    obtain ⟨there, free⟩ := mem_taken taken
    exact (settled r there (claimable_of free).1).resolve_right fun fit => none_ ⟨r, taken, fit⟩
  · intro good paces length
    cases paces with
    | nil => simp only [List.length_nil] at length; omega
    | cons pace paces =>
      have first := call_progress pace sound uuid fits good
      have rest := calls_changes (d := d) (c := c)
        (call_changes (d := d) pace sound uuid fits).1 uuid fits paces
      exact first.later rest

/-- The storage takes no routing event of this feed. -/
def storage : Deployment where
  sha256 := fun _ => "0f".pushn 'a' 62
  refuses command := command.payload.text "source" == some "broken.feed"

theorem storage_decides (r : SignalEventRecord) :
    if r.source = "broken.feed" then Fails storage r else Succeeds storage r := by
  have routing : ∀ now grade,
      (routingOf r now grade).payload.text "source" = some r.source := fun _ _ => rfl
  split
  · rename_i broken
    intro now grade later
    refine Or.inl ?_
    simp only [storage, routing, broken, beq_self_eq_true]
  · rename_i sane
    intro now grade later
    have request : (requestOf storage r now grade later).payload.text "source" ≠ some "broken.feed" := by
      by_cases intel : agentOf r = "intel_director"
      · rw [requestOf_intel intel]
        cases experiment : resolveExperimentId r <;>
          simp [createIntelBriefRequestFromSignal, experiment, Payload.text, List.lookup_cons]
      · rw [requestOf_agent intel]
        exact fun same => sane (Option.some.inj same)
    simp only [storage, routing, beq_eq_false_iff_ne]
    exact ⟨fun same => sane (Option.some.inj same), request⟩

def acme : String := "00000000-0000-4000-8000-000000000001"

def reported (id : Nat) (source : String) : SignalEventRecord :=
  newRecord id 0 ⟨acme, .market, source, none, [("kind", .str "market.update")]⟩

/-- Two signals of the broken feed, and one that came in after them. -/
def poisoned : World where
  clock := 0
  signals := ⟨[reported 1 "broken.feed", reported 2 "broken.feed", reported 3 "market.watch"], 3, []⟩
  outbox := .empty
  grades := []

def router (batchSize : Nat) : Caller := ⟨⟨"signal-router:1", 60000⟩, acme, batchSize⟩

theorem poisoned_sound : Sound poisoned := by
  refine ⟨⟨?_, ?_, ?_⟩, InMemoryOutboxRepository.empty_consistent⟩
  · decide
  · decide
  · decide

/-- In batches of two the third signal never has its turn. -/
theorem broken_feed_starves :
    (∃ r ∈ poisoned.signals.records, claimable 0 acme .market r = true ∧ Succeeds storage r) ∧
      ∀ calls, ¬ ProcessesWithin storage (router 2) .market calls poisoned := by
  constructor
  · refine ⟨reported 3 "market.watch", by simp [poisoned], by decide, ?_⟩
    have decided := storage_decides (reported 3 "market.watch")
    rwa [if_neg (by decide)] at decided
  · intro calls
    cases calls with
    | zero =>
      intro within
      exact (Alike.refl 0 acme poisoned.signals).no_progress poisoned_sound.ordered (within [] rfl)
    | succ n =>
      refine stuck_forever poisoned_sound (by decide) (by decide) (n + 1)
        (Nat.succ_pos n) (t := 0) ?_
      have broken : ∀ r ∈ poisoned.signals.taken (poisoned.clock + (0 : Nat)) acme .market 2,
          r.source = "broken.feed" := by decide
      intro r taken
      have decided := storage_decides r
      rwa [if_pos (broken r taken)] at decided

/-- In batches of three one call is enough. -/
theorem wide_batch_processes : ProcessesWithin storage (router 3) .market 1 poisoned := by
  refine (processes_within_iff storage (router 3) .market poisoned poisoned_sound (by decide)
    (by decide) ?_ 1 Nat.one_pos).mpr ?_
  · intro r _ _
    have decided := storage_decides r
    split at decided
    · exact Or.inl decided
    · exact Or.inr decided
  · intro t
    refine ⟨reported 3 "market.watch", ?_, ?_⟩
    · simp [taken, poisoned, router, reported, newRecord, claimable]
    · have decided := storage_decides (reported 3 "market.watch")
      rwa [if_neg (by decide)] at decided

end VantGrowth.Proofs.PoisonSignals
