import VantGrowth.Publisher.DeadLetters
import VantGrowth.Proofs.OutboxBatches

namespace VantGrowth.Proofs.DeadLetterReading
open Core Db Db.Zod Lib Lib.Text Publisher PublisherLogs OutboxBatches

theorem bearerHit_front (s out rest : JsString) (h : bearerHit s = some (out, rest)) :
    out.head? = s.head? := by
  unfold bearerHit at h
  obtain ⟨afterWord, word, h⟩ := Option.bind_eq_some_iff.mp h
  obtain ⟨_, _, h⟩ := Option.bind_eq_some_iff.mp h
  cases h
  cases s with
  | nil => cases word
  | cons u s => simp [List.take_succ_cons, Nat.add_comm 6]

theorem assignmentHit_front (s out rest : JsString) (h : assignmentHit s = some (out, rest)) :
    out.head? = s.head? := by
  unfold assignmentHit at h
  obtain ⟨word, found, h⟩ := Option.bind_eq_some_iff.mp h
  obtain ⟨value, dropped, h⟩ := Option.bind_eq_some_iff.mp h
  obtain ⟨_, _, h⟩ := Option.bind_eq_some_iff.mp h
  cases h
  have filled : 0 < jsLength word := by
    have member := List.mem_of_find?_eq_some found
    simp only [List.mem_cons, List.not_mem_nil, or_false] at member
    rcases member with rfl | rfl | rfl | rfl | rfl <;> decide
  cases s with
  | nil =>
    have member := List.mem_of_find?_eq_some found
    simp only [List.mem_cons, List.not_mem_nil, or_false] at member
    rcases member with rfl | rfl | rfl | rfl | rfl <;> cases dropped
  | cons u s =>
    obtain ⟨n, size⟩ := Nat.exists_eq_succ_of_ne_zero (Nat.ne_of_gt filled)
    simp [size]

/-- What is shown of an error starts as the error does. -/
theorem sanitizeError_head (value : String) :
    (sanitizeError value).head? = (JsString.ofString value).head? := by
  unfold sanitizeError JsString.replaceAll
  rw [JsString.take_head (by decide), JsString.replaceFrom_head assignmentHit_front,
    JsString.replaceFrom_head bearerHit_front]

theorem nonEmptyUnits_filled {s : JsString} {u : UInt16} (first : s.head? = some u)
    (plain : JsString.isSpace u = false) : nonEmptyUnits s = some (trimUnits s) :=
  if_neg (trim_ne_nil first plain)

theorem nonEmptyText_filled {s : String} {c : Char} (first : s.toList.head? = some c)
    (plain : isSpaceChar c = false) : nonEmptyText s = some (jsTrim s) :=
  if_neg (jsTrim_ne_empty first plain)

theorem sanitizeError_filled {error : String} (filled : jsTrim error ≠ "") :
    (nonEmptyUnits (sanitizeError (jsTrim error))).isSome = true := by
  cases chars : (jsTrim error).toList with
  | nil => exact absurd (String.toList_inj.mp chars) filled
  | cons c cs =>
    have first : (jsTrim error).toList.head? = some c := by rw [chars]; rfl
    obtain ⟨u, head, plain⟩ := JsString.ofString_head first (jsTrim_head first)
    rw [nonEmptyUnits_filled ((sanitizeError_head _).trans head) plain]
    rfl

/-- A text the trimmed schema of a bound takes. -/
abbrev Fits (high : Nat) (s : String) : Prop := 1 ≤ jsLength (jsTrim s) ∧ jsLength (jsTrim s) ≤ high

/-- The fields under which a failed body is stored. -/
def failedFields : Json → Option Payload
  | .null => some []
  | .obj fields => some fields
  | _ => none

/-- The reader takes what a worker stores of this message and error. -/
abbrev Readable (payload : Json) (context : DurableMessageContext) (error : String) : Prop :=
  Fits 1000 context.subject ∧ Fits 10000 error ∧ (failedFields payload).isSome = true

/-- What the reader makes of a dead letter. -/
def letter (worker : String) (fields : Payload) (context : DurableMessageContext) (error : String) :
    WorkerDeadLetterPayload :=
  { worker, source_subject := jsTrim context.subject,
    stream_sequence := .number context.streamSequence,
    redelivery_count := some context.redeliveryCount, error := jsTrim error,
    failed_payload := some fields }

section
variable {payload : Json} {context : DurableMessageContext} {error : String} {now : Instant}

theorem count_read (n : Nat) : Zod.count (Db.count n) = some n := by
  have whole : (n : ℚ).den = 1 ∧ 0 ≤ (n : ℚ) := ⟨Rat.den_natCast n, Nat.cast_nonneg n⟩
  calc
    Zod.count (Db.count n) = some (n : ℚ).num.toNat := if_pos whole
    _ = some n := by rw [Rat.num_natCast, Int.toNat_natCast]

theorem sequence_read (n : Nat) : StreamSequence.read (Db.count n) = some (.number n) := by
  unfold StreamSequence.read
  rw [count_read]
  rfl

theorem worker_read (writer : DeadLetterWriter) :
    trimmed 1 255 (.str writer.worker) = some writer.worker := by
  cases writer <;> decide

variable (payload context error now) in
/-- Every field of a dead letter is read back, or the letter is refused. -/
theorem written_read (writer : DeadLetterWriter) :
    workerDeadLetterPayloadSchema (deadLetterPayload writer.worker payload context error now) =
      if Fits 1000 context.subject ∧ Fits 10000 error then
        (failedFields payload).map fun fields => letter writer.worker fields context error
      else none := by
  generalize written : deadLetterPayload writer.worker payload context error now = p
  have worker : required p "worker" (trimmed 1 255) = some writer.worker := by
    simp [← written, deadLetterPayload, required, worker_read]
  have subject : required p "source_subject" (trimmed 1 1000) =
      if Fits 1000 context.subject then some (jsTrim context.subject) else none := by
    simp [← written, deadLetterPayload, required, List.lookup_cons, trimmed]
  have sequence : required p "stream_sequence" StreamSequence.read =
      some (.number context.streamSequence) := by
    simp [← written, deadLetterPayload, required, List.lookup_cons, sequence_read]
  have redelivered : Zod.optional p "redelivery_count" Zod.count =
      some (some context.redeliveryCount) := by
    simp [← written, deadLetterPayload, Zod.optional, List.lookup_cons, count_read]
  have message : required p "error" (trimmed 1 10000) =
      if Fits 10000 error then some (jsTrim error) else none := by
    simp [← written, deadLetterPayload, required, List.lookup_cons, trimmed]
  have body : Zod.optional p "failed_payload" record = (failedFields payload).map some := by
    cases payload <;> simp [← written, deadLetterPayload, Zod.optional, List.lookup_cons, record,
      failedFields]
  unfold workerDeadLetterPayloadSchema
  rw [worker, subject, sequence, redelivered, message, body]
  by_cases first : Fits 1000 context.subject
  · by_cases second : Fits 10000 error
    · rw [if_pos first, if_pos second, if_pos ⟨first, second⟩]
      cases failedFields payload <;> rfl
    · have refused : ¬ (Fits 1000 context.subject ∧ Fits 10000 error) := fun both => second both.2
      rw [if_pos first, if_neg second, if_neg refused]
      rfl
  · have refused : ¬ (Fits 1000 context.subject ∧ Fits 10000 error) := fun both => first both.1
    rw [if_neg first, if_neg refused]
    rfl

theorem filled_of_fits {high : Nat} (fits : Fits high error) : jsTrim error ≠ "" := by
  intro empty
  have long := fits.1
  rw [empty] at long
  exact absurd long (by decide)

/-- The key of an incident has no space at its ends. -/
theorem deadLetterKey_trim (worker : String) (fields : Payload) :
    jsTrim (deadLetterKey (letter worker fields context error)) =
      deadLetterKey (letter worker fields context error) := by
  refine jsTrim_of_ends ?_ ?_
  · intro c first
    rw [deadLetterKey, join_toList] at first
    cases first
    decide
  · intro c last
    have digits : (decimal context.streamSequence).toList.getLast? = some c := by
      simp only [deadLetterKey, letter, StreamSequence.render, join_toList, List.getLast?_append,
        List.getLast?_cons] at last
      obtain ⟨d, hd⟩ : ∃ d, (decimal context.streamSequence).toList.getLast? = some d :=
        ⟨_, List.getLast?_eq_some_getLast (decimal_ne_nil context.streamSequence)⟩
      simpa [hd] using last
    exact digit_plain (decimal_digits (List.mem_of_getLast? digits))

theorem deadLetterKey_filled (worker : String) (fields : Payload) :
    nonEmptyText (deadLetterKey (letter worker fields context error)) =
      some (deadLetterKey (letter worker fields context error)) := by
  rw [nonEmptyText, deadLetterKey_trim]
  exact if_neg (join_ne_empty _ _)

theorem worker_filled (writer : DeadLetterWriter) : nonEmptyText writer.worker = some writer.worker := by
  cases writer <;> decide

variable (context error) in
/-- Every dead letter that is read makes an incident its repository takes. -/
theorem incident_parses (digest : Option String) (writer : DeadLetterWriter) (fields : Payload) :
    ∃ parsed, (deadLetterIncident digest (letter writer.worker fields context error)).parse =
        some parsed ∧
      parsed.incidentKey = deadLetterKey (letter writer.worker fields context error) := by
  have title : ∃ title, nonEmptyText ("Worker dead-lettered " ++ writer.worker ++ " event") = some title := by
    refine ⟨_, nonEmptyText_filled (c := 'W') ?_ (by decide)⟩
    simp [String.toList_append]
  have summary : ∃ summary, nonEmptyUnits (.ofString ("The " ++ writer.worker ++
      " worker exhausted delivery attempts for " ++ jsTrim context.subject ++ ": ") ++
        sanitizeError (jsTrim error)) = some summary := by
    refine ⟨_, nonEmptyUnits_filled (u := 0x54) ?_ (by decide)⟩
    simp [JsString.ofString, String.toList_append, List.flatMap_append]
  obtain ⟨title, htitle⟩ := title
  obtain ⟨summary, hsummary⟩ := summary
  refine ⟨{ deadLetterIncident digest (letter writer.worker fields context error) with
    title := title, summary := summary }, ?_, rfl⟩
  unfold CreateIncidentParams.parse deadLetterIncident
  dsimp only
  rw [deadLetterKey_filled]
  simp only [letter, worker_filled, htitle, hsummary]
  rfl

variable (context error) in
/-- The same of its health record. -/
theorem quarantine_parses (writer : DeadLetterWriter) (fields : Payload)
    (filled : jsTrim error ≠ "") :
    ∃ parsed, (quarantine (letter writer.worker fields context error)).parse = some parsed ∧
      (ComponentHealthStore.fitsColumns parsed = true ↔ context.redeliveryCount ≤ 2147483647) := by
  have reason : ∃ reason, nonEmptyUnits (.ofString ("Dead-lettered " ++ jsTrim context.subject ++
      " at stream sequence " ++ decimal context.streamSequence ++ ".")) = some reason := by
    refine ⟨_, nonEmptyUnits_filled (u := 0x44) ?_ (by decide)⟩
    simp [JsString.ofString, String.toList_append, List.flatMap_append]
  obtain ⟨reason, hreason⟩ := reason
  obtain ⟨shown, hshown⟩ := Option.isSome_iff_exists.mp (sanitizeError_filled filled)
  refine ⟨{ quarantine (letter writer.worker fields context error) with
    reasons := [reason, shown] }, ?_, ?_⟩
  · unfold RecordComponentHealthParams.parse quarantine
    dsimp only
    rw [deadLetterKey_filled]
    simp only [letter, StreamSequence.render, worker_filled, List.mapM_cons, List.mapM_nil, hreason, hshown]
    rfl
  · simp [ComponentHealthStore.fitsColumns, quarantine, letter]

end

section
variable {d : Deployment} {p : OutboxPublisher} {event : StoredOutboxEvent} {tenantId : String}

/-- With no fault in store an incident that passes its schema is filed. -/
theorem createIncident_ends (wired : Bool) (w : World) {params parsed : CreateIncidentParams}
    (tenant : isUuid tenantId = true) (parse : params.parse = some parsed) :
    (alone d (awaitIf wired (.createIncident tenantId params))).Ends ⟨w, []⟩ fun x v =>
      x = .ok () ∧ v.faults = [] ∧
        (wired = true → (v.state.incidents.find tenantId parsed.incidentKey).isSome = true) := by
  cases wired with
  | false => exact Store.Ends.pure ⟨rfl, rfl, by rintro ⟨⟩⟩
  | true =>
    have filed : (exec d (.createIncident tenantId params)).Ends ⟨w, []⟩ fun x v =>
        (∃ r, x = .ok r) ∧ v.faults = [] ∧
          (v.state.incidents.find tenantId parsed.incidentKey).isSome = true := by
      refine Store.Ends.calm (R := fun x v => (∃ r, x = .ok r) ∧
        (v.incidents.find tenantId parsed.incidentKey).isSome = true) ?_ ?_
      · refine Store.Ends.read_bind (Store.Ends.zoom (R := fun x t => (∃ r, x = .ok r) ∧
          (t.find tenantId parsed.incidentKey).isSome = true) ?_ fun x t => id)
        refine Store.Ends.mapError
          (IncidentFiling.create_returns w.incidents w.clock tenant parse) ?_
        rintro x t ⟨⟨r, rfl⟩, found⟩
        exact ⟨⟨r, rfl⟩, found⟩
      · rintro x v ⟨returned, found⟩
        exact ⟨returned, rfl, found⟩
    refine Store.Ends.bind filed ?_ ?_
    · rintro e v ⟨⟨r, ⟨⟩⟩, _⟩
    · rintro r v ⟨_, calm, found⟩
      exact Store.Ends.pure ⟨rfl, calm, fun _ => found⟩

theorem recordHealth_ends (wired : Bool) (w : World) {params parsed : RecordComponentHealthParams}
    (tenant : isUuid tenantId = true) (parse : params.parse = some parsed) :
    (alone d (awaitIf wired (.recordHealth tenantId params))).Ends ⟨w, []⟩ fun x v =>
      v.state.incidents = w.incidents ∧ (x = .ok () ↔
        (wired = true → d.backend = .postgres → ComponentHealthStore.fitsColumns parsed = true)) := by
  cases wired with
  | false => exact Store.Ends.pure ⟨rfl, by simp⟩
  | true =>
    have told : (exec d (.recordHealth tenantId params)).Ends ⟨w, []⟩ fun x v =>
        v.state.incidents = w.incidents ∧ ((∃ r, x = .ok r) ↔
          (d.backend = .postgres → ComponentHealthStore.fitsColumns parsed = true)) := by
      refine Store.Ends.calm (R := fun x v => v.incidents = w.incidents ∧ ((∃ r, x = .ok r) ↔
        (d.backend = .postgres → ComponentHealthStore.fitsColumns parsed = true))) ?_ fun x v => id
      refine Store.Ends.read_bind (Store.Ends.zoom (R := fun x _ => (∃ r, x = .ok r) ↔
        (d.backend = .postgres → ComponentHealthStore.fitsColumns parsed = true)) ?_ ?_)
      · refine Store.Ends.mapError
          (IncidentFiling.record_returns d.backend w.health w.clock tenant parse) ?_
        rintro (e | r) t fits
        · refine ⟨by rintro ⟨r, ⟨⟩⟩, fun h => ?_⟩
          obtain ⟨r, ⟨⟩⟩ := fits.mpr h
        · exact ⟨fun _ => fits.mp ⟨r, rfl⟩, fun _ => ⟨r, rfl⟩⟩
      · exact fun x t fits => ⟨rfl, fits⟩
    refine Store.Ends.bind told ?_ ?_
    · rintro e v ⟨same, fits⟩
      refine ⟨same, by rintro ⟨⟩, fun h => ?_⟩
      obtain ⟨r, ⟨⟩⟩ := fits.mpr (h rfl)
    · rintro r v ⟨same, fits⟩
      exact Store.Ends.pure ⟨same, fun _ _ => fits.mp ⟨r, rfl⟩, fun _ => rfl⟩

/-- The publisher takes an event, and where it keeps incidents it files the one
the event tells of. -/
def Surfaces (d : Deployment) (p : OutboxPublisher) (w : World) (event : StoredOutboxEvent) : Prop :=
  let ended := (alone d (persistOperationalState d p event)).run ⟨w, []⟩
  ended.1 = .ok () ∧ (p.incidentRepository = true → ∃ payload,
    workerDeadLetterPayloadSchema event.payload = some payload ∧
      (ended.2.state.incidents.find event.tenantId (deadLetterKey payload)).isSome = true)

theorem persist_refused (w : World) (type : event.eventType = workerDeadLetterEventType)
    (unread : workerDeadLetterPayloadSchema event.payload = none) : ¬ Surfaces d p w event := by
  rintro ⟨ended, _⟩
  have other : event.eventType ≠ incidentOpenedEventType := by rw [type]; decide
  unfold persistOperationalState at ended
  rw [if_neg other, if_neg (fun h => h type), unread] at ended
  cases ended

/-- A dead letter that is read is filed, and its health record stored where the
columns hold it. -/
theorem persist_read_iff (w : World) {writer : DeadLetterWriter} {fields : Payload}
    {context : DurableMessageContext} {error : String} (filled : jsTrim error ≠ "")
    (tenant : isUuid event.tenantId = true) (type : event.eventType = workerDeadLetterEventType)
    (read : workerDeadLetterPayloadSchema event.payload =
      some (letter writer.worker fields context error)) :
    Surfaces d p w event ↔ (p.componentHealthRepository = true → d.backend = .postgres →
      context.redeliveryCount ≤ 2147483647) := by
  have other : event.eventType ≠ incidentOpenedEventType := by rw [type]; decide
  obtain ⟨incident, parsed, key⟩ := incident_parses context error
    ((some fields).bind d.payloadDigest) writer fields
  obtain ⟨health, parsed', fits⟩ := quarantine_parses context error writer fields filled
  have ends : (alone d (persistOperationalState d p event)).Ends ⟨w, []⟩ fun x v =>
      (p.incidentRepository = true → (v.state.incidents.find event.tenantId
        (deadLetterKey (letter writer.worker fields context error))).isSome = true) ∧
      (x = .ok () ↔ (p.componentHealthRepository = true → d.backend = .postgres →
        context.redeliveryCount ≤ 2147483647)) := by
    unfold alone persistOperationalState
    rw [if_neg other, if_neg (fun h => h type), read]
    show (alone d (awaitIf _ (.createIncident event.tenantId (deadLetterIncident _ _)) >>= fun _ =>
      awaitIf _ (.recordHealth _ _))).Ends _ _
    rw [alone, Prog.runAlone_bind]
    refine Store.Ends.bind (createIncident_ends p.incidentRepository w tenant parsed) ?_ ?_
    · rintro e v ⟨⟨⟩, _⟩
    · rintro _ ⟨v, faults⟩ ⟨_, calm, found⟩
      cases calm
      refine (recordHealth_ends p.componentHealthRepository v tenant parsed').weaken ?_
      rintro x u ⟨same, told⟩
      rw [same, ← key, ← fits]
      exact ⟨found, told⟩
  obtain ⟨found, told⟩ := ends
  refine ⟨fun surfaces => told.mp surfaces.1, fun fits => ⟨told.mpr fits, fun wired => ?_⟩⟩
  exact ⟨_, read, found wired⟩

/-- The dead letter of a message a worker gave up on becomes visible exactly
where its reader takes what the worker wrote. -/
theorem dead_letter_surfaces_iff (d : Deployment) (p : OutboxPublisher) (w : World)
    (writer : DeadLetterWriter) (now : Instant) (payload : Json) (context : DurableMessageContext)
    (error : String) (o : InMemoryOutboxRepository) (event : StoredOutboxEvent)
    (stored : event ∈ ((writer.enqueueDeadLetter now payload context error).run o).2.events)
    (new : event ∉ o.events) :
    Surfaces d p w event ↔ Readable payload context error ∧
      (p.componentHealthRepository = true → d.backend = .postgres →
        context.redeliveryCount ≤ 2147483647) := by
  obtain ⟨tenant, type, body⟩ : isUuid event.tenantId = true ∧
      event.eventType = workerDeadLetterEventType ∧
      event.payload = deadLetterPayload writer.worker payload context error now := by
    unfold DeadLetterWriter.enqueueDeadLetter at stored
    cases named : writer.tenantId payload context with
    | error e =>
      rw [named] at stored
      exact absurd stored new
    | ok tenantId =>
      rw [named] at stored
      obtain ⟨command, valid⟩ := InMemoryOutboxRepository.enqueue_new o now _ event stored new
      rw [← command] at valid
      simp only [EnqueueOutboxEvent.valid, Bool.and_eq_true] at valid
      exact ⟨valid.1.1, congrArg EnqueueOutboxEvent.eventType command,
        congrArg EnqueueOutboxEvent.payload command⟩
  have read := written_read payload context error now writer
  rw [← body] at read
  by_cases fits : Fits 1000 context.subject ∧ Fits 10000 error
  · rw [if_pos fits] at read
    cases failed : failedFields payload with
    | none =>
      rw [failed] at read
      refine iff_of_false (persist_refused w type read) ?_
      rintro ⟨⟨_, _, record⟩, _⟩
      rw [failed] at record
      cases record
    | some fields =>
      rw [failed] at read
      refine (persist_read_iff w (filled_of_fits fits.2) tenant type read).trans ?_
      refine ⟨fun small => ⟨⟨fits.1, fits.2, ?_⟩, small⟩, fun both => both.2⟩
      rw [failed]
      rfl
  · rw [if_neg fits] at read
    refine iff_of_false (persist_refused w type read) ?_
    rintro ⟨⟨subject, message, _⟩, _⟩
    exact fits ⟨subject, message⟩

end

/-- A provisioning request that was delivered five times. -/
def exhausted : DurableMessageContext := ⟨"t." ++ acme ++ ".workflow.tenant_provisioning.requested.v1", 7, 5⟩

/-- The event a first dead letter is stored as. -/
def firstLetter (payload : Json) (error : String) : StoredOutboxEvent :=
  InMemoryOutboxRepository.empty.newEvent 0
    { tenantId := acme, eventType := workerDeadLetterEventType,
      idempotencyKey := "workflow-callback:7",
      payload := deadLetterPayload "workflow_callback" payload exhausted error 0 }

theorem firstLetter_stored (payload : Json) (error : String) :
    firstLetter payload error ∈ ((DeadLetterWriter.workflow_callback.enqueueDeadLetter 0 payload
      exhausted error).run .empty).2.events := by
  have named : DeadLetterWriter.workflow_callback.tenantId payload exhausted = .ok acme := by
    show tenantIdFromTenantScopedSubject exhausted.subject = .ok acme
    decide
  have key : DeadLetterWriter.workflow_callback.keyPrefix = "workflow-callback" ∧
      join "workflow-callback" (decimal exhausted.streamSequence) = "workflow-callback:7" := by
    decide
  have valid : ∀ body, (⟨acme, workerDeadLetterEventType, "workflow-callback:7", body⟩ :
      EnqueueOutboxEvent).valid = true := by
    intro body
    show (isUuid acme && isOutboxEventType workerDeadLetterEventType &&
      ("workflow-callback:7" != "")) = true
    decide
  unfold DeadLetterWriter.enqueueDeadLetter
  rw [named, key.1, key.2]
  simp [InMemoryOutboxRepository.enqueue, valid, Store.run_bind, InMemoryOutboxRepository.empty]
  exact List.mem_singleton_self _

theorem ordinary_letter_surfaces :
    Surfaces (deployed .postgres) publisher (.empty 0) (firstLetter (.obj []) "connection refused") :=
  (dead_letter_surfaces_iff (deployed .postgres) publisher (.empty 0) .workflow_callback 0 (.obj [])
    exhausted "connection refused" .empty _ (firstLetter_stored _ _) (by rintro ⟨⟩)).mpr
      (by decide)

/-- An error without a message is stored and then refused. -/
theorem silent_letter_hides :
    ¬ ∀ (payload : Json) (context : DurableMessageContext) (error : String)
        (o : InMemoryOutboxRepository) (event : StoredOutboxEvent),
      event ∈ ((DeadLetterWriter.workflow_callback.enqueueDeadLetter 0 payload context error).run
        o).2.events → event ∉ o.events →
      Surfaces (deployed .postgres) publisher (.empty 0) event := by
  intro claim
  have surfaces := claim (.obj []) exhausted "" .empty _ (firstLetter_stored _ _) (by rintro ⟨⟩)
  have refused : ((alone (deployed .postgres) (persistOperationalState (deployed .postgres)
      publisher (firstLetter (.obj []) ""))).run ⟨.empty 0, []⟩).1 = .error (.repository .zod) := by
    decide
  rw [surfaces.1] at refused
  cases refused

end VantGrowth.Proofs.DeadLetterReading
