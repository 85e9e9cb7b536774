import VantGrowth.Signals.Contracts

namespace VantGrowth.Proofs.BriefRequests
open Core Db Db.Zod Lib Lib.Text Signals

/-- The worker a brief request is sent to takes it. -/
def Accepted (sha256 : String → String) (signal : SignalEventRecord) (routed : RoutedSignal) : Prop :=
  (intelBriefRequestedV1Schema
    (createIntelBriefRequestFromSignal sha256 signal routed).payload).isSome = true

/-- What the consumer bounds of a signal: the kind its payload states, its
source and the year it was stored in. -/
structure Bounded (signal : SignalEventRecord) : Prop where
  kind : ∀ kind, statedKind signal.payload = some kind → jsLength kind ≤ 255
  source : jsLength signal.source ≤ 255
  past : 0 ≤ signal.createdAt.year
  early : signal.createdAt.year ≤ 9999

theorem length_pos {s : String} (filled : s ≠ "") : 1 ≤ jsLength s :=
  List.length_pos_iff.mpr (JsString.ofString_ne_nil filled)

theorem nonEmptyString_filled {value : Option Json} {s : String} (h : nonEmptyString value = some s) :
    s ≠ "" := by
  unfold nonEmptyString at h
  split at h
  · split at h
    · cases h
    · cases h
      assumption
  · cases h

theorem statedKind_filled {payload : Payload} {kind : String} (h : statedKind payload = some kind) :
    kind ≠ "" := by
  simp only [statedKind, Option.orElse_eq_orElse, Option.orElse_eq_or, Option.or_eq_some_iff] at h
  rcases h with named | ⟨_, named | ⟨_, named⟩⟩
  · exact nonEmptyString_filled named
  · exact nonEmptyString_filled named
  · exact nonEmptyString_filled named

/-- A kind is never empty, and only one that is stated can be too long. -/
theorem kind_sized (signal : SignalEventRecord) : 1 ≤ jsLength (resolveSignalKind signal) ∧
    (jsLength (resolveSignalKind signal) ≤ 255 ↔
      ∀ kind, statedKind signal.payload = some kind → jsLength kind ≤ 255) := by
  unfold resolveSignalKind
  cases stated : statedKind signal.payload with
  | some kind =>
    refine ⟨length_pos (statedKind_filled stated), ?_⟩
    simp
  | none =>
    have short : 1 ≤ jsLength ("signal." ++ signal.signalType.text) ∧
        jsLength ("signal." ++ signal.signalType.text) ≤ 255 := by
      cases signal.signalType <;> decide
    exact ⟨short.1, by simpa using short.2⟩

theorem resolveExperimentId_uuid {signal : SignalEventRecord} {experimentId : String}
    (h : resolveExperimentId signal = some experimentId) : isUuid experimentId = true := by
  obtain ⟨value, _, read⟩ := Option.bind_eq_some_iff.mp h
  exact uuid_eq_some read

/-- What the producer puts into the trigger. -/
def triggerOf (signal : SignalEventRecord) (routed : RoutedSignal) : Payload :=
  [("signal_id", .str (decimal signal.id)), ("signal_type", .str signal.signalType.text),
    ("source", .str signal.source), ("kind", .str (resolveSignalKind signal)),
    ("priority", .str routed.priority.text), ("payload", .obj signal.payload),
    ("occurred_at", .str signal.createdAt.toISOString)]

section
variable {signal : SignalEventRecord} {routed : RoutedSignal}

/-- A text that is not empty passes where it is short enough. -/
theorem sized_read {s : String} (filled : 1 ≤ jsLength s) :
    sized 1 255 (.str s) = if jsLength s ≤ 255 then some s else none := by
  simp [sized, matching, filled]

theorem trigger_read_iff (valid : signal.valid = true) :
    (readTrigger (.obj (triggerOf signal routed))).isSome = true ↔
      jsLength signal.source ≤ 255 ∧ jsLength (resolveSignalKind signal) ≤ 255 ∧
        isDatetime signal.createdAt.toISOString = true := by
  simp only [SignalEventRecord.valid, Bool.and_eq_true, bne_iff_ne] at valid
  generalize written : triggerOf signal routed = p
  have id : required p "signal_id" filled = some (decimal signal.id) := by
    have digits : decimal signal.id ≠ "" := fun empty => decimal_ne_nil signal.id (by simp [empty])
    simp [← written, triggerOf, required, filled, digits]
  have type : required p "signal_type" (sized 1 100) = some signal.signalType.text := by
    have short : 1 ≤ jsLength signal.signalType.text ∧ jsLength signal.signalType.text ≤ 100 := by
      cases signal.signalType <;> decide
    simp [← written, triggerOf, required, List.lookup_cons, sized, matching, short]
  have source : required p "source" (sized 1 255) =
      if jsLength signal.source ≤ 255 then some signal.source else none := by
    rw [← sized_read (length_pos valid.2)]
    simp [← written, triggerOf, required, List.lookup_cons]
  have kind : required p "kind" (sized 1 255) =
      if jsLength (resolveSignalKind signal) ≤ 255 then some (resolveSignalKind signal) else none := by
    rw [← sized_read (kind_sized signal).1]
    simp [← written, triggerOf, required, List.lookup_cons]
  have priority : required p "priority" (oneOf priorities) = some routed.priority := by
    have named : oneOf priorities (.str routed.priority.text) = some routed.priority := by
      cases routed.priority <;> rfl
    rw [← named]
    simp [← written, triggerOf, required, List.lookup_cons]
  have payload : required p "payload" record = some signal.payload := by
    simp [← written, triggerOf, required, List.lookup_cons, record]
  have occurred : required p "occurred_at" (matching isDatetime) =
      if isDatetime signal.createdAt.toISOString = true then some signal.createdAt.toISOString
      else none := by
    simp [← written, triggerOf, required, List.lookup_cons, matching]
  unfold readTrigger
  dsimp only
  rw [id, type, source, kind, priority, payload, occurred]
  by_cases long : jsLength signal.source ≤ 255
  · by_cases wide : jsLength (resolveSignalKind signal) ≤ 255
    · by_cases dated : isDatetime signal.createdAt.toISOString = true
      · simp [long, wide, dated]
      · simp [long, wide, dated]
    · simp [long, wide]
  · simp [long]

/-- The experiment a payload names, as the producer writes it. -/
def experimentOf (signal : SignalEventRecord) : Payload :=
  match resolveExperimentId signal with
  | some experimentId => [("experiment_id", .str experimentId)]
  | none => []

theorem experimentOf_other {field : String} (other : field ≠ "experiment_id") :
    (experimentOf signal).lookup field = none := by
  unfold experimentOf
  split
  · simp [List.lookup_cons, beq_false_of_ne other]
  · rfl

theorem experimentOf_read (rest : Payload) (absent : rest.lookup "experiment_id" = none) :
    Zod.optional (experimentOf signal ++ rest) "experiment_id" uuid =
      some (resolveExperimentId signal) := by
  unfold experimentOf
  split
  · rename_i experimentId named
    simp [Zod.optional, uuid, resolveExperimentId_uuid named, named]
  · rename_i named
    simp [Zod.optional, absent, named]

/-- A payload is read where its days and its trigger are. -/
theorem request_read_iff {sha256 : String → String} (digest : ∀ text, isDigest (sha256 text) = true)
    (valid : signal.valid = true) :
    Accepted sha256 signal routed ↔ isDayText (asDateString signal.createdAt) = true ∧
      (readTrigger (.obj (triggerOf signal routed))).isSome = true := by
  have tenant : isUuid signal.tenantId = true := by
    simp only [SignalEventRecord.valid, Bool.and_eq_true] at valid
    exact valid.1
  have requestId := deterministicUuid_uuid
    (digest (join signal.tenantId (join "intel-brief" (decimal signal.id))))
  unfold Accepted
  generalize written : (createIntelBriefRequestFromSignal sha256 signal routed).payload = p
  generalize hday : asDateString signal.createdAt = day
  generalize hid : stableRequestId sha256 (join signal.tenantId (join "intel-brief"
    (decimal signal.id))) = id
  have fields : p = ("schema_version", .str "intel_brief_requested.v1") :: ("request_id", .str id) ::
      ("tenant_id", .str signal.tenantId) :: (experimentOf signal ++ [("period_from", .str day),
        ("period_to", .str day), ("requested_by", .str "signal_router"),
        ("trigger", .obj (triggerOf signal routed))]) := by
    rw [← written, ← hday, ← hid]
    rfl
  have version : required p "schema_version" (literal "intel_brief_requested.v1") =
      some "intel_brief_requested.v1" := by
    simp [fields, required, literal, matching]
  have request : required p "request_id" uuid = some id := by
    have uuid : isUuid id = true := hid ▸ requestId
    simp [fields, required, List.lookup_cons, Zod.uuid, uuid]
  have tenantId : required p "tenant_id" uuid = some signal.tenantId := by
    simp [fields, required, List.lookup_cons, uuid, tenant]
  have experiment : Zod.optional p "experiment_id" uuid = some (resolveExperimentId signal) := by
    rw [← experimentOf_read [("period_from", .str day), ("period_to", .str day), ("requested_by",
      .str "signal_router"), ("trigger", .obj (triggerOf signal routed))] (by simp [List.lookup_cons])]
    simp [fields, Zod.optional, List.lookup_cons]
  have from_ : required p "period_from" (matching isDayText) =
      if isDayText day = true then some day else none := by
    simp [fields, required, List.lookup_append, List.lookup_cons, experimentOf_other, matching]
  have until_ : required p "period_to" (matching isDayText) =
      if isDayText day = true then some day else none := by
    simp [fields, required, List.lookup_append, List.lookup_cons, experimentOf_other, matching]
  have requester : defaulted p "requested_by" filled "system" = some "signal_router" := by
    simp [fields, defaulted, List.lookup_append, List.lookup_cons, experimentOf_other, filled]
  have motion : Zod.optional p "motion_context" readMotionContext = some none := by
    simp [fields, Zod.optional, List.lookup_append, List.lookup_cons, experimentOf_other]
  have trigger : Zod.optional p "trigger" readTrigger =
      (readTrigger (.obj (triggerOf signal routed))).map some := by
    simp [fields, Zod.optional, List.lookup_append, List.lookup_cons, experimentOf_other]
  unfold intelBriefRequestedV1Schema
  rw [version, request, tenantId, experiment, from_, until_, requester, motion, trigger]
  by_cases dated : isDayText day = true
  · cases readTrigger (.obj (triggerOf signal routed)) <;> simp [dated]
  · simp [dated]

/-- Whatever a stored signal holds, the director takes the request made of it
exactly where the signal keeps to the director's bounds. -/
theorem brief_request_accepted_iff (sha256 : String → String)
    (digest : ∀ text, isDigest (sha256 text) = true) (signal : SignalEventRecord)
    (valid : signal.valid = true) (now : Instant) (grade : Option SignalGrade) :
    Accepted sha256 signal (routedOf now (incomingSignal signal) grade) ↔ Bounded signal := by
  rw [request_read_iff digest valid, trigger_read_iff valid, (kind_sized signal).2, asDateString,
    isDayText_iff]
  constructor
  · rintro ⟨⟨past, early⟩, source, kind, _⟩
    exact ⟨kind, source, past, early⟩
  · rintro ⟨kind, source, past, early⟩
    exact ⟨⟨past, early⟩, source, kind, toISOString_datetime past early⟩

end

/-- The digest of the text the stable id of the signal below is made from. -/
def firstDigest (_ : String) : String :=
  "76f14c69960c90a0907a194832a769752b2329e5b825f0190221a14ed1e12d1d"

/-- A stored signal whose payload states this kind. -/
def stating (kind : String) : SignalEventRecord where
  id := 1
  tenantId := "00000000-0000-4000-8000-000000000001"
  signalType := .market
  source := "market.watch"
  externalId := none
  payload := [("kind", .str kind)]
  processedAt := none
  processingLeaseOwner := none
  processingLeaseExpiresAt := none
  processingAttempts := 0
  createdAt := 1784462400000

theorem firstDigest_digest (text : String) : isDigest (firstDigest text) = true := by
  show isDigest "76f14c69960c90a0907a194832a769752b2329e5b825f0190221a14ed1e12d1d" = true
  decide

theorem market_update_accepted :
    Accepted firstDigest (stating "market.update")
      (routedOf 0 (incomingSignal (stating "market.update")) none) := by
  refine (brief_request_accepted_iff firstDigest firstDigest_digest (stating "market.update")
    (by decide) 0 none).mpr ⟨?_, by decide, by decide, by decide⟩
  intro kind stated
  obtain rfl : "market.update" = kind := Option.some.inj (Eq.trans (by decide) stated)
  decide

/-- A kind of this many characters. -/
def longKind (n : Nat) : String := String.ofList (List.replicate n 'k')

theorem longKind_length (n : Nat) : jsLength (longKind n) = n := by
  simp only [jsLength, JsString.ofString, longKind, String.toList_ofList]
  induction n with
  | zero => rfl
  | succ n ih =>
    rw [List.replicate_succ, List.flatMap_cons, List.length_append, ih, Nat.add_comm]
    rfl

theorem longKind_stated {n : Nat} (positive : 0 < n) :
    resolveSignalKind (stating (longKind n)) = longKind n := by
  have trimmed : jsTrim (longKind n) = longKind n := by
    refine jsTrim_plain fun c member => ?_
    simp only [longKind, String.toList_ofList] at member
    cases List.eq_of_mem_replicate member
    decide
  have filled : longKind n ≠ "" := by
    intro empty
    have length := longKind_length n
    rw [empty] at length
    exact absurd (length.symm.trans (by decide)) (Nat.ne_of_gt positive)
  simp [resolveSignalKind, statedKind, stating, nonEmptyString, trimmed, filled]

/-- Such a signal goes to the director, who refuses it. -/
theorem longKind_refused {n : Nat} (long : 255 < n) :
    (classifySignal (incomingSignal (stating (longKind n)))).targetAgent = "intel_director" ∧
      ¬ Accepted firstDigest (stating (longKind n))
        (routedOf 0 (incomingSignal (stating (longKind n))) none) := by
  have valid : (stating (longKind n)).valid = true := by
    show (isUuid "00000000-0000-4000-8000-000000000001" && "market.watch" != "") = true
    decide
  have kind := longKind_stated (n := n) (by omega)
  constructor
  · have other : ∀ s, jsLength s ≤ 255 → (incomingSignal (stating (longKind n))).kind ≠ s := by
      intro s short same
      rw [← same, incomingSignal, kind, longKind_length] at short
      omega
    unfold classifySignal
    rw [if_neg (other _ (by decide)), if_neg (other _ (by decide)),
      if_neg (other _ (by decide))]
  · rw [request_read_iff firstDigest_digest valid, trigger_read_iff valid, kind, longKind_length]
    omega

theorem long_kind_refused : ¬ ∀ signal : SignalEventRecord, signal.valid = true →
    (classifySignal (incomingSignal signal)).targetAgent = "intel_director" →
    Accepted firstDigest signal (routedOf 0 (incomingSignal signal) none) := by
  intro claim
  obtain ⟨director, refused⟩ := longKind_refused (n := 256) (by decide)
  refine refused (claim _ ?_ director)
  show (isUuid "00000000-0000-4000-8000-000000000001" && "market.watch" != "") = true
  decide

end VantGrowth.Proofs.BriefRequests
