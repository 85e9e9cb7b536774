import Mathlib.Algebra.Order.Group.Multiset
import Mathlib.Data.List.Induction
import VantGrowth.Harness.LogSink

namespace VantGrowth.Proofs.LogRows
open Lib Harness Harness.BufferedSink

/-! Where the rows of a buffered sink are. -/

section
variable {ρ : Type}

/-- The rows that a run logs, in order. -/
def rowsLogged (events : List (SinkEvent ρ)) : List ρ :=
  events.filterMap fun
    | .log row _ => some row
    | _ => none

/-- All rows of a sink, by where they are. -/
def whereabouts (s : BufferedSink ρ) : List (Nat × ρ) :=
  rowsOf .accepted s ++ rowsOf .rejected s ++ rowsOf .inFlight s ++ s.buffer

structure Conserved (config : BufferConfig) (events : List (SinkEvent ρ)) : Prop where
  rows : ((whereabouts (run config events)).map (·.2)).Perm (rowsLogged events)
  once : ((whereabouts (run config events)).map (·.1)).Nodup
  dropped : ∀ later, ∀ row ∈ rowsOf .rejected (run config events),
    row ∈ rowsOf .rejected (run config (events ++ later)) ∧
      row ∉ rowsOf .accepted (run config (events ++ later))
  bounded : ∀ call ∈ (run config events).calls, call.isLog = true →
    Completed (run config events) call →
      let remaining := (run config events).buffer.countP fun row => row.1 < call.logged
      reaches remaining config.maxBatchSize = false ∨ remaining = 0

variable {config : BufferConfig} {s : BufferedSink ρ}

theorem singles_rows {g : Nat → Nat × ρ → Delivery ρ} (single : ∀ i row, (g i row).rows = [row])
    (rows : List (Nat × ρ)) : (rows.mapIdx g).flatMap (·.rows) = rows := by
  induction rows generalizing g with
  | nil => rfl
  | cons row rows ih =>
    rw [List.mapIdx_cons, List.flatMap_cons, single, ih fun i row => single (i + 1) row]
    rfl

theorem handOver_rows (config : BufferConfig) (flush : Nat) (rows : List (Nat × ρ))
    (thrown : Option Nat) : (handOver config flush rows thrown).flatMap (·.rows) = rows := by
  unfold handOver
  split
  · simp
  · exact singles_rows (fun _ _ => rfl) rows

/-- Rows handed over, in any state, and rows in the buffer. -/
def held (s : BufferedSink ρ) : List (Nat × ρ) := s.deliveries.flatMap (·.rows) ++ s.buffer

theorem flush_held (thrown : Option Nat) (s : BufferedSink ρ) :
    held (s.flush config thrown).1 = held s := by
  unfold BufferedSink.flush
  split
  · rfl
  · simp [held, handOver_rows]

theorem flush_logged (thrown : Option Nat) (s : BufferedSink ρ) :
    (s.flush config thrown).1.logged = s.logged := by
  unfold BufferedSink.flush
  split <;> rfl

theorem flush_buffer (thrown : Option Nat) (s : BufferedSink ρ) :
    (s.flush config thrown).1.buffer = [] := by
  unfold BufferedSink.flush
  split
  · rename_i none
    exact List.isEmpty_iff.mp none
  · rfl

theorem flush_calls (thrown : Option Nat) (s : BufferedSink ρ) :
    (s.flush config thrown).1.calls = s.calls := by
  unfold BufferedSink.flush
  split <;> rfl

theorem modify_rows (i : Nat) (accepted : Bool) (ds : List (Delivery ρ)) :
    (ds.modify i (·.settled accepted)).flatMap (·.rows) = ds.flatMap (·.rows) := by
  have same : ∀ d : Delivery ρ, (d.settled accepted).rows = d.rows := by
    intro d
    unfold Delivery.settled
    split <;> rfl
  induction ds generalizing i with
  | nil => cases i <;> rfl
  | cons d ds ih =>
    cases i with
    | zero => simp [same]
    | succ i => simp [ih]

/-- No step loses a row or takes one twice. -/
theorem step_held (event : SinkEvent ρ) (kept : held s = s.logged) :
    held (step config s event) = (step config s event).logged := by
  cases event with
  | log row thrown =>
    have pushed : held (s.push row) = (s.push row).logged := by
      unfold held at kept ⊢
      simp [BufferedSink.push, ← kept]
    show held (s.log config row thrown).1 = (s.log config row thrown).1.logged
    unfold BufferedSink.log
    dsimp only
    split
    · rw [flush_held, flush_logged, pushed]
    · exact pushed
  | flush thrown =>
    show held (s.flush config thrown).1 = (s.flush config thrown).1.logged
    rw [flush_held, flush_logged, kept]
  | settle i accepted =>
    show (s.deliveries.modify i (·.settled accepted)).flatMap (·.rows) ++ s.buffer = s.logged
    rw [modify_rows]
    exact kept

theorem run_held (config : BufferConfig) (events : List (SinkEvent ρ)) :
    held (run config events) = (run config events).logged := by
  apply runs_invariant (I := fun s => held s = s.logged)
  · intro s event kept
    exact step_held event kept
  · rfl

theorem step_logged (event : SinkEvent ρ) : (step config s event).logged =
    s.logged ++ ((rowsLogged [event]).map fun row => (s.logged.length, row)) := by
  cases event with
  | log row thrown =>
    show (s.log config row thrown).1.logged = _
    unfold BufferedSink.log
    dsimp only
    split
    · rw [flush_logged]
      rfl
    · rfl
  | flush thrown =>
    show (s.flush config thrown).1.logged = _
    rw [flush_logged]
    simp [rowsLogged]
  | settle i accepted => simp [step, rowsLogged]

/-- The log numbers its rows in turn. -/
theorem run_logged (config : BufferConfig) (events : List (SinkEvent ρ)) :
    (run config events).logged.map (·.2) = rowsLogged events ∧
      (run config events).logged.map (·.1) = List.range (rowsLogged events).length := by
  induction events using List.reverseRecOn with
  | nil => exact ⟨rfl, rfl⟩
  | append_singleton events event ih =>
    obtain ⟨rows, numbers⟩ := ih
    have count : (run config events).logged.length = (rowsLogged events).length := by
      rw [← rows, List.length_map]
    have split : rowsLogged (events ++ [event]) = rowsLogged events ++ rowsLogged [event] := by
      simp [rowsLogged, List.filterMap_append]
    have next : run config (events ++ [event]) = step config (run config events) event := by
      unfold run
      rw [runs_append]
      rfl
    rw [next, step_logged, split, List.map_append, List.map_append, rows, numbers, count]
    constructor
    · simp
    · cases event <;> simp [rowsLogged, List.range_succ]

theorem statuses_perm (ds : List (Delivery ρ)) :
    ((ds.filter (·.status = .accepted)).flatMap (·.rows) ++
      (ds.filter (·.status = .rejected)).flatMap (·.rows) ++
        (ds.filter (·.status = .inFlight)).flatMap (·.rows)).Perm (ds.flatMap (·.rows)) := by
  induction ds with
  | nil => exact List.Perm.refl _
  | cons d ds ih =>
    rw [← Multiset.coe_eq_coe] at ih ⊢
    simp only [List.flatMap_cons, ← Multiset.coe_add] at ih ⊢
    rw [← ih]
    cases status : d.status <;> simp [status, ← Multiset.coe_add] <;> ac_rfl

theorem whereabouts_perm (s : BufferedSink ρ) : (whereabouts s).Perm (held s) :=
  (statuses_perm s.deliveries).append_right s.buffer

theorem run_numbers (config : BufferConfig) (events : List (SinkEvent ρ)) :
    ((whereabouts (run config events)).map (·.1)).Nodup := by
  rw [((whereabouts_perm _).map _).nodup_iff, run_held, (run_logged config events).2]
  exact List.nodup_range

/-- A delivery that was rejected stays as it is. -/
def Retains (s t : BufferedSink ρ) : Prop :=
  ∀ (i : Nat) (d : Delivery ρ), s.deliveries[i]? = some d → d.status = .rejected →
    t.deliveries[i]? = some d

theorem flush_retains (thrown : Option Nat) (s : BufferedSink ρ) :
    Retains s (s.flush config thrown).1 := by
  intro i d there _
  unfold BufferedSink.flush
  split
  · exact there
  · obtain ⟨bound, _⟩ := List.getElem?_eq_some_iff.mp there
    dsimp only
    rw [List.getElem?_append_left bound]
    exact there

theorem step_retains (event : SinkEvent ρ) : Retains s (step config s event) := by
  cases event with
  | log row thrown =>
    show Retains s (s.log config row thrown).1
    unfold BufferedSink.log
    dsimp only
    split
    · exact flush_retains thrown (s.push row)
    · exact fun _ _ there _ => there
  | flush thrown => exact flush_retains thrown s
  | settle j accepted =>
    intro i d there rejected
    show (s.deliveries.modify j (·.settled accepted))[i]? = some d
    have same : d.settled accepted = d := by
      simp [Delivery.settled, rejected]
    rw [List.getElem?_modify, there]
    split <;> simp [same]

theorem run_retains (config : BufferConfig) (events later : List (SinkEvent ρ)) :
    Retains (run config events) (run config (events ++ later)) := by
  unfold run
  rw [runs_append]
  apply runs_related (I := fun _ => True)
  · exact fun _ _ _ there _ => there
  · intro s t u first then_ i d there rejected
    exact then_ i d (first i d there rejected) rejected
  · exact fun _ _ _ => trivial
  · exact fun s event _ => step_retains event
  · trivial

theorem rejected_stays (config : BufferConfig) (events later : List (SinkEvent ρ)) {row : Nat × ρ}
    (member : row ∈ rowsOf .rejected (run config events)) :
    row ∈ rowsOf .rejected (run config (events ++ later)) := by
  unfold rowsOf at member ⊢
  obtain ⟨d, inside, own⟩ := List.mem_flatMap.mp member
  obtain ⟨there, status⟩ := List.mem_filter.mp inside
  have rejected : d.status = .rejected := by simpa using status
  obtain ⟨i, bound, held⟩ := List.getElem_of_mem there
  have kept := run_retains config events later i d (List.getElem?_eq_some_iff.mpr ⟨bound, held⟩) rejected
  exact List.mem_flatMap.mpr ⟨d, List.mem_filter.mpr ⟨List.mem_of_getElem? kept, status⟩, own⟩

theorem rejected_unaccepted (config : BufferConfig) (events : List (SinkEvent ρ)) {row : Nat × ρ}
    (rejected : row ∈ rowsOf .rejected (run config events)) :
    row ∉ rowsOf .accepted (run config events) := by
  intro accepted
  have once := List.Nodup.of_map _ (run_numbers config events)
  unfold whereabouts at once
  rw [List.append_assoc, List.append_assoc] at once
  exact (List.nodup_append'.mp once).2.2 accepted (List.mem_append_left _ rejected)

theorem reaches_mono {m n : Nat} (le : m ≤ n) {limit : JsNumber} (short : reaches n limit = false) :
    reaches m limit = false := by
  cases limit with
  | nan => rfl
  | negInfinity => exact short
  | posInfinity => rfl
  | finite limit =>
    simp only [reaches, decide_eq_false_iff_not, not_le] at short ⊢
    exact lt_of_le_of_lt (by exact_mod_cast le) short

/-- Of the rows logged up to a call of `log`, fewer than the batch size are left
in the buffer, or none. -/
structure Bounded (config : BufferConfig) (s : BufferedSink ρ) : Prop where
  numbers : ∀ call ∈ s.calls, call.logged ≤ s.logged.length
  remaining : ∀ call ∈ s.calls, call.isLog = true →
    reaches (s.buffer.countP fun row => row.1 < call.logged) config.maxBatchSize = false ∨
      s.buffer.countP (fun row => row.1 < call.logged) = 0

theorem flush_bounded (isLog : Bool) (thrown : Option Nat)
    (h : ∀ call ∈ s.calls, call.logged ≤ s.logged.length) :
    Bounded config (called isLog (s.flush config thrown)) := by
  constructor
  · intro call member
    simp only [called, flush_calls, flush_logged, List.mem_append, List.mem_singleton] at member ⊢
    rcases member with old | rfl
    · exact h call old
    · exact le_refl _
  · intro call _ _
    simp [called, flush_buffer]

theorem step_bounded (event : SinkEvent ρ) (h : Bounded config s) :
    Bounded config (step config s event) := by
  cases event with
  | log row thrown =>
    have numbers : ∀ call ∈ (s.push row).calls, call.logged ≤ (s.push row).logged.length := by
      intro call member
      have := h.numbers call member
      simp only [BufferedSink.push, List.length_append]
      omega
    show Bounded config (called true (s.log config row thrown))
    unfold BufferedSink.log
    dsimp only
    split
    · exact flush_bounded true thrown numbers
    · rename_i short
      constructor
      · intro call member
        rcases List.mem_append.mp member with old | new
        · exact numbers call old
        · rw [List.mem_singleton.mp new]
          exact le_refl _
      · intro call member isLog
        rcases List.mem_append.mp member with old | new
        · have before := h.remaining call old isLog
          have bound := h.numbers call old
          have same : (s.push row).buffer.countP (fun row => row.1 < call.logged) =
              s.buffer.countP fun row => row.1 < call.logged := by
            simp [BufferedSink.push, List.countP_append, List.countP_cons]
            omega
          show reaches ((s.push row).buffer.countP _) _ = false ∨ (s.push row).buffer.countP _ = 0
          rw [same]
          exact before
        · exact .inl (reaches_mono (List.countP_le_length) (Bool.eq_false_iff.mpr short))
  | flush thrown => exact flush_bounded false thrown h.numbers
  | settle i accepted => exact ⟨h.numbers, h.remaining⟩

theorem run_bounded (config : BufferConfig) (events : List (SinkEvent ρ)) :
    Bounded config (run config events) := by
  apply runs_invariant (I := Bounded config)
  · intro s event h
    exact step_bounded event h
  · constructor
    · intro call member
      cases member
    · intro call member
      cases member

/-- In every run each logged row is accepted, rejected, in flight or buffered,
and only one of these; what was rejected is not delivered again; and a call of
`log` leaves less than a batch behind. -/
theorem rows_conserved (config : BufferConfig) (events : List (SinkEvent ρ)) :
    Conserved config events := by
  constructor
  · rw [← (run_logged config events).1, ← run_held]
    exact (whereabouts_perm _).map _
  · exact run_numbers config events
  · intro later row member
    have stays := rejected_stays config events later member
    exact ⟨stays, rejected_unaccepted config _ stays⟩
  · intro call member isLog _
    exact (run_bounded config events).remaining call member isLog

end

/-- A row is logged, its insert fails, and a flush that follows has nothing to
deliver. -/
def failedInsert : List (SinkEvent String) := [.log "call" none, .flush none, .settle 0 false, .flush none]

/-- Nothing is in flight any more, and a row is neither accepted nor buffered. -/
theorem failed_insert_lost : ¬ ∀ (config : BufferConfig) (events : List (SinkEvent String)),
    rowsOf .inFlight (run config events) = [] →
      ((rowsOf .accepted (run config events) ++ (run config events).buffer).map (·.2)).Perm
        (rowsLogged events) := by
  intro claim
  have same := (claim { insertRows := true } failedInsert rfl).length_eq
  cases same

end VantGrowth.Proofs.LogRows
