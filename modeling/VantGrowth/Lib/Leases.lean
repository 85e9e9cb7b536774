import VantGrowth.Lib.Tallies

namespace VantGrowth.Lib

namespace Prog
variable {Op : Type} {Res : Op → Type} {ε σ α β : Type}

/-- What follows an answer, by whether it is a value. -/
def onAnswer (P : α → Prop) (Q : ε → Prop) : Except ε α → Prop
  | .ok a => P a
  | .error e => Q e

section
variable (exec : ∀ op, Store ε σ (Res op)) (rely : σ → σ → Prop) (W : Nat → σ → Prop)

/-- The program ends in `Q`, and `W` holds before each of its operations, although
others move the state along `rely`. An operation that fails ends it and is counted. -/
def Outline (Q : Nat → Except ε α → σ → Prop) : Nat → Prog Res ε α → σ → Prop
  | n, done a, s => Q n (.ok a) s
  | n, fail e, s => Q n (.error e) s
  | n, call op next, s => W n s ∧ ∀ t, rely s t →
      onAnswer (fun r => Outline Q n (next r) ((exec op).run t).2)
        (fun e => Q (n + 1) (.error e) ((exec op).run t).2) ((exec op).run t).1

end

section
variable {exec : ∀ op, Store ε σ (Res op)} {rely : σ → σ → Prop} {W : Nat → σ → Prop} {n : Nat} {s : σ}

theorem outline_weaken {Q Q' : Nat → Except ε α → σ → Prop} {m : Prog Res ε α}
    (first : Outline exec rely W Q n m s) (sub : ∀ k x t, Q k x t → Q' k x t) :
    Outline exec rely W Q' n m s := by
  induction m generalizing n s with
  | done a => exact sub _ _ _ first
  | fail e => exact sub _ _ _ first
  | call op next ih =>
    refine ⟨first.1, fun t moved => ?_⟩
    have answer := first.2 t moved
    cases result : ((exec op).run t).1 with
    | ok r =>
      rw [result] at answer
      exact ih r answer
    | error e =>
      rw [result] at answer
      exact sub _ _ _ answer

theorem outline_bind {Q : Nat → Except ε β → σ → Prop} {R : Nat → Except ε α → σ → Prop} {m : Prog Res ε α}
    {f : α → Prog Res ε β} (first : Outline exec rely W R n m s)
    (thrown : ∀ k e t, R k (.error e) t → Q k (.error e) t)
    (next : ∀ k a t, R k (.ok a) t → Outline exec rely W Q k (f a) t) :
    Outline exec rely W Q n (m >>= f) s := by
  induction m generalizing n s with
  | done a => exact next _ _ _ first
  | fail e => exact thrown _ _ _ first
  | call op rest ih =>
    refine ⟨first.1, fun t moved => ?_⟩
    have answer := first.2 t moved
    cases result : ((exec op).run t).1 with
    | ok r =>
      rw [result] at answer
      exact ih r answer
    | error e =>
      rw [result] at answer
      exact thrown _ _ _ answer

theorem outline_perform {op : Op} {Q : Nat → Except ε (Res op) → σ → Prop}
    (now : W n s) (each : ∀ t, rely s t → (exec op).Ends t fun x u => Q (match x with | .ok _ => n | .error _ => n + 1) x u) :
    Outline exec rely W Q n (perform op) s := by
  refine ⟨now, fun t moved => ?_⟩
  have ends := each t moved
  unfold Store.Ends at ends
  cases result : ((exec op).run t).1 with
  | ok r =>
    rw [result] at ends
    exact ends
  | error e =>
    rw [result] at ends
    exact ends

end

end Prog
open Prog

/-- What programs of several processes do around a shared state: sessions with a
database that has advisory locks, flags within a process, and operations of their
own, which some perform only under the lock and others at any time. -/
inductive LeaseOp (Op : Type) where
  | begin
  | tryLock (session key : Nat)
  | commit (session : Nat)
  | rollback (session : Nat)
  | lose (session : Nat)
  | enter (flag : Nat)
  | leave (flag : Nat)
  | own (op : Op)
  | free (op : Op)

abbrev LeaseRes {Op : Type} (Res : Op → Type) (ε : Type) : LeaseOp Op → Type
  | .begin => Nat
  | .tryLock _ _ => Except ε Bool
  | .commit _ | .rollback _ => Except ε Unit
  | .lose _ | .leave _ => Unit
  | .enter _ => Bool
  | .own op | .free op => Except ε (Res op)

/-- The locks, each with the session that holds it, and the sessions whose
connection broke. -/
structure Leased (σ : Type) where
  sessions : Nat
  locks : List (Nat × Nat)
  lost : List Nat
  flags : List Nat
  state : σ

namespace Leased

def unlock (session : Nat) (s : Leased σ) : Leased σ :=
  { s with locks := s.locks.filter (·.2 != session) }

section
variable {Op : Type} {Res : Op → Type} {ε σ : Type} (broken : ε) (inner : ∀ op, Store ε σ (Res op))

/-- A statement of a session, where its connection is up. -/
def statement (session : Nat) (f : Leased σ → Except ε α × Leased σ) : Store Empty (Leased σ) (Except ε α) :=
  ⟨fun s => if session ∈ s.lost then (.ok (.error broken), s) else (.ok (f s).1, (f s).2)⟩

def exec : ∀ op, Store Empty (Leased σ) (LeaseRes Res ε op)
  | .begin => ⟨fun s => (.ok s.sessions, { s with sessions := s.sessions + 1 })⟩
  | .tryLock session key => statement broken session fun s =>
    match s.locks.lookup key with
    | some holder => (.ok (holder == session), s)
    | none => (.ok true, { s with locks := (key, session) :: s.locks })
  | .commit session | .rollback session => statement broken session fun s => (.ok (), s.unlock session)
  | .lose session => Store.modify fun s => { s.unlock session with lost := session :: s.lost }
  | .enter flag => ⟨fun s => (.ok (s.flags.contains flag),
      { s with flags := if s.flags.contains flag then s.flags else flag :: s.flags })⟩
  | .leave flag => Store.modify fun s => { s with flags := s.flags.filter (· != flag) }
  | .own op | .free op =>
    ⟨fun s => (.ok ((inner op).run s.state).1, { s with state := ((inner op).run s.state).2 })⟩

end

end Leased

namespace Leases

section
variable {Op : Type} {Res : Op → Type} {ε σ Start α β : Type}

/-- A program whose operations are performed under the lock. -/
def owned : Prog Res ε α → Prog (LeaseRes Res ε) Empty (Except ε α)
  | .done a => .done (.ok a)
  | .fail e => .done (.error e)
  | .call op next => .call (.own op) (answered fun r => owned (next r))

/-- A program that knows of no lock. -/
def freed : Prog Res ε α → Prog (LeaseRes Res ε) Empty (Except ε α)
  | .done a => .done (.ok a)
  | .fail e => .done (.error e)
  | .call op next => .call (.free op) (answered fun r => freed (next r))

/-- Where a program stands to the lock. -/
inductive Standing where
  | idle
  | opened (session : Nat)
  | locked (session : Nat)
  | closed (session : Nat)

namespace Standing

def session : Standing → Option Nat
  | idle => none
  | opened n | locked n | closed n => some n

def Locked (t : Standing) : Prop := ∃ n, t = locked n

/-- The lock is still to be taken. -/
def Young : Standing → Prop
  | idle | opened _ => True
  | locked _ | closed _ => False

/-- After a try to take the lock. -/
def tried (t : Standing) (n : Nat) : Except ε Bool → Standing
  | .ok true => locked n
  | _ => t

end Standing

section
variable (key : Nat) (free : Op → Prop) (enters : Prog (LeaseRes Res ε) Empty α → Prop)

/-- The program performs its own operations only while it holds the lock of the
key, which it takes once at most, and it gives the lock back. -/
def Obeys : Standing → Prog (LeaseRes Res ε) Empty α → Prop
  | t, .done _ => ¬ t.Locked
  | _, .fail e => nomatch e
  | t, .call .begin next => t = .idle ∧ ∀ n, Obeys (.opened n) (next n)
  | t, .call (.tryLock n k) next =>
    t = .opened n ∧ k = key ∧ enters (next (.ok true)) ∧ ∀ x, Obeys (t.tried n x) (next x)
  | t, .call (.commit n) next | t, .call (.rollback n) next =>
    t.session = some n ∧ ∀ x, Obeys (.closed n) (next x)
  | _, .call (.lose _) _ => False
  | t, .call (.enter _) next => ¬ t.Locked ∧ ∀ x, Obeys t (next x)
  | t, .call (.leave _) next => ¬ t.Locked ∧ ∀ x, Obeys t (next x)
  | t, .call (.own _) next => t.Locked ∧ ∀ x, Obeys t (next x)
  | t, .call (.free op) next => ¬ t.Locked ∧ free op ∧ ∀ x, Obeys t (next x)

variable {key free enters}

theorem obeys_owned {n : Nat} {m : Prog Res ε β} {f : Except ε β → Prog (LeaseRes Res ε) Empty α}
    (later : ∀ x, Obeys key free enters (.locked n) (f x)) :
    Obeys key free enters (.locked n) (owned m >>= f) := by
  induction m with
  | done a => exact later (.ok a)
  | fail e => exact later (.error e)
  | call op next ih =>
    refine ⟨⟨n, rfl⟩, fun x => ?_⟩
    cases x with
    | ok r => exact ih r
    | error e => exact later (.error e)

theorem obeys_freed {t : Standing} (outside : ¬ t.Locked) {m : Prog Res ε β} (only : Only free m)
    {f : Except ε β → Prog (LeaseRes Res ε) Empty α} (later : ∀ x, Obeys key free enters t (f x)) :
    Obeys key free enters t (freed m >>= f) := by
  induction m with
  | done a => exact later (.ok a)
  | fail e => exact later (.error e)
  | call op next ih =>
    refine ⟨outside, only.1, fun x => ?_⟩
    cases x with
    | ok r => exact ih r (only.2 r)
    | error e => exact later (.error e)

end

section
variable (inner : ∀ op, Store ε σ (Res op)) (rely : σ → σ → Prop) (W I : Nat → σ → Prop)

def failures : Except ε β → Nat
  | .ok _ => 0
  | .error _ => 1

/-- Whatever others do, `I` holds again when a program that holds the lock gives
it back, and `W` until then. -/
def Keeping : Nat → Prog (LeaseRes Res ε) Empty α → σ → Prop
  | n, .call (.own op) next, s => W n s ∧ ∀ t, rely s t →
      Keeping (n + failures ((inner op).run t).1) (next ((inner op).run t).1) ((inner op).run t).2
  | n, _, s => I n s

variable {inner rely W I}

theorem keeping_owned {m : Prog Res ε α} {f : Except ε α → Prog (LeaseRes Res ε) Empty β} {n : Nat} {s : σ}
    (first : Outline inner rely W (fun k x t => Keeping inner rely W I k (f x) t) n m s) :
    Keeping inner rely W I n (owned m >>= f) s := by
  induction m generalizing n s with
  | done a => exact first
  | fail e => exact first
  | call op next ih =>
    refine ⟨first.1, fun t moved => ?_⟩
    have answer := first.2 t moved
    cases result : ((inner op).run t).1 with
    | ok r =>
      rw [result] at answer
      exact ih r answer
    | error e =>
      rw [result] at answer
      exact answer

theorem keeping_moved (trans : ∀ s t u, rely s t → rely t u → rely s u)
    (stable : ∀ n s t, I n s → rely s t → I n t) (stable' : ∀ n s t, W n s → rely s t → W n t)
    {p : Prog (LeaseRes Res ε) Empty α} {n : Nat} {s t : σ} (keeping : Keeping inner rely W I n p s)
    (moved : rely s t) : Keeping inner rely W I n p t := by
  cases p with
  | done a => exact stable n s t keeping moved
  | fail e => nomatch e
  | call op next =>
    cases op with
    | own op => exact ⟨stable' n s t keeping.1 moved, fun u later => keeping.2 u (trans s t u moved later)⟩
    | _ => exact stable n s t keeping moved

theorem keeping_holds (rest : ∀ n s, I n s → W n s) {p : Prog (LeaseRes Res ε) Empty α} {n : Nat} {s : σ}
    (keeping : Keeping inner rely W I n p s) : W n s := by
  cases p with
  | done a => exact rest n s keeping
  | fail e => nomatch e
  | call op next =>
    cases op with
    | own op => exact keeping.1
    | _ => exact rest n s keeping

end

/-- The worker that performed an operation under the lock. -/
def owner : Machine.Entry (LeaseRes Res ε) Empty Start → Option Nat
  | .did (.worker i _) (.own _) _ => some i
  | _ => none

/-- An operation under the lock that failed. -/
def mishap : Machine.Entry (LeaseRes Res ε) Empty Start → Bool
  | .did (.worker _ _) (.own _) (.ok (.error _)) => true
  | _ => false

def mishaps (log : List (Machine.Entry (LeaseRes Res ε) Empty Start)) : Nat := log.countP mishap

variable (broken : ε) (inner : ∀ op, Store ε σ (Res op))
  (launch : σ → Start → Option (Prog (LeaseRes Res ε) Empty α)) (outside : Op → Bool)

/-- Everyone else may lose a session at any time. -/
def machine : Machine (LeaseRes Res ε) Empty (Leased σ) Start α where
  exec := Leased.exec broken inner
  program w s := launch w.state s
  acknowledge _ := none
  outside
    | .lose _ => true
    | .free op => outside op
    | _ => false

def start (s : σ) : Machine.Config (LeaseRes Res ε) Empty (Leased σ) Start α :=
  Machine.initial ⟨0, [], [], [], s⟩

section
variable (key : Nat) (free : Op → Prop) (enters : Prog (LeaseRes Res ε) Empty α → Prop)

/-- Where each program stands, in a run that has lost no session. -/
structure Guarded (c : Machine.Config (LeaseRes Res ε) Empty (Leased σ) Start α) (st : Nat → Standing) :
    Prop where
  obeys : ∀ i t, c.threads[i]? = some t → Obeys key free enters (st i) t.prog
  absent : ∀ i, c.threads.length ≤ i → st i = .idle
  below : ∀ i n, (st i).session = some n → n < c.state.sessions
  apart : ∀ i j n, (st i).session = some n → (st j).session = some n → i = j
  held : ∀ i n, st i = .locked n → c.state.locks.lookup key = some n

/-- What one step does to the lock, the state and the log. -/
inductive Move (c c' : Machine.Config (LeaseRes Res ε) Empty (Leased σ) Start α) (st st' : Nat → Standing) :
    Prop where
  | aside
      (state : c'.state.state = c.state.state ∨
        ∃ op, free op ∧ c'.state.state = ((inner op).run c.state.state).2)
      (log : c'.log = c.log ∨ ∃ e, c'.log = c.log ++ [e] ∧ owner e = none)
      (holders : ∀ i, (st' i).Locked → st i = st' i ∧ c'.threads[i]? = c.threads[i]?)
      (holding : ∀ i, (st i).Locked → st' i = st i)
      (young : ∀ i, (st' i).Young → (st i).Young)
  | took (i n : Nat) (t : Machine.Thread (LeaseRes Res ε) Empty Start α)
      (thread : c'.threads[i]? = some t) (entered : enters t.prog)
      (state : c'.state.state = c.state.state) (log : ∃ e, c'.log = c.log ++ [e] ∧ owner e = none)
      (was : st i = .opened n) (now : st' = Function.update st i (.locked n))
      (alone : ∀ j, ¬ (st j).Locked)
  | gave (i n : Nat) (was : st i = .locked n) (now : st' = Function.update st i (.closed n))
      (thread : ∃ s next, c.threads[i]? = some ⟨s, .call (.commit n) next⟩ ∨
        c.threads[i]? = some ⟨s, .call (.rollback n) next⟩)
      (state : c'.state.state = c.state.state) (log : ∃ e, c'.log = c.log ++ [e] ∧ owner e = none)
  | own (i n : Nat) (s : Start) (op : Op) (next : Except ε (Res op) → Prog (LeaseRes Res ε) Empty α)
      (was : st i = .locked n) (now : st' = st)
      (thread : c.threads[i]? = some ⟨s, .call (.own op) next⟩)
      (threads : c'.threads[i]? = some ⟨s, next ((inner op).run c.state.state).1⟩)
      (state : c'.state.state = ((inner op).run c.state.state).2)
      (log : c'.log = c.log ++ [.did (.worker i s) (.own op) (.ok ((inner op).run c.state.state).1)])

variable {key free enters inner}
variable {c c' : Machine.Config (LeaseRes Res ε) Empty (Leased σ) Start α} {st st' : Nat → Standing}

theorem Guarded.one {i j : Nat} (h : Guarded key free enters c st) (here : (st i).Locked)
    (there : (st j).Locked) : i = j := by
  obtain ⟨n, hn⟩ := here
  obtain ⟨m, hm⟩ := there
  have same := h.held i n hn
  rw [h.held j m hm] at same
  cases same
  exact h.apart i j n (by rw [hn]; rfl) (by rw [hm]; rfl)

/-- One program goes on, and the others stand where they stood. -/
theorem Guarded.set {i : Nat} {t : Machine.Thread (LeaseRes Res ε) Empty Start α}
    (h : Guarded key free enters c st) (bound : i < c.threads.length) (threads : c'.threads = c.threads.set i t)
    {to_ : Standing} (obeys : Obeys key free enters to_ t.prog)
    (sessions : c.state.sessions ≤ c'.state.sessions)
    (own : ∀ n, to_.session = some n → n < c'.state.sessions ∧ ∀ j, j ≠ i → (st j).session ≠ some n)
    (held : ∀ n, to_ = .locked n → c'.state.locks.lookup key = some n)
    (others : ∀ j n, j ≠ i → st j = .locked n → c'.state.locks.lookup key = some n) :
    Guarded key free enters c' (Function.update st i to_) := by
  refine ⟨?_, ?_, ?_, ?_, ?_⟩
  · intro j u there
    rw [threads] at there
    by_cases same : j = i
    · subst same
      rw [List.getElem?_set_self bound] at there
      cases there
      rw [Function.update_self]
      exact obeys
    · rw [List.getElem?_set_ne (Ne.symm same)] at there
      rw [Function.update_of_ne same]
      exact h.obeys j u there
  · intro j beyond
    rw [threads, List.length_set] at beyond
    rw [Function.update_of_ne (by omega)]
    exact h.absent j beyond
  · intro j n session
    by_cases same : j = i
    · subst same
      rw [Function.update_self] at session
      exact (own n session).1
    · rw [Function.update_of_ne same] at session
      exact Nat.lt_of_lt_of_le (h.below j n session) sessions
  · intro j k n first second
    by_cases left : j = i
    · subst left
      by_cases right : k = j
      · exact right.symm
      · rw [Function.update_self] at first
        rw [Function.update_of_ne right] at second
        exact absurd second ((own n first).2 k right)
    · rw [Function.update_of_ne left] at first
      by_cases right : k = i
      · subst right
        rw [Function.update_self] at second
        exact absurd first ((own n second).2 j left)
      · rw [Function.update_of_ne right] at second
        exact h.apart j k n first second
  · intro j n locked
    by_cases same : j = i
    · subst same
      rw [Function.update_self] at locked
      exact held n locked
    · rw [Function.update_of_ne same] at locked
      exact others j n same locked

theorem Move.stay {i : Nat} {t : Machine.Thread (LeaseRes Res ε) Empty Start α}
    (threads : c'.threads = c.threads.set i t) {to_ : Standing} (was : ¬ (st i).Locked)
    (now : ¬ to_.Locked) (young : to_.Young → (st i).Young)
    (state : c'.state.state = c.state.state ∨
      ∃ op, free op ∧ c'.state.state = ((inner op).run c.state.state).2)
    (log : ∃ e, c'.log = c.log ++ [e] ∧ owner e = none) :
    Move inner free enters c c' st (Function.update st i to_) := by
  refine .aside state (Or.inr log) ?_ ?_ ?_
  · intro j locked
    by_cases same : j = i
    · subst same
      rw [Function.update_self] at locked
      exact absurd locked now
    · rw [Function.update_of_ne same, threads, List.getElem?_set_ne (Ne.symm same)]
      exact ⟨rfl, rfl⟩
  · intro j locked
    have other : j ≠ i := by
      rintro rfl
      exact was locked
    exact Function.update_of_ne other _ _
  · intro j
    by_cases same : j = i
    · subst same
      rw [Function.update_self]
      exact young
    · rw [Function.update_of_ne same]
      exact id

theorem lookup_unlock {locks : List (Nat × Nat)} {n m : Nat} (found : locks.lookup key = some n)
    (other : n ≠ m) : (locks.filter (·.2 != m)).lookup key = some n := by
  induction locks with
  | nil => cases found
  | cons l locks ih =>
    obtain ⟨k, holder⟩ := l
    rw [List.lookup_cons] at found
    by_cases same : key = k
    · subst same
      rw [BEq.rfl] at found
      cases found
      rw [List.filter_cons_of_pos (by simpa using other), List.lookup_cons, BEq.rfl]
    · rw [beq_false_of_ne same] at found
      rw [List.filter_cons]
      split
      · rw [List.lookup_cons, beq_false_of_ne same]
        exact ih found
      · exact ih found

variable {broken launch outside}

/-- What a statement of a session does where no connection broke. -/
theorem statement_run {s : Leased σ} (up : s.lost = []) (n : Nat) (f : Leased σ → Except ε β × Leased σ) :
    (Leased.statement broken n f).run s = (.ok (f s).1, (f s).2) := by
  have here : n ∉ s.lost := by
    rw [up]
    exact List.not_mem_nil
  exact if_neg here

/-- One operation of a program. -/
theorem run_goes {i : Nat} {s : Start} {op : LeaseOp Op}
    {next : LeaseRes Res ε op → Prog (LeaseRes Res ε) Empty α}
    (current : c.threads[i]? = some ⟨s, .call op next⟩) {x : LeaseRes Res ε op} {t : Leased σ}
    (ran : (Leased.exec broken inner op).run c.state = (.ok x, t)) :
    (machine broken inner launch outside).step c (.run i) =
      ⟨t, c.threads.set i ⟨s, next x⟩, c.log ++ [.did (.worker i s) op (.ok x)]⟩ := by
  have ran' : ((machine broken inner launch outside).exec op).run c.state = (.ok x, t) := ran
  simp only [Machine.step, current, Machine.record, ran', Machine.resume]

theorem Guarded.kept {i : Nat} (h : Guarded key free enters c st) (n : Nat) (session : (st i).session = some n) :
    n < c.state.sessions ∧ ∀ j, j ≠ i → (st j).session ≠ some n :=
  ⟨h.below i n session, fun j other there => other (h.apart j i n there session)⟩

/-- A try to take the lock. -/
theorem tryLock_moves {i n k : Nat} {s : Start}
    {next : Except ε Bool → Prog (LeaseRes Res ε) Empty α} (h : Guarded key free enters c st)
    (current : c.threads[i]? = some ⟨s, .call (.tryLock n k) next⟩) (up : c.state.lost = []) :
    ∃ st', Guarded key free enters ((machine broken inner launch outside).step c (.run i)) st' ∧
      Move inner free enters c ((machine broken inner launch outside).step c (.run i)) st st' := by
  have bound := (List.getElem?_eq_some_iff.mp current).1
  obtain ⟨was, rfl, entered, later⟩ := h.obeys i _ current
  have own : (st i).session = some n := by
    rw [was]
    rfl
  have outside_ : ¬ (st i).Locked := by
    rw [was]
    rintro ⟨_, ⟨⟩⟩
  have others : ∀ j m, j ≠ i → st j = .locked m → c.state.locks.lookup k = some m := fun j m _ => h.held j m
  have tried : (Leased.exec broken inner (.tryLock n k)).run c.state = _ := statement_run up n _
  -- nobody else holds the lock where this program gets it
  have takes {t : Leased σ}
      (ran : (Leased.exec broken inner (.tryLock n k)).run c.state = (.ok (.ok true), t))
      (free_ : ∀ m, c.state.locks.lookup k = some m → m = n) (same : t.state = c.state.state)
      (sessions : t.sessions = c.state.sessions) (held : t.locks.lookup k = some n) :
      ∃ st', Guarded k free enters ((machine broken inner launch outside).step c (.run i)) st' ∧
        Move inner free enters c ((machine broken inner launch outside).step c (.run i)) st st' := by
    have alone : ∀ j, ¬ (st j).Locked := by
      rintro j ⟨m, locked⟩
      obtain rfl := free_ m (h.held j m locked)
      obtain rfl := h.apart j i m (by rw [locked]; rfl) own
      exact outside_ ⟨m, locked⟩
    rw [run_goes current ran]
    refine ⟨Function.update st i (.locked n), h.set bound rfl ?_ ?_ ?_ ?_ ?_, ?_⟩
    · have next_ := later (.ok true)
      exact next_
    · exact Nat.le_of_eq sessions.symm
    · rintro m ⟨⟩
      rw [sessions]
      exact h.kept n own
    · rintro m ⟨⟩
      exact held
    · exact fun j m _ locked => absurd ⟨m, locked⟩ (alone j)
    · exact .took i n _ (List.getElem?_set_self bound) entered same ⟨_, rfl, rfl⟩ was rfl alone
  have waits (ran : (Leased.exec broken inner (.tryLock n k)).run c.state = (.ok (.ok false), c.state)) :
      ∃ st', Guarded k free enters ((machine broken inner launch outside).step c (.run i)) st' ∧
        Move inner free enters c ((machine broken inner launch outside).step c (.run i)) st st' := by
    rw [run_goes current ran]
    refine ⟨_, h.set bound rfl (later (.ok false)) (Nat.le_refl _) h.kept ?_ others,
      Move.stay rfl outside_ outside_ id (Or.inl rfl) ⟨_, rfl, rfl⟩⟩
    exact fun m locked => absurd ⟨m, locked⟩ outside_
  cases found : c.state.locks.lookup k with
  | none =>
    simp only [found] at tried
    refine takes tried (by rw [found]; exact nofun) rfl rfl ?_
    rw [List.lookup_cons, BEq.rfl]
  | some holder =>
    simp only [found] at tried
    by_cases mine : holder = n
    · subst mine
      rw [BEq.rfl] at tried
      refine takes tried ?_ rfl rfl found
      rintro m there
      rw [found] at there
      exact (Option.some.inj there).symm
    · rw [beq_false_of_ne mine] at tried
      exact waits tried

/-- The end of a transaction. -/
theorem finish_moves {i n : Nat} {s : Start} {op : LeaseOp Op}
    {next : LeaseRes Res ε op → Prog (LeaseRes Res ε) Empty α} {x : LeaseRes Res ε op}
    (h : Guarded key free enters c st) (current : c.threads[i]? = some ⟨s, .call op next⟩)
    (ends : op = .commit n ∨ op = .rollback n) (session : (st i).session = some n)
    (later : Obeys key free enters (.closed n) (next x))
    (ran : (Leased.exec broken inner op).run c.state = (.ok x, c.state.unlock n)) :
    ∃ st', Guarded key free enters ((machine broken inner launch outside).step c (.run i)) st' ∧
      Move inner free enters c ((machine broken inner launch outside).step c (.run i)) st st' := by
  have bound := (List.getElem?_eq_some_iff.mp current).1
  have silent : owner (.did (.worker i s) op (.ok x) : Machine.Entry (LeaseRes Res ε) Empty Start) = none := by
    rcases ends with rfl | rfl <;> rfl
  have next_ : Guarded key free enters ⟨c.state.unlock n, c.threads.set i ⟨s, next x⟩,
      c.log ++ [.did (.worker i s) op (.ok x)]⟩ (Function.update st i (.closed n)) := by
    refine h.set bound rfl later (Nat.le_refl _) ?_ ?_ ?_
    · rintro m ⟨⟩
      exact h.kept n session
    · rintro m ⟨⟩
    · intro j m other locked
      refine lookup_unlock (h.held j m locked) ?_
      rintro rfl
      exact other (h.apart j i m (by rw [locked]; rfl) session)
  rw [run_goes current ran]
  refine ⟨_, next_, ?_⟩
  by_cases locked : (st i).Locked
  · obtain ⟨m, was⟩ := locked
    have same : m = n := by
      rw [was] at session
      exact Option.some.inj session
    subst same
    refine .gave i m was rfl ?_ rfl ⟨_, rfl, silent⟩
    rcases ends with rfl | rfl
    · exact ⟨s, next, Or.inl current⟩
    · exact ⟨s, next, Or.inr current⟩
  · refine Move.stay rfl locked ?_ ?_ (Or.inl rfl) ⟨_, rfl, silent⟩
    · rintro ⟨_, ⟨⟩⟩
    · exact fun young => young.elim

/-- The next operation of a program. -/
theorem run_moves {i : Nat} {s : Start} {op : LeaseOp Op}
    {next : LeaseRes Res ε op → Prog (LeaseRes Res ε) Empty α} (h : Guarded key free enters c st)
    (current : c.threads[i]? = some ⟨s, .call op next⟩) (up : c.state.lost = []) :
    ∃ st', Guarded key free enters ((machine broken inner launch outside).step c (.run i)) st' ∧
      Move inner free enters c ((machine broken inner launch outside).step c (.run i)) st st' := by
  have bound := (List.getElem?_eq_some_iff.mp current).1
  have obeys := h.obeys i _ current
  have others : ∀ j n, j ≠ i → st j = .locked n → c.state.locks.lookup key = some n := fun j n _ => h.held j n
  cases op with
  | begin =>
    obtain ⟨was, later⟩ := obeys
    rw [run_goes current rfl]
    refine ⟨_, h.set bound rfl (later c.state.sessions) (Nat.le_succ _) ?_ ?_ others,
      Move.stay rfl ?_ ?_ ?_ (Or.inl rfl) ⟨_, rfl, rfl⟩⟩
    · rintro n ⟨⟩
      refine ⟨Nat.lt_succ_self _, fun j _ there => ?_⟩
      exact Nat.lt_irrefl _ (h.below j _ there)
    · exact nofun
    · rw [was]
      rintro ⟨_, ⟨⟩⟩
    · rintro ⟨_, ⟨⟩⟩
    · rw [was]
      exact fun _ => trivial
  | tryLock n k => exact tryLock_moves h current up
  | commit n =>
    obtain ⟨session, later⟩ := obeys
    exact finish_moves h current (Or.inl rfl) session (later _) (statement_run up n _)
  | rollback n =>
    obtain ⟨session, later⟩ := obeys
    exact finish_moves h current (Or.inr rfl) session (later _) (statement_run up n _)
  | lose n => exact obeys.elim
  | enter flag =>
    obtain ⟨outside_, later⟩ := obeys
    rw [run_goes current rfl]
    refine ⟨_, h.set bound rfl (later _) (Nat.le_refl _) h.kept ?_ others,
      Move.stay rfl outside_ outside_ id (Or.inl rfl) ⟨_, rfl, rfl⟩⟩
    exact fun n locked => absurd ⟨n, locked⟩ outside_
  | leave flag =>
    obtain ⟨outside_, later⟩ := obeys
    rw [run_goes current rfl]
    refine ⟨_, h.set bound rfl (later _) (Nat.le_refl _) h.kept ?_ others,
      Move.stay rfl outside_ outside_ id (Or.inl rfl) ⟨_, rfl, rfl⟩⟩
    exact fun n locked => absurd ⟨n, locked⟩ outside_
  | free op =>
    obtain ⟨outside_, allowed, later⟩ := obeys
    rw [run_goes current rfl]
    refine ⟨_, h.set bound rfl (later _) (Nat.le_refl _) h.kept ?_ others,
      Move.stay rfl outside_ outside_ id (Or.inr ⟨op, allowed, rfl⟩) ⟨_, rfl, rfl⟩⟩
    exact fun n locked => absurd ⟨n, locked⟩ outside_
  | own op =>
    obtain ⟨⟨n, locked⟩, later⟩ := obeys
    rw [run_goes current rfl]
    refine ⟨_, h.set bound rfl (later _) (Nat.le_refl _) h.kept (fun m here => h.held i m here) others, ?_⟩
    exact .own i n s op next locked (Function.update_eq_self i st) current (List.getElem?_set_self bound) rfl rfl

/-- A broken connection is never whole again. -/
theorem lost_before {l : Machine.Label (LeaseOp Op) Start}
    (up : ((machine broken inner launch outside).step c l).state.lost = []) : c.state.lost = [] := by
  have exec_lost : ∀ op : LeaseOp Op, ((Leased.exec broken inner op).run c.state).2.lost = [] →
      c.state.lost = [] := by
    intro op
    cases op with
    | tryLock n k =>
      simp only [Leased.exec, Leased.statement]
      split
      · exact id
      · cases c.state.locks.lookup k <;> exact id
    | commit n =>
      simp only [Leased.exec, Leased.statement]
      split <;> exact id
    | rollback n =>
      simp only [Leased.exec, Leased.statement]
      split <;> exact id
    | lose n => exact nofun
    | _ => exact id
  cases l with
  | run i =>
    simp only [Machine.step] at up
    split at up
    · exact exec_lost _ up
    · exact up
  | settle i =>
    simp only [Machine.step] at up
    split at up
    · exact up
    · exact up
  | outside op =>
    simp only [Machine.step] at up
    split at up
    · exact exec_lost op up
    · exact up
  | spawn s =>
    simp only [Machine.step] at up
    split at up
    · exact up
    · exact up

/-- Every step is a move, as long as no session is lost. -/
theorem step_moves (launches : ∀ w s p, launch w s = some p → Obeys key free enters .idle p)
    (others : ∀ op, outside op = true → free op) (h : Guarded key free enters c st)
    (l : Machine.Label (LeaseOp Op) Start)
    (up : ((machine broken inner launch outside).step c l).state.lost = []) :
    ∃ st', Guarded key free enters ((machine broken inner launch outside).step c l) st' ∧
      Move inner free enters c ((machine broken inner launch outside).step c l) st st' := by
  have before := lost_before up
  have still : Move inner free enters c c st st :=
    .aside (Or.inl rfl) (Or.inl rfl) (fun _ _ => ⟨rfl, rfl⟩) (fun _ _ => rfl) fun _ => id
  cases l with
  | run i =>
    cases current : c.threads[i]? with
    | none =>
      simp only [Machine.step, current]
      exact ⟨st, h, still⟩
    | some t =>
      obtain ⟨s, p⟩ := t
      cases p with
      | done a =>
        simp only [Machine.step, current]
        exact ⟨st, h, still⟩
      | fail e => cases e
      | call op next => exact run_moves h current before
  | settle i =>
    simp only [Machine.step]
    split
    · exact ⟨st, h, still⟩
    · exact ⟨st, h, still⟩
  | outside op =>
    cases op with
    | lose n => cases up
    | free op =>
      simp only [Machine.step]
      split
      · rename_i allowed
        refine ⟨st, ⟨h.obeys, h.absent, h.below, h.apart, h.held⟩,
          .aside (Or.inr ⟨op, others op allowed, rfl⟩) (Or.inr ⟨_, rfl, rfl⟩) ?_ (fun _ _ => rfl) fun _ => id⟩
        exact fun _ _ => ⟨rfl, rfl⟩
      · exact ⟨st, h, still⟩
    | _ => exact ⟨st, h, still⟩
  | spawn s =>
    simp only [Machine.step]
    split
    · rename_i p launched
      have fresh : st c.threads.length = .idle := h.absent _ (Nat.le_refl _)
      refine ⟨st, ⟨?_, ?_, h.below, h.apart, h.held⟩,
        .aside (Or.inl rfl) (Or.inr ⟨_, rfl, rfl⟩) ?_ (fun _ _ => rfl) fun _ => id⟩
      · intro i t there
        rcases Nat.lt_trichotomy i c.threads.length with old | rfl | beyond
        · rw [List.getElem?_append_left old] at there
          exact h.obeys i t there
        · rw [List.getElem?_concat_length] at there
          cases there
          rw [fresh]
          exact launches _ s p launched
        · rw [List.getElem?_eq_none (by rw [List.length_append, List.length_singleton]; omega)] at there
          cases there
      · intro i beyond
        rw [List.length_append, List.length_singleton] at beyond
        exact h.absent i (by omega)
      · intro i locked
        have old : i < c.threads.length := by
          by_contra beyond
          rw [h.absent i (by omega)] at locked
          obtain ⟨_, ⟨⟩⟩ := locked
        exact ⟨rfl, List.getElem?_append_left old⟩
    · exact ⟨st, h, still⟩

theorem start_guarded (s : σ) :
    Guarded key free enters (start s : Machine.Config (LeaseRes Res ε) Empty (Leased σ) Start α) fun _ => .idle := by
  refine ⟨?_, fun _ _ => rfl, ?_, ?_, ?_⟩
  · rintro i t ⟨⟩
  · rintro i n ⟨⟩
  · rintro i j n ⟨⟩
  · rintro i n ⟨⟩

/-- The workers of the operations under the lock, in their order. -/
def owners (log : List (Machine.Entry (LeaseRes Res ε) Empty Start)) : List Nat := log.filterMap owner

theorem owners_snoc (log : List (Machine.Entry (LeaseRes Res ε) Empty Start))
    (e : Machine.Entry (LeaseRes Res ε) Empty Start) : owners (log ++ [e]) = owners log ++ (owner e).toList := by
  rw [owners, List.filterMap_append, owners]
  cases given : owner e with
  | none => rw [List.filterMap_cons_none given]; rfl
  | some i => rw [List.filterMap_cons_some given]; rfl

/-- One after another, each as often as it says. -/
def inTurn (blocks : List (Nat × Nat)) : List Nat := blocks.flatMap fun b => List.replicate b.2 b.1

theorem inTurn_snoc (blocks : List (Nat × Nat)) (i k : Nat) :
    inTurn (blocks ++ [(i, k)]) = inTurn blocks ++ List.replicate k i := by
  simp [inTurn]

/-- The sections so far, of which the last may be under way. -/
structure Ordered (log : List (Machine.Entry (LeaseRes Res ε) Empty Start)) (st : Nat → Standing)
    (blocks : List (Nat × Nat)) : Prop where
  once : (blocks.map Prod.fst).Nodup
  order : owners log = inTurn blocks
  new : ∀ i, (st i).Young → i ∉ blocks.map Prod.fst
  last : ∀ i, (st i).Locked → ∃ front k, blocks = front ++ [(i, k)]

theorem owners_quiet {log log' : List (Machine.Entry (LeaseRes Res ε) Empty Start)}
    (grown : log' = log ∨ ∃ e, log' = log ++ [e] ∧ owner e = none) : owners log' = owners log := by
  rcases grown with rfl | ⟨e, rfl, silent⟩
  · rfl
  · rw [owners_snoc, silent]
    exact List.append_nil _

theorem Ordered.step {blocks : List (Nat × Nat)} (h : Ordered c.log st blocks)
    (move : Move inner free enters c c' st st') : ∃ blocks', Ordered c'.log st' blocks' := by
  cases move with
  | aside state log holders holding young =>
    refine ⟨blocks, h.once, (owners_quiet log).trans h.order, fun i here => h.new i (young i here), ?_⟩
    intro i locked
    have same := (holders i locked).1
    exact h.last i (by rwa [same])
  | took i n t thread entered state log was now alone =>
    subst now
    have first : i ∉ blocks.map Prod.fst := h.new i (by rw [was]; trivial)
    refine ⟨blocks ++ [(i, 0)], ?_, ?_, ?_, ?_⟩
    · rw [List.map_append, List.map_singleton]
      exact List.nodup_append.mpr ⟨h.once, by simp, fun a there b here => by
        rw [List.mem_singleton.mp here]
        rintro rfl
        exact first there⟩
    · rw [owners_quiet (Or.inr log), inTurn_snoc, h.order]
      exact (List.append_nil _).symm
    · intro j young
      have other : j ≠ i := by
        rintro rfl
        rw [Function.update_self] at young
        exact young
      rw [Function.update_of_ne other] at young
      simp only [List.map_append, List.map_singleton, List.mem_append, List.mem_singleton, not_or]
      exact ⟨h.new j young, other⟩
    · intro j locked
      by_cases same : j = i
      · exact ⟨blocks, 0, by rw [same]⟩
      · rw [Function.update_of_ne same] at locked
        exact absurd locked (alone j)
  | gave i n was now thread state log =>
    subst now
    refine ⟨blocks, h.once, (owners_quiet (Or.inr log)).trans h.order, ?_, ?_⟩
    · intro j young
      have other : j ≠ i := by
        rintro rfl
        rw [Function.update_self] at young
        exact young
      rw [Function.update_of_ne other] at young
      exact h.new j young
    · rintro j ⟨m, locked⟩
      have other : j ≠ i := by
        rintro rfl
        rw [Function.update_self] at locked
        cases locked
      rw [Function.update_of_ne other] at locked
      exact h.last j ⟨m, locked⟩
  | own i n s op next was now thread threads state log =>
    subst now
    obtain ⟨front, k, rfl⟩ := h.last i ⟨n, was⟩
    have names : ∀ j, (front ++ [(i, j)]).map Prod.fst = (front ++ [(i, k)]).map Prod.fst := by
      intro j
      simp
    refine ⟨front ++ [(i, k + 1)], ?_, ?_, ?_, ?_⟩
    · rw [names]
      exact h.once
    · rw [log, owners_snoc, h.order, inTurn_snoc, inTurn_snoc, List.append_assoc, List.replicate_succ']
      rfl
    · intro j young
      rw [names]
      exact h.new j young
    · intro j locked
      obtain ⟨front', k', same⟩ := h.last j locked
      obtain ⟨rfl, here⟩ := List.append_inj' same rfl
      cases here
      exact ⟨front, k + 1, rfl⟩

/-- Where no session was lost, the sections follow one another. -/
theorem sections_ordered (launches : ∀ w s p, launch w s = some p → Obeys key free enters .idle p)
    (others : ∀ op, outside op = true → free op) (s : σ) (labels : List (Machine.Label (LeaseOp Op) Start))
    (up : (runs (machine broken inner launch outside).step (start s) labels).state.lost = []) :
    ∃ blocks : List (Nat × Nat), (blocks.map Prod.fst).Nodup ∧
      owners (runs (machine broken inner launch outside).step (start s) labels).log = inTurn blocks := by
  have ordered : (runs (machine broken inner launch outside).step (start s) labels).state.lost = [] →
      ∃ st, Guarded key free enters (runs (machine broken inner launch outside).step (start s) labels) st ∧
        ∃ blocks, Ordered (runs (machine broken inner launch outside).step (start s) labels).log st blocks := by
    refine runs_invariant (I := fun c : Machine.Config (LeaseRes Res ε) Empty (Leased σ) Start α =>
      c.state.lost = [] → ∃ st, Guarded key free enters c st ∧
      ∃ blocks, Ordered c.log st blocks) ?_ ?_ labels
    · intro c l before up
      obtain ⟨st, guarded, blocks, so_far⟩ := before (lost_before up)
      obtain ⟨st', guarded', move⟩ := step_moves launches others guarded l up
      exact ⟨st', guarded', so_far.step move⟩
    · refine fun _ => ⟨fun _ => .idle, start_guarded s, [], ⟨List.nodup_nil, rfl, ?_, ?_⟩⟩
      · exact fun _ _ => List.not_mem_nil
      · rintro i ⟨_, ⟨⟩⟩
  obtain ⟨_, _, blocks, ordered⟩ := ordered up
  exact ⟨blocks, ordered.once, ordered.order⟩

section
variable {rely : σ → σ → Prop} {W I : Nat → σ → Prop}

/-- What holds in a program's section, and what holds outside of every section. -/
structure Kept (inner : ∀ op, Store ε σ (Res op)) (rely : σ → σ → Prop) (W I : Nat → σ → Prop)
    (c : Machine.Config (LeaseRes Res ε) Empty (Leased σ) Start α) (st : Nat → Standing) : Prop where
  inside : ∀ i t, (st i).Locked → c.threads[i]? = some t →
    ∃ n ≤ mishaps c.log, Keeping inner rely W I n t.prog c.state.state
  outside : (∀ i, ¬ (st i).Locked) → ∃ n ≤ mishaps c.log, I n c.state.state

theorem mishaps_le {log log' : List (Machine.Entry (LeaseRes Res ε) Empty Start)}
    (grown : log' = log ∨ ∃ e, log' = log ++ [e] ∧ owner e = none) : mishaps log ≤ mishaps log' := by
  rcases grown with rfl | ⟨e, rfl, _⟩
  · exact Nat.le_refl _
  · rw [mishaps, mishaps, List.countP_append]
    exact Nat.le_add_right _ _

theorem mishaps_own (log : List (Machine.Entry (LeaseRes Res ε) Empty Start)) (i : Nat) (s : Start) (op : Op)
    (x : Except ε (Res op)) :
    mishaps (log ++ [.did (.worker i s) (.own op) (.ok x)]) = mishaps log + failures x := by
  rw [mishaps, mishaps, List.countP_append]
  cases x <;> rfl

theorem Kept.step (guarded : Guarded key free enters c st) (guarded' : Guarded key free enters c' st')
    (refl : ∀ s, rely s s) (trans : ∀ s t u, rely s t → rely t u → rely s u)
    (quiet : ∀ op s, free op → rely s ((inner op).run s).2) (stable : ∀ n s t, I n s → rely s t → I n t)
    (stable' : ∀ n s t, W n s → rely s t → W n t)
    (entering : ∀ p, enters p → ∀ n s, I n s → Keeping inner rely W I n p s)
    (h : Kept inner rely W I c st) (move : Move inner free enters c c' st st') : Kept inner rely W I c' st' := by
  cases move with
  | aside state log holders holding young =>
    have moved : rely c.state.state c'.state.state := by
      rcases state with same | ⟨op, allowed, same⟩
      · rw [same]
        exact refl _
      · rw [same]
        exact quiet op _ allowed
    refine ⟨?_, ?_⟩
    · intro i t locked there
      obtain ⟨same, thread⟩ := holders i locked
      rw [thread] at there
      obtain ⟨n, bound, keeping⟩ := h.inside i t (by rwa [same]) there
      exact ⟨n, Nat.le_trans bound (mishaps_le log), keeping_moved trans stable stable' keeping moved⟩
    · intro none_
      obtain ⟨n, bound, rest⟩ := h.outside fun i locked => none_ i (by rwa [holding i locked])
      exact ⟨n, Nat.le_trans bound (mishaps_le log), stable n _ _ rest moved⟩
  | took i n t thread entered state log was now alone =>
    subst now
    refine ⟨?_, ?_⟩
    · intro j u locked there
      obtain ⟨k, bound, rest⟩ := h.outside alone
      have same : j = i := by
        by_contra other
        rw [Function.update_of_ne other] at locked
        exact alone j locked
      subst same
      rw [thread] at there
      cases there
      rw [state]
      exact ⟨k, Nat.le_trans bound (mishaps_le (Or.inr log)), entering t.prog entered k _ rest⟩
    · intro none_
      exact absurd ⟨n, Function.update_self i _ _⟩ (none_ i)
  | gave i n was now thread state log =>
    subst now
    obtain ⟨s, next, current⟩ := thread
    have rest : ∃ k ≤ mishaps c.log, I k c.state.state := by
      rcases current with there | there
      · obtain ⟨k, bound, keeping⟩ := h.inside i _ ⟨n, was⟩ there
        exact ⟨k, bound, keeping⟩
      · obtain ⟨k, bound, keeping⟩ := h.inside i _ ⟨n, was⟩ there
        exact ⟨k, bound, keeping⟩
    refine ⟨?_, ?_⟩
    · intro j t locked _
      exfalso
      by_cases same : j = i
      · subst same
        rw [Function.update_self] at locked
        obtain ⟨_, ⟨⟩⟩ := locked
      · rw [Function.update_of_ne same] at locked
        exact same (guarded.one locked ⟨n, was⟩)
    · intro _
      obtain ⟨k, bound, holds⟩ := rest
      rw [state]
      exact ⟨k, Nat.le_trans bound (mishaps_le (Or.inr log)), holds⟩
  | own i n s op next was now thread threads state log =>
    subst now
    refine ⟨?_, ?_⟩
    · intro j t locked there
      obtain rfl := guarded'.one locked ⟨n, was⟩
      rw [threads] at there
      cases there
      obtain ⟨k, bound, keeping⟩ := h.inside j _ ⟨n, was⟩ thread
      refine ⟨k + failures ((inner op).run c.state.state).1, ?_, ?_⟩
      · rw [log, mishaps_own]
        exact Nat.add_le_add_right bound _
      · rw [state]
        exact keeping.2 _ (refl _)
    · intro none_
      exact absurd ⟨n, was⟩ (none_ i)

/-- What every section keeps in spite of the others holds all along, where no
session was lost: `n` counts the operations under the lock that failed. -/
theorem sections_keep (refl : ∀ s, rely s s) (trans : ∀ s t u, rely s t → rely t u → rely s u)
    (quiet : ∀ op s, free op → rely s ((inner op).run s).2) (stable : ∀ n s t, I n s → rely s t → I n t)
    (stable' : ∀ n s t, W n s → rely s t → W n t) (rest : ∀ n s, I n s → W n s)
    (launches : ∀ w s p, launch w s = some p →
      Obeys key free (fun p => ∀ n s, I n s → Keeping inner rely W I n p s) .idle p)
    (others : ∀ op, outside op = true → free op) {s : σ} (init : I 0 s)
    (labels : List (Machine.Label (LeaseOp Op) Start))
    (up : (runs (machine broken inner launch outside).step (start s) labels).state.lost = []) :
    ∃ n ≤ mishaps (runs (machine broken inner launch outside).step (start s) labels).log,
      W n (runs (machine broken inner launch outside).step (start s) labels).state.state := by
  have kept : (runs (machine broken inner launch outside).step (start s) labels).state.lost = [] →
      ∃ st, Guarded key free (fun p => ∀ n s, I n s → Keeping inner rely W I n p s)
          (runs (machine broken inner launch outside).step (start s) labels) st ∧
        Kept inner rely W I (runs (machine broken inner launch outside).step (start s) labels) st := by
    refine runs_invariant (I := fun c : Machine.Config (LeaseRes Res ε) Empty (Leased σ) Start α =>
      c.state.lost = [] → ∃ st,
      Guarded key free (fun p => ∀ n s, I n s → Keeping inner rely W I n p s) c st ∧
        Kept inner rely W I c st) ?_ ?_ labels
    · intro c l before up
      obtain ⟨st, guarded, so_far⟩ := before (lost_before up)
      obtain ⟨st', guarded', move⟩ := step_moves launches others guarded l up
      exact ⟨st', guarded', so_far.step guarded guarded' refl trans quiet stable stable' (fun _ entered => entered) move⟩
    · refine fun _ => ⟨fun _ => .idle, start_guarded s, ?_, ?_⟩
      · rintro i t ⟨_, ⟨⟩⟩
      · exact fun _ => ⟨0, Nat.le_refl _, init⟩
  obtain ⟨st, guarded, kept⟩ := kept up
  by_cases held : ∃ i, (st i).Locked
  · obtain ⟨i, locked⟩ := held
    have there : i < (runs (machine broken inner launch outside).step (start s) labels).threads.length := by
      by_contra beyond
      rw [guarded.absent i (by omega)] at locked
      obtain ⟨_, ⟨⟩⟩ := locked
    obtain ⟨n, bound, keeping⟩ := kept.inside i _ locked (List.getElem?_eq_getElem there)
    exact ⟨n, bound, keeping_holds rest keeping⟩
  · obtain ⟨n, bound, holds⟩ := kept.outside fun i locked => held ⟨i, locked⟩
    exact ⟨n, bound, rest n _ holds⟩

end

end

end

end Leases

end VantGrowth.Lib
