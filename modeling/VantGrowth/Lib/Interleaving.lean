import VantGrowth.Lib.Runs
import VantGrowth.Lib.Prog

namespace VantGrowth.Lib
open Logs (split_snoc)

/-- Handlers that interleave at every operation on one shared state. -/
structure Machine {Op : Type} (Res : Op → Type) (ε σ Start α : Type) where
  exec : ∀ op, Store ε σ (Res op)
  /-- The handler a start launches, where the state admits that start. -/
  program : σ → Start → Option (Prog Res ε α)
  /-- What follows once the handler of a start has returned. -/
  acknowledge : Start → Option Op
  /-- The operations others perform at any time. -/
  outside : Op → Bool

namespace Machine

inductive Actor (Start : Type) where
  | worker (i : Nat) (s : Start)
  | settled (i : Nat) (s : Start)
  | outside

inductive Entry {Op : Type} (Res : Op → Type) (ε Start : Type) where
  | spawned (i : Nat) (s : Start)
  | did (actor : Actor Start) (op : Op) (result : Except ε (Res op))

structure Thread {Op : Type} (Res : Op → Type) (ε Start α : Type) where
  start : Start
  prog : Prog Res ε α

structure Config {Op : Type} (Res : Op → Type) (ε σ Start α : Type) where
  state : σ
  threads : List (Thread Res ε Start α)
  log : List (Entry Res ε Start)

/-- What the scheduler lets happen next. A worker that is never run again has
crashed. -/
inductive Label (Op Start : Type) where
  | run (i : Nat)
  | settle (i : Nat)
  | outside (op : Op)
  | spawn (s : Start)

variable {Op : Type} {Res : Op → Type} {ε σ Start α : Type}

section
variable (m : Machine Res ε σ Start α)

def initial (s : σ) : Config Res ε σ Start α := ⟨s, [], []⟩

def record (c : Config Res ε σ Start α) (actor : Actor Start) (op : Op) :
    Config Res ε σ Start α :=
  { c with
    state := ((m.exec op).run c.state).2
    log := c.log ++ [.did actor op ((m.exec op).run c.state).1] }

def resume (next : Res op → Prog Res ε α) : Except ε (Res op) → Prog Res ε α
  | .ok r => next r
  | .error e => .fail e

def step (c : Config Res ε σ Start α) : Label Op Start → Config Res ε σ Start α
  | .run i =>
    match c.threads[i]? with
    | some ⟨s, .call op next⟩ =>
      { record m c (.worker i s) op with
        threads := c.threads.set i ⟨s, resume next ((m.exec op).run c.state).1⟩ }
    | _ => c
  | .settle i =>
    match c.threads[i]? with
    | some ⟨s, .done _⟩ =>
      match m.acknowledge s with
      | some op => record m c (.settled i s) op
      | none => c
    | _ => c
  | .outside op => if m.outside op = true then record m c .outside op else c
  | .spawn s =>
    match m.program c.state s with
    | some p =>
      { c with
        threads := c.threads ++ [⟨s, p⟩], log := c.log ++ [.spawned c.threads.length s] }
    | none => c

def apply (s : σ) : Entry Res ε Start → σ
  | .spawned _ _ => s
  | .did _ op _ => ((m.exec op).run s).2

/-- The state a log leads to. -/
def replay (s : σ) (log : List (Entry Res ε Start)) : σ := runs m.apply s log

@[simp] theorem replay_nil (s : σ) : m.replay s [] = s := rfl

theorem replay_append (s : σ) (a b : List (Entry Res ε Start)) :
    m.replay s (a ++ b) = m.replay (m.replay s a) b :=
  runs_append _ _ _ _

@[simp] theorem replay_snoc (s : σ) (a : List (Entry Res ε Start)) (e : Entry Res ε Start) :
    m.replay s (a ++ [e]) = m.apply (m.replay s a) e := by
  rw [replay_append]
  rfl

end

/-- The answers worker `i` has got so far. -/
def history (i : Nat) (log : List (Entry Res ε Start)) : List (Did Res) :=
  log.filterMap fun e => match e with
    | .did (.worker j _) op (.ok r) => if j = i then some ⟨op, r⟩ else none
    | _ => none

theorem history_append (i : Nat) (a b : List (Entry Res ε Start)) :
    history i (a ++ b) = history i a ++ history i b :=
  List.filterMap_append

theorem mem_history {i : Nat} {log : List (Entry Res ε Start)} {d : Did Res}
    (h : d ∈ history i log) : ∃ s, .did (.worker i s) d.op (.ok d.answer) ∈ log := by
  obtain ⟨e, he, hd⟩ := List.mem_filterMap.mp h
  split at hd
  · rename_i j s op r
    split at hd
    · rename_i hj
      cases hd
      exact ⟨s, hj ▸ he⟩
    · cases hd
  · cases hd

theorem history_mem {i : Nat} {log : List (Entry Res ε Start)} {s : Start} {op : Op} {r : Res op}
    (h : .did (.worker i s) op (.ok r) ∈ log) : ⟨op, r⟩ ∈ history i log :=
  List.mem_filterMap.mpr ⟨_, h, if_pos rfl⟩

/-- Where in the log an answer of a worker's history was given. -/
theorem history_split {i : Nat} {log : List (Entry Res ε Start)} {h k : List (Did Res)}
    {d : Did Res} (split : history i log = h ++ d :: k) :
    ∃ a b s, log = a ++ .did (.worker i s) d.op (.ok d.answer) :: b ∧ history i a = h ∧
      history i b = k := by
  induction log generalizing h with
  | nil => simp [history] at split
  | cons e log ih =>
    have later : history i (e :: log) = history i log → ∃ a b s,
        e :: log = a ++ .did (.worker i s) d.op (.ok d.answer) :: b ∧ history i a = h ∧
          history i b = k := by
      intro silent
      obtain ⟨a, b, s, rfl, ha, hb⟩ := ih (silent ▸ split)
      have quiet : history i [e] = [] := by
        have parts := history_append i [e] (a ++ .did (.worker i s) d.op (.ok d.answer) :: b)
        rw [List.singleton_append, silent] at parts
        exact List.self_eq_append_left.mp parts
      refine ⟨e :: a, b, s, rfl, ?_, hb⟩
      have parts := history_append i [e] a
      rw [quiet, ha] at parts
      exact parts
    cases e with
    | spawned j s => exact later rfl
    | did actor op r =>
      cases actor with
      | settled j s => exact later rfl
      | outside => exact later rfl
      | worker j s =>
        cases r with
        | error e => exact later rfl
        | ok r =>
          by_cases hj : j = i
          · subst hj
            have first : history j (.did (.worker j s) op (.ok r) :: log) =
                ⟨op, r⟩ :: history j log := by
              simp [history]
            rw [first] at split
            cases h with
            | nil =>
              obtain ⟨rfl, rfl⟩ := List.cons.inj split
              exact ⟨[], log, s, rfl, rfl, rfl⟩
            | cons c h =>
              obtain ⟨rfl, rest⟩ := List.cons.inj split
              obtain ⟨a, b, t, rfl, ha, hb⟩ := ih rest
              refine ⟨.did (.worker j s) op (.ok r) :: a, b, t, rfl, ?_, hb⟩
              simpa [history] using ha
          · refine later ?_
            simp [history, hj]

section
variable (m : Machine Res ε σ Start α) (P : Start → List (Did Res) → Op → Prop)
  (Q : Start → List (Did Res) → α → Prop) (init : σ)

/-- A log the machine can produce from `init` when the handlers of a start `s`
perform only operations that meet `P s` and return only what meets `Q s`. -/
structure Valid (log : List (Entry Res ε Start)) : Prop where
  answered : ∀ a b actor op r, log = a ++ .did actor op r :: b →
    r = ((m.exec op).run (m.replay init a)).1
  spawned : ∀ a b i s, log = a ++ .spawned i s :: b → m.program (m.replay init a) s ≠ none
  worked : ∀ a b i s op r, log = a ++ .did (.worker i s) op r :: b →
    .spawned i s ∈ a ∧ P s (history i a) op
  settled : ∀ a b i s op r, log = a ++ .did (.settled i s) op r :: b →
    .spawned i s ∈ a ∧ m.acknowledge s = some op ∧ ∃ v, Q s (history i a) v
  outside : ∀ a b op r, log = a ++ .did .outside op r :: b → m.outside op = true
  once : ∀ i s t, .spawned i s ∈ log → .spawned i t ∈ log → s = t

variable {m P Q init}

theorem Valid.init_ {a b : List (Entry Res ε Start)} (h : Valid m P Q init (a ++ b)) :
    Valid m P Q init a := by
  have longer : ∀ x y (e : Entry Res ε Start), a = x ++ e :: y → a ++ b = x ++ e :: (y ++ b) := by
    rintro x y e rfl
    simp
  refine ⟨?_, ?_, ?_, ?_, ?_, ?_⟩
  · exact fun x y actor op r hl => h.answered x _ actor op r (longer x y _ hl)
  · exact fun x y i s hl => h.spawned x _ i s (longer x y _ hl)
  · exact fun x y i s op r hl => h.worked x _ i s op r (longer x y _ hl)
  · exact fun x y i s op r hl => h.settled x _ i s op r (longer x y _ hl)
  · exact fun x y op r hl => h.outside x _ op r (longer x y _ hl)
  · exact fun i s t hs ht => h.once i s t (List.mem_append_left _ hs) (List.mem_append_left _ ht)

/-- Where a worker of a valid log got one of its answers. -/
theorem Valid.answer_at {log : List (Entry Res ε Start)} (h : Valid m P Q init log) {i : Nat}
    {s : Start} (spawned : .spawned i s ∈ log) {before later : List (Did Res)} {op : Op}
    {r : Res op} (split : history i log = before ++ ⟨op, r⟩ :: later) :
    ∃ a b, log = a ++ .did (.worker i s) op (.ok r) :: b ∧ history i a = before ∧
      history i b = later ∧ .spawned i s ∈ a := by
  obtain ⟨a, b, t, rfl, ha, hb⟩ := history_split split
  obtain ⟨started, _⟩ := h.worked a b i t op (.ok r) rfl
  have same : t = s := h.once i t s (List.mem_append_left _ started) spawned
  subst same
  exact ⟨a, b, rfl, ha, hb, started⟩

/-- What holds of the empty log and is kept by each further entry holds of
every log. -/
theorem Valid.rec_ {J : List (Entry Res ε Start) → Prop} (nil : J [])
    (snoc : ∀ a e, Valid m P Q init (a ++ [e]) → J a → J (a ++ [e]))
    {log : List (Entry Res ε Start)} (h : Valid m P Q init log) : J log := by
  induction log using List.reverseRecOn with
  | nil => exact nil
  | append_singleton a e ih => exact snoc a e h (ih h.init_)

/-- A state invariant of every operation holds wherever a log leads. -/
theorem replay_invariant {I : σ → Prop} (keep : ∀ s op, I s → I ((m.exec op).run s).2)
    {s : σ} (h : I s) (log : List (Entry Res ε Start)) : I (m.replay s log) := by
  refine runs_invariant ?_ h log
  intro s e hs
  cases e with
  | spawned i t => exact hs
  | did actor op r => exact keep s op hs

/-- What relates the state before every operation to the state after it
relates the ends of every log. -/
theorem replay_related {I : σ → Prop} {R : σ → σ → Prop} (refl : ∀ s, R s s)
    (trans : ∀ s t u, R s t → R t u → R s u) (keep : ∀ s op, I s → I ((m.exec op).run s).2)
    (step : ∀ s op, I s → R s ((m.exec op).run s).2) {s : σ} (h : I s)
    (log : List (Entry Res ε Start)) : R s (m.replay s log) := by
  refine runs_related (I := I) refl trans ?_ ?_ h log
  · intro s e hs
    cases e with
    | spawned i t => exact hs
    | did actor op r => exact keep s op hs
  · intro s e hs
    cases e with
    | spawned i t => exact refl s
    | did actor op r => exact step s op hs

/-- The threads go with the log: each was spawned there and what is left of it
still meets its specification. -/
structure Coherent (m : Machine Res ε σ Start α) (P : Start → List (Did Res) → Op → Prop)
    (Q : Start → List (Did Res) → α → Prop) (init : σ) (c : Config Res ε σ Start α) :
    Prop where
  valid : Valid m P Q init c.log
  state : c.state = m.replay init c.log
  threads : ∀ i t, c.threads[i]? = some t →
    .spawned i t.start ∈ c.log ∧ Prog.Meets (P t.start) (Q t.start) (history i c.log) t.prog
  spawns : ∀ i s, .spawned i s ∈ c.log → ∃ t, c.threads[i]? = some t ∧ t.start = s

/-- One more operation is allowed to an actor. -/
def Allowed (m : Machine Res ε σ Start α) (P : Start → List (Did Res) → Op → Prop)
    (Q : Start → List (Did Res) → α → Prop) (log : List (Entry Res ε Start)) (op : Op) :
    Actor Start → Prop
  | .worker i s => .spawned i s ∈ log ∧ P s (history i log) op
  | .settled i s => .spawned i s ∈ log ∧ m.acknowledge s = some op ∧ ∃ v, Q s (history i log) v
  | .outside => m.outside op = true

theorem Valid.did {log : List (Entry Res ε Start)} (h : Valid m P Q init log)
    {actor : Actor Start} {op : Op} (allowed : Allowed m P Q log op actor) :
    Valid m P Q init
      (log ++ [.did actor op ((m.exec op).run (m.replay init log)).1]) := by
  refine ⟨?_, ?_, ?_, ?_, ?_, ?_⟩
  · intro a b actor' op' r hl
    rcases split_snoc hl with ⟨rfl, he⟩ | ⟨c, hc⟩
    · cases he
      rfl
    · exact h.answered a c actor' op' r hc
  · intro a b i s hl
    rcases split_snoc hl with ⟨_, he⟩ | ⟨c, hc⟩
    · cases he
    · exact h.spawned a c i s hc
  · intro a b i s op' r hl
    rcases split_snoc hl with ⟨rfl, he⟩ | ⟨c, hc⟩
    · cases he
      exact allowed
    · exact h.worked a c i s op' r hc
  · intro a b i s op' r hl
    rcases split_snoc hl with ⟨rfl, he⟩ | ⟨c, hc⟩
    · cases he
      exact allowed
    · exact h.settled a c i s op' r hc
  · intro a b op' r hl
    rcases split_snoc hl with ⟨rfl, he⟩ | ⟨c, hc⟩
    · cases he
      exact allowed
    · exact h.outside a c op' r hc
  · intro i s t hs ht
    simp only [List.mem_append, List.mem_singleton, reduceCtorEq, or_false] at hs ht
    exact h.once i s t hs ht

theorem Valid.spawn {log : List (Entry Res ε Start)} (h : Valid m P Q init log) {i : Nat}
    {s : Start} (fresh : ∀ t, .spawned i t ∉ log)
    (admitted : m.program (m.replay init log) s ≠ none) :
    Valid m P Q init (log ++ [.spawned i s]) := by
  refine ⟨?_, ?_, ?_, ?_, ?_, ?_⟩
  · intro a b actor op r hl
    rcases split_snoc hl with ⟨_, he⟩ | ⟨c, hc⟩
    · cases he
    · exact h.answered a c actor op r hc
  · intro a b j t hl
    rcases split_snoc hl with ⟨rfl, he⟩ | ⟨c, hc⟩
    · cases he
      exact admitted
    · exact h.spawned a c j t hc
  · intro a b j t op r hl
    rcases split_snoc hl with ⟨_, he⟩ | ⟨c, hc⟩
    · cases he
    · exact h.worked a c j t op r hc
  · intro a b j t op r hl
    rcases split_snoc hl with ⟨_, he⟩ | ⟨c, hc⟩
    · cases he
    · exact h.settled a c j t op r hc
  · intro a b op r hl
    rcases split_snoc hl with ⟨_, he⟩ | ⟨c, hc⟩
    · cases he
    · exact h.outside a c op r hc
  · intro j t u ht hu
    simp only [List.mem_append, List.mem_singleton, Entry.spawned.injEq] at ht hu
    rcases ht with ht | ⟨rfl, rfl⟩
    · rcases hu with hu | ⟨rfl, rfl⟩
      · exact h.once j t u ht hu
      · exact absurd ht (fresh t)
    · rcases hu with hu | ⟨_, rfl⟩
      · exact absurd hu (fresh u)
      · rfl

/-- An operation by an actor that is no worker leaves every thread as it is. -/
theorem Coherent.record {c : Config Res ε σ Start α} (h : Coherent m P Q init c)
    {actor : Actor Start} {op : Op} (allowed : Allowed m P Q c.log op actor)
    (idle : ∀ i s, actor ≠ .worker i s) : Coherent m P Q init (m.record c actor op) := by
  have quiet : ∀ i, history i (m.record c actor op).log = history i c.log := by
    intro i
    cases actor with
    | worker j s => exact absurd rfl (idle j s)
    | settled j s => simp [Machine.record, history]
    | outside => simp [Machine.record, history]
  refine ⟨?_, ?_, ?_, ?_⟩
  · simp only [Machine.record, h.state]
    exact h.valid.did allowed
  · simp only [Machine.record, h.state, replay_snoc]
    rfl
  · intro i t ht
    obtain ⟨spawned, meets⟩ := h.threads i t ht
    rw [quiet]
    exact ⟨List.mem_append_left _ spawned, meets⟩
  · intro i s hs
    simp only [Machine.record, List.mem_append, List.mem_singleton, reduceCtorEq, or_false] at hs
    exact h.spawns i s hs

theorem Coherent.run {c : Config Res ε σ Start α} (h : Coherent m P Q init c) {i : Nat}
    {s : Start} {op : Op} {next : Res op → Prog Res ε α}
    (current : c.threads[i]? = some ⟨s, .call op next⟩) :
    Coherent m P Q init { m.record c (.worker i s) op with
      threads := c.threads.set i ⟨s, resume next ((m.exec op).run c.state).1⟩ } := by
  obtain ⟨spawned, now, after⟩ := h.threads i _ current
  have bound := (List.getElem?_eq_some_iff.mp current).1
  refine ⟨?_, ?_, ?_, ?_⟩
  · simp only [Machine.record, h.state]
    exact h.valid.did ⟨spawned, now⟩
  · simp only [Machine.record, h.state, replay_snoc]
    rfl
  · intro j t ht
    by_cases hj : j = i
    · subst hj
      simp only [List.getElem?_set_self bound, Option.some.injEq] at ht
      subst ht
      refine ⟨List.mem_append_left _ spawned, ?_⟩
      cases hr : ((m.exec op).run c.state).1 with
      | error e => simp only [resume]; trivial
      | ok r =>
        have grown : history j (m.record c (.worker j s) op).log =
            history j c.log ++ [⟨op, r⟩] := by
          simp [Machine.record, history, hr]
        rw [grown]
        exact after r
    · rw [List.getElem?_set_ne (Ne.symm hj)] at ht
      obtain ⟨other, meets⟩ := h.threads j t ht
      have quiet : history j (m.record c (.worker i s) op).log = history j c.log := by
        cases hr : ((m.exec op).run c.state).1 with
        | error e => simp [Machine.record, history, hr]
        | ok r => simp [Machine.record, history, hr, Ne.symm hj]
      rw [quiet]
      exact ⟨List.mem_append_left _ other, meets⟩
  · intro j t ht
    simp only [Machine.record, List.mem_append, List.mem_singleton, reduceCtorEq, or_false] at ht
    obtain ⟨u, hu, hs⟩ := h.spawns j t ht
    by_cases hj : j = i
    · subst hj
      rw [current] at hu
      cases hu
      exact ⟨_, List.getElem?_set_self bound, hs⟩
    · exact ⟨u, by rw [List.getElem?_set_ne (Ne.symm hj), hu], hs⟩

theorem Coherent.spawn {c : Config Res ε σ Start α} (h : Coherent m P Q init c) {s : Start}
    {p : Prog Res ε α} (admitted : m.program c.state s = some p)
    (meets : Prog.Meets (P s) (Q s) [] p) :
    Coherent m P Q init { c with
      threads := c.threads ++ [⟨s, p⟩], log := c.log ++ [.spawned c.threads.length s] } := by
  have fresh : ∀ t, .spawned c.threads.length t ∉ c.log := by
    intro t ht
    obtain ⟨u, hu, _⟩ := h.spawns _ t ht
    simp at hu
  have silent : history c.threads.length c.log = [] := by
    refine List.filterMap_eq_nil_iff.mpr fun e he => ?_
    cases e with
    | spawned => rfl
    | did actor op r =>
      obtain ⟨a, b, hl⟩ := List.append_of_mem he
      cases actor with
      | settled => rfl
      | outside => rfl
      | worker j t =>
        have hj : j ≠ c.threads.length := by
          rintro rfl
          obtain ⟨spawned, _⟩ := h.valid.worked a b _ t op r hl
          exact fresh t (hl ▸ List.mem_append_left _ spawned)
        cases r with
        | error => rfl
        | ok r => simp [hj]
  have quiet : ∀ i, history i (c.log ++ [.spawned c.threads.length s]) = history i c.log := by
    intro i
    simp [history]
  refine ⟨?_, ?_, ?_, ?_⟩
  · refine h.valid.spawn fresh ?_
    rw [← h.state, admitted]
    simp
  · rw [replay_snoc, ← h.state]
    rfl
  · intro i t ht
    rw [quiet]
    by_cases hi : i < c.threads.length
    · rw [List.getElem?_append_left hi] at ht
      obtain ⟨spawned, hm⟩ := h.threads i t ht
      exact ⟨List.mem_append_left _ spawned, hm⟩
    · rw [List.getElem?_append_right (Nat.le_of_not_lt hi)] at ht
      cases hk : i - c.threads.length with
      | succ k => simp [hk] at ht
      | zero =>
        have hlen : i = c.threads.length := by omega
        simp only [hk, List.getElem?_cons_zero, Option.some.injEq] at ht
        subst ht
        rw [hlen, silent]
        exact ⟨by simp, meets⟩
  · intro i t ht
    rcases List.mem_append.mp ht with ht | ht
    · obtain ⟨u, hu, hs⟩ := h.spawns i t ht
      exact ⟨u, by rw [List.getElem?_append_left (List.getElem?_eq_some_iff.mp hu).1, hu], hs⟩
    · cases List.mem_singleton.mp ht
      exact ⟨⟨s, p⟩, by simp, rfl⟩

theorem Coherent.step (specified : ∀ w s p, m.program w s = some p →
    Prog.Meets (P s) (Q s) [] p) {c : Config Res ε σ Start α} (h : Coherent m P Q init c)
    (l : Label Op Start) : Coherent m P Q init (m.step c l) := by
  cases l with
  | run i =>
    simp only [Machine.step]
    split
    · exact h.run ‹_›
    · exact h
  | settle i =>
    simp only [Machine.step]
    split
    · rename_i s a current
      obtain ⟨spawned, result⟩ := h.threads i _ current
      split
      · exact h.record ⟨spawned, ‹_›, a, result⟩ (by simp)
      · exact h
    · exact h
  | outside op =>
    simp only [Machine.step]
    split
    · exact h.record ‹_› (by simp)
    · exact h
  | spawn s =>
    simp only [Machine.step]
    split
    · exact h.spawn ‹_› (specified _ s _ ‹_›)
    · exact h

/-- Handlers that meet their specifications produce only valid logs, whatever
the schedule, and the log accounts for the state. -/
theorem runs_valid (specified : ∀ w s p, m.program w s = some p →
    Prog.Meets (P s) (Q s) [] p) (labels : List (Label Op Start)) :
    Valid m P Q init (runs m.step (initial init) labels).log ∧
    (runs m.step (initial init) labels).state =
      m.replay init (runs m.step (initial init) labels).log := by
  have start : Coherent m P Q init (initial init : Config Res ε σ Start α) := by
    refine ⟨⟨?_, ?_, ?_, ?_, ?_, ?_⟩, rfl, ?_, ?_⟩ <;> simp [initial]
  have coherent := runs_invariant (fun _ l h => h.step specified l) start labels
  exact ⟨coherent.valid, coherent.state⟩

/-- One step of a worker that is alone. -/
theorem run_alone (c : σ) (s : Start) (op : Op) (next : Res op → Prog Res ε α)
    (log : List (Entry Res ε Start)) :
    m.step ⟨c, [⟨s, .call op next⟩], log⟩ (.run 0) =
      ⟨((m.exec op).run c).2, [⟨s, resume next ((m.exec op).run c).1⟩],
        log ++ [.did (.worker 0 s) op ((m.exec op).run c).1]⟩ := rfl

/-- The second entry is no operation of a worker to which the first was an
error. -/
def SilentAfter (e f : Entry Res ε Start) : Prop :=
  ∀ i s op x t op' r, e = .did (.worker i s) op (.error x) → f ≠ .did (.worker i t) op' r

/-- A worker that got an error has failed and does nothing more. -/
structure Halted (c : Config Res ε σ Start α) : Prop where
  fell : ∀ i s op x, .did (.worker i s) op (.error x) ∈ c.log →
    ∃ t f, c.threads[i]? = some ⟨t, .fail f⟩
  silent : c.log.Pairwise SilentAfter

theorem Halted.grow {c d : Config Res ε σ Start α} (h : Halted c) {e : Entry Res ε Start}
    (log : d.log = c.log ++ [e])
    (stay : ∀ i t f, c.threads[i]? = some ⟨t, .fail f⟩ →
      d.threads[i]? = some ⟨t, .fail f⟩ ∧ ∀ t' op r, e ≠ .did (.worker i t') op r)
    (fell : ∀ i s op x, e = .did (.worker i s) op (.error x) →
      ∃ t f, d.threads[i]? = some ⟨t, .fail f⟩) : Halted d := by
  refine ⟨?_, ?_⟩
  · intro i s op x member
    rw [log] at member
    rcases List.mem_append.mp member with before | now
    · obtain ⟨t, f, failed⟩ := h.fell i s op x before
      exact ⟨t, f, (stay i t f failed).1⟩
    · exact fell i s op x (List.mem_singleton.mp now).symm
  · rw [log]
    refine List.pairwise_append.mpr ⟨h.silent, List.pairwise_singleton _ _, ?_⟩
    intro e' before e'' now i s op x t op' r error
    obtain ⟨u, f, failed⟩ := h.fell i s op x (error ▸ before)
    rw [List.mem_singleton.mp now]
    exact (stay i u f failed).2 t op' r

theorem Halted.step {c : Config Res ε σ Start α} (h : Halted c) (l : Label Op Start) :
    Halted (m.step c l) := by
  cases l with
  | run i =>
    simp only [Machine.step]
    split
    · rename_i s op next current
      have bound := (List.getElem?_eq_some_iff.mp current).1
      refine h.grow rfl ?_ ?_
      · intro j t f failed
        have other : j ≠ i := by
          rintro rfl
          rw [current] at failed
          cases failed
        refine ⟨by rw [List.getElem?_set_ne (Ne.symm other), failed], ?_⟩
        rintro t' op' r he
        cases he
        exact other rfl
      · intro j t op' x he
        injection he with actor opEq result
        cases actor
        cases opEq
        refine ⟨s, x, ?_⟩
        rw [List.getElem?_set_self bound, eq_of_heq result]
        rfl
    · exact h
  | settle i =>
    simp only [Machine.step]
    split
    · split
      · exact h.grow rfl (fun _ _ _ failed => ⟨failed, by simp⟩) (by simp)
      · exact h
    · exact h
  | outside op =>
    simp only [Machine.step]
    split
    · exact h.grow rfl (fun _ _ _ failed => ⟨failed, by simp⟩) (by simp)
    · exact h
  | spawn s =>
    simp only [Machine.step]
    split
    · refine h.grow rfl (fun j t f failed => ⟨?_, by simp⟩) (by simp)
      rw [List.getElem?_append_left (List.getElem?_eq_some_iff.mp failed).1, failed]
    · exact h

/-- In a log of the machine a worker does nothing after an error. -/
theorem errors_last (init : σ) (labels : List (Label Op Start)) :
    (runs m.step (initial init) labels).log.Pairwise SilentAfter := by
  have start : Halted (initial init : Config Res ε σ Start α) := by
    refine ⟨?_, ?_⟩ <;> simp [initial]
  have halted : Halted (runs m.step (initial init) labels) :=
    runs_invariant (fun _ l h => h.step l) start labels
  exact halted.silent

/-- A handler was launched because the schedule launched it. -/
theorem spawned_labelled {labels : List (Label Op Start)} {c : Config Res ε σ Start α} {i : Nat}
    {s : Start} (spawned : .spawned i s ∈ (runs m.step c labels).log) :
    .spawned i s ∈ c.log ∨ .spawn s ∈ labels := by
  induction labels generalizing c with
  | nil => exact Or.inl spawned
  | cons l labels ih =>
    rcases ih spawned with before | later
    · cases l with
      | spawn t =>
        simp only [Machine.step] at before
        split at before
        · rcases List.mem_append.mp before with before | now
          · exact Or.inl before
          · cases List.mem_singleton.mp now
            exact Or.inr List.mem_cons_self
        · exact Or.inl before
      | run j =>
        simp only [Machine.step] at before
        split at before
        · exact Or.inl (by simpa [Machine.record] using before)
        · exact Or.inl before
      | settle j =>
        simp only [Machine.step] at before
        split at before
        · split at before
          · exact Or.inl (by simpa [Machine.record] using before)
          · exact Or.inl before
        · exact Or.inl before
      | outside op =>
        simp only [Machine.step] at before
        split at before
        · exact Or.inl (by simpa [Machine.record] using before)
        · exact Or.inl before
    · exact Or.inr (List.mem_cons_of_mem l later)

end

end Machine

end VantGrowth.Lib
