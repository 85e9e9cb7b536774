import VantGrowth.Lib.InsertionMap
import VantGrowth.Lib.Prog
import VantGrowth.Lib.Runs

/-! Transactions over a table with row locks, at the isolation that lets every
statement see what was committed before it. What a transaction writes is its own
until it commits, and a row is written only by the one that holds it. -/

namespace VantGrowth.Lib.RowLocks
open Logs (split_snoc)

/-- The points at which a statement meets other transactions. -/
inductive RowOp (κ ρ : Type) where
  /-- A statement begins on the rows it sees. -/
  | rows
  /-- A row that another holds is passed over. -/
  | tryLock (k : κ)
  /-- Waits for as long as another holds the row. -/
  | lock (k : κ)
  | write (k : κ) (row : ρ)

abbrev RowRes {κ ρ : Type} : RowOp κ ρ → Type
  | .rows => InsertionMap κ ρ
  | .tryLock _ | .lock _ => Option ρ
  | .write _ _ => Unit

/-- What a transaction did so far. -/
abbrev History (κ ρ : Type) := List (Did (RowRes (κ := κ) (ρ := ρ)))

/-- A transaction, with nothing left once it has ended. -/
structure Session (κ ρ ε Start α : Type) where
  start : Start
  history : History κ ρ
  left : Option (Prog (RowRes (κ := κ) (ρ := ρ)) ε α)

inductive Entry (κ ρ Start α : Type) where
  | inserted (k : κ) (row : ρ)
  | committed (s : Start) (history : History κ ρ) (a : α)

structure Config (κ ρ ε Start α : Type) where
  rows : InsertionMap κ ρ
  sessions : List (Session κ ρ ε Start α)
  log : List (Entry κ ρ Start α)

inductive Label (Start New : Type) where
  | begin (s : Start)
  | run (i : Nat)
  | commit (i : Nat)
  | abort (i : Nat)
  | insert (x : New)

/-- What is run on a table: the transaction of a start, and the row that a request
for a new one inserts, where there are such. -/
structure Database (κ ρ ε Start New α : Type) where
  program : Start → Option (Prog (RowRes (κ := κ) (ρ := ρ)) ε α)
  insertion : InsertionMap κ ρ → New → Option (κ × ρ)

variable {κ ρ ε Start New α : Type}

/-- The row a step wrote. -/
def writing : Did (RowRes (κ := κ) (ρ := ρ)) → Option (κ × ρ)
  | ⟨.write k row, _⟩ => some (k, row)
  | _ => none

/-- The row a step locked, as it was then. -/
def locking : Did (RowRes (κ := κ) (ρ := ρ)) → Option (κ × ρ)
  | ⟨.tryLock k, row⟩ => row.map fun r => (k, r)
  | ⟨.lock k, row⟩ => row.map fun r => (k, r)
  | _ => none

def Wrote (h : History κ ρ) (k : κ) (row : ρ) : Prop := (k, row) ∈ h.filterMap writing

def Locked (h : History κ ρ) (k : κ) (row : ρ) : Prop := (k, row) ∈ h.filterMap locking

section
variable [DecidableEq κ]

def holds (h : History κ ρ) (k : κ) : Bool := (h.filterMap locking).any (·.1 == k)

/-- The rows as a transaction sees them, with its own versions. -/
def overlay (h : History κ ρ) (rows : InsertionMap κ ρ) : InsertionMap κ ρ :=
  (h.filterMap writing).foldl (fun rows w => rows.set w.1 w.2) rows

namespace Config

/-- A transaction other than `i` that has not ended holds the row. -/
def taken (c : Config κ ρ ε Start α) (i : Nat) (k : κ) : Bool :=
  c.sessions.zipIdx.any fun (s, j) => j != i && s.left.isSome && holds s.history k

/-- The answer to a step, where it need not wait. -/
def answer (c : Config κ ρ ε Start α) (i : Nat) (h : History κ ρ) : ∀ op : RowOp κ ρ, Option (RowRes op)
  | .rows => some (overlay h c.rows)
  | .tryLock k => some (if c.taken i k then none else (overlay h c.rows).get k)
  | .lock k => if c.taken i k then none else some ((overlay h c.rows).get k)
  | .write _ _ => some ()

end Config

namespace Database
variable (d : Database κ ρ ε Start New α)

def initial : Config κ ρ ε Start α := ⟨.empty, [], []⟩

def step (c : Config κ ρ ε Start α) : Label Start New → Config κ ρ ε Start α
  | .begin s =>
    match d.program s with
    | some p => { c with sessions := c.sessions ++ [⟨s, [], some p⟩] }
    | none => c
  | .run i =>
    match c.sessions[i]? with
    | some ⟨s, h, some (.call op next)⟩ =>
      match c.answer i h op with
      | some r => { c with sessions := c.sessions.set i ⟨s, h ++ [⟨op, r⟩], some (next r)⟩ }
      | none => c
    | _ => c
  | .commit i =>
    match c.sessions[i]? with
    | some ⟨s, h, some (.done a)⟩ =>
      ⟨overlay h c.rows, c.sessions.set i ⟨s, h, none⟩, c.log ++ [.committed s h a]⟩
    | _ => c
  | .abort i =>
    match c.sessions[i]? with
    | some ⟨s, h, _⟩ => { c with sessions := c.sessions.set i ⟨s, h, none⟩ }
    | none => c
  | .insert x =>
    match d.insertion c.rows x with
    | some (k, row) =>
      if (c.rows.get k).isNone then { c with rows := c.rows.set k row, log := c.log ++ [.inserted k row] }
      else c
    | none => c

end Database

def apply (rows : InsertionMap κ ρ) : Entry κ ρ Start α → InsertionMap κ ρ
  | .inserted k row => rows.set k row
  | .committed _ h _ => overlay h rows

/-- The rows a log of commits leads to, one taking effect after another. -/
def replay (log : List (Entry κ ρ Start α)) : InsertionMap κ ρ := runs apply .empty log

theorem replay_snoc (log : List (Entry κ ρ Start α)) (e : Entry κ ρ Start α) :
    replay (log ++ [e]) = apply (replay log) e := by
  unfold replay
  rw [runs_append]
  rfl

end

section
variable {h : History κ ρ} {k : κ} {row : ρ}

theorem locked_mono {g : History κ ρ} (locked : Locked h k row) : Locked (h ++ g) k row := by
  unfold Locked
  rw [List.filterMap_append]
  exact List.mem_append_left _ locked

theorem locked_snoc {d : Did (RowRes (κ := κ) (ρ := ρ))} :
    Locked (h ++ [d]) k row ↔ Locked h k row ∨ locking d = some (k, row) := by
  simp [Locked, List.filterMap_append, List.filterMap_cons]
  cases locking d <;> simp [eq_comm]

theorem wrote_snoc {d : Did (RowRes (κ := κ) (ρ := ρ))} :
    Wrote (h ++ [d]) k row ↔ Wrote h k row ∨ writing d = some (k, row) := by
  simp [Wrote, List.filterMap_append, List.filterMap_cons]
  cases writing d <;> simp [eq_comm]

variable [DecidableEq κ]

theorem foldl_unwritten {ws : List (κ × ρ)} (quiet : ∀ w ∈ ws, w.1 ≠ k) (rows : InsertionMap κ ρ) :
    (ws.foldl (fun rows w => rows.set w.1 w.2) rows).get k = rows.get k := by
  induction ws generalizing rows with
  | nil => rfl
  | cons w ws ih =>
    have here := quiet w List.mem_cons_self
    rw [List.foldl_cons, ih fun v later => quiet v (List.mem_cons_of_mem _ later),
      InsertionMap.get_set_other _ (Ne.symm here)]

theorem foldl_written {ws : List (κ × ρ)} (wrote : (k, row) ∈ ws) (once : ∀ w ∈ ws, w.1 = k → w.2 = row)
    (rows : InsertionMap κ ρ) : (ws.foldl (fun rows w => rows.set w.1 w.2) rows).get k = some row := by
  induction ws generalizing rows with
  | nil => cases wrote
  | cons w ws ih =>
    rw [List.foldl_cons]
    by_cases later : ∃ v ∈ ws, v.1 = k
    · obtain ⟨v, there, same⟩ := later
      have value := once v (List.mem_cons_of_mem _ there) same
      refine ih ?_ (fun u member => once u (List.mem_cons_of_mem _ member)) _
      rw [← same, ← value]
      exact there
    · have first : (k, row) = w := by
        rcases List.mem_cons.mp wrote with here | after
        · exact here
        · exact absurd ⟨_, after, rfl⟩ later
      rw [foldl_unwritten fun v there same => later ⟨v, there, same⟩, ← first, InsertionMap.get_set_self]

theorem overlay_unwritten (quiet : ∀ row, ¬ Wrote h k row) (rows : InsertionMap κ ρ) :
    (overlay h rows).get k = rows.get k := by
  refine foldl_unwritten (fun w there same => ?_) rows
  subst same
  exact quiet w.2 there

theorem overlay_written (wrote : Wrote h k row) (once : ∀ other, Wrote h k other → other = row)
    (rows : InsertionMap κ ρ) : (overlay h rows).get k = some row := by
  refine foldl_written wrote (fun w there same => ?_) rows
  subst same
  exact once w.2 there

theorem holds_iff : holds h k = true ↔ ∃ row, Locked h k row := by
  simp only [holds, Locked, List.any_eq_true, beq_iff_eq]
  constructor
  · rintro ⟨l, there, rfl⟩
    exact ⟨l.2, there⟩
  · rintro ⟨row, there⟩
    exact ⟨_, there, rfl⟩

end

/-- A row is locked before it is written, and left alone after that. -/
def Careful (h : History κ ρ) : RowOp κ ρ → Prop
  | .rows => True
  | .tryLock k | .lock k => ∀ row, ¬ Wrote h k row
  | .write k _ => (∃ row, Locked h k row) ∧ ∀ row, ¬ Wrote h k row

/-- Each step met what it had to at what had been done by then. -/
def Each (P : History κ ρ → RowOp κ ρ → Prop) (h : History κ ρ) : Prop :=
  ∀ before d after, h = before ++ d :: after → P before d.op

section
variable {P : History κ ρ → RowOp κ ρ → Prop} {h : History κ ρ}

theorem Each.nil : Each P [] := by
  intro before d after split
  simp at split

theorem Each.init {d : Did RowRes} (each : Each P (h ++ [d])) : Each P h := by
  intro before e after split
  exact each before e (after ++ [d]) (by simp [split])

theorem Each.snoc (each : Each P h) {d : Did RowRes} (now : P h d.op) : Each P (h ++ [d]) := by
  intro before e after split
  rcases split_snoc split with ⟨rfl, rfl⟩ | ⟨rest, earlier⟩
  · exact now
  · exact each before e rest earlier

variable (careful : ∀ h op, P h op → Careful h op)
include careful

theorem Each.locked (each : Each P h) {k : κ} {row : ρ} (wrote : Wrote h k row) : ∃ found, Locked h k found := by
  induction h using List.reverseRecOn with
  | nil => cases wrote
  | append_singleton h d ih =>
    rcases wrote_snoc.mp wrote with before | now
    · obtain ⟨found, locked⟩ := ih each.init before
      exact ⟨found, locked_mono locked⟩
    · obtain ⟨op, answer⟩ := d
      cases op with
      | write j version =>
        obtain ⟨rfl, rfl⟩ := Option.some.inj now
        obtain ⟨found, locked⟩ := (careful _ _ (each h _ [] rfl)).1
        exact ⟨found, locked_mono locked⟩
      | rows => cases now
      | tryLock j => cases now
      | lock j => cases now

theorem Each.once (each : Each P h) {k : κ} {row other : ρ} (first : Wrote h k row) (second : Wrote h k other) :
    other = row := by
  induction h using List.reverseRecOn with
  | nil => cases first
  | append_singleton h d ih =>
    have fresh : ∀ v, writing d = some (k, v) → ∀ row, ¬ Wrote h k row := by
      intro v now
      obtain ⟨op, answer⟩ := d
      cases op with
      | write j version =>
        obtain ⟨rfl, rfl⟩ := Option.some.inj now
        exact (careful _ _ (each h _ [] rfl)).2
      | rows => cases now
      | tryLock j => cases now
      | lock j => cases now
    rcases wrote_snoc.mp first with before | now
    · rcases wrote_snoc.mp second with earlier | late
      · exact ih each.init before earlier
      · exact absurd before (fresh _ late _)
    · rcases wrote_snoc.mp second with earlier | late
      · exact absurd earlier (fresh _ now _)
      · rw [now] at late
        cases late
        rfl

end

section
variable [DecidableEq κ] (d : Database κ ρ ε Start New α) (P : Start → History κ ρ → RowOp κ ρ → Prop)
  (Q : Start → History κ ρ → α → Prop)

/-- A transaction that goes on: what it locked is still as it was. -/
structure Going (rows : InsertionMap κ ρ) (s : Start) (h : History κ ρ)
    (p : Prog (RowRes (κ := κ) (ρ := ρ)) ε α) : Prop where
  meets : Prog.Meets (P s) (Q s) h p
  each : Each (P s) h
  current : ∀ k row, Locked h k row → rows.get k = some row

/-- A log in which every commit is one step: what a transaction locked is what
it finds when it commits, and it wrote no other rows. -/
structure Serial (log : List (Entry κ ρ Start α)) : Prop where
  inserted : ∀ a k row b, log = a ++ .inserted k row :: b →
    (replay a).get k = none ∧ ∃ x, d.insertion (replay a) x = some (k, row)
  committed : ∀ a s h x b, log = a ++ .committed s h x :: b →
    Q s h x ∧ Each (P s) h ∧ ∀ k row, Locked h k row → (replay a).get k = some row

/-- What transaction `i` did so far and has still to do. -/
def Config.Open (c : Config κ ρ ε Start α) (i : Nat) (s : Start) (h : History κ ρ)
    (p : Prog (RowRes (κ := κ) (ρ := ρ)) ε α) : Prop := c.sessions[i]? = some ⟨s, h, some p⟩

structure Kept (c : Config κ ρ ε Start α) : Prop where
  going : ∀ i s h p, c.Open i s h p → Going P Q c.rows s h p
  apart : ∀ i j s h p t g q, i ≠ j → c.Open i s h p → c.Open j t g q →
    ∀ k, holds h k = true → holds g k = false
  state : c.rows = replay c.log
  serial : Serial d P Q c.log

variable {d P Q}

theorem Serial.init {a b : List (Entry κ ρ Start α)} (h : Serial d P Q (a ++ b)) : Serial d P Q a := by
  refine ⟨fun x k row y split => h.inserted x k row (y ++ b) ?_, fun x s g a' y split => h.committed x s g a' (y ++ b) ?_⟩
  · rw [split]
    simp
  · rw [split]
    simp

/-- A row that a commit wrote is as it wrote it. -/
theorem commit_wrote (careful : ∀ s h op, P s h op → Careful h op) {rows : InsertionMap κ ρ} {s : Start}
    {h : History κ ρ} (each : Each (P s) h) {k : κ} {row : ρ} (wrote : Wrote h k row) :
    (overlay h rows).get k = some row :=
  overlay_written wrote (fun _ other => each.once (careful s) wrote other) rows

theorem Going.on {rows other : InsertionMap κ ρ} {s : Start} {h : History κ ρ} {p : Prog RowRes ε α}
    (going : Going P Q rows s h p) (same : ∀ k, holds h k = true → other.get k = rows.get k) :
    Going P Q other s h p :=
  ⟨going.meets, going.each, fun k row locked =>
    (same k (holds_iff.mpr ⟨row, locked⟩)).trans (going.current k row locked)⟩

theorem initial_kept : Kept d P Q (Database.initial : Config κ ρ ε Start α) := by
  refine ⟨?_, ?_, rfl, ?_, ?_⟩
  · intro i s h p going
    simp [Database.initial, Config.Open] at going
  · intro i j s h p t g q _ going
    simp [Database.initial, Config.Open] at going
  · intro a k row b split
    simp [Database.initial] at split
  · intro a s h x b split
    simp [Database.initial] at split

variable {c : Config κ ρ ε Start α} {i : Nat} {s : Start} {h : History κ ρ} {p : Prog RowRes ε α}

/-- What another holds is not free. -/
theorem taken_false {k : κ} (free : c.taken i k = false) {j : Nat} (other : j ≠ i) {t : Start} {g : History κ ρ}
    {q : Prog RowRes ε α} (going : c.Open j t g q) : holds g k = false := by
  by_contra held
  have member : (⟨t, g, some q⟩, j) ∈ c.sessions.zipIdx := List.mk_mem_zipIdx_iff_getElem?.mpr going
  have taken : c.taken i k = true := by
    refine List.any_eq_true.mpr ⟨_, member, ?_⟩
    simpa [other] using held
  rw [taken] at free
  cases free

omit [DecidableEq κ] in
/-- Changing one transaction leaves the others. -/
theorem open_set {x : Session κ ρ ε Start α} {rows : InsertionMap κ ρ} {log : List (Entry κ ρ Start α)} {j : Nat}
    {t : Start} {g : History κ ρ} {q : Prog RowRes ε α}
    (going : Config.Open ⟨rows, c.sessions.set i x, log⟩ j t g q) :
    j = i ∧ x = ⟨t, g, some q⟩ ∨ j ≠ i ∧ c.Open j t g q := by
  unfold Config.Open at going ⊢
  by_cases same : j = i
  · subst same
    rw [List.getElem?_set] at going
    split at going
    · split at going
      · exact Or.inl ⟨rfl, Option.some.inj going⟩
      · cases going
    · exact absurd rfl ‹_›
  · rw [List.getElem?_set_ne (Ne.symm same)] at going
    exact Or.inr ⟨same, going⟩

theorem Kept.begin (kept : Kept d P Q c) (specified : ∀ s p, d.program s = some p → Prog.Meets (P s) (Q s) [] p)
    (program : d.program s = some p) : Kept d P Q { c with sessions := c.sessions ++ [⟨s, [], some p⟩] } := by
  have new : ∀ i t g q, Config.Open { c with sessions := c.sessions ++ [⟨s, [], some p⟩] } i t g q →
      c.Open i t g q ∨ t = s ∧ g = [] ∧ d.program t = some q := by
    intro i t g q going
    unfold Config.Open at going ⊢
    rw [List.getElem?_append] at going
    split at going
    · exact Or.inl going
    · refine Or.inr ?_
      obtain ⟨bound, same⟩ := List.getElem?_eq_some_iff.mp going
      have only := List.mem_singleton.mp (same ▸ List.getElem_mem bound)
      cases only
      exact ⟨rfl, rfl, program⟩
  refine ⟨fun i t g q going => ?_, fun i j t g q t' g' q' apart first second k held => ?_, kept.state, kept.serial⟩
  · rcases new i t g q going with before | ⟨rfl, rfl, started⟩
    · exact kept.going i t g q before
    · refine ⟨specified t q started, Each.nil, fun k row locked => ?_⟩
      cases locked
  · rcases new i t g q first with before | ⟨_, rfl, _⟩
    · rcases new j t' g' q' second with earlier | ⟨_, rfl, _⟩
      · exact kept.apart i j t g q t' g' q' apart before earlier k held
      · rfl
    · cases held

/-- A step that is answered locks a free row, as it is now, or none. -/
theorem answer_locks {op : RowOp κ ρ} {r : RowRes op} (careful : Careful h op) (answer : c.answer i h op = some r)
    {k : κ} {row : ρ} (locks : locking ⟨op, r⟩ = some (k, row)) : c.taken i k = false ∧ c.rows.get k = some row := by
  cases op with
  | rows => cases locks
  | write j version => cases locks
  | tryLock j =>
    obtain ⟨found, there, same⟩ := Option.map_eq_some_iff.mp locks
    cases same
    have given := Option.some.inj answer
    split at given
    · rw [← given] at there
      cases there
    · rw [← given, overlay_unwritten careful] at there
      exact ⟨Bool.eq_false_iff.mpr ‹_›, there⟩
  | lock j =>
    obtain ⟨found, there, same⟩ := Option.map_eq_some_iff.mp locks
    cases same
    simp only [Config.answer] at answer
    split at answer
    · cases answer
    · rw [← Option.some.inj answer, overlay_unwritten careful] at there
      exact ⟨Bool.eq_false_iff.mpr ‹_›, there⟩

theorem holds_snoc {e : Did RowRes} {k : κ} (held : holds (h ++ [e]) k = true) :
    holds h k = true ∨ ∃ row, locking e = some (k, row) := by
  obtain ⟨row, locked⟩ := holds_iff.mp held
  rcases locked_snoc.mp locked with before | now
  · exact Or.inl (holds_iff.mpr ⟨row, before⟩)
  · exact Or.inr ⟨row, now⟩

theorem Kept.run (careful : ∀ s h op, P s h op → Careful h op) (kept : Kept d P Q c) {op : RowOp κ ρ}
    {next : RowRes op → Prog RowRes ε α} (current : c.Open i s h (.call op next)) {r : RowRes op}
    (answer : c.answer i h op = some r) :
    Kept d P Q { c with sessions := c.sessions.set i ⟨s, h ++ [⟨op, r⟩], some (next r)⟩ } := by
  have mine := kept.going i s h _ current
  have locks : ∀ k row, locking ⟨op, r⟩ = some (k, row) → c.taken i k = false ∧ c.rows.get k = some row :=
    fun _ _ => answer_locks (careful s h op mine.meets.1) answer
  have free : ∀ k, holds (h ++ [⟨op, r⟩]) k = true → ∀ j t g q, j ≠ i → c.Open j t g q → holds g k = false := by
    intro k held j t g q other going
    rcases holds_snoc held with before | ⟨row, now⟩
    · exact kept.apart i j s h _ t g q (Ne.symm other) current going k before
    · exact taken_false (locks k row now).1 other going
  refine ⟨fun j t g q going => ?_, fun j j' t g q t' g' q' apart first second k held => ?_, kept.state, kept.serial⟩
  · rcases open_set going with ⟨rfl, same⟩ | ⟨_, before⟩
    · cases same
      refine ⟨mine.meets.2 r, mine.each.snoc mine.meets.1, fun k row locked => ?_⟩
      rcases locked_snoc.mp locked with before | now
      · exact mine.current k row before
      · exact (locks k row now).2
    · exact kept.going j t g q before
  · rcases open_set first with ⟨rfl, same⟩ | ⟨_, before⟩
    · rcases open_set second with ⟨again, _⟩ | ⟨other, going⟩
      · exact absurd again.symm apart
      · cases same
        exact free k held j' t' g' q' other going
    · rcases open_set second with ⟨rfl, same⟩ | ⟨_, going⟩
      · cases same
        by_contra clash
        have quiet := free k (Bool.not_eq_false _ ▸ clash) j t g q apart before
        rw [quiet] at held
        cases held
      · exact kept.apart j j' t g q t' g' q' apart before going k held

theorem Kept.commit (careful : ∀ s h op, P s h op → Careful h op) (kept : Kept d P Q c) {a : α}
    (current : c.Open i s h (.done a)) : Kept d P Q
      ⟨overlay h c.rows, c.sessions.set i ⟨s, h, none⟩, c.log ++ [.committed s h a]⟩ := by
  have mine := kept.going i s h _ current
  have others : ∀ j t g q, Config.Open ⟨overlay h c.rows, c.sessions.set i ⟨s, h, none⟩,
      c.log ++ [.committed s h a]⟩ j t g q → j ≠ i ∧ c.Open j t g q := by
    intro j t g q going
    rcases open_set going with ⟨_, same⟩ | before
    · cases same
    · exact before
  refine ⟨fun j t g q going => ?_, fun j j' t g q t' g' q' apart first second => ?_, ?_, ?_, ?_⟩
  · obtain ⟨other, before⟩ := others j t g q going
    refine (kept.going j t g q before).on fun k held => overlay_unwritten (fun row wrote => ?_) _
    obtain ⟨found, locked⟩ := mine.each.locked (careful s) wrote
    have mineHeld : holds h k = true := holds_iff.mpr ⟨found, locked⟩
    rw [kept.apart i j s h _ t g q (Ne.symm other) current before k mineHeld] at held
    cases held
  · exact kept.apart j j' t g q t' g' q' apart (others _ _ _ _ first).2 (others _ _ _ _ second).2
  · rw [replay_snoc, ← kept.state]
    rfl
  · intro b k row after split
    rcases split_snoc split with ⟨_, entry⟩ | ⟨rest, before⟩
    · cases entry
    · exact kept.serial.inserted b k row rest before
  · intro b t g x after split
    rcases split_snoc split with ⟨rfl, entry⟩ | ⟨rest, before⟩
    · cases entry
      exact ⟨mine.meets, mine.each, kept.state ▸ mine.current⟩
    · exact kept.serial.committed b t g x rest before

theorem Kept.abort (kept : Kept d P Q c) (i : Nat) (s : Start) (h : History κ ρ) :
    Kept d P Q { c with sessions := c.sessions.set i ⟨s, h, none⟩ } := by
  have others : ∀ j t g q, Config.Open { c with sessions := c.sessions.set i ⟨s, h, none⟩ } j t g q →
      c.Open j t g q := by
    intro j t g q going
    rcases open_set going with ⟨_, same⟩ | ⟨_, before⟩
    · cases same
    · exact before
  exact ⟨fun j t g q going => kept.going j t g q (others j t g q going), fun j j' t g q t' g' q' apart first second =>
    kept.apart j j' t g q t' g' q' apart (others _ _ _ _ first) (others _ _ _ _ second), kept.state, kept.serial⟩

theorem Kept.insert (kept : Kept d P Q c) {k : κ} {row : ρ} (fresh : c.rows.get k = none)
    {x : New} (inserted : d.insertion c.rows x = some (k, row)) :
    Kept d P Q { c with rows := c.rows.set k row, log := c.log ++ [.inserted k row] } := by
  refine ⟨fun j t g q going => ?_, kept.apart, ?_, ?_, ?_⟩
  · have before := kept.going j t g q going
    refine ⟨before.meets, before.each, fun k' row' locked => ?_⟩
    have there := before.current k' row' locked
    have other : k' ≠ k := by
      rintro rfl
      rw [fresh] at there
      cases there
    exact (InsertionMap.get_set_other _ other row).trans there
  · rw [replay_snoc, ← kept.state]
    rfl
  · intro a k' row' after split
    rcases split_snoc split with ⟨rfl, entry⟩ | ⟨rest, before⟩
    · cases entry
      rw [← kept.state]
      exact ⟨fresh, x, inserted⟩
    · exact kept.serial.inserted a k' row' rest before
  · intro a t g x after split
    rcases split_snoc split with ⟨_, entry⟩ | ⟨rest, before⟩
    · cases entry
    · exact kept.serial.committed a t g x rest before

theorem Kept.step (specified : ∀ s p, d.program s = some p → Prog.Meets (P s) (Q s) [] p)
    (careful : ∀ s h op, P s h op → Careful h op) (kept : Kept d P Q c) (l : Label Start New) :
    Kept d P Q (d.step c l) := by
  cases l with
  | begin s =>
    simp only [Database.step]
    split
    · exact kept.begin specified ‹_›
    · exact kept
  | run i =>
    simp only [Database.step]
    split
    · split
      · exact kept.run careful ‹_› ‹_›
      · exact kept
    · exact kept
  | commit i =>
    simp only [Database.step]
    split
    · exact kept.commit careful ‹_›
    · exact kept
  | abort i =>
    simp only [Database.step]
    split
    · exact kept.abort i _ _
    · exact kept
  | insert x =>
    simp only [Database.step]
    split
    · split
      · exact kept.insert (Option.isNone_iff_eq_none.mp ‹_›) ‹_›
      · exact kept
    · exact kept

/-- Whatever the schedule, the commits of careful transactions are single steps,
one after another. -/
theorem runs_serial (specified : ∀ s p, d.program s = some p → Prog.Meets (P s) (Q s) [] p)
    (careful : ∀ s h op, P s h op → Careful h op) (labels : List (Label Start New)) :
    Serial d P Q (runs d.step Database.initial labels).log ∧
      (runs d.step Database.initial labels).rows = replay (runs d.step Database.initial labels).log := by
  have kept := runs_invariant (I := Kept d P Q) (fun _ l kept => kept.step specified careful l) initial_kept labels
  exact ⟨kept.serial, kept.state⟩

end

end VantGrowth.Lib.RowLocks
