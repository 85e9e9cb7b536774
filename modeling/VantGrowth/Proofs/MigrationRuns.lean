import VantGrowth.Db.Migrations
import VantGrowth.Lib.Runs

namespace VantGrowth.Proofs.MigrationRuns
open Db.Migrations Lib

section
variable {σ : Type} (server : Server σ)

/-- The statements of a migration in a row. -/
def Executes (m : MigrationFile) (s t : σ) : Prop :=
  (statements m).foldlM (fun tables sql => server.execute sql tables) s = .ok t

/-- One of the bootstrap scripts was run. -/
def Boots (scripts : String → Prop) (s t : σ) : Prop :=
  ∃ sql, scripts sql ∧ server.execute sql s = .ok t

/-- The journal holds the first `k` migrations in order. Of these the first `b`
were found in place; the others were executed on the way from `start`, each once,
whole and in order, with nothing but bootstrap scripts in between. -/
structure Migrated (scripts : String → Prop) (all : List MigrationFile) (start : σ) (b k : Nat)
    (db : Database σ) : Prop where
  backfilled : b ≤ k
  bound : k ≤ all.length
  rows : db.rows = (all.take k).map MigrationFile.row
  executed : Through (Executes server) (Boots server scripts) start ((all.take k).drop b) db.tables
  prebuilt : b ≠ 0 → ∃ t, Through (Executes server) (Boots server scripts) start [] t ∧
    coreTablesIn server t = true

variable {server} {scripts : String → Prop} {all : List MigrationFile} {start : σ} {b k : Nat}
  {c : Faulty (Connection (Database σ))} {db db' : Database σ}

theorem fresh_migrated : Migrated server scripts all start 0 0 ⟨start, none⟩ where
  backfilled := Nat.le_refl _
  bound := Nat.zero_le _
  rows := rfl
  executed := .start
  prebuilt none_ := absurd rfl none_

/-- Only a bootstrap script ran, or nothing. -/
theorem Migrated.boot (h : Migrated server scripts all start b k db)
    (rows : db'.rows = db.rows) (tables : db'.tables = db.tables ∨ Boots server scripts db.tables db'.tables) :
    Migrated server scripts all start b k db' := by
  refine ⟨h.backfilled, h.bound, rows.trans h.rows, ?_, h.prebuilt⟩
  rcases tables with same | moved
  · rw [same]
    exact h.executed
  · exact h.executed.idle moved

theorem take_succ_eq {m : MigrationFile} {rest : List MigrationFile} (here : all.drop k = m :: rest) :
    all.take (k + 1) = all.take k ++ [m] := by
  have split := List.take_add (l := all) (i := k) (j := 1)
  rw [split, here]
  rfl

/-- The next migration was executed and journaled. -/
theorem Migrated.apply (h : Migrated server scripts all start b k db) {m : MigrationFile}
    {rest : List MigrationFile} (here : all.drop k = m :: rest)
    (rows : db'.rows = db.rows ++ [m.row]) (executes : Executes server m db.tables db'.tables) :
    Migrated server scripts all start b (k + 1) db' := by
  have longer : k < all.length := by
    by_contra short
    rw [List.drop_eq_nil_of_le (Nat.le_of_not_lt short)] at here
    cases here
  have whole := take_succ_eq here
  refine ⟨Nat.le_succ_of_le h.backfilled, longer, ?_, ?_, h.prebuilt⟩
  · rw [rows, h.rows, whole, List.map_append]
    rfl
  · have kept : b ≤ (all.take k).length := by
      rw [List.length_take, Nat.min_eq_left h.bound]
      exact h.backfilled
    rw [whole, List.drop_append_of_le_length kept]
    exact h.executed.step executes

theorem query_step {α : Type} {q : Database σ → Except MigrateError (α × Database σ)}
    (alone : c.state.working = none) :
    (query q).Ends c fun x c' => c'.state.working = none ∧
      (c'.state.committed = c.state.committed ∨ ∃ a, q c.state.committed = .ok (a, c'.state.committed)) ∧
      ∀ a, x = .ok a → q c.state.committed = .ok (a, c'.state.committed) :=
  Connection.query_ends alone

theorem select_step {α : Type} {f : Database σ → α} (alone : c.state.working = none) :
    (select f).Ends c fun x c' => c'.state.working = none ∧ c'.state.committed = c.state.committed ∧
      ∀ a, x = .ok a → a = f c.state.committed := by
  refine (query_step alone).weaken ?_
  rintro x c' ⟨closed, either, told⟩
  refine ⟨closed, ?_, fun a returned => ?_⟩
  · rcases either with same | ⟨a, asked⟩
    · exact same
    · exact (Prod.ext_iff.mp (Except.ok.inj asked)).2.symm
  · exact (Prod.ext_iff.mp (Except.ok.inj (told a returned))).1.symm

theorem update_step {f : Database σ → Database σ} (alone : c.state.working = none) :
    (update f).Ends c fun x c' => c'.state.working = none ∧
      (c'.state.committed = c.state.committed ∨ c'.state.committed = f c.state.committed) ∧
      ∀ a, x = .ok a → c'.state.committed = f c.state.committed := by
  refine (query_step alone).weaken ?_
  rintro x c' ⟨closed, either, told⟩
  refine ⟨closed, either.imp_right ?_, fun a returned => ?_⟩
  · rintro ⟨a, asked⟩
    exact (Prod.ext_iff.mp (Except.ok.inj asked)).2.symm
  · exact (Prod.ext_iff.mp (Except.ok.inj (told a returned))).2.symm

theorem executed_eq {sql : String} {a : Unit} (ran : Database.execute server sql db = .ok (a, db')) :
    ∃ tables, server.execute sql db.tables = .ok tables ∧ db' = { db with tables } := by
  unfold Database.execute at ran
  split at ran
  · rename_i tables answer
    exact ⟨tables, answer, (Prod.ext_iff.mp (Except.ok.inj ran)).2.symm⟩
  · cases ran

theorem execute_step {sql : String} (alone : c.state.working = none) :
    (execute server sql).Ends c fun _ c' => c'.state.working = none ∧
      c'.state.committed.rows = c.state.committed.rows ∧
      (c'.state.committed.tables = c.state.committed.tables ∨
        server.execute sql c.state.committed.tables = .ok c'.state.committed.tables) := by
  refine (query_step alone).weaken ?_
  rintro x c' ⟨closed, either, _⟩
  rcases either with same | ⟨a, asked⟩
  · exact ⟨closed, by rw [same], Or.inl (by rw [same])⟩
  · obtain ⟨tables, ran, moved⟩ := executed_eq asked
    rw [moved]
    exact ⟨closed, rfl, Or.inr ran⟩

/-- Within a block, the statements of a migration one after another. -/
theorem statements_inside (sqls : List String) :
    Connection.Inside (fun w w' : Database σ => w'.journal = w.journal ∧
        sqls.foldlM (fun tables sql => server.execute sql tables) w.tables = .ok w'.tables)
      (sqls.forM (execute server)) := by
  induction sqls with
  | nil =>
    refine (Connection.Inside.pure ()).weaken ?_
    rintro w _ rfl
    exact ⟨rfl, rfl⟩
  | cons sql sqls ih =>
    have first : Connection.Inside (fun w w' : Database σ => w'.journal = w.journal ∧
        server.execute sql w.tables = .ok w'.tables) (execute server sql) := by
      apply Connection.Inside.query
      intro w a w' asked
      obtain ⟨tables, ran, rfl⟩ := executed_eq asked
      exact ⟨rfl, ran⟩
    refine (first.bind fun _ => ih).weaken ?_
    rintro w w' ⟨v, ⟨same, ran⟩, same', rest⟩
    refine ⟨same'.trans same, ?_⟩
    rw [List.foldlM_cons, ran]
    exact rest

theorem applyMigration_step (m : MigrationFile) :
    (applyMigration server m).Ends c fun x c' =>
      (c'.state.committed = c.state.committed ∨
        c'.state.committed.rows = c.state.committed.rows ++ [m.row] ∧
          Executes server m c.state.committed.tables c'.state.committed.tables) ∧
      ∀ n, x = .ok n → c'.state.working = none ∧
        c'.state.committed.rows = c.state.committed.rows ++ [m.row] ∧
          Executes server m c.state.committed.tables c'.state.committed.tables := by
  have insert : Connection.Inside (fun w w' : Database σ => w' = w.insertRow m)
      (update (Database.insertRow m)) := by
    apply Connection.Inside.query
    intro w a w' asked
    exact (Prod.ext_iff.mp (Except.ok.inj asked)).2.symm
  have body : Connection.Inside (fun w w' : Database σ => w'.rows = w.rows ++ [m.row] ∧
      Executes server m w.tables w'.tables)
      ((statements m).forM (execute server) >>= fun _ => update (Database.insertRow m)) := by
    refine ((statements_inside (statements m)).bind fun _ => insert).weaken ?_
    rintro w w' ⟨v, ⟨same, ran⟩, rfl⟩
    refine ⟨?_, ran⟩
    simp only [Database.rows, Database.insertRow, Option.getD_some, same]
  apply Store.Ends.bind (Connection.transaction_ends body)
  · rintro e c' ⟨either, _⟩
    exact ⟨either, nofun⟩
  · rintro _ c' ⟨either, done⟩
    obtain ⟨step, closed⟩ := done () rfl
    exact Store.Ends.pure ⟨either, fun _ _ => ⟨closed, step⟩⟩

theorem drop_prefix {files : List MigrationFile} (part : files <+: all) {m : MigrationFile}
    {rest : List MigrationFile} (here : files.drop k = m :: rest) : ∃ later, all.drop k = m :: later := by
  obtain ⟨more, rfl⟩ := part
  rw [List.drop_append, here]
  exact ⟨_, rfl⟩

/-- How far a run over `files` came from the `k` migrations it found. -/
structure Advanced (server : Server σ) (scripts : String → Prop) (all : List MigrationFile) (start : σ)
    (files : List MigrationFile) (b k k' : Nat) (db : Database σ) : Prop where
  forth : k ≤ k'
  within : k' ≤ max k files.length
  migrated : Migrated server scripts all start b k' db

theorem Advanced.refl {files : List MigrationFile} (h : Migrated server scripts all start b k db) :
    Advanced server scripts all start files b k k db :=
  ⟨Nat.le_refl _, Nat.le_max_left _ _, h⟩

/-- The pending migrations are the files after those that are journaled. -/
theorem applyPending_step {files : List MigrationFile} (part : files <+: all) (lastAppliedAt : Nat)
    (ms : List MigrationFile) (report : Report) (alone : c.state.working = none)
    (h : Migrated server scripts all start b k c.state.committed)
    (pending : ms.filter (fun m => decide (lastAppliedAt < m.when)) = files.drop k) :
    (applyPending server lastAppliedAt ms report).Ends c fun x c' =>
      ∃ k', Advanced server scripts all start files b k k' c'.state.committed ∧
        ∀ r, x = .ok r → c'.state.working = none ∧ k' = max k files.length ∧
          r.applied + k = report.applied + k' ∧ r.backfilled = report.backfilled := by
  induction ms generalizing c k report with
  | nil =>
    have short : files.length ≤ k := List.drop_eq_nil_iff.mp pending.symm
    refine Store.Ends.pure ⟨k, .refl h, ?_⟩
    rintro r ⟨⟩
    exact ⟨alone, (Nat.max_eq_left short).symm, rfl, rfl⟩
  | cons m ms ih =>
    apply Store.Ends.ite
    · intro old
      rw [List.filter_cons_of_neg (by simpa using old)] at pending
      exact ih report alone h pending
    · intro due
      rw [List.filter_cons_of_pos (by simpa using due)] at pending
      obtain ⟨later, here⟩ := drop_prefix part pending.symm
      have longer : k < files.length := by
        by_contra short
        rw [List.drop_eq_nil_of_le (Nat.le_of_not_lt short)] at pending
        cases pending
      have next : ms.filter (fun m => decide (lastAppliedAt < m.when)) = files.drop (k + 1) := by
        have tails := congrArg List.tail pending
        rwa [List.tail_cons, List.tail_drop] at tails
      apply Store.Ends.bind (applyMigration_step m)
      · rintro e c' ⟨same | ⟨rows, executes⟩, _⟩
        · rw [same]
          exact ⟨k, .refl h, nofun⟩
        · exact ⟨k + 1, ⟨Nat.le_succ k, le_max_of_le_right longer, h.apply here rows executes⟩, nofun⟩
      · rintro chunks c' ⟨_, done⟩
        obtain ⟨closed, rows, executes⟩ := done chunks rfl
        refine (ih _ closed (h.apply here rows executes) next).weaken ?_
        rintro x c'' ⟨k', advanced, finished⟩
        refine ⟨k', ⟨Nat.le_of_succ_le advanced.forth, ?_, advanced.migrated⟩, ?_⟩
        · have within := advanced.within
          omega
        · intro r returned
          obtain ⟨closed, all_, applied, flag⟩ := finished r returned
          refine ⟨closed, ?_, ?_, flag⟩
          · omega
          · dsimp only at applied
            omega

/-- Migrations that are found in place are journaled without being executed. -/
theorem Migrated.backfill (h : Migrated server scripts all start k k db) {m : MigrationFile}
    {rest : List MigrationFile} (increasing : all.Pairwise fun a b => a.when < b.when)
    (here : all.drop k = m :: rest)
    (prebuilt : ∃ t, Through (Executes server) (Boots server scripts) start [] t ∧
      coreTablesIn server t = true) :
    Migrated server scripts all start (k + 1) (k + 1) (db.backfill m) := by
  have longer : k < all.length := by
    by_contra short
    rw [List.drop_eq_nil_of_le (Nat.le_of_not_lt short)] at here
    cases here
  have whole := take_succ_eq here
  have fresh : db.rows.any (·.createdAt == m.when) = false := by
    rw [h.rows, List.any_map, List.any_eq_false]
    intro a before
    rw [← List.take_append_drop k all, here] at increasing
    have earlier := (List.pairwise_append.mp increasing).2.2 a before m List.mem_cons_self
    simp only [Function.comp_apply, MigrationFile.row, beq_iff_eq]
    omega
  have written : db.backfill m = { db with journal := some (db.rows ++ [m.row]) } := by
    rw [Database.backfill, fresh]
    rfl
  refine ⟨Nat.le_refl _, longer, ?_, ?_, fun _ => prebuilt⟩
  · rw [written, whole, List.map_append, ← h.rows]
    rfl
  · have none_ : (all.take (k + 1)).drop (k + 1) = [] := by simp
    have before : (all.take k).drop k = [] := by simp
    rw [written, none_]
    have executed := h.executed
    rwa [before] at executed

theorem backfillJournal_step {files : List MigrationFile} (part : files <+: all)
    (increasing : all.Pairwise fun a b => a.when < b.when)
    (prebuilt : ∃ t, Through (Executes server) (Boots server scripts) start [] t ∧
      coreTablesIn server t = true) (rest : List MigrationFile) (here : files.drop k = rest)
    (alone : c.state.working = none) (h : Migrated server scripts all start k k c.state.committed) :
    (backfillJournal rest).Ends c fun x c' =>
      ∃ k', k ≤ k' ∧ k' ≤ max k files.length ∧ Migrated server scripts all start k' k' c'.state.committed ∧
        ∀ r, x = .ok r → c'.state.working = none ∧ k' = max k files.length := by
  induction rest generalizing c k with
  | nil =>
    have short : files.length ≤ k := List.drop_eq_nil_iff.mp here
    refine Store.Ends.pure ⟨k, Nat.le_refl _, Nat.le_max_left _ _, h, ?_⟩
    rintro r ⟨⟩
    exact ⟨alone, (Nat.max_eq_left short).symm⟩
  | cons m rest ih =>
    obtain ⟨later, there⟩ := drop_prefix part here
    have longer : k < files.length := by
      by_contra short
      rw [List.drop_eq_nil_of_le (Nat.le_of_not_lt short)] at here
      cases here
    have next : files.drop (k + 1) = rest := by
      have tails := congrArg List.tail here
      rwa [List.tail_cons, List.tail_drop] at tails
    have more := h.backfill increasing there prebuilt
    apply Store.Ends.bind (update_step alone)
    · rintro e c' ⟨_, same | moved, _⟩
      · rw [same]
        exact ⟨k, Nat.le_refl _, Nat.le_max_left _ _, h, nofun⟩
      · rw [moved]
        exact ⟨k + 1, Nat.le_succ k, le_max_of_le_right longer, more, nofun⟩
    · rintro _ c' ⟨closed, _, done⟩
      rw [← done () rfl] at more
      refine (ih next closed more).weaken ?_
      rintro x c'' ⟨k', forth, within, migrated, finished⟩
      refine ⟨k', by omega, by omega, migrated, fun r returned => ?_⟩
      obtain ⟨closed, all_⟩ := finished r returned
      exact ⟨closed, by omega⟩

theorem requireTables_step (tables : List String) (alone : c.state.working = none) :
    (tables.forM (requireTable server)).Ends c fun x c' => c'.state.committed = c.state.committed ∧
      ∀ r, x = .ok r → ∀ table ∈ tables, (server.tables c.state.committed.tables).contains table = true := by
  induction tables generalizing c with
  | nil => exact Store.Ends.pure ⟨rfl, fun _ _ table none_ => (List.not_mem_nil none_).elim⟩
  | cons table tables ih =>
    have checked : (requireTable server table).Ends c fun x c' => c'.state.working = none ∧
        c'.state.committed = c.state.committed ∧
        ∀ r, x = .ok r → (server.tables c.state.committed.tables).contains table = true := by
      apply Store.Ends.bind (select_step alone)
      · rintro e c' ⟨closed, same, _⟩
        exact ⟨closed, same, nofun⟩
      · rintro ok c' ⟨closed, same, told⟩
        have last : (Store.require (ok = true) (MigrateError.error ("Expected table growthos." ++ table ++
            " to exist after migration.")) >>= pure : Client σ Unit).Ends c' fun x d =>
            d.state.working = none ∧ d.state.committed = c.state.committed ∧
              ∀ r, x = .ok r → (server.tables c.state.committed.tables).contains table = true := by
          apply Store.Ends.require_bind
          · exact fun _ => ⟨closed, same, nofun⟩
          · intro yes
            exact Store.Ends.pure ⟨closed, same, fun _ _ => (told ok rfl).symm.trans yes⟩
        have := Store.lawful (ε := MigrateError) (σ := Faulty (Connection (Database σ)))
        rwa [bind_pure] at last
    apply Store.Ends.bind checked
    · rintro e c' ⟨_, same, _⟩
      exact ⟨same, nofun⟩
    · rintro _ c' ⟨closed, same, there⟩
      refine (ih closed).weaken ?_
      rintro x c'' ⟨same', rest⟩
      refine ⟨same'.trans same, fun r returned other member => ?_⟩
      rcases List.mem_cons.mp member with rfl | later
      · exact there () rfl
      · rw [← same]
        exact rest r returned other later

/-- The files that were found in place where the run adopted the tables. -/
theorem adoptTables_step {files : List MigrationFile} (part : files <+: all)
    (increasing : all.Pairwise fun a b => a.when < b.when) (alone : c.state.working = none)
    (h : Migrated server scripts all start b k c.state.committed) :
    (adoptTables server files).Ends c fun x c' =>
      ∃ b' k', Advanced server scripts all start files b' k k' c'.state.committed ∧ (b' = b ∨ k = 0) ∧
        ∀ r, x = .ok r → c'.state.working = none ∧ (if r = true then k' = max k files.length else k' = k) := by
  apply Store.Ends.bind (select_step alone)
  · rintro e c' ⟨_, same, _⟩
    rw [same]
    exact ⟨b, k, .refl h, Or.inl rfl, nofun⟩
  · rintro empty c' ⟨closed, same, told⟩
    rw [← same] at h
    have stays : Migrated server scripts all start b k c'.state.committed := h
    apply Store.Ends.ite
    · rintro rfl
      have none_ : all.take k = [] := by
        have isEmpty := (told true rfl).symm
        rw [← same, h.rows] at isEmpty
        simpa using isEmpty
      apply Store.Ends.bind (select_step closed)
      · rintro e c'' ⟨_, same', _⟩
        rw [same']
        exact ⟨b, k, .refl h, Or.inl rfl, nofun⟩
      · rintro exist c'' ⟨closed', same', found⟩
        rw [← same'] at h
        apply Store.Ends.ite
        · rintro rfl
          have tables : coreTablesIn server c'.state.committed.tables = true := (found true rfl).symm
          have boots := stays.executed
          rw [none_, List.drop_nil] at boots
          have first : k = 0 := by
            have short := congrArg List.length none_
            rw [List.length_take, Nat.min_eq_left h.bound] at short
            exact short
          subst first
          obtain rfl := Nat.le_zero.mp h.backfilled
          apply Store.Ends.bind (backfillJournal_step part increasing ⟨_, boots, tables⟩ files rfl closed' h)
          · rintro e d ⟨k', forth, within, migrated, _⟩
            exact ⟨k', k', ⟨forth, within, migrated⟩, Or.inr rfl, nofun⟩
          · rintro _ d ⟨k', forth, within, migrated, done⟩
            refine Store.Ends.pure ⟨k', k', ⟨forth, within, migrated⟩, Or.inr rfl, ?_⟩
            rintro r ⟨⟩
            exact ⟨(done () rfl).1, (done () rfl).2⟩
        · intro _
          refine Store.Ends.pure ⟨b, k, .refl h, Or.inl rfl, ?_⟩
          rintro r ⟨⟩
          exact ⟨closed', rfl⟩
    · intro _
      refine Store.Ends.pure ⟨b, k, .refl h, Or.inl rfl, ?_⟩
      rintro r ⟨⟩
      exact ⟨closed, rfl⟩

/-- What one run makes of a database, and what it says where it returns. -/
structure Ran (server : Server σ) (scripts : String → Prop) (all : List MigrationFile) (start : σ)
    (files : List MigrationFile) (k : Nat) (x : Except MigrateError Report) (b' k' : Nat)
    (db' : Database σ) : Prop where
  advanced : Advanced server scripts all start files b' k k' db'
  finished : ∀ r, x = .ok r → k' = max k files.length ∧
    r.applied = (if r.backfilled = true then 0 else k' - k) ∧
    ∀ table ∈ coreTables, (server.tables db'.tables).contains table = true

theorem Advanced.trans {files : List MigrationFile} {b' k' k'' : Nat}
    (h : Advanced server scripts all start files b k k' db)
    (h' : Advanced server scripts all start files b' k' k'' db') :
    Advanced server scripts all start files b' k k'' db' := by
  have within := h.within
  have within' := h'.within
  exact ⟨Nat.le_trans h.forth h'.forth, by omega, h'.migrated⟩

theorem ensureMigrationJournal_step (alone : c.state.working = none)
    (h : Migrated server scripts all start b k c.state.committed) :
    (ensureMigrationJournal : Client σ Unit).Ends c fun _ c' => c'.state.working = none ∧
      Migrated server scripts all start b k c'.state.committed := by
  refine (update_step alone).weaken ?_
  rintro x c' ⟨closed, same | written, _⟩
  · rw [same]
    exact ⟨closed, h⟩
  · rw [written]
    exact ⟨closed, h.boot rfl (Or.inl rfl)⟩

theorem bootstrap_step {bootstrap : String} (script : scripts bootstrap) (alone : c.state.working = none)
    (h : Migrated server scripts all start b k c.state.committed) :
    (execute server bootstrap).Ends c fun _ c' => c'.state.working = none ∧
      Migrated server scripts all start b k c'.state.committed := by
  refine (execute_step alone).weaken ?_
  rintro x c' ⟨closed, rows, moved⟩
  exact ⟨closed, h.boot rows (moved.imp_right fun ran => ⟨bootstrap, script, ran⟩)⟩

/-- From the last time the journal holds on, and with the check of the tables. -/
theorem applyRest_step {files : List MigrationFile} (part : files <+: all)
    (increasing : all.Pairwise fun a b => a.when < b.when) (positive : ∀ m ∈ all, 0 < m.when)
    (report : Report) (alone : c.state.working = none)
    (h : Migrated server scripts all start b k c.state.committed) :
    (do
      let lastAppliedAt ← select fun db => lastKey (db.rows.map (·.createdAt))
      let report ← applyPending server lastAppliedAt files report
      coreTables.forM (requireTable server)
      return report : Client σ Report).Ends c fun x c' =>
      ∃ k', Advanced server scripts all start files b k k' c'.state.committed ∧
        ∀ r, x = .ok r → k' = max k files.length ∧ r.applied + k = report.applied + k' ∧
          r.backfilled = report.backfilled ∧
          ∀ table ∈ coreTables, (server.tables c'.state.committed.tables).contains table = true := by
  apply Store.Ends.bind (select_step alone)
  · rintro e c' ⟨_, same, _⟩
    rw [same]
    exact ⟨k, .refl h, nofun⟩
  · rintro last c' ⟨closed, same, told⟩
    rw [← same] at h
    have times : last = lastKey ((all.take k).map (·.when)) := by
      rw [told last rfl, ← same, h.rows, List.map_map]
      rfl
    have pending : files.filter (fun m => decide (last < m.when)) = files.drop k := by
      rw [times]
      exact pending_eq_drop increasing positive part k
    apply Store.Ends.bind (applyPending_step part last files report closed h pending)
    · rintro e d ⟨k', advanced, _⟩
      exact ⟨k', advanced, nofun⟩
    · rintro r d ⟨k', advanced, done⟩
      obtain ⟨closed', all_, applied, flag⟩ := done r rfl
      apply Store.Ends.bind (requireTables_step coreTables closed')
      · rintro e d' ⟨same', _⟩
        rw [← same'] at advanced
        exact ⟨k', advanced, nofun⟩
      · rintro _ d' ⟨same', there⟩
        rw [← same'] at advanced
        refine Store.Ends.pure ⟨k', advanced, ?_⟩
        rintro r' ⟨⟩
        refine ⟨all_, applied, flag, ?_⟩
        rw [same']
        exact there () rfl

theorem migrate_step {bootstrap : String} {files : List MigrationFile} (script : scripts bootstrap)
    (part : files <+: all) (increasing : all.Pairwise fun a b => a.when < b.when)
    (positive : ∀ m ∈ all, 0 < m.when) (alone : c.state.working = none)
    (h : Migrated server scripts all start b k c.state.committed) :
    (migrate server bootstrap files).Ends c fun x c' =>
      ∃ b' k', (b' = b ∨ k = 0) ∧ Ran server scripts all start files k x b' k' c'.state.committed := by
  apply Store.Ends.bind (bootstrap_step script alone h)
  · rintro e c' ⟨_, kept⟩
    exact ⟨b, k, Or.inl rfl, .refl kept, nofun⟩
  · rintro _ c' ⟨closed, kept⟩
    apply Store.Ends.bind (ensureMigrationJournal_step closed kept)
    · rintro e d ⟨_, kept'⟩
      exact ⟨b, k, Or.inl rfl, .refl kept', nofun⟩
    · rintro _ d ⟨closed', kept'⟩
      apply Store.Ends.bind (adoptTables_step part increasing closed' kept')
      · rintro e d' ⟨b', k', advanced, found, _⟩
        exact ⟨b', k', found, advanced, nofun⟩
      · rintro backfilled d' ⟨b', k', advanced, found, done⟩
        obtain ⟨alone', adopted⟩ := done backfilled rfl
        refine (applyRest_step part increasing positive ⟨0, 0, backfilled⟩ alone' advanced.migrated).weaken ?_
        rintro x d'' ⟨k'', later, finished⟩
        refine ⟨b', k'', found, advanced.trans later, fun r returned => ?_⟩
        obtain ⟨all_, applied, flag, tables⟩ := finished r returned
        dsimp only at applied flag
        cases backfilled with
        | false =>
          obtain rfl : k' = k := adopted
          rw [flag]
          refine ⟨all_, ?_, tables⟩
          rw [if_neg Bool.false_ne_true]
          omega
        | true =>
          obtain rfl : k' = max k files.length := adopted
          rw [flag]
          refine ⟨by omega, ?_, tables⟩
          rw [if_pos rfl]
          omega

/-- Whatever the runs lose, the journal is a beginning of the migrations and says
what was executed: nothing twice, nothing by halves. A run that returns has
journaled all of its files, counted those it executed and found every core table. -/
theorem migrations_settle {all : List MigrationFile} (increasing : all.Pairwise fun a b => a.when < b.when)
    (positive : ∀ m ∈ all, 0 < m.when) (start : σ) (past : List Run) (next : Run)
    (releases : ∀ run ∈ next :: past, scripts run.bootstrap ∧ run.migrations <+: all) :
    ∃ b k, Migrated server scripts all start b k (runs (main server) ⟨start, none⟩ past) ∧
      ∃ b' k', (b' = b ∨ k = 0) ∧
        Ran server scripts all start next.migrations k
          (outcome server (runs (main server) ⟨start, none⟩ past) next) b' k'
          (main server (runs (main server) ⟨start, none⟩ past) next) := by
  have kept : ∀ rs : List Run, (∀ run ∈ rs, scripts run.bootstrap ∧ run.migrations <+: all) →
      ∀ db b k, Migrated server scripts all start b k db →
        ∃ b' k', Migrated server scripts all start b' k' (runs (main server) db rs) := by
    intro rs
    induction rs with
    | nil => exact fun _ db b k h => ⟨b, k, h⟩
    | cons run rs ih =>
      intro releases db b k h
      obtain ⟨script, part⟩ := releases run List.mem_cons_self
      obtain ⟨b', k', _, ran⟩ := migrate_step (c := ⟨⟨db, none⟩, run.faults⟩) script part increasing positive rfl h
      exact ih (fun run member => releases run (List.mem_cons_of_mem _ member)) _ b' k' ran.advanced.migrated
  obtain ⟨b, k, h⟩ := kept past (fun run member => releases run (List.mem_cons_of_mem _ member)) _ 0 0 fresh_migrated
  obtain ⟨script, part⟩ := releases next List.mem_cons_self
  exact ⟨b, k, h, migrate_step (c := ⟨⟨_, none⟩, next.faults⟩) script part increasing positive rfl h⟩

end

/-- A server that knows the statement the release below has. -/
def postgres : Server (List String) where
  execute sql tables :=
    if sql != "CREATE TABLE workflow_runs ();" then .ok tables
    else if tables.contains "workflow_runs" then .error "relation already exists"
    else .ok (tables ++ ["workflow_runs"])
  tables := id

def release : List MigrationFile :=
  [⟨1777359170142, "a1", "CREATE TABLE workflow_runs ();"⟩, ⟨1777411866597, "b2", "SELECT 1"⟩]

/-- It loses the answer to its first commit. -/
def crashed : Run := ⟨"", release, List.replicate 8 none ++ [some ⟨"closed", true⟩]⟩

theorem migrations_settle_crashed :
    outcome postgres (runs (main postgres) ⟨coreTables.take 15, none⟩ [crashed]) ⟨"", release, []⟩ =
      .ok ⟨1, 1, false⟩ ∧
    ∃ b k, Migrated postgres (· = "") release (coreTables.take 15) b k
        (runs (main postgres) ⟨coreTables.take 15, none⟩ [crashed]) ∧
      ∃ b' k', (b' = b ∨ k = 0) ∧
        Ran postgres (· = "") release (coreTables.take 15) release k
          (outcome postgres (runs (main postgres) ⟨coreTables.take 15, none⟩ [crashed]) ⟨"", release, []⟩) b' k'
          (main postgres (runs (main postgres) ⟨coreTables.take 15, none⟩ [crashed]) ⟨"", release, []⟩) := by
  refine ⟨by decide +kernel, migrations_settle ?_ ?_ _ [crashed] ⟨"", release, []⟩ ?_⟩
  · simp [release]
  · simp [release]
  · simp [crashed]

end VantGrowth.Proofs.MigrationRuns
