import VantGrowth.Lib.Store

namespace VantGrowth.Lib

/-- A program over atomic operations with typed answers. It gives up control
at every operation and nowhere else. -/
inductive Prog {Op : Type} (Res : Op → Type) (ε α : Type) where
  | done (a : α)
  | fail (e : ε)
  | call (op : Op) (next : Res op → Prog Res ε α)

/-- An operation a program performed, with the answer it got. -/
structure Did {Op : Type} (Res : Op → Type) where
  op : Op
  answer : Res op

namespace Prog

variable {Op : Type} {Res : Op → Type} {ε α β : Type}

def bind : Prog Res ε α → (α → Prog Res ε β) → Prog Res ε β
  | done a, f => f a
  | fail e, _ => fail e
  | call op next, f => call op fun r => (next r).bind f

instance : Monad (Prog Res ε) where
  pure := done
  bind := bind

theorem bind_assoc {γ : Type} (m : Prog Res ε α) (f : α → Prog Res ε β) (g : β → Prog Res ε γ) :
    m >>= f >>= g = m >>= fun a => f a >>= g := by
  induction m with
  | done a => rfl
  | fail e => rfl
  | call op next ih => exact congrArg (call op) (funext ih)

def perform (op : Op) : Prog Res ε (Res op) := call op done

def throw (e : ε) : Prog Res ε α := fail e

def require (p : Prop) [Decidable p] (e : ε) : Prog Res ε Unit := if p then pure () else throw e

/-- A value, or what was thrown in its place. -/
def given : Except ε α → Prog Res ε α
  | .ok a => done a
  | .error e => fail e

section
variable {δ : Type}

/-- The answer to a call inside a `try`: what was thrown ends the program. -/
def answered {γ : Type} (next : γ → Prog Res δ (Except ε α)) : Except ε γ → Prog Res δ (Except ε α)
  | .ok r => next r
  | .error e => done (.error e)

/-- A program inside a `try`: what it throws, and what any of its operations
throws, ends it. -/
def caught : Prog Res ε α → Prog (fun op => Except ε (Res op)) δ (Except ε α)
  | done a => done (.ok a)
  | fail e => done (.error e)
  | call op next => call op (answered fun r => (next r).caught)

end

/-- The program runs with nothing else in between. -/
def runAlone (exec : ∀ op, Store ε σ (Res op)) : Prog Res ε α → Store ε σ α
  | done a => pure a
  | fail e => Store.throw e
  | call op next => exec op >>= fun r => runAlone exec (next r)

theorem runAlone_bind (exec : ∀ op, Store ε σ (Res op)) (m : Prog Res ε α) (f : α → Prog Res ε β) :
    runAlone exec (m >>= f) = runAlone exec m >>= fun a => runAlone exec (f a) := by
  induction m with
  | done a => rfl
  | fail e => rfl
  | call op next ih =>
    calc
      runAlone exec (call op next >>= f) = exec op >>= fun r => runAlone exec (next r >>= f) := rfl
      _ = exec op >>= fun r => runAlone exec (next r) >>= fun a => runAlone exec (f a) :=
        congrArg (exec op >>= ·) (funext ih)
      _ = runAlone exec (call op next) >>= fun a => runAlone exec (f a) :=
        (Store.bind_assoc _ _ _).symm

/-- A fold over items, by what holds of the items that are left. -/
theorem runAlone_foldlM {γ : Type} {exec : ∀ op, Store ε σ (Res op)} {f : α → γ → Prog Res ε α}
    {J : List γ → σ → Prop}
    (each : ∀ item rest a s, J (item :: rest) s →
      (runAlone exec (f a item)).Ends s fun x t => (∃ b, x = .ok b) ∧ J rest t)
    (items : List γ) {a : α} {s : σ} (start : J items s) :
    (runAlone exec (items.foldlM f a)).Ends s fun x t => (∃ b, x = .ok b) ∧ J [] t := by
  induction items generalizing a s with
  | nil => exact Store.Ends.pure ⟨⟨a, rfl⟩, start⟩
  | cons item rest ih =>
    have loop : (item :: rest).foldlM f a = f a item >>= fun b => rest.foldlM f b := rfl
    rw [loop, runAlone_bind]
    refine Store.Ends.bind (each item rest a s start) ?_ fun b t first => ih first.2
    rintro e t ⟨⟨b, ⟨⟩⟩, _⟩

/-- Inside a `try`, what was thrown ends the computation. -/
theorem runAlone_attempt_bind {δ : Type} {exec : ∀ op, Store ε σ (Res op)}
    {m : ExceptT δ (Prog Res ε) α} {f : α → ExceptT δ (Prog Res ε) β} {s : σ}
    {R : Except δ α → σ → Prop} {Q : Except ε (Except δ β) → σ → Prop}
    (first : (runAlone exec m.run).Ends s fun x t => ∃ y, x = .ok y ∧ R y t)
    (next : ∀ a t, R (.ok a) t → (runAlone exec (f a).run).Ends t Q)
    (thrown : ∀ e t, R (.error e) t → Q (.ok (.error e)) t) :
    (runAlone exec (m >>= f).run).Ends s Q := by
  have split : (m >>= f).run = m.run >>= ExceptT.bindCont f := rfl
  rw [split, runAlone_bind]
  refine Store.Ends.bind first ?_ ?_
  · rintro e t ⟨y, ⟨⟩, _⟩
  · rintro x t ⟨y, same, result⟩
    cases same
    cases x with
    | ok a => exact next a t result
    | error e => exact Store.Ends.pure (thrown e t result)

/-- After `h`, every operation the program performs meets `P` at the answers
it has by then, and its result meets `Q`. -/
def Meets (P : List (Did Res) → Op → Prop) (Q : List (Did Res) → α → Prop) :
    List (Did Res) → Prog Res ε α → Prop
  | h, done a => Q h a
  | _, fail _ => True
  | h, call op next => P h op ∧ ∀ r, Meets P Q (h ++ [⟨op, r⟩]) (next r)

section
variable {P : List (Did Res) → Op → Prop} {Q : List (Did Res) → α → Prop}

theorem meets_bind {R : List (Did Res) → β → Prop} {h : List (Did Res)} {m : Prog Res ε α}
    {f : α → Prog Res ε β} (first : Meets P Q h m) (rest : ∀ h' a, Q h' a → Meets P R h' (f a)) :
    Meets P R h (m >>= f) := by
  induction m generalizing h with
  | done a => exact rest h a first
  | fail e => trivial
  | call op next ih => exact ⟨first.1, fun r => ih r (first.2 r)⟩

theorem meets_weaken {R : List (Did Res) → α → Prop} {h : List (Did Res)} {m : Prog Res ε α}
    (first : Meets P Q h m) (sub : ∀ h' a, Q h' a → R h' a) : Meets P R h m := by
  induction m generalizing h with
  | done a => exact sub h a first
  | fail e => trivial
  | call op next ih => exact ⟨first.1, fun r => ih r (first.2 r)⟩

/-- The answers a program ends with extend those it started from. -/
theorem meets_grows {h : List (Did Res)} {m : Prog Res ε α} (first : Meets P Q h m) :
    Meets P (fun h' a => Q h' a ∧ h <+: h') h m := by
  induction m generalizing h with
  | done a => exact ⟨first, List.prefix_rfl⟩
  | fail e => trivial
  | call op next ih =>
    refine ⟨first.1, fun r => ?_⟩
    refine meets_weaken (ih r (first.2 r)) ?_
    rintro h' a ⟨result, grown⟩
    exact ⟨result, (List.prefix_append h _).trans grown⟩

theorem meets_perform {h : List (Did Res)} {op : Op} {Q : List (Did Res) → Res op → Prop}
    (now : P h op) (after : ∀ r, Q (h ++ [⟨op, r⟩]) r) :
    Meets P Q h (perform (ε := ε) op) :=
  ⟨now, after⟩

theorem meets_perform_bind {h : List (Did Res)} {op : Op} {f : Res op → Prog Res ε α}
    (now : P h op) (after : ∀ r, Meets P Q (h ++ [⟨op, r⟩]) (f r)) :
    Meets P Q h (perform op >>= f) :=
  ⟨now, after⟩

theorem meets_pure {h : List (Did Res)} {a : α} (result : Q h a) :
    Meets P Q h (pure a : Prog Res ε α) := result

theorem meets_throw {h : List (Did Res)} {e : ε} : Meets P Q h (throw e : Prog Res ε α) := trivial

theorem meets_ite {h : List (Did Res)} {p : Prop} [Decidable p] {m n : Prog Res ε α}
    (yes : p → Meets P Q h m) (no : ¬ p → Meets P Q h n) : Meets P Q h (if p then m else n) := by
  split
  · exact yes ‹_›
  · exact no ‹_›

theorem meets_trivial (h : List (Did Res)) (m : Prog Res ε α) :
    Meets (fun _ _ => True) (fun _ _ => True) h m := by
  induction m generalizing h with
  | done a => trivial
  | fail e => trivial
  | call op next ih => exact ⟨trivial, fun r => ih r _⟩

theorem meets_ops {P' : List (Did Res) → Op → Prop} {h : List (Did Res)} {m : Prog Res ε α}
    (first : Meets P Q h m) (sub : ∀ h' op, P h' op → P' h' op) : Meets P' Q h m := by
  induction m generalizing h with
  | done a => exact first
  | fail e => trivial
  | call op next ih => exact ⟨sub h op first.1, fun r => ih r (first.2 r)⟩

/-- Where every operation a program may perform keeps `I` and goes along `R`,
so does the program. -/
theorem runAlone_ends {exec : ∀ op, Store ε σ (Res op)} {I : σ → Prop} {R : σ → σ → Prop}
    (refl : ∀ s, R s s) (trans : ∀ s t u, R s t → R t u → R s u)
    (step : ∀ h op s, P h op → I s → (exec op).Ends s fun _ t => I t ∧ R s t)
    {h : List (Did Res)} {m : Prog Res ε α} (meets : Meets P Q h m) {s : σ} (hs : I s) :
    (runAlone exec m).Ends s fun x t => I t ∧ R s t ∧ ∀ a, x = .ok a → ∃ h', Q h' a := by
  induction m generalizing h s with
  | done a =>
    refine Store.Ends.pure ⟨hs, refl s, ?_⟩
    rintro b ⟨⟩
    exact ⟨h, meets⟩
  | fail e => exact Store.Ends.throw ⟨hs, refl s, by rintro a ⟨⟩⟩
  | call op next ih =>
    refine Store.Ends.bind (step h op s meets.1 hs) ?_ fun r t first => ?_
    · exact fun e t first => ⟨first.1, first.2, by rintro a ⟨⟩⟩
    · refine (ih r (meets.2 r) first.1).weaken ?_
      rintro x u ⟨hu, rest, result⟩
      exact ⟨hu, trans s t u first.2 rest, result⟩

theorem meets_forM {γ : Type} {h : List (Did Res)} {f : γ → Prog Res ε Unit} (items : List γ)
    {J : List (Did Res) → Prop} (start : J h)
    (each : ∀ item ∈ items, ∀ h', J h' → Meets P (fun h'' _ => J h'') h' (f item)) :
    Meets P (fun h'' _ => J h'') h (items.forM f) := by
  induction items generalizing h with
  | nil => exact start
  | cons item items ih =>
    refine meets_bind (each item List.mem_cons_self h start) ?_
    intro h' _ kept
    exact ih kept fun other ho => each other (List.mem_cons_of_mem item ho)

theorem meets_foldlM {γ : Type} {h : List (Did Res)} {f : α → γ → Prog Res ε α} {a : α}
    (items : List γ) {J : List (Did Res) → Prop} (start : J h)
    (each : ∀ item ∈ items, ∀ b h', J h' → Meets P (fun h'' _ => J h'') h' (f b item)) :
    Meets P (fun h'' _ => J h'') h (items.foldlM f a) := by
  induction items generalizing h a with
  | nil => exact start
  | cons item items ih =>
    refine meets_bind (each item List.mem_cons_self a h start) ?_
    intro h' b kept
    exact ih kept fun other ho => each other (List.mem_cons_of_mem item ho)

/-- A computation inside a `try` goes on after a value and ends at an error. -/
theorem meets_attempt_bind {δ : Type} {R : List (Did Res) → Except δ α → Prop}
    {S : List (Did Res) → Except δ β → Prop} {h : List (Did Res)} {m : ExceptT δ (Prog Res ε) α}
    {f : α → ExceptT δ (Prog Res ε) β} (first : Meets P R h m.run)
    (next : ∀ h' a, R h' (.ok a) → Meets P S h' (f a).run)
    (thrown : ∀ h' e, R h' (.error e) → S h' (.error e)) : Meets P S h (m >>= f).run := by
  refine meets_bind (Q := R) first fun h' x result => ?_
  cases x with
  | ok a => exact next h' a result
  | error e => exact thrown h' e result

theorem meets_attempt_perform_bind {δ : Type} {S : List (Did Res) → Except δ β → Prop}
    {h : List (Did Res)} {op : Op} {f : Res op → ExceptT δ (Prog Res ε) β} (now : P h op)
    (after : ∀ r, Meets P S (h ++ [⟨op, r⟩]) (f r).run) :
    Meets P S h (ExceptT.lift (perform op) >>= f).run :=
  ⟨now, after⟩

/-- What a program inside a `try` performs is what the program performs. -/
theorem meets_caught {δ : Type} {P : Op → Prop} {h : List (Did Res)}
    {k : List (Did fun op => Except ε (Res op))} {m : Prog Res ε α}
    (meets : Meets (fun _ op => P op) (fun _ _ => True) h m) :
    Meets (fun _ op => P op) (fun _ _ => True) k
      (m.caught : Prog (fun op => Except ε (Res op)) δ (Except ε α)) := by
  induction m generalizing h k with
  | done a => trivial
  | fail e => trivial
  | call op next ih =>
    refine ⟨meets.1, fun answer => ?_⟩
    cases answer with
    | ok r => exact ih r (meets.2 r)
    | error e => trivial

theorem meets_given_bind {h : List (Did Res)} {x : Except ε α} {f : α → Prog Res ε β}
    {R : List (Did Res) → β → Prop} (known : ∀ a, x = .ok a → Meets P R h (f a)) :
    Meets P R h (given x >>= f) := by
  cases x with
  | ok a => exact known a rfl
  | error e => exact meets_throw

theorem meets_require_bind {h : List (Did Res)} {p : Prop} [Decidable p] {e : ε}
    {f : Unit → Prog Res ε α} (passed : p → Meets P Q h (f ())) :
    Meets P Q h (require p e >>= f) := by
  by_cases hp : p
  · have hr : (require p e : Prog Res ε Unit) = pure () := if_pos hp
    rw [hr]
    exact passed hp
  · have hr : (require p e : Prog Res ε Unit) = throw e := if_neg hp
    rw [hr]
    exact meets_throw

end

/-- What a program performed until its end, each operation with its answer. -/
inductive Performed : Prog Res ε α → List (Did Res) → α → Prop where
  | done (a : α) : Performed (done a) [] a
  | call (op : Op) (next : Res op → Prog Res ε α) (r : Res op) {log : List (Did Res)} {a : α}
      (later : Performed (next r) log a) : Performed (call op next) (⟨op, r⟩ :: log) a

theorem Performed.meets {P : List (Did Res) → Op → Prop} {Q : List (Did Res) → α → Prop}
    {h log : List (Did Res)} {m : Prog Res ε α} {a : α} (performed : Performed m log a)
    (meets : Meets P Q h m) : Q (h ++ log) a := by
  induction performed generalizing h with
  | done a =>
    rw [List.append_nil]
    exact meets
  | call op next r later ih =>
    have rest := ih (meets.2 r)
    rwa [List.append_assoc] at rest

/-- Each operation met what it had to at the answers there were by then. -/
theorem Performed.each {P : List (Did Res) → Op → Prop} {Q : List (Did Res) → α → Prop}
    {h log : List (Did Res)} {m : Prog Res ε α} {a : α} (performed : Performed m log a)
    (meets : Meets P Q h m) {before after : List (Did Res)} {d : Did Res}
    (split : log = before ++ d :: after) : P (h ++ before) d.op := by
  induction performed generalizing h before with
  | done a => exact absurd split (by simp)
  | call op next r later ih =>
    cases before with
    | nil =>
      obtain ⟨rfl, _⟩ := List.cons.inj split
      rw [List.append_nil]
      exact meets.1
    | cons first before =>
      obtain ⟨rfl, rest⟩ := List.cons.inj split
      have met := ih (meets.2 r) rest
      rwa [List.append_assoc] at met

end Prog

end VantGrowth.Lib
