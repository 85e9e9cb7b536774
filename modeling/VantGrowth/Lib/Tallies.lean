import Mathlib.Algebra.BigOperators.Group.Finset.Piecewise
import Mathlib.Algebra.Order.BigOperators.Group.Finset
import VantGrowth.Lib.Interleaving

namespace VantGrowth.Lib
open Logs (split_snoc)

namespace Prog
variable {Op : Type} {Res : Op → Type} {ε α β : Type} {S : Op → Prop}

/-- Whatever it is answered, the program performs only operations in `S`. -/
def Only (S : Op → Prop) : Prog Res ε α → Prop
  | done _ | fail _ => True
  | call op next => S op ∧ ∀ r, Only S (next r)

theorem only_pure (a : α) : Only S (pure a : Prog Res ε α) := trivial

theorem only_throw (e : ε) : Only S (throw e : Prog Res ε α) := trivial

theorem only_perform {op : Op} (allowed : S op) : Only S (perform op : Prog Res ε (Res op)) :=
  ⟨allowed, fun _ => trivial⟩

theorem only_bind {m : Prog Res ε α} {f : α → Prog Res ε β} (first : Only S m)
    (rest : ∀ a, Only S (f a)) : Only S (m >>= f) := by
  induction m with
  | done a => exact rest a
  | fail e => trivial
  | call op next ih => exact ⟨first.1, fun r => ih r (first.2 r)⟩

theorem only_ite {p : Prop} [Decidable p] {m n : Prog Res ε α} (yes : Only S m) (no : Only S n) :
    Only S (if p then m else n) := by
  split
  · exact yes
  · exact no

theorem only_require (p : Prop) [Decidable p] (e : ε) : Only S (require p e : Prog Res ε Unit) :=
  only_ite (only_pure ()) (only_throw e)

theorem Only.mono {T : Op → Prop} {m : Prog Res ε α} (only : Only S m) (sub : ∀ op, S op → T op) : Only T m := by
  induction m with
  | done a => trivial
  | fail e => trivial
  | call op next ih => exact ⟨sub op only.1, fun r => ih r (only.2 r)⟩

/-- What such a program adds to a history is in `S`. -/
theorem Only.meets {P : List (Did Res) → Op → Prop} (allowed : ∀ k op, S op → P k op)
    {m : Prog Res ε α} (only : Only S m) (h : List (Did Res)) :
    Meets P (fun k _ => ∃ l, k = h ++ l ∧ ∀ d ∈ l, S d.op) h m := by
  induction m generalizing h with
  | done a => exact ⟨[], by simp⟩
  | fail e => trivial
  | call op next ih =>
    refine ⟨allowed h op only.1, fun r => ?_⟩
    refine meets_weaken (ih r (only.2 r) (h ++ [⟨op, r⟩])) ?_
    rintro k a ⟨l, rfl, kept⟩
    refine ⟨⟨op, r⟩ :: l, by simp, ?_⟩
    intro d member
    rcases List.mem_cons.mp member with rfl | later
    · exact only.1
    · exact kept d later

/-- Two specifications of one program hold together. -/
theorem meets_and {P P' : List (Did Res) → Op → Prop} {Q Q' : List (Did Res) → α → Prop}
    {h : List (Did Res)} {m : Prog Res ε α} (first : Meets P Q h m) (second : Meets P' Q' h m) :
    Meets (fun k op => P k op ∧ P' k op) (fun k a => Q k a ∧ Q' k a) h m := by
  induction m generalizing h with
  | done a => exact ⟨first, second⟩
  | fail e => trivial
  | call op next ih => exact ⟨⟨first.1, second.1⟩, fun r => ih r (first.2 r) (second.2 r)⟩

end Prog

/-- Where one count is below another for every owner, it is below it in all. -/
theorem countP_le_of_owners {α ι : Type} [DecidableEq ι] {owner : α → ι} {p q : α → Bool} {l : List α}
    (each : ∀ i, l.countP (fun a => p a && decide (owner a = i)) ≤ l.countP fun a => q a && decide (owner a = i)) :
    l.countP p ≤ l.countP q := by
  have total : ∀ (r : α → Bool) (k : List α) (owners : Finset ι), (∀ a ∈ k, owner a ∈ owners) →
      k.countP r = ∑ i ∈ owners, k.countP fun a => r a && decide (owner a = i) := by
    intro r k owners named
    induction k with
    | nil => simp
    | cons a k ih =>
      have here := named a List.mem_cons_self
      simp only [List.countP_cons, Finset.sum_add_distrib]
      rw [← ih fun b member => named b (List.mem_cons_of_mem a member)]
      congr 1
      by_cases counts : r a = true <;> simp [counts, here]
  have named : ∀ a ∈ l, owner a ∈ (l.map owner).toFinset := by
    intro a member
    exact List.mem_toFinset.mpr (List.mem_map_of_mem member)
  rw [total p l _ named, total q l _ named]
  exact Finset.sum_le_sum fun i _ => each i

namespace Machine
variable {Op : Type} {Res : Op → Type} {ε σ Start α : Type}

/-- The worker an entry is about. -/
def Entry.worker : Entry Res ε Start → Option Nat
  | .did (.worker i _) _ _ => some i
  | _ => none

/-- An operation that was answered. -/
def Entry.answer : Entry Res ε Start → Option (Did Res)
  | .did _ op (.ok r) => some ⟨op, r⟩
  | _ => none

/-- The entry is about an operation of a kind. -/
def Entry.performs (kind : Op → Bool) : Entry Res ε Start → Bool
  | .did _ op _ => kind op
  | .spawned _ _ => false

theorem history_countP (i : Nat) (log : List (Entry Res ε Start)) (p : Did Res → Bool) :
    (history i log).countP p =
      log.countP fun e => e.answer.any p && decide (e.worker = some i) := by
  induction log with
  | nil => rfl
  | cons e log ih =>
    rw [← List.singleton_append, history_append, List.countP_append, List.countP_append, ih]
    congr 1
    cases e with
    | spawned j s => simp [history, Entry.answer]
    | did actor op r =>
      cases actor with
      | settled j s => cases r <;> simp [history, Entry.answer, Entry.worker]
      | outside => cases r <;> simp [history, Entry.answer, Entry.worker]
      | worker j s =>
        cases r with
        | error x => simp [history, Entry.answer]
        | ok r => by_cases here : j = i <;> simp [history, Entry.answer, Entry.worker, here]

/-- What an actor from outside did, the schedule let it do. -/
theorem outside_labelled {m : Machine Res ε σ Start α} {labels : List (Label Op Start)}
    {c : Config Res ε σ Start α} {op : Op} {r : Except ε (Res op)}
    (did : .did .outside op r ∈ (runs m.step c labels).log) :
    .did .outside op r ∈ c.log ∨ .outside op ∈ labels := by
  induction labels generalizing c with
  | nil => exact Or.inl did
  | cons l labels ih =>
    rcases ih did with before | later
    · cases l with
      | spawn t =>
        simp only [Machine.step] at before
        split at before
        · exact Or.inl (by simpa using before)
        · exact Or.inl before
      | run j =>
        simp only [Machine.step] at before
        split at before
        · exact Or.inl (by simpa [Machine.record] using before)
        · exact Or.inl before
      | settle j =>
        simp only [Machine.step] at before
        split at before
        · split at before
          · exact Or.inl (by simpa [Machine.record] using before)
          · exact Or.inl before
        · exact Or.inl before
      | outside op' =>
        simp only [Machine.step] at before
        split at before
        · rcases List.mem_append.mp before with before | now
          · exact Or.inl before
          · cases List.mem_singleton.mp now
            exact Or.inr List.mem_cons_self
        · exact Or.inl before
    · exact Or.inr (List.mem_cons_of_mem l later)

section
variable {m : Machine Res ε σ Start α} {P : Start → List (Did Res) → Op → Prop}
  {Q : Start → List (Did Res) → α → Prop} {init : σ}

/-- What is `earned` in a log. -/
def answers (earned : Did Res → Bool) (log : List (Entry Res ε Start)) : Nat :=
  log.countP (·.answer.any earned)

theorem answers_snoc (earned : Did Res → Bool) (log : List (Entry Res ε Start)) (e : Entry Res ε Start) :
    answers earned (log ++ [e]) = answers earned log + if e.answer.any earned = true then 1 else 0 := by
  rw [answers, List.countP_append, List.countP_singleton]
  rfl

/-- What is `spent` in a log, answered or not. -/
def attempts (spent : Op → Bool) (log : List (Entry Res ε Start)) : Nat :=
  log.countP (·.performs spent)

/-- Up to an operation of a worker all its operations were answered. -/
theorem attempts_answered {a : List (Entry Res ε Start)} {i : Nat} {s : Start} {op : Op}
    {r : Except ε (Res op)} (halts : ∀ e ∈ a, SilentAfter e (.did (.worker i s) op r))
    (spent : Op → Bool) :
    (a.countP fun e => e.performs spent && decide (e.worker = some i)) =
      (history i a).countP fun d => spent d.op := by
  rw [history_countP]
  apply List.countP_congr
  intro e member
  cases e with
  | spawned j t => simp [Entry.performs, Entry.answer]
  | did actor op' r' =>
    cases r' with
    | ok r' => simp [Entry.performs, Entry.answer]
    | error x =>
      cases actor with
      | settled j t => simp [Entry.worker]
      | outside => simp [Entry.worker]
      | worker j t =>
        have apart : j ≠ i := by
          rintro rfl
          exact halts _ member j t op' x s op r rfl rfl
        simp [Entry.worker, apart]

/-- An operation that only workers perform, each with more `earned` answers than
it performed before, is performed no more often than that in all. An operation
whose answer is lost counts: a worker that got an error does nothing more. -/
theorem Valid.attempts_le {log : List (Entry Res ε Start)} (valid : Valid m P Q init log)
    (halts : log.Pairwise SilentAfter) {spent : Op → Bool} {earned : Did Res → Bool}
    (workers : ∀ op, spent op = true → m.outside op = false ∧ ∀ s, m.acknowledge s ≠ some op)
    (asks : ∀ s h op, P s h op → spent op = true →
      h.countP (fun d => spent d.op) < h.countP earned) : attempts spent log ≤ answers earned log := by
  refine @countP_le_of_owners _ _ _ Entry.worker _ _ _ fun owner => ?_
  induction log using List.reverseRecOn with
  | nil => exact Nat.le_refl _
  | append_singleton a e ih =>
    have silent := List.pairwise_append.mp halts
    have earlier := ih valid.init_ silent.1
    rw [List.countP_append, List.countP_append, List.countP_singleton, List.countP_singleton]
    by_cases counts : (e.performs spent && decide (e.worker = owner)) = true
    · rw [if_pos counts]
      obtain ⟨performs, own⟩ := Bool.and_eq_true_iff.mp counts
      cases e with
      | spawned i s => cases performs
      | did actor op r =>
        obtain ⟨inside, unacknowledged⟩ := workers op performs
        cases actor with
        | outside => exact absurd (valid.outside a [] op r rfl) (by simp [inside])
        | settled i s => exact absurd (valid.settled a [] i s op r rfl).2.1 (unacknowledged s)
        | worker i s =>
          obtain rfl : some i = owner := of_decide_eq_true own
          have fewer := asks s _ op (valid.worked a [] i s op r rfl).2 performs
          rw [attempts_answered (fun e' member => silent.2.2 e' member _ (List.mem_singleton_self _)) spent]
          rw [history_countP i a earned] at fewer
          omega
    · rw [if_neg counts]
      omega

end

end Machine

end VantGrowth.Lib
