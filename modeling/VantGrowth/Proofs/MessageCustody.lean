import VantGrowth.Core.DurableConsumer
import VantGrowth.Lib.Runs

namespace VantGrowth.Proofs.MessageCustody
open Core Lib Lib.Logs

/-- The server will deliver the message, or deliver it again unless a reply
comes. -/
def Deliverable (config : DurableJetStreamConsumerConfig) (m : StreamMessage) : Prop :=
  m.settled = false ∧ m.deliveries < config.maxDeliver

/-- A process holds the message. -/
def Held (s : Broker) (n : Nat) : Prop :=
  ∃ process context at_, s.loops process = .awaiting context at_ ∧ context.streamSequence = n

/-- The message is not lost: it comes again, a process has it, or a call that
completed took it over. -/
def Accounted (config : DurableJetStreamConsumerConfig) (s : Broker) (n : Nat)
    (m : StreamMessage) : Prop :=
  Deliverable config m ∨ Held s n ∨ (m.phase = .acknowledged ∧ m.handled = true) ∨
    m.deadLettered = true

/-- Letting go of the message leaves it to another delivery, or to what has
become of it already. -/
def spared (config : DurableJetStreamConsumerConfig) (s : Broker)
    (context : DurableMessageContext) : Bool :=
  context.redeliveryCount < config.maxDeliver ||
    (s.messages context.streamSequence).any fun m => m.settled || m.deadLettered

/-- No process lets go of the last delivery of a message before it was
acknowledged or its dead letter recorded: neither by a crash nor because the
dead letter fails. -/
def KeepsLast (config : DurableJetStreamConsumerConfig) (s : Broker) : Event → Bool
  | .finish process (.error _) =>
    match s.loops process with
    | .awaiting context (.onExhausted _) => spared config s context
    | _ => true
  | .crash process ended =>
    match s.loops process, ended with
    | .awaiting _ (.onExhausted _), some (.ok ()) => true
    | .awaiting context _, _ => spared config s context
    | .idle, _ => true
  | _ => true

/-- What holds of a message whatever fails. -/
structure MessageSound (config : DurableJetStreamConsumerConfig) (m : StreamMessage) : Prop where
  bounded : m.deliveries ≤ config.maxDeliver
  acknowledged : m.phase = .acknowledged → m.handled = true
  terminated : m.phase = .terminated → m.deadLettered = true

structure Sound (config : DurableJetStreamConsumerConfig) (s : Broker) : Prop where
  fresh : ∀ n, s.published ≤ n → s.messages n = none
  messages : ∀ n m, s.messages n = some m → MessageSound config m
  exhausted : ∀ process context error, s.loops process = .awaiting context (.onExhausted error) →
    config.maxDeliver ≤ context.redeliveryCount

/-- The last delivery of a message that is neither settled nor dead-lettered is
in the hands of a process. -/
def Guarded (config : DurableJetStreamConsumerConfig) (s : Broker) : Prop :=
  ∀ n m, s.messages n = some m → m.settled = false → m.deadLettered = false →
    m.deliveries = config.maxDeliver → ∃ process context at_,
      s.loops process = .awaiting context at_ ∧ context.streamSequence = n ∧
        config.maxDeliver ≤ context.redeliveryCount

section
variable {config : DurableJetStreamConsumerConfig} {m : StreamMessage}

/-- A change of a message that keeps what its custody rests on. -/
structure Change (config : DurableJetStreamConsumerConfig) (change : StreamMessage → StreamMessage) :
    Prop where
  sound : ∀ m, MessageSound config m → MessageSound config (change m)
  open_ : ∀ m, (change m).settled = false → m.settled = false
  deliveries : ∀ m, (change m).deliveries = m.deliveries
  letter : ∀ m, (change m).deadLettered = false → m.deadLettered = false

theorem Change.same : Change config id :=
  ⟨fun _ h => h, fun _ h => h, fun _ => rfl, fun _ h => h⟩

theorem Change.comp {f g : StreamMessage → StreamMessage} (hg : Change config g)
    (hf : Change config f) : Change config fun m => g (f m) where
  sound m h := hg.sound _ (hf.sound m h)
  open_ m h := hf.open_ m (hg.open_ _ h)
  deliveries m := (hg.deliveries _).trans (hf.deliveries m)
  letter m h := hf.letter m (hg.letter _ h)

theorem effect_change (at_ : Await) (outcome : Outcome) :
    Change config fun m => m.effect at_ outcome := by
  cases at_ with
  | handler =>
    cases outcome with
    | error e => exact .same
    | ok u => exact ⟨fun m h => ⟨h.bounded, fun _ => rfl, h.terminated⟩, fun _ h => h, fun _ => rfl,
        fun _ h => h⟩
  | onExhausted e =>
    cases outcome with
    | error e => exact .same
    | ok u => exact ⟨fun m h => ⟨h.bounded, h.acknowledged, fun _ => rfl⟩, fun _ h => h, fun _ => rfl,
        fun _ h => by cases h⟩

theorem reply_open {r : Reply} (h : (m.reply r).settled = false) : m.settled = false := by
  cases hs : m.settled with
  | false => rfl
  | true =>
    unfold StreamMessage.reply at h
    rw [if_pos hs, hs] at h
    exact h

theorem reply_frame (m : StreamMessage) (r : Reply) :
    (m.reply r).deliveries = m.deliveries ∧ (m.reply r).deadLettered = m.deadLettered := by
  unfold StreamMessage.reply
  split
  · exact ⟨rfl, rfl⟩
  · cases r <;> exact ⟨rfl, rfl⟩

theorem nak_change (delayMs : Nat) : Change config fun m => m.reply (.nak delayMs) := by
  refine ⟨fun m h => ?_, fun m h => reply_open h, fun m => (reply_frame m _).1, fun m h => ?_⟩
  · unfold StreamMessage.reply
    split
    · exact h
    · refine ⟨h.bounded, ?_, ?_⟩ <;> rintro ⟨⟩
  · exact (reply_frame m _).2.symm.trans h

/-- A reply that settles a message comes after the call that licenses it. -/
theorem settling_change {at_ : Await} {r : Reply}
    (licensed : ∀ m, MessageSound config m →
      MessageSound config ((m.effect at_ (.ok ())).reply r)) :
    Change config fun m => (m.effect at_ (.ok ())).reply r := by
  have effect : Change config _ := effect_change at_ (.ok ())
  refine ⟨licensed, fun m h => effect.open_ m (reply_open h), fun m => ?_, fun m h => ?_⟩
  · exact (reply_frame _ _).1.trans (effect.deliveries m)
  · exact effect.letter m ((reply_frame _ _).2.symm.trans h)

theorem ack_change : Change config fun m => (m.effect .handler (.ok ())).reply .ack := by
  refine settling_change fun m h => ?_
  have effect : Change config _ := effect_change .handler (.ok ())
  have sound := effect.sound m h
  unfold StreamMessage.reply
  split
  · exact sound
  · exact ⟨sound.bounded, fun _ => rfl, by rintro ⟨⟩⟩

theorem term_change (error reason : String) :
    Change config fun m => (m.effect (.onExhausted error) (.ok ())).reply (.term reason) := by
  refine settling_change fun m h => ?_
  have effect : Change config _ := effect_change (.onExhausted error) (.ok ())
  have sound := effect.sound m h
  unfold StreamMessage.reply
  split
  · exact sound
  · exact ⟨sound.bounded, by rintro ⟨⟩, fun _ => rfl⟩

end

section
variable {config : DurableJetStreamConsumerConfig} {s : Broker}

theorem accounted_of_guarded (sound : Sound config s) (guarded : Guarded config s) {n : Nat}
    {m : StreamMessage} (stored : s.messages n = some m) : Accounted config s n m := by
  have h := sound.messages n m stored
  cases hd : m.deadLettered with
  | true => exact Or.inr (Or.inr (Or.inr hd))
  | false =>
    cases hs : m.settled with
    | false =>
      rcases Nat.lt_or_eq_of_le h.bounded with more | last
      · exact Or.inl ⟨hs, more⟩
      · obtain ⟨process, context, at_, holds, same, _⟩ := guarded n m stored hs hd last
        exact Or.inr (Or.inl ⟨process, context, at_, holds, same⟩)
    | true =>
      cases hp : m.phase with
      | acknowledged => exact Or.inr (Or.inr (Or.inl ⟨hp, h.acknowledged hp⟩))
      | terminated =>
        rw [h.terminated hp] at hd
        cases hd
      | waiting => simp [StreamMessage.settled, hp] at hs
      | outstanding => simp [StreamMessage.settled, hp] at hs

/-- A process goes on with the message it holds: it keeps hold of it, or another
delivery may follow, or the message is in safe hands. -/
theorem advance_guarded (guarded : Guarded config s) {process : Nat}
    {context : DurableMessageContext} {at_ : Await} {change : StreamMessage → StreamMessage}
    {loop : Loop} (holds : s.loops process = .awaiting context at_) (changed : Change config change)
    (safe : (∃ next, loop = .awaiting context next) ∨ context.redeliveryCount < config.maxDeliver ∨
      ∀ m, s.messages context.streamSequence = some m →
        (change m).settled = true ∨ (change m).deadLettered = true) :
    Guarded config (s.advance process context change loop) := by
  intro n m stored hs hd last
  have before : ∃ old, s.messages n = some old ∧ old.settled = false ∧ old.deadLettered = false ∧
      old.deliveries = config.maxDeliver ∧ (n = context.streamSequence → m = change old) := by
    by_cases same : n = context.streamSequence
    · subst same
      simp only [Broker.advance, Function.update_self] at stored
      obtain ⟨old, found, rfl⟩ := Option.map_eq_some_iff.mp stored
      exact ⟨old, found, changed.open_ old hs, changed.letter old hd,
        (changed.deliveries old).symm.trans last, fun _ => rfl⟩
    · simp only [Broker.advance, Function.update_of_ne same] at stored
      exact ⟨m, stored, hs, hd, last, fun he => absurd he same⟩
  obtain ⟨old, found, hs', hd', last', now⟩ := before
  obtain ⟨holder, held, next, hl, sequence, enough⟩ := guarded n old found hs' hd' last'
  by_cases same : holder = process
  · subst same
    rw [holds] at hl
    cases hl
    rcases safe with ⟨next, rfl⟩ | more | done
    · exact ⟨holder, context, next, Function.update_self .., sequence, enough⟩
    · omega
    · obtain rfl := now sequence.symm
      rcases done old (sequence ▸ found) with settled | letter
      · rw [settled] at hs
        cases hs
      · rw [letter] at hd
        cases hd
  · exact ⟨holder, held, next, (Function.update_of_ne same ..).trans hl, sequence, enough⟩

theorem advance_sound (sound : Sound config s) {process : Nat} {context : DurableMessageContext}
    {change : StreamMessage → StreamMessage} {loop : Loop} (changed : Change config change)
    (exhausted : ∀ next error, loop = .awaiting next (.onExhausted error) →
      config.maxDeliver ≤ next.redeliveryCount) :
    Sound config (s.advance process context change loop) := by
  refine ⟨?_, ?_, ?_⟩
  · intro n beyond
    have absent := sound.fresh n beyond
    by_cases same : n = context.streamSequence
    · subst same
      simp only [Broker.advance, Function.update_self, absent, Option.map_none]
    · simp only [Broker.advance, Function.update_of_ne same, absent]
  · intro n m stored
    by_cases same : n = context.streamSequence
    · subst same
      simp only [Broker.advance, Function.update_self] at stored
      obtain ⟨old, found, rfl⟩ := Option.map_eq_some_iff.mp stored
      exact changed.sound old (sound.messages _ old found)
    · simp only [Broker.advance, Function.update_of_ne same] at stored
      exact sound.messages n m stored
  · intro other next error holds
    by_cases same : other = process
    · subst same
      simp only [Broker.advance, Function.update_self] at holds
      exact exhausted next error holds
    · simp only [Broker.advance, Function.update_of_ne same] at holds
      exact sound.exhausted other next error holds

theorem advance_both (sound : Sound config s) (guarded : Guarded config s) {process : Nat}
    {context : DurableMessageContext} {at_ : Await} {change : StreamMessage → StreamMessage}
    {loop : Loop} (holds : s.loops process = .awaiting context at_) (changed : Change config change)
    (exhausted : ∀ next error, loop = .awaiting next (.onExhausted error) →
      config.maxDeliver ≤ next.redeliveryCount)
    (safe : (∃ next, loop = .awaiting context next) ∨ context.redeliveryCount < config.maxDeliver ∨
      ∀ m, s.messages context.streamSequence = some m →
        (change m).settled = true ∨ (change m).deadLettered = true) :
    Sound config (s.advance process context change loop) ∧
      Guarded config (s.advance process context change loop) :=
  ⟨advance_sound sound changed exhausted, advance_guarded guarded holds changed safe⟩

/-- A change keeps a message that is settled or dead-lettered so. -/
theorem Change.keeps {change : StreamMessage → StreamMessage} (changed : Change config change)
    {m : StreamMessage} (done : m.settled = true ∨ m.deadLettered = true) :
    (change m).settled = true ∨ (change m).deadLettered = true := by
  rcases done with settled | letter
  · cases after : (change m).settled with
    | true => exact Or.inl rfl
    | false =>
      rw [changed.open_ m after] at settled
      cases settled
  · cases after : (change m).deadLettered with
    | true => exact Or.inr rfl
    | false =>
      rw [changed.letter m after] at letter
      cases letter

theorem spared_safe {context : DurableMessageContext} {change : StreamMessage → StreamMessage}
    (changed : Change config change) (h : spared config s context = true) :
    context.redeliveryCount < config.maxDeliver ∨
      ∀ m, s.messages context.streamSequence = some m →
        (change m).settled = true ∨ (change m).deadLettered = true := by
  simp only [spared, Bool.or_eq_true, decide_eq_true_eq] at h
  refine h.imp_right fun done m stored => changed.keeps ?_
  simpa [stored] using done

theorem finish_awaiting {process : Nat} {context : DurableMessageContext} {at_ : Await} (outcome : Outcome)
    (holds : s.loops process = .awaiting context at_) :
    s.step config (.finish process outcome) = s.advance process context
      (fun m => match (resume config context at_ outcome).2 with
        | some r => (m.effect at_ outcome).reply r
        | none => m.effect at_ outcome)
      (resume config context at_ outcome).1 := by
  simp only [Broker.step]
  rewrite [holds]
  rfl

theorem finish_both (sound : Sound config s) (guarded : Guarded config s) (process : Nat)
    (outcome : Outcome) (kept : KeepsLast config s (.finish process outcome) = true) :
    Sound config (s.step config (.finish process outcome)) ∧
      Guarded config (s.step config (.finish process outcome)) := by
  cases holds : s.loops process with
  | idle =>
    have same : s.step config (.finish process outcome) = s := by simp [Broker.step, holds]
    rw [same]
    exact ⟨sound, guarded⟩
  | awaiting context at_ =>
    rw [finish_awaiting outcome holds]
    cases at_ with
    | handler =>
      cases outcome with
      | ok u =>
        refine advance_both sound guarded holds ack_change (by rintro _ _ ⟨⟩)
          (Or.inr (Or.inr fun m _ => Or.inl ?_))
        simp only [resume]
        unfold StreamMessage.reply
        split
        · assumption
        · rfl
      | error e =>
        by_cases last : config.maxDeliver ≤ context.redeliveryCount
        · simp only [resume, if_pos last]
          refine advance_both sound guarded holds (effect_change _ _) ?_ (Or.inl ⟨_, rfl⟩)
          rintro next error ⟨⟩
          exact last
        · simp only [resume, if_neg last]
          exact advance_both sound guarded holds ((nak_change _).comp (effect_change _ _))
            (by rintro _ _ ⟨⟩) (Or.inr (Or.inl (Nat.lt_of_not_le last)))
    | onExhausted error =>
      cases outcome with
      | ok u =>
        refine advance_both sound guarded holds (term_change error _) (by rintro _ _ ⟨⟩)
          (Or.inr (Or.inr fun m _ => Or.inr ?_))
        exact (reply_frame _ _).2
      | error e =>
        have changed : Change config fun m =>
            (m.effect (.onExhausted error) (.error e)).reply (.nak config.retryDelayMs) :=
          (nak_change _).comp (effect_change _ _)
        have kept : spared config s context = true := by simpa [KeepsLast, holds] using kept
        exact advance_both sound guarded holds changed (by rintro _ _ ⟨⟩)
          (Or.inr (spared_safe changed kept))

theorem crash_both (sound : Sound config s) (guarded : Guarded config s) (process : Nat)
    (ended : Option Outcome) (kept : KeepsLast config s (.crash process ended) = true) :
    Sound config (s.step config (.crash process ended)) ∧
      Guarded config (s.step config (.crash process ended)) := by
  cases holds : s.loops process with
  | idle =>
    have same : s.step config (.crash process ended) = s := by simp [Broker.step, holds]
    rw [same]
    exact ⟨sound, guarded⟩
  | awaiting context at_ =>
    have next : s.step config (.crash process ended) =
        s.advance process context (fun m => ended.elim m (m.effect at_)) .idle := by
      simp [Broker.step, holds]
    have changed : Change config fun m => ended.elim m (m.effect at_) := by
      cases ended with
      | none => exact .same
      | some outcome => exact effect_change at_ outcome
    rw [next]
    refine advance_both sound guarded holds changed (by rintro _ _ ⟨⟩) (Or.inr ?_)
    simp only [KeepsLast, holds] at kept
    split at kept
    · rename_i held error given
      cases given
      exact Or.inr fun m _ => Or.inr rfl
    · rename_i held at' given _
      cases given
      exact spared_safe changed kept
    · rename_i given
      cases given

theorem expire_both (sound : Sound config s) (guarded : Guarded config s) (n : Nat) :
    Sound config (s.step config (.expire n)) ∧ Guarded config (s.step config (.expire n)) := by
  have changed : Change config fun m => m.reply (.nak 0) := nak_change 0
  have old : ∀ k m, (s.step config (.expire n)).messages k = some m → ∃ before,
      s.messages k = some before ∧ (m = before ∨ m = before.reply (.nak 0)) := by
    intro k m stored
    by_cases same : k = n
    · subst same
      simp only [Broker.step, Function.update_self] at stored
      obtain ⟨before, found, rfl⟩ := Option.map_eq_some_iff.mp stored
      exact ⟨before, found, Or.inr rfl⟩
    · simp only [Broker.step, Function.update_of_ne same] at stored
      exact ⟨m, stored, Or.inl rfl⟩
  refine ⟨⟨?_, ?_, sound.exhausted⟩, ?_⟩
  · intro k beyond
    cases stored : (s.step config (.expire n)).messages k with
    | none => rfl
    | some m =>
      obtain ⟨before, found, _⟩ := old k m stored
      rw [sound.fresh k beyond] at found
      cases found
  · intro k m stored
    obtain ⟨before, found, rfl | rfl⟩ := old k m stored
    · exact sound.messages k _ found
    · exact changed.sound before (sound.messages k before found)
  · intro k m stored hs hd last
    obtain ⟨before, found, rfl | rfl⟩ := old k m stored
    · exact guarded k _ found hs hd last
    · exact guarded k before found (changed.open_ before hs) (changed.letter before hd)
        ((changed.deliveries before).symm.trans last)

theorem publish_both (sound : Sound config s) (guarded : Guarded config s) (subject : String) :
    Sound config (s.step config (.publish subject)) ∧
      Guarded config (s.step config (.publish subject)) := by
  refine ⟨⟨?_, ?_, sound.exhausted⟩, ?_⟩
  · intro n beyond
    have beyond : s.published + 1 ≤ n := beyond
    have other : n ≠ s.published := by omega
    exact (Function.update_of_ne other ..).trans (sound.fresh n (by omega))
  · intro n m stored
    by_cases same : n = s.published
    · subst same
      simp only [Broker.step, Function.update_self] at stored
      cases stored
      exact ⟨Nat.zero_le _, by rintro ⟨⟩, by rintro ⟨⟩⟩
    · simp only [Broker.step, Function.update_of_ne same] at stored
      exact sound.messages n m stored
  · intro n m stored hs hd last
    by_cases same : n = s.published
    · subst same
      simp only [Broker.step, Function.update_self] at stored
      cases stored
      have undelivered : 0 = config.maxDeliver := last
      have := config.allowed.1
      omega
    · simp only [Broker.step, Function.update_of_ne same] at stored
      exact guarded n m stored hs hd last

/-- A delivery hands the message to an idle process. -/
theorem deliver_both (sound : Sound config s) (guarded : Guarded config s) (n process : Nat) :
    Sound config (s.step config (.deliver n process)) ∧
      Guarded config (s.step config (.deliver n process)) := by
  unfold Broker.step
  dsimp only
  split
  · rename_i m found idle
    split
    · rename_i due
      refine ⟨⟨?_, ?_, ?_⟩, ?_⟩
      · intro k beyond
        have absent := sound.fresh k beyond
        have other : k ≠ n := by
          rintro rfl
          rw [absent] at found
          cases found
        exact (Function.update_of_ne other ..).trans absent
      · intro k m' stored
        by_cases same : k = n
        · subst same
          simp only [Function.update_self] at stored
          cases stored
          exact ⟨due.2, by rintro ⟨⟩, by rintro ⟨⟩⟩
        · simp only [Function.update_of_ne same] at stored
          exact sound.messages k m' stored
      · intro other context error holds
        by_cases same : other = process
        · subst same
          simp only [Function.update_self] at holds
          cases holds
        · simp only [Function.update_of_ne same] at holds
          exact sound.exhausted other context error holds
      · intro k m' stored hs hd last
        by_cases same : k = n
        · subst same
          simp only [Function.update_self] at stored
          cases stored
          exact ⟨process, _, _, Function.update_self .., rfl, Nat.le_of_eq last.symm⟩
        · simp only [Function.update_of_ne same] at stored
          obtain ⟨holder, context, at_, holds, sequence, enough⟩ := guarded k m' stored hs hd last
          have other : holder ≠ process := by
            rintro rfl
            rw [idle] at holds
            cases holds
          exact ⟨holder, context, at_, (Function.update_of_ne other ..).trans holds, sequence, enough⟩
    · exact ⟨sound, guarded⟩
  · exact ⟨sound, guarded⟩

theorem step_both (s : Broker) (e : Event) (both : Sound config s ∧ Guarded config s)
    (kept : KeepsLast config s e = true) :
    Sound config (s.step config e) ∧ Guarded config (s.step config e) := by
  obtain ⟨sound, guarded⟩ := both
  cases e with
  | publish subject => exact publish_both sound guarded subject
  | deliver n process => exact deliver_both sound guarded n process
  | expire n => exact expire_both sound guarded n
  | finish process outcome => exact finish_both sound guarded process outcome kept
  | crash process ended => exact crash_both sound guarded process ended kept

theorem empty_both : Sound config .empty ∧ Guarded config .empty := by
  refine ⟨⟨fun _ _ => rfl, ?_, ?_⟩, ?_⟩
  · rintro n m ⟨⟩
  · rintro process context error ⟨⟩
  · rintro n m ⟨⟩

/-- In a run in which no process lets go of the last delivery of a message that
is still at stake, no message is lost at any time. -/
theorem no_message_lost (config : DurableJetStreamConsumerConfig) (events : List Event)
    (kept : Each (fun before e => KeepsLast config (runs (Broker.step config) .empty before) e = true)
      events) (n : Nat) (m : StreamMessage)
    (stored : (runs (Broker.step config) .empty events).messages n = some m) :
    Accounted config (runs (Broker.step config) .empty events) n m := by
  obtain ⟨sound, guarded⟩ := runs_each (I := fun s => Sound config s ∧ Guarded config s)
    (J := fun s e => KeepsLast config s e = true) step_both empty_both kept
  exact accounted_of_guarded sound guarded stored

end

def processes : Event → List Nat
  | .publish _ | .expire _ => []
  | .deliver _ process | .finish process _ | .crash process _ => [process]

/-- A step of the server or of process 0 leaves the other processes alone. -/
theorem others_frame (config : DurableJetStreamConsumerConfig) (s : Broker) (e : Event)
    {process : Nat} (other : process ≠ 0) (alone : (processes e).all (· == 0) = true) :
    (s.step config e).loops process = s.loops process := by
  cases e with
  | publish subject => rfl
  | expire n => rfl
  | deliver n holder =>
    obtain rfl : holder = 0 := by simpa [processes] using alone
    unfold Broker.step
    dsimp only
    split
    · split
      · exact Function.update_of_ne other ..
      · rfl
    · rfl
  | finish holder outcome =>
    obtain rfl : holder = 0 := by simpa [processes] using alone
    unfold Broker.step
    dsimp only
    split
    · rfl
    · exact Function.update_of_ne other ..
  | crash holder ended =>
    obtain rfl : holder = 0 := by simpa [processes] using alone
    unfold Broker.step
    dsimp only
    split
    · rfl
    · exact Function.update_of_ne other ..

theorem others_idle (config : DurableJetStreamConsumerConfig) {process : Nat} (other : process ≠ 0)
    (events : List Event) (alone : events.all (fun e => (processes e).all (· == 0)) = true) :
    (runs (Broker.step config) .empty events).loops process = .idle := by
  induction events using List.reverseRecOn with
  | nil => rfl
  | append_singleton events e ih =>
    simp only [List.all_append, Bool.and_eq_true, List.all_cons, List.all_nil, and_true] at alone
    rw [runs_append]
    exact (others_frame config _ e other alone.2).trans (ih alone.1)

/-- What one process does with one message that fails until the limit. -/
def exhausting (onExhausted : Outcome) : List Event :=
  (List.replicate 5 [.deliver 0 0, .finish 0 (.error "timeout")]).flatten ++ [.finish 0 onExhausted]

/-- The dead letter fails on the last delivery: the message is rejected once
more, and the server has no delivery left for it. -/
theorem failed_dead_letter_lost :
    ¬ ∀ n m, (runs (Broker.step {}) .empty
        (.publish "growth.events" :: exhausting (.error "outbox unavailable"))).messages n = some m →
      Accounted {} (runs (Broker.step {}) .empty
        (.publish "growth.events" :: exhausting (.error "outbox unavailable"))) n m := by
  intro kept
  have stored : (runs (Broker.step {}) .empty
      (.publish "growth.events" :: exhausting (.error "outbox unavailable"))).messages 0 =
        some ⟨"growth.events", 5, .waiting, false, false⟩ := by decide
  rcases kept 0 _ stored with again | ⟨process, context, at_, holds, _⟩ | acknowledged | letter
  · exact absurd again.2 (by decide)
  · have idle : (runs (Broker.step {}) .empty
        (.publish "growth.events" :: exhausting (.error "outbox unavailable"))).loops process =
          .idle := by
      by_cases first : process = 0
      · subst first
        decide
      · exact others_idle {} first _ (by decide)
    rw [idle] at holds
    cases holds
  · exact absurd acknowledged.1 (by decide)
  · exact absurd letter (by decide)

/-- The same deliveries, with the dead letter recorded. -/
theorem recorded_dead_letter_accounted :
    Accounted {} (runs (Broker.step {}) .empty
      (.publish "growth.events" :: exhausting (.ok ()))) 0
        ⟨"growth.events", 5, .terminated, false, true⟩ :=
  no_message_lost {} _ (by decide) 0 _ (by decide)

end VantGrowth.Proofs.MessageCustody
