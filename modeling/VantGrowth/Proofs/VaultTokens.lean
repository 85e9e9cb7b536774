import Mathlib.Tactic.Linarith
import VantGrowth.Lib.Runs
import VantGrowth.Secrets.VaultAppRoleAuth

namespace VantGrowth.Proofs.VaultTokens
open Lib Secrets
open Secrets.JsNumber (less plus scale)
open Secrets.VaultAppRoleAuth (Step after start step)

/-! Tokens returned by concurrent calls, and what a failed renewal discards. -/

/-- What a run from an empty cache leaves: no call returned an expired token, and
no failed renewal cleared a token newer than the one it held. -/
structure Fresh (now : Int) (run : List Step) : Prop where
  returned : ∀ cached moment, .returned cached moment ∈ (after now run).calls →
    cached.liveAt moment = true
  kept : ∀ before i rest held cached, run = before ++ .resume i :: rest →
    (after now before).calls[i]? = some (.renewFailed held) →
      (after now before).cached = some cached → cached.serial ≤ held.serial

/-- Calls that return the shared token as soon as they go on. -/
def returning : ResolveCall → Bool
  | .renewed | .loggedIn => true
  | _ => false

/-- The cached token, if a call is about to return it, is live at a moment. -/
def LastsTo (s : VaultAppRoleAuth) (moment : Int) : Prop :=
  ∀ call ∈ s.calls, returning call = true → ∀ cached ∈ s.cached, cached.liveAt moment = true

/-- The token that a call renews. -/
def renewing : ResolveCall → Option CachedToken
  | .renewing held => some held
  | _ => none

/-- A call has yet to clear the cache. -/
def clearing : ResolveCall → Bool
  | .renewFailed _ => true
  | _ => false

/-- A call takes a token from an answer. -/
def takes (auth : VaultAuth) : ResolveCall → Bool
  | .renewing _ => true
  | .loggingIn => auth.client_token.any (· ≠ "")
  | _ => false

/-- The clock does not pass the expiry of a token about to be returned. What is
granted has a positive lease, and comes when no failed renewal has yet to clear
the cache. A renewal fails only while no newer token than its own is cached. -/
def Careful (s : VaultAppRoleAuth) : Step → Prop
  | .tick seconds => LastsTo s (s.now + seconds)
  | .resolve between => LastsTo s (s.now + between)
  | .answer i (some auth) => ∀ call ∈ s.calls[i]?, takes auth call = true →
      less (.finite 0) auth.lease_duration = true ∧ ∀ other ∈ s.calls, clearing other = false
  | .answer i none => ∀ call ∈ s.calls[i]?, ∀ held ∈ renewing call, ∀ cached ∈ s.cached,
      cached.serial ≤ held.serial
  | .resume _ => True

instance (s : VaultAppRoleAuth) (e : Step) : Decidable (Careful s e) := by
  unfold Careful LastsTo
  split <;> infer_instance

theorem granted_live (s : VaultAppRoleAuth) (token : String) (auth : VaultAuth) :
    (s.granted token auth).liveAt s.now = less (.finite 0) auth.lease_duration := by
  cases h : auth.lease_duration <;> simp [VaultAppRoleAuth.granted, CachedToken.liveAt, plus, less, h]

/-- More than a share of a positive lease is more than nothing. -/
theorem live_of_comfortable {cached : CachedToken} {now : Int}
    (lease : less (.finite 0) cached.leaseDuration = true) (h : cached.comfortable now = true) :
    cached.liveAt now = true := by
  unfold CachedToken.comfortable at h
  unfold CachedToken.liveAt
  cases expires : cached.expiresAt <;> cases duration : cached.leaseDuration <;>
    simp only [expires, duration, scale, plus, less, decide_eq_true_eq,
      Bool.false_eq_true] at h lease ⊢
  have positive := mul_pos lease (show (0 : ℚ) < RENEWAL_THRESHOLD by norm_num [RENEWAL_THRESHOLD])
  linarith

/-- A call that is answered takes the token, or leaves the cache as it is. -/
theorem answered_cases {s : VaultAppRoleAuth} {answer : VaultAnswer} {call call' : ResolveCall}
    {cached : Option CachedToken} (h : s.answered answer call = some (cached, call')) :
    (∃ auth token, answer = some auth ∧ takes auth call = true ∧
        cached = some (s.granted token auth) ∧ returning call' = true) ∨
      cached = s.cached ∧
        ((∃ held, answer = none ∧ call = .renewing held ∧ call' = .renewFailed held) ∨
          call' = .failed) := by
  cases call with
  | renewing held =>
    cases answer with
    | none =>
      cases h
      exact Or.inr ⟨rfl, Or.inl ⟨held, rfl, rfl, rfl⟩⟩
    | some auth =>
      cases h
      exact Or.inl ⟨auth, _, rfl, rfl, rfl, rfl⟩
  | loggingIn =>
    cases answer with
    | none =>
      cases h
      exact Or.inr ⟨rfl, Or.inr rfl⟩
    | some auth =>
      cases sent : auth.client_token with
      | none =>
        simp only [VaultAppRoleAuth.answered, sent, Option.some.injEq, Prod.mk.injEq] at h
        exact Or.inr ⟨h.1.symm, Or.inr h.2.symm⟩
      | some token =>
        by_cases empty : token = ""
        · simp only [VaultAppRoleAuth.answered, sent, empty, if_true, Option.some.injEq,
            Prod.mk.injEq] at h
          exact Or.inr ⟨h.1.symm, Or.inr h.2.symm⟩
        · simp only [VaultAppRoleAuth.answered, sent, empty, if_false, Option.some.injEq,
            Prod.mk.injEq] at h
          refine Or.inl ⟨auth, token, rfl, ?_, h.1.symm, ?_⟩
          · simp [takes, sent, empty]
          · rw [← h.2]
            rfl
  | _ => cases h

/-- A taken answer is cached. -/
theorem answered_takes {s : VaultAppRoleAuth} {auth : VaultAuth} {call : ResolveCall}
    (h : takes auth call = true) :
    ∃ token call', s.answered (some auth) call = some (some (s.granted token auth), call') ∧
      returning call' = true := by
  cases call with
  | renewing held => exact ⟨_, _, rfl, rfl⟩
  | loggingIn =>
    cases sent : auth.client_token with
    | none => simp [takes, sent] at h
    | some token =>
      have named : token ≠ "" := by simpa [takes, sent] using h
      exact ⟨token, .loggedIn, by simp [VaultAppRoleAuth.answered, sent, named], rfl⟩
  | _ => cases h

/-- A call that goes on returns the cached token, or asks again or fails; only a
failed renewal touches the cache. -/
theorem resumed_cases {s : VaultAppRoleAuth} {call call' : ResolveCall}
    {cached : Option CachedToken} (h : s.resumed call = some (cached, call')) :
    (cached = s.cached ∧ returning call = true ∧
        ((∃ held, s.cached = some held ∧ call' = .returned held s.now) ∨
          call' = .loggingIn ∨ call' = .failed)) ∨
      ∃ held, call = .renewFailed held ∧ cached = none ∧ call' = .loggingIn := by
  cases call with
  | renewed =>
    cases holds : s.cached with
    | none =>
      simp only [VaultAppRoleAuth.resumed, holds, Option.some.injEq, Prod.mk.injEq] at h
      exact Or.inl ⟨h.1.symm, rfl, Or.inr (Or.inl h.2.symm)⟩
    | some token =>
      simp only [VaultAppRoleAuth.resumed, holds, Option.some.injEq, Prod.mk.injEq] at h
      exact Or.inl ⟨h.1.symm, rfl, Or.inl ⟨token, rfl, h.2.symm⟩⟩
  | loggedIn =>
    cases holds : s.cached with
    | none =>
      simp only [VaultAppRoleAuth.resumed, holds, Option.some.injEq, Prod.mk.injEq] at h
      exact Or.inl ⟨h.1.symm, rfl, Or.inr (Or.inr h.2.symm)⟩
    | some token =>
      simp only [VaultAppRoleAuth.resumed, holds, Option.some.injEq, Prod.mk.injEq] at h
      exact Or.inl ⟨h.1.symm, rfl, Or.inl ⟨token, rfl, h.2.symm⟩⟩
  | renewFailed held =>
    cases h
    exact Or.inr ⟨held, rfl, rfl, rfl⟩
  | _ => cases h

/-- A call before its first await holds the cached token or none. -/
theorem resolveToken_cases (s : VaultAppRoleAuth) (later : Int) :
    s.resolveToken later = .loggingIn ∨ ∃ cached, s.cached = some cached ∧
      (s.resolveToken later = .renewing cached ∨
        cached.comfortable later = true ∧ s.resolveToken later = .returned cached later) := by
  unfold VaultAppRoleAuth.resolveToken
  cases s.cached with
  | none => exact Or.inl rfl
  | some cached =>
    dsimp only
    split
    · split
      · rename_i comfortable
        exact Or.inr ⟨cached, rfl, Or.inr ⟨comfortable, rfl⟩⟩
      · split
        · exact Or.inr ⟨cached, rfl, Or.inl rfl⟩
        · exact Or.inl rfl
    · exact Or.inl rfl

theorem advance_cases (s : VaultAppRoleAuth) (i : Nat)
    (next : ResolveCall → Option (Option CachedToken × ResolveCall)) :
    s.advance i next = s ∨ ∃ call cached call', s.calls[i]? = some call ∧
      next call = some (cached, call') ∧
        s.advance i next = { s with cached, calls := s.calls.set i call' } := by
  unfold VaultAppRoleAuth.advance
  cases at_ : s.calls[i]? with
  | none => exact Or.inl rfl
  | some call =>
    cases goes : next call with
    | none => exact Or.inl (by simp [goes])
    | some result =>
      obtain ⟨cached, call'⟩ := result
      exact Or.inr ⟨call, cached, call', rfl, goes, by simp [goes]⟩

theorem advance_goes {s : VaultAppRoleAuth} {i : Nat} {call call' : ResolveCall}
    {cached : Option CachedToken}
    {next : ResolveCall → Option (Option CachedToken × ResolveCall)}
    (at_ : s.calls[i]? = some call) (goes : next call = some (cached, call')) :
    s.advance i next = { s with cached, calls := s.calls.set i call' } := by
  simp [VaultAppRoleAuth.advance, at_, goes]

structure Sound (s : VaultAppRoleAuth) : Prop where
  lease : ∀ cached, s.cached = some cached → less (.finite 0) cached.leaseDuration = true
  lasts : LastsTo s s.now
  returned : ∀ cached moment, .returned cached moment ∈ s.calls → cached.liveAt moment = true
  cleared : ∀ held cached, .renewFailed held ∈ s.calls → s.cached = some cached →
    cached.serial ≤ held.serial
  numbered : ∀ cached, s.cached = some cached → cached.serial < s.answers
  renewing : ∀ held, .renewing held ∈ s.calls → held.serial < s.answers
  failing : ∀ held, .renewFailed held ∈ s.calls → held.serial < s.answers

theorem start_sound (now : Int) : Sound (start now) := by
  constructor <;> simp [start, LastsTo]

theorem tick_sound {s : VaultAppRoleAuth} (sound : Sound s) {seconds : Int}
    (lasts : LastsTo s (s.now + seconds)) : Sound (step s (.tick seconds)) :=
  { sound with lasts := lasts }

theorem resolve_sound {s : VaultAppRoleAuth} (sound : Sound s) {between : Int}
    (lasts : LastsTo s (s.now + between)) : Sound (step s (.resolve between)) := by
  have made : ∀ call ∈ (step s (.resolve between)).calls,
      call ∈ s.calls ∨ call = s.resolveToken (s.now + between) := by
    intro call member
    simpa [step] using member
  have cases_ := resolveToken_cases s (s.now + between)
  constructor
  · exact sound.lease
  · intro call member returns
    rcases made call member with old | rfl
    · exact lasts call old returns
    · obtain asks | ⟨cached, _, asks | ⟨_, asks⟩⟩ := cases_ <;> simp [asks, returning] at returns
  · intro cached moment member
    rcases made _ member with old | new
    · exact sound.returned cached moment old
    · obtain asks | ⟨token, holds, asks | ⟨comfortable, asks⟩⟩ := cases_
      · simp [asks] at new
      · simp [asks] at new
      · rw [asks] at new
        cases new
        exact live_of_comfortable (sound.lease _ holds) comfortable
  · intro held cached member
    rcases made _ member with old | new
    · exact sound.cleared held cached old
    · obtain asks | ⟨token, _, asks | ⟨_, asks⟩⟩ := cases_ <;> simp [asks] at new
  · exact sound.numbered
  · intro held member
    rcases made _ member with old | new
    · exact sound.renewing held old
    · obtain asks | ⟨token, holds, asks | ⟨_, asks⟩⟩ := cases_
      · simp [asks] at new
      · rw [asks] at new
        cases new
        exact sound.numbered _ holds
      · simp [asks] at new
  · intro held member
    rcases made _ member with old | new
    · exact sound.failing held old
    · obtain asks | ⟨token, _, asks | ⟨_, asks⟩⟩ := cases_ <;> simp [asks] at new

/-- One more answer changes no number below the count. -/
theorem counted_sound {s : VaultAppRoleAuth} (sound : Sound s) :
    Sound { s with answers := s.answers + 1 } :=
  { sound with
    numbered := fun cached holds => Nat.lt_succ_of_lt (sound.numbered cached holds)
    renewing := fun held member => Nat.lt_succ_of_lt (sound.renewing held member)
    failing := fun held member => Nat.lt_succ_of_lt (sound.failing held member) }

/-- A call's next state, over the same cache or none: a token it returns is live,
and no newer token than it held is cached where its renewal failed. -/
theorem wrote_sound {s : VaultAppRoleAuth} (sound : Sound s) {cached : Option CachedToken}
    (same : ∀ token, cached = some token → s.cached = some token) {call : ResolveCall}
    (waits : returning call = false) (asks : ∀ held, call ≠ .renewing held)
    (live : ∀ token moment, call = .returned token moment → token.liveAt moment = true)
    (newest : ∀ held, call = .renewFailed held → held.serial < s.answers ∧
      ∀ token, cached = some token → token.serial ≤ held.serial) (i : Nat) :
    Sound { s with cached, calls := s.calls.set i call } := by
  have made : ∀ other ∈ s.calls.set i call, other ∈ s.calls ∨ other = call :=
    fun other member => List.mem_or_eq_of_mem_set member
  constructor
  · exact fun token h => sound.lease token (same token h)
  · intro other member returns token h
    rcases made other member with old | rfl
    · exact sound.lasts other old returns token (same token h)
    · rw [waits] at returns
      cases returns
  · intro token moment member
    rcases made _ member with old | new
    · exact sound.returned token moment old
    · exact live token moment new.symm
  · intro held token member h
    rcases made _ member with old | new
    · exact sound.cleared held token old (same token h)
    · exact (newest held new.symm).2 token h
  · exact fun token h => sound.numbered token (same token h)
  · intro held member
    rcases made _ member with old | new
    · exact sound.renewing held old
    · exact absurd new.symm (asks held)
  · intro held member
    rcases made _ member with old | new
    · exact sound.failing held old
    · exact (newest held new.symm).1

theorem granted_sound {s : VaultAppRoleAuth} (sound : Sound s) {auth : VaultAuth}
    (lease : less (.finite 0) auth.lease_duration = true)
    (calm : ∀ held, .renewFailed held ∉ s.calls) (token : String) (i : Nat) {call : ResolveCall}
    (returns : returning call = true) :
    Sound { s with cached := some (s.granted token auth), calls := s.calls.set i call,
                   answers := s.answers + 1 } := by
  have made : ∀ other ∈ s.calls.set i call, other ∈ s.calls ∨ other = call :=
    fun other member => List.mem_or_eq_of_mem_set member
  constructor
  · rintro _ ⟨⟩
    exact lease
  · rintro other _ _ _ ⟨⟩
    exact (granted_live s token auth).trans lease
  · intro cached moment member
    rcases made _ member with old | rfl
    · exact sound.returned cached moment old
    · simp [returning] at returns
  · intro held cached member
    rcases made _ member with old | rfl
    · exact absurd old (calm held)
    · simp [returning] at returns
  · rintro _ ⟨⟩
    exact Nat.lt_succ_self s.answers
  · intro held member
    rcases made _ member with old | rfl
    · exact Nat.lt_succ_of_lt (sound.renewing held old)
    · simp [returning] at returns
  · intro held member
    rcases made _ member with old | rfl
    · exact absurd old (calm held)
    · simp [returning] at returns

theorem answer_sound {s : VaultAppRoleAuth} (sound : Sound s) {i : Nat} {answer : VaultAnswer}
    (careful : Careful s (.answer i answer)) : Sound (step s (.answer i answer)) := by
  obtain same | ⟨call, cached, call', at_, goes, wrote⟩ := advance_cases s i (s.answered answer)
  · simp only [step, same]
    exact counted_sound sound
  · simp only [step, wrote]
    obtain ⟨auth, token, rfl, took, rfl, returns⟩ |
      ⟨rfl, ⟨held, rfl, rfl, rfl⟩ | rfl⟩ := answered_cases goes
    · have ⟨lease, calm⟩ := careful call at_ took
      exact granted_sound sound lease (fun held member => by cases calm _ member) token i returns
    · have old := sound.renewing held (List.mem_of_getElem? at_)
      refine counted_sound (wrote_sound sound (fun _ => id) rfl ?_ ?_ ?_ i)
      · simp
      · simp
      · rintro _ ⟨⟩
        exact ⟨old, fun token holds => careful _ at_ held rfl token holds⟩
    · exact counted_sound (wrote_sound sound (fun _ => id) rfl (by simp) (by simp) (by simp) i)

theorem resume_sound {s : VaultAppRoleAuth} (sound : Sound s) (i : Nat) :
    Sound (step s (.resume i)) := by
  obtain same | ⟨call, cached, call', at_, goes, wrote⟩ := advance_cases s i s.resumed
  · simp only [step, same]
    exact sound
  · simp only [step, wrote]
    obtain ⟨rfl, returns, ⟨held, holds, rfl⟩ | rfl | rfl⟩ | ⟨held, rfl, rfl, rfl⟩ :=
      resumed_cases goes
    · have live := sound.lasts call (List.mem_of_getElem? at_) returns held holds
      refine wrote_sound sound (fun _ => id) rfl (by simp) ?_ (by simp) i
      rintro _ _ ⟨⟩
      exact live
    · exact wrote_sound sound (fun _ => id) rfl (by simp) (by simp) (by simp) i
    · exact wrote_sound sound (fun _ => id) rfl (by simp) (by simp) (by simp) i
    · exact wrote_sound sound (by simp) rfl (by simp) (by simp) (by simp) i

theorem step_sound {s : VaultAppRoleAuth} (sound : Sound s) {e : Step} (careful : Careful s e) :
    Sound (step s e) := by
  cases e with
  | tick seconds => exact tick_sound sound careful
  | resolve between => exact resolve_sound sound careful
  | answer i answer => exact answer_sound sound careful
  | resume i => exact resume_sound sound i

/-- Every step of a run meets the condition at the state it starts from. -/
def AllCareful (now : Int) (run : List Step) : Prop :=
  Logs.Each (fun before e => Careful (after now before) e) run

instance (now : Int) (run : List Step) : Decidable (AllCareful now run) :=
  inferInstanceAs (Decidable (Logs.Each _ run))

theorem after_sound {now : Int} {run : List Step} (careful : AllCareful now run) :
    Sound (after now run) :=
  Logs.runs_each (J := Careful) (fun _ _ sound careful => step_sound sound careful)
    (start_sound now) careful

theorem fresh_of_careful {now : Int} {run : List Step} (careful : AllCareful now run) :
    Fresh now run where
  returned := (after_sound careful).returned
  kept := by
    rintro before i rest held cached rfl at_ holds
    have sound := after_sound (Logs.Each.init careful)
    exact sound.cleared held cached (List.mem_of_getElem? at_) holds

theorem after_snoc (now : Int) (run : List Step) (e : Step) :
    after now (run ++ [e]) = step (after now run) e := by
  simp [after, runs_append]

/-- A call that is about to return the cached token returns it. -/
theorem resume_returns {s : VaultAppRoleAuth} {i : Nat} {call : ResolveCall}
    (at_ : s.calls[i]? = some call) (returns : returning call = true) {cached : CachedToken}
    (holds : s.cached = some cached) :
    .returned cached s.now ∈ (step s (.resume i)).calls := by
  have goes : s.resumed call = some (s.cached, .returned cached s.now) := by
    cases call <;> simp [returning] at returns <;> simp [VaultAppRoleAuth.resumed, holds]
  have inside : i < s.calls.length := (List.getElem?_eq_some_iff.mp at_).1
  simp only [step, advance_goes at_ goes]
  exact List.mem_set inside _

theorem stale_of_returning {now : Int} {run : List Step} {i : Nat} {call : ResolveCall}
    (at_ : (after now run).calls[i]? = some call) (returns : returning call = true)
    {cached : CachedToken} (holds : (after now run).cached = some cached)
    (dead : cached.liveAt (after now run).now = false) : ¬ Fresh now (run ++ [.resume i]) := by
  intro fresh
  have member := resume_returns at_ returns holds
  rw [← after_snoc] at member
  rw [fresh.returned cached _ member] at dead
  cases dead

theorem stale_of_failing {now : Int} {run : List Step} {i : Nat} {held cached : CachedToken}
    (at_ : (after now run).calls[i]? = some (.renewFailed held))
    (holds : (after now run).cached = some cached) (newer : held.serial < cached.serial) :
    ¬ Fresh now (run ++ [.resume i]) := by
  intro fresh
  have older := fresh.kept run i [] held cached rfl at_ holds
  exact Nat.not_lt.mpr older newer

theorem not_lasts {s : VaultAppRoleAuth} {moment : Int} (h : ¬ LastsTo s moment) :
    ∃ (i : Nat) (call : ResolveCall) (cached : CachedToken), s.calls[i]? = some call ∧
      returning call = true ∧ s.cached = some cached ∧ cached.liveAt moment = false := by
  simp only [LastsTo, not_forall, Bool.not_eq_true] at h
  obtain ⟨call, member, returns, cached, holds, dead⟩ := h
  obtain ⟨i, at_⟩ := List.getElem?_of_mem member
  exact ⟨i, call, cached, at_, returns, holds, dead⟩

/-- An answer that a call takes is cached for it to return. -/
theorem answer_takes {s : VaultAppRoleAuth} {i : Nat} {call : ResolveCall} {auth : VaultAuth}
    (at_ : s.calls[i]? = some call) (took : takes auth call = true) :
    ∃ token call', returning call' = true ∧ step s (.answer i (some auth)) =
      { s with cached := some (s.granted token auth), calls := s.calls.set i call',
               answers := s.answers + 1 } := by
  obtain ⟨token, call', goes, returns⟩ := answered_takes (s := s) took
  exact ⟨token, call', returns, by simp only [step, advance_goes at_ goes]⟩

/-- After the first step that breaks the condition a single resumption goes wrong. -/
theorem stale_of_careless {now : Int} {run : List Step} (sound : Sound (after now run)) {e : Step}
    (careless : ¬ Careful (after now run) e) : ∃ i, ¬ Fresh now (run ++ [e, .resume i]) := by
  have split : ∀ i, run ++ [e, .resume i] = (run ++ [e]) ++ [.resume i] := by simp
  simp only [split]
  cases e with
  | tick seconds =>
    obtain ⟨i, call, cached, at_, returns, holds, dead⟩ := not_lasts careless
    have moved := after_snoc now run (.tick seconds)
    have at' : (after now (run ++ [.tick seconds])).calls[i]? = some call := by
      rw [moved]
      exact at_
    have holds' : (after now (run ++ [.tick seconds])).cached = some cached := by
      rw [moved]
      exact holds
    refine ⟨i, stale_of_returning at' returns holds' ?_⟩
    rw [moved]
    exact dead
  | resolve between =>
    obtain ⟨i, call, cached, at_, returns, holds, dead⟩ := not_lasts careless
    have inside : i < (after now run).calls.length := (List.getElem?_eq_some_iff.mp at_).1
    have moved := after_snoc now run (.resolve between)
    have at' : (after now (run ++ [.resolve between])).calls[i]? = some call := by
      rw [moved]
      simp only [step, List.getElem?_append_left inside]
      exact at_
    have holds' : (after now (run ++ [.resolve between])).cached = some cached := by
      rw [moved]
      exact holds
    refine ⟨i, stale_of_returning at' returns holds' ?_⟩
    rw [moved]
    exact dead
  | answer i answer =>
    cases answer with
    | some auth =>
      simp only [Careful, not_forall] at careless
      obtain ⟨call, at_, took, wrong⟩ := careless
      obtain ⟨token, call', returns, stepped⟩ := answer_takes at_ took
      rw [← after_snoc] at stepped
      by_cases lease : less (.finite 0) auth.lease_duration = true
      · have failing : ∃ held, .renewFailed held ∈ (after now run).calls := by
          by_contra calm
          refine wrong ⟨lease, fun other member => ?_⟩
          cases other with
          | renewFailed held => exact absurd ⟨held, member⟩ calm
          | _ => rfl
        obtain ⟨held, member⟩ := failing
        obtain ⟨j, other⟩ := List.getElem?_of_mem member
        have apart : i ≠ j := by
          rintro rfl
          rw [at_] at other
          cases other
          simp [takes] at took
        have at' : (after now (run ++ [.answer i (some auth)])).calls[j]? =
            some (.renewFailed held) := by
          rw [stepped]
          simpa [List.getElem?_set_ne apart] using other
        have holds' : (after now (run ++ [.answer i (some auth)])).cached =
            some ((after now run).granted token auth) := by
          rw [stepped]
        exact ⟨j, stale_of_failing at' holds' (sound.failing held member)⟩
      · have inside : i < (after now run).calls.length := (List.getElem?_eq_some_iff.mp at_).1
        have at' : (after now (run ++ [.answer i (some auth)])).calls[i]? = some call' := by
          rw [stepped]
          simp [List.getElem?_set_self inside]
        have holds' : (after now (run ++ [.answer i (some auth)])).cached =
            some ((after now run).granted token auth) := by
          rw [stepped]
        refine ⟨i, stale_of_returning at' returns holds' ?_⟩
        rw [stepped]
        simpa [granted_live] using lease
    | none =>
      simp only [Careful, not_forall, Nat.not_le] at careless
      obtain ⟨call, at_, held, renews, cached, holds, newer⟩ := careless
      cases call with
      | renewing token => ?_
      | _ => cases renews
      cases renews
      have inside : i < (after now run).calls.length := (List.getElem?_eq_some_iff.mp at_).1
      have stepped : after now (run ++ [.answer i none]) =
          { after now run with
              calls := (after now run).calls.set i (.renewFailed held),
              answers := (after now run).answers + 1 } := by
        rw [after_snoc]
        simp only [step]
        have goes : (after now run).answered none (.renewing held) =
            some ((after now run).cached, .renewFailed held) := rfl
        rw [advance_goes at_ goes]
      have at' : (after now (run ++ [.answer i none])).calls[i]? = some (.renewFailed held) := by
        rw [stepped]
        simp [List.getElem?_set_self inside]
      have holds' : (after now (run ++ [.answer i none])).cached = some cached := by
        rw [stepped]
        exact holds
      exact ⟨i, stale_of_failing at' holds' newer⟩
  | resume i => exact absurd trivial careless

/-- A run whose steps meet the condition returns live tokens and discards no newer
one; the first step that does not meet it can be followed by one that does harm. -/
theorem resolvers_fresh (now : Int) (run : List Step) (careful : AllCareful now run) :
    Fresh now run ∧
      ∀ e, ¬ Careful (after now run) e → ∃ i, ¬ Fresh now (run ++ [e, .resume i]) :=
  ⟨fresh_of_careful careful, fun _ careless => stale_of_careless (after_sound careful) careless⟩

/-- A lease of `seconds`. -/
def lease (seconds : ℚ) : VaultAuth := ⟨some "hvs.token", .finite seconds, some true⟩

/-- A login, then a failed renewal and a second login in the renewal window. -/
def relogin : List Step :=
  [.resolve 0, .answer 0 (some (lease 10)), .resume 0, .tick 8, .resolve 0, .answer 1 none,
    .resume 1, .answer 1 (some (lease 10)), .resume 1]

theorem resolvers_fresh_relogin : AllCareful 0 relogin ∧ Fresh 0 relogin := by
  have careful : AllCareful 0 relogin := by decide +kernel
  exact ⟨careful, (resolvers_fresh 0 relogin careful).1⟩

/-- A token granted for no time at all is returned; and of two calls that renew
the same token, the one refused clears what the other was granted. -/
theorem resolvers_stale :
    ¬ Fresh 0 [.resolve 0, .answer 0 (some (lease 0)), .resume 0] ∧
      ¬ Fresh 0 [.resolve 0, .answer 0 (some (lease 10)), .resume 0, .tick 8, .resolve 0,
        .resolve 0, .answer 1 (some (lease 10)), .answer 2 none, .resume 2] := by
  constructor
  · intro fresh
    have returned : .returned ⟨0, "hvs.token", .finite 0, .finite 0, true⟩ 0 ∈
        (after 0 [.resolve 0, .answer 0 (some (lease 0)), .resume 0]).calls := by
      decide +kernel
    exact absurd (fresh.returned _ _ returned) (by decide)
  · intro fresh
    have cached := fresh.kept
      [.resolve 0, .answer 0 (some (lease 10)), .resume 0, .tick 8, .resolve 0, .resolve 0,
        .answer 1 (some (lease 10)), .answer 2 none] 2 []
      ⟨0, "hvs.token", .finite 10, .finite 10, true⟩
      ⟨1, "hvs.token", .finite 18, .finite 10, true⟩ rfl
    exact absurd (cached (by decide +kernel) (by decide +kernel)) (by decide)

end VantGrowth.Proofs.VaultTokens
