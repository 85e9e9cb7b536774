import VantGrowth.Lib.JsDate
import VantGrowth.Lib.Runs

/-! Concurrent calls of `resolveToken` over the token they share. -/

namespace VantGrowth.Secrets
open Lib

deriving instance DecidableEq for JsNumber

/-- `a < b` -/
def JsNumber.less : JsNumber → JsNumber → Bool
  | .finite a, .finite b => a < b
  | .negInfinity, .finite _ | .negInfinity, .posInfinity | .finite _, .posInfinity => true
  | _, _ => false

/-- `n + by_`, of a finite summand. -/
def JsNumber.plus (by_ : ℚ) : JsNumber → JsNumber
  | .finite n => .finite (n + by_)
  | n => n

/-- `n * by_`, of a positive factor. -/
def JsNumber.scale (by_ : ℚ) : JsNumber → JsNumber
  | .finite n => .finite (n * by_)
  | n => n

open JsNumber (less plus scale)

/-- A token with the number of the answer that brought it. -/
structure CachedToken where
  serial : Nat
  token : String
  expiresAt : JsNumber
  leaseDuration : JsNumber
  renewable : Bool
deriving DecidableEq

def RENEWAL_THRESHOLD : ℚ := 3 / 10

/-- The token's recorded expiry is after a moment. -/
def CachedToken.liveAt (cached : CachedToken) (now : Int) : Bool := less (.finite now) cached.expiresAt

/-- More of the lease remains than the renewal window. -/
def CachedToken.comfortable (cached : CachedToken) (now : Int) : Bool :=
  less (scale RENEWAL_THRESHOLD cached.leaseDuration) (plus (-now) cached.expiresAt)

/-- The `auth` of an answer with status 200. A missing duration is no number. -/
structure VaultAuth where
  client_token : Option String
  lease_duration : JsNumber
  renewable : Option Bool

/-- What a request comes to: no `auth` stands for any failure. -/
abbrev VaultAnswer := Option VaultAuth

/-- A call of `resolveToken` between two of its awaits. -/
inductive ResolveCall where
  | renewing (held : CachedToken)
  | renewed
  | renewFailed (held : CachedToken)
  | loggingIn
  | loggedIn
  | returned (cached : CachedToken) (moment : Int)
  | failed
deriving DecidableEq

/-- The shared cache, the clock in seconds, the answers so far and the calls. -/
structure VaultAppRoleAuth where
  cached : Option CachedToken
  now : Int
  answers : Nat
  calls : List ResolveCall

namespace VaultAppRoleAuth

def start (now : Int) : VaultAppRoleAuth := ⟨none, now, 0, []⟩

/-- `resolveToken` up to its first await. The clock is read a second time where
the cached token has not expired. -/
def resolveToken (s : VaultAppRoleAuth) (later : Int) : ResolveCall :=
  match s.cached with
  | some cached =>
    if cached.liveAt s.now then
      if cached.comfortable later then .returned cached later
      else if cached.renewable then .renewing cached
      else .loggingIn
    else .loggingIn
  | none => .loggingIn

def granted (s : VaultAppRoleAuth) (token : String) (auth : VaultAuth) : CachedToken where
  serial := s.answers
  token := token
  expiresAt := plus s.now auth.lease_duration
  leaseDuration := auth.lease_duration
  renewable := auth.renewable.getD false

/-- The rest of `login` or `renew` once the request is answered: what is cached
and where the call goes on. -/
def answered (s : VaultAppRoleAuth) (answer : VaultAnswer) :
    ResolveCall → Option (Option CachedToken × ResolveCall)
  | .renewing held =>
    match answer with
    | some auth => some (some (s.granted (auth.client_token.getD held.token) auth), .renewed)
    | none => some (s.cached, .renewFailed held)
  | .loggingIn =>
    match answer with
    | some auth =>
      match auth.client_token with
      | some token =>
        if token = "" then some (s.cached, .failed) else some (some (s.granted token auth), .loggedIn)
      | none => some (s.cached, .failed)
    | none => some (s.cached, .failed)
  | _ => none

/-- The rest of `resolveToken` once what it awaits is settled. -/
def resumed (s : VaultAppRoleAuth) : ResolveCall → Option (Option CachedToken × ResolveCall)
  | .renewed =>
    match s.cached with
    | some renewed => some (s.cached, .returned renewed s.now)
    | none => some (s.cached, .loggingIn)
  | .renewFailed _ => some (none, .loggingIn)
  | .loggedIn =>
    match s.cached with
    | some loggedIn => some (s.cached, .returned loggedIn s.now)
    | none => some (s.cached, .failed)
  | _ => none

/-- The clock moves, perhaps back; a call is made, with the clock moving between
its two readings; a request is answered; a call is resumed. -/
inductive Step where
  | tick (seconds : Int)
  | resolve (between : Int)
  | answer (call : Nat) (answer : VaultAnswer)
  | resume (call : Nat)

/-- A call that goes on writes the cache and takes its next state. -/
def advance (s : VaultAppRoleAuth) (i : Nat)
    (next : ResolveCall → Option (Option CachedToken × ResolveCall)) : VaultAppRoleAuth :=
  match s.calls[i]?.bind next with
  | some (cached, call) => { s with cached, calls := s.calls.set i call }
  | none => s

def step (s : VaultAppRoleAuth) : Step → VaultAppRoleAuth
  | .tick seconds => { s with now := s.now + seconds }
  | .resolve between =>
    { s with now := s.now + between, calls := s.calls ++ [s.resolveToken (s.now + between)] }
  | .answer i answer =>
    { s.advance i (s.answered answer) with answers := s.answers + 1 }
  | .resume i => s.advance i s.resumed

/-- The state that a run leads to from an empty cache. -/
def after (now : Int) (run : List Step) : VaultAppRoleAuth := runs step (start now) run

end VaultAppRoleAuth

end VantGrowth.Secrets
