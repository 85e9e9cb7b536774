import VantGrowth.Db.Contracts
import VantGrowth.Lib.InsertionMap

namespace VantGrowth.Db
open Lib

/-- A settings document, one value a key. -/
abbrev TenantSettingsPayload := InsertionMap String Json

/-- The entries of a patch; a value may be undefined. -/
abbrev TenantSettingsPatch := List (String × Option Json)

def shallowMerge (base : TenantSettingsPayload) (patch : TenantSettingsPatch) :
    TenantSettingsPayload :=
  patch.foldl (fun next entry =>
    match entry.2 with
    | some value => next.set entry.1 value
    | none => next) base

/-- How far a call of `patch` has come. -/
inductive PatchPhase where
  | called
  /-- It awaits what it read, `none` where there is no row. -/
  | read (existing : Option TenantSettingsPayload)
  /-- Its statement has written the row and its transaction is open. -/
  | written (existing : Option TenantSettingsPayload)
  | returned (settings : TenantSettingsPayload)
  | failed

structure PatchCall where
  tenantId : String
  patch : TenantSettingsPatch
  phase : PatchPhase

/-- What a call makes of the document it read. -/
def PatchCall.merged (call : PatchCall) (existing : Option TenantSettingsPayload) :
    TenantSettingsPayload :=
  shallowMerge (existing.getD .empty) call.patch

/-- The committed rows and the calls so far. -/
structure TenantSettingsStore where
  rows : InsertionMap String TenantSettingsPayload
  calls : List PatchCall

namespace TenantSettingsStore

def goOn (s : TenantSettingsStore) (i : Nat) (call : PatchCall) (phase : PatchPhase) :
    TenantSettingsStore :=
  { s with calls := s.calls.set i { call with phase } }

/-- The row is written for all to see and the call returns it. -/
def put (s : TenantSettingsStore) (i : Nat) (call : PatchCall) (settings : TenantSettingsPayload) :
    TenantSettingsStore where
  rows := s.rows.set call.tenantId settings
  calls := s.calls.set i { call with phase := .returned settings }

/-- A transaction that wrote the tenant's row is still open. -/
def locked (s : TenantSettingsStore) (tenantId : String) : Bool :=
  s.calls.any fun call => call.tenantId == tenantId &&
    match call.phase with
    | .written _ => true
    | _ => false

end TenantSettingsStore

open TenantSettingsStore

/-- `InMemoryTenantSettingsRepository.patch`, from one await to the next. -/
def advanceInMemory (s : TenantSettingsStore) (i : Nat) (call : PatchCall) : TenantSettingsStore :=
  match call.phase with
  | .called => s.goOn i call (.read (s.rows.get call.tenantId))
  | .read existing => s.put i call (call.merged existing)
  | _ => s

/-- `PostgresTenantSettingsRepository.patch`, from one statement to the next.
A write waits for an open transaction on the row; then an insert finds the row
free or violates its key, and an update that finds no row is an error. -/
def advancePostgres (s : TenantSettingsStore) (i : Nat) (call : PatchCall) : TenantSettingsStore :=
  match call.phase with
  | .called => s.goOn i call (.read (s.rows.get call.tenantId))
  | .read existing =>
    if s.locked call.tenantId then s
    else if existing.isSome = (s.rows.get call.tenantId).isSome then s.goOn i call (.written existing)
    else s.goOn i call .failed
  | .written existing => s.put i call (call.merged existing)
  | _ => s

inductive SettingsStep where
  | patch (tenantId : String) (patch : TenantSettingsPatch)
  | advance (i : Nat)

def settingsStep (b : Backend) (s : TenantSettingsStore) : SettingsStep → TenantSettingsStore
  | .patch tenantId patch =>
    { s with calls := s.calls ++ [⟨tenantId, patch, if isUuid tenantId then .called else .failed⟩] }
  | .advance i =>
    match s.calls[i]? with
    | none => s
    | some call =>
      match b with
      | .inMemory => advanceInMemory s i call
      | .postgres => advancePostgres s i call

end VantGrowth.Db
