import VantGrowth.Db.Contracts
import VantGrowth.Lib.JsObject
import VantGrowth.Lib.Store

/-! The secret store that keeps its values in environment variables, and the
service that scopes it by tenant. -/

namespace VantGrowth.Secrets
open Lib Lib.Text Db

/-- What the pattern of `secretPathSchema` allows. -/
def isPathChar (c : Char) : Bool := c.isLower || c.isDigit || c == '_' || c == '/' || c == '-'

/-- `secretPathSchema` -/
def validPath (path : String) : Bool := path != "" && path.toList.all isPathChar

def mapChars (f : Char → Char) (s : String) : String := String.ofList (s.toList.map f)

def isAscii (s : String) : Bool := s.toList.all (·.toNat < 128)

/-- The case mappings of the language. They are used on what a path is made of;
upper-casing treats every character by itself. -/
structure Casing where
  toUpperCase : String → String
  toLowerCase : String → String
  upper_append : ∀ s t, isAscii t = true →
    toUpperCase (s ++ t) = toUpperCase s ++ mapChars Char.toUpper t
  lower_ascii : ∀ s, isAscii s = true → toLowerCase s = mapChars Char.toLower s

inductive SecretError where
  | zod
deriving DecidableEq

structure SecretMetadata where
  path : String
  updatedAt : String

abbrev Env := InsertionMap String String

abbrev EnvStore := Store SecretError Env

structure EnvSecretManager where
  casing : Casing
  keyPrefix : String := ""

/-- A slash and a hyphen are replaced by `_`. -/
def separator (c : Char) : Char := if c = '/' ∨ c = '-' then '_' else c

namespace EnvSecretManager
variable (m : EnvSecretManager)

def toEnvKey (path : String) : String :=
  let full := if m.keyPrefix = "" then path else m.keyPrefix ++ "/" ++ path
  mapChars separator (m.casing.toUpperCase full)

def get (path : String) : EnvStore (Option String) := do
  Store.require (validPath path = true) .zod
  Store.read fun env => env.get (m.toEnvKey path)

def put (now : Instant) (path value : String) : EnvStore SecretMetadata := do
  Store.require (validPath path = true) .zod
  Store.modify fun env => env.set (m.toEnvKey path) value
  return ⟨path, Instant.toISOString now⟩

def delete (path : String) : EnvStore Unit := do
  Store.require (validPath path = true) .zod
  Store.modify fun env => env.erase (m.toEnvKey path)

/-- The path that `list` makes of a variable under a prefix. -/
def listedPath (pre key : String) : String :=
  pre ++ "/" ++ m.casing.toLowerCase (String.ofList (key.toList.drop ((m.toEnvKey pre).toList.length + 1)))

def list (pre : String) : EnvStore (List String) := do
  Store.require (validPath pre = true) .zod
  let keys ← Store.read fun env => env.entries.map Prod.fst
  let under := keys.filter fun key => (m.toEnvKey pre ++ "_").toList.isPrefixOf key.toList
  return (under.map (m.listedPath pre)).filter (· ≠ "")

end EnvSecretManager

namespace TenantSecretsService
variable (m : EnvSecretManager)

def scopedPath (tenantId key : String) : EnvStore String := do
  Store.require (isUuid tenantId = true) .zod
  let path := "tenants/" ++ tenantId ++ "/" ++ key
  Store.require (validPath path = true) .zod
  return path

def get (tenantId key : String) : EnvStore (Option String) := do
  let path ← scopedPath tenantId key
  m.get path

def put (now : Instant) (tenantId key value : String) : EnvStore SecretMetadata := do
  let path ← scopedPath tenantId key
  m.put now path value

def delete (tenantId key : String) : EnvStore Unit := do
  let path ← scopedPath tenantId key
  m.delete path

def listKeys (tenantId : String) : EnvStore (List String) := do
  Store.require (isUuid tenantId = true) .zod
  let pre := "tenants/" ++ tenantId
  Store.require (validPath pre = true) .zod
  let paths ← m.list pre
  return (paths.map fun p => String.ofList (p.toList.drop (pre ++ "/").toList.length)).filter (· ≠ "")

end TenantSecretsService

end VantGrowth.Secrets
