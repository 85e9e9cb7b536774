import VantGrowth.Lib.Base64
import VantGrowth.Lib.JsDate
import VantGrowth.Lib.JsonRead
import VantGrowth.Lib.Utf8

/-! Session tokens of the web app. -/

namespace VantGrowth.Web
open Lib Lib.JsonRead

def SESSION_TTL_SECONDS : Int := 60 * 60 * 8

/-- The role is `admin` in all of them. -/
structure SessionClaims where
  userId : JsString
  exp : Int

/-- What `JSON.stringify` writes of the claims. -/
def SessionClaims.json (claims : SessionClaims) : JsString :=
  0x7B :: (quoted (.ofString "userId") ++ 0x3A :: (quoted claims.userId ++ 0x2C ::
    (quoted (.ofString "role") ++ 0x3A :: (quoted (.ofString "admin") ++ 0x2C ::
      (quoted (.ofString "exp") ++ 0x3A :: (whole claims.exp ++ [0x7D]))))))

/-- The claims as `JSON.parse` gives them back. -/
def SessionClaims.value (claims : SessionClaims) : Value :=
  .obj [(.ofString "userId", .str claims.userId), (.ofString "role", .str (.ofString "admin")),
    (.ofString "exp", .num claims.exp)]

/-- `btoa` is defined wherever the app runs. -/
def base64Encode (bytes : List UInt8) : JsString := Base64.btoa bytes

/-- As is `atob`, which throws where there is no result. -/
def base64Decode (value : JsString) : Option (List UInt8) := Base64.atob value

def toBase64Url (data : List UInt8) : JsString :=
  let plain := (base64Encode data).map fun u => if u = 0x2B then 0x2D else u
  let safe := plain.map fun u => if u = 0x2F then 0x5F else u
  (safe.reverse.dropWhile (· == 0x3D)).reverse

def fromBase64Url (value : JsString) : Option (List UInt8) :=
  let plus := value.map fun u => if u = 0x2D then 0x2B else u
  let normalized := plus.map fun u => if u = 0x5F then 0x2F else u
  base64Decode (normalized ++ (JsString.ofString "===").drop ((normalized.length + 3) % 4))

def timingSafeEqual (a b : List UInt8) : Bool :=
  if a.length ≠ b.length then false
  else (a.zip b).foldl (fun out (av, bv) => out ||| (av ^^^ bv)) 0 == 0

def getSessionSecret (configured : Option JsString) : JsString :=
  configured.getD (.ofString "growthos-dev-session-secret-change-me")

section
variable (hmac : List UInt8 → List UInt8 → List UInt8) (secret : JsString)

/-- HMAC with SHA-256. A key of no length cannot be imported. -/
def sign (message : JsString) : Option (List UInt8) :=
  let key := Utf8.encode secret
  if key = [] then none else some (hmac key (Utf8.encode message))

def payloadPart (claims : SessionClaims) : JsString := toBase64Url (Utf8.encode claims.json)

/-- The claims of a session that starts at a moment, in milliseconds. -/
def issuedClaims (userId : JsString) (now : Int) : SessionClaims where
  userId := userId
  exp := now / 1000 + SESSION_TTL_SECONDS

/-- The token of a user at a moment, if there is no error. -/
def createSessionToken (userId : JsString) (now : Int) : Option JsString := do
  let part := payloadPart (issuedClaims userId now)
  let signature ← sign hmac secret part
  return part ++ 0x2E :: toBase64Url signature

/-- `value <= bound`, which may throw where the value is neither a number nor
missing: such values are first made numbers. -/
def atMost (numeric : Value → Option JsNumber) (value : Option Value) (bound : Int) : Option Bool :=
  match value with
  | none => some false
  | some (.num q) => some (q ≤ bound)
  | some other => (numeric other).map fun n =>
    match n with
    | .finite q => q ≤ bound
    | .negInfinity => true
    | _ => false

/-- The part in the `try` block: no value where it throws or returns `null`. -/
def readClaims (numeric : Value → Option JsNumber) (now : Int) (part : JsString) : Option Value := do
  let bytes ← fromBase64Url part
  let payload ← JsonRead.parse (Utf8.decode bytes)
  let .str role ← payload.get "role" | none
  guard (role = .ofString "admin")
  let .str userId ← payload.get "userId" | none
  guard (userId ≠ [])
  let expired ← atMost numeric (payload.get "exp") (now / 1000)
  guard (expired = false)
  return payload

/-- The value returned, or nothing where the call throws. -/
def verifySessionToken (numeric : Value → Option JsNumber) (now : Int) (token : Option JsString) :
    Option (Option Value) :=
  match token with
  | none | some [] => some none
  | some token =>
    match token.splitOn 0x2E with
    | part :: sigPart :: _ =>
      if part = [] ∨ sigPart = [] then some none
      else do
        let expectedSig ← sign hmac secret part
        let providedSig ← fromBase64Url sigPart
        if timingSafeEqual expectedSig providedSig then return readClaims numeric now part
        else return none
    | _ => some none

end

end VantGrowth.Web
