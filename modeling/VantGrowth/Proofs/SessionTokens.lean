import VantGrowth.Web.AuthToken

namespace VantGrowth.Proofs.SessionTokens
open Lib Lib.JsonRead Web

/-! Which tokens give which claims back. -/

/-- The letter that stands for one of base64 in a URL. -/
def urlUnit (u : UInt16) : UInt16 :=
  if (if u = 0x2B then 0x2D else u) = 0x2F then 0x5F else if u = 0x2B then 0x2D else u

def plainUnit (u : UInt16) : UInt16 :=
  if (if u = 0x2D then 0x2B else u) = 0x5F then 0x2F else if u = 0x2D then 0x2B else u

theorem plainUnit_urlUnit {u : UInt16} (dash : u ≠ 0x2D) (line : u ≠ 0x5F) :
    plainUnit (urlUnit u) = u := by
  by_cases plus : u = 0x2B
  · rw [plus]
    decide
  by_cases slash : u = 0x2F
  · rw [slash]
    decide
  simp [plainUnit, urlUnit, plus, slash, dash, line]

theorem urlUnit_other {u v : UInt16} (h : u ≠ v) (dash : v ≠ 0x2D) (line : v ≠ 0x5F) :
    urlUnit u ≠ v := by
  by_cases plus : u = 0x2B
  · rw [plus]
    exact dash.symm
  by_cases slash : u = 0x2F
  · rw [slash]
    exact line.symm
  simpa [urlUnit, plus, slash] using h

def letters (bs : List UInt8) : JsString := (Base64.sextets bs).map Base64.letter

theorem letters_plain (bs : List UInt8) : ∀ u ∈ letters bs, u ≠ 0x3D ∧ u ≠ 0x2D ∧ u ≠ 0x5F ∧ u ≠ 0x2E :=
  fun u member => (Base64.letters_facts (Base64.sextets_small bs) u member).2

theorem dropWhile_pads {s : JsString} (plain : ∀ u ∈ s, u ≠ 0x3D) (n : Nat) :
    ((s ++ Base64.pads n).reverse.dropWhile (· == 0x3D)).reverse = s := by
  have kept : s.reverse.dropWhile (· == 0x3D) = s.reverse := by
    cases h : s.reverse with
    | nil => rfl
    | cons u us =>
      have other := plain u (List.mem_reverse.mp (by simp [h]))
      simp [other]
  have fillers : ∀ u ∈ (Base64.pads n).reverse, (u == 0x3D) = true := by
    unfold Base64.pads
    split
    · simp [Base64.pad]
    split
    · simp [Base64.pad]
    · simp
  rw [List.reverse_append, List.dropWhile_append_of_pos fillers, kept, List.reverse_reverse]

theorem pads_url (n : Nat) : (Base64.pads n).map urlUnit = Base64.pads n := by
  unfold Base64.pads
  split
  · decide
  split
  · decide
  · rfl

theorem toBase64Url_eq (bs : List UInt8) : toBase64Url bs = (letters bs).map urlUnit := by
  have whole : ((base64Encode bs).map fun u => if u = 0x2B then (0x2D : UInt16) else u).map
      (fun u => if u = 0x2F then (0x5F : UInt16) else u) =
        (letters bs).map urlUnit ++ Base64.pads (Base64.sextets bs).length := by
    rw [base64Encode, Base64.btoa, List.map_map, List.map_append]
    exact congrArg _ (pads_url _)
  have plain : ∀ u ∈ (letters bs).map urlUnit, u ≠ 0x3D := by
    intro u member
    obtain ⟨v, inside, rfl⟩ := List.mem_map.mp member
    exact urlUnit_other (letters_plain bs v inside).1 (by decide) (by decide)
  simp only [toBase64Url, whole]
  exact dropWhile_pads plain _

/-- What is cut from `===` fills the last four letters up. -/
theorem fillers_eq {n : Nat} (h : n % 4 ≠ 1) :
    (JsString.ofString "===").drop ((n + 3) % 4) = Base64.pads n := by
  have three : JsString.ofString "===" = [0x3D, 0x3D, 0x3D] := by decide
  have cases_ : n % 4 = 0 ∨ n % 4 = 2 ∨ n % 4 = 3 := by omega
  rw [three]
  rcases cases_ with zero | two | three
  · have cut : (n + 3) % 4 = 3 := by omega
    simp [cut, Base64.pads, zero]
  · have cut : (n + 3) % 4 = 1 := by omega
    simp [cut, Base64.pads, two, Base64.pad]
  · have cut : (n + 3) % 4 = 2 := by omega
    simp [cut, Base64.pads, three, Base64.pad]

theorem fromBase64Url_toBase64Url (bs : List UInt8) : fromBase64Url (toBase64Url bs) = some bs := by
  have normalized : (((letters bs).map urlUnit).map fun u => if u = 0x2D then (0x2B : UInt16) else u).map
      (fun u => if u = 0x5F then (0x2F : UInt16) else u) = letters bs := by
    rw [List.map_map, List.map_map]
    refine (List.map_congr_left fun u member => ?_).trans (List.map_id _)
    obtain ⟨-, dash, line, -⟩ := letters_plain bs u member
    exact plainUnit_urlUnit dash line
  have size : (letters bs).length % 4 ≠ 1 := by
    rw [letters, List.length_map]
    exact Base64.sextets_length bs
  rw [toBase64Url_eq]
  simp only [fromBase64Url, normalized, fillers_eq size]
  rw [letters, List.length_map]
  exact Base64.atob_btoa bs

theorem toBase64Url_plain (bs : List UInt8) : ∀ u ∈ toBase64Url bs, u ≠ 0x2E := by
  intro u member
  rw [toBase64Url_eq] at member
  obtain ⟨v, inside, rfl⟩ := List.mem_map.mp member
  exact urlUnit_other (letters_plain bs v inside).2.2.2 (by decide) (by decide)

theorem toBase64Url_filled {bs : List UInt8} (filled : bs ≠ []) : toBase64Url bs ≠ [] := by
  intro empty
  have read := fromBase64Url_toBase64Url bs
  rw [empty] at read
  exact filled (Option.some.inj read).symm

/-- The differences of two runs of bytes add up to none where they are the same. -/
theorem differences_zero (a b : List UInt8) (out : UInt8) (size : a.length = b.length) :
    (a.zip b).foldl (fun out (av, bv) => out ||| (av ^^^ bv)) out = 0 ↔ out = 0 ∧ a = b := by
  induction a generalizing b out with
  | nil =>
    rw [List.eq_nil_of_length_eq_zero size.symm]
    simp
  | cons x a ih =>
    cases b with
    | nil => cases size
    | cons y b =>
      rw [List.zip_cons_cons, List.foldl_cons, ih b _ (Nat.succ.inj size), UInt8.or_eq_zero_iff,
        UInt8.xor_eq_zero_iff, List.cons.injEq, and_assoc]

theorem timingSafeEqual_iff (a b : List UInt8) : timingSafeEqual a b = true ↔ a = b := by
  unfold timingSafeEqual
  split
  · rename_i differs
    simp only [Bool.false_eq_true, false_iff]
    rintro rfl
    exact differs rfl
  · rename_i same
    rw [beq_iff_eq, differences_zero a b 0 (not_not.mp same)]
    simp

/-- The claims are read back from their text. -/
theorem parse_json (claims : SessionClaims) : JsonRead.parse claims.json = some claims.value := by
  obtain ⟨k, fuel⟩ : ∃ k, claims.json.length + 1 = k + 5 := by
    refine ⟨claims.json.length - 4, ?_⟩
    simp only [SessionClaims.json, List.length_cons, List.length_append]
    omega
  have exp : readMembers (k + 2) (quoted (.ofString "exp") ++ 0x3A :: (whole claims.exp ++ [0x7D])) =
      some ([(.ofString "exp", .num claims.exp)], []) :=
    readMembers_last (readValue_whole k claims.exp [])
  have role : readMembers (k + 3) (quoted (.ofString "role") ++ 0x3A :: _) = some (_, []) :=
    readMembers_more (readValue_quoted (k + 1) (.ofString "admin") _) exp
  have userId : readMembers (k + 4) (quoted (.ofString "userId") ++ 0x3A :: _) = some (_, []) :=
    readMembers_more (readValue_quoted (k + 2) claims.userId _) role
  have value : readValue (k + 5) claims.json = some (claims.value, []) :=
    readValue_members (by rfl) userId
  rw [JsonRead.parse, fuel, value]
  rfl

theorem quoted_paired (s t : JsString) : JsString.paired (quoted s ++ t) = JsString.paired t := by
  rw [quoted, List.cons_append, JsString.paired_single (by decide) (by decide), List.append_assoc,
    escape_paired]
  exact JsString.paired_single (by decide) (by decide) t

theorem whole_paired (n : Int) (t : JsString) :
    JsString.paired (whole n ++ t) = JsString.paired t := by
  have units := (digits_facts n.natAbs).2.1
  have plain := paired_plain (fun u member => (units u member).2.2) t
  unfold whole
  split
  · rw [List.cons_append, JsString.paired_single (by decide) (by decide), plain]
  · exact plain

theorem json_paired (claims : SessionClaims) : JsString.paired claims.json = true := by
  have single : ∀ {u : UInt16} (t : JsString), u ∈ [0x7B, 0x3A, 0x2C, 0x7D] →
      JsString.paired (u :: t) = JsString.paired t := by
    intro u t member
    have all : ([0x7B, 0x3A, 0x2C, 0x7D] : JsString).all
        (fun u => !JsString.isHigh u && !JsString.isLow u) = true := by decide
    have plain : JsString.isHigh u = false ∧ JsString.isLow u = false := by
      simpa using List.all_eq_true.mp all u member
    exact JsString.paired_single plain.1 plain.2 t
  simp only [SessionClaims.json, quoted_paired, single, List.mem_cons, true_or, or_true,
    whole_paired]
  rfl

/-- The part of a token that holds the claims gives them back until they expire. -/
theorem readClaims_part (numeric : Value → Option JsNumber) (now : Int) (claims : SessionClaims) :
    readClaims numeric now (payloadPart claims) =
      if claims.userId ≠ [] ∧ now / 1000 < claims.exp then some claims.value else none := by
  have text : Utf8.decode (Utf8.encode claims.json) = claims.json :=
    Utf8.decode_encode (json_paired claims) (by simp [SessionClaims.json])
  have role : claims.value.get "role" = some (.str (.ofString "admin")) := by rfl
  have userId : claims.value.get "userId" = some (.str claims.userId) := by rfl
  have exp : claims.value.get "exp" = some (.num claims.exp) := by rfl
  have expired : atMost numeric (some (.num claims.exp)) (now / 1000) =
      some (decide (claims.exp ≤ now / 1000)) := by
    simp [atMost]
  simp only [readClaims, payloadPart, fromBase64Url_toBase64Url, text, parse_json, role, userId, exp,
    expired, Option.bind_eq_bind, Option.bind_some]
  by_cases named : claims.userId ≠ []
  · by_cases live : now / 1000 < claims.exp
    · simp [named, live]
    · simp [named, live]
  · simp [named]

theorem payloadPart_ascii (claims : SessionClaims) : ∀ u ∈ payloadPart claims, u.toNat < 0x80 := by
  have letter : ∀ n < 64, (urlUnit (Base64.letter n)).toNat < 0x80 := by decide
  intro u member
  rw [payloadPart, toBase64Url_eq] at member
  obtain ⟨v, inside, rfl⟩ := List.mem_map.mp member
  obtain ⟨n, sextet, rfl⟩ := List.mem_map.mp inside
  exact letter n (Base64.sextets_small _ n sextet)

theorem payloadPart_filled (claims : SessionClaims) : payloadPart claims ≠ [] := by
  refine toBase64Url_filled fun empty => ?_
  have read := Utf8.decode_encode (json_paired claims) (by simp [SessionClaims.json])
  rw [empty] at read
  cases read

section
variable (hmac : List UInt8 → List UInt8 → List UInt8) (secret : JsString)

def key : List UInt8 := Utf8.encode secret

/-- A right signature in a token is of a message that was signed for some token. -/
def Unforged (token : JsString) : Prop :=
  ∀ part sigPart rest, token.splitOn 0x2E = part :: sigPart :: rest →
    fromBase64Url sigPart = some (hmac (key secret) (Utf8.encode part)) →
      ∃ userId moment, Utf8.encode part = Utf8.encode (payloadPart (issuedClaims userId moment))

/-- The signature of a token with two segments can be decoded. -/
def Decodable (token : JsString) : Prop :=
  ∀ part sigPart rest, token.splitOn 0x2E = part :: sigPart :: rest → part ≠ [] → sigPart ≠ [] →
    (fromBase64Url sigPart).isSome = true

/-- The first two segments are the claims of a named user that have not expired,
as they are issued, and their signature. -/
def Vouches (now : Int) (token : JsString) (claims : SessionClaims) : Prop :=
  ∃ userId moment sigPart rest, claims = issuedClaims userId moment ∧ userId ≠ [] ∧
    now / 1000 < claims.exp ∧ token.splitOn 0x2E = payloadPart claims :: sigPart :: rest ∧
      fromBase64Url sigPart = sign hmac secret (payloadPart claims)

variable {hmac secret}

theorem encode_filled {s : JsString} (filled : s ≠ []) : Utf8.encode s ≠ [] := by
  intro empty
  have chars := Utf8.decodeFrom_chars (JsString.decode s)
  rw [show (JsString.decode s).flatMap Utf8.encodeChar = [] from empty] at chars
  unfold JsString.decode at chars
  split at chars
  · exact filled rfl
  · cases chars
  · split at chars <;> cases chars

theorem sign_keyed (hmac : List UInt8 → List UInt8 → List UInt8) (keyed : secret ≠ []) (message : JsString) :
    sign hmac secret message = some (hmac (key secret) (Utf8.encode message)) := by
  simp only [sign, if_neg (encode_filled keyed)]
  rfl

/-- What a call comes to on a token whose first two segments are not empty. -/
theorem verify_segments (hmac : List UInt8 → List UInt8 → List UInt8) (keyed : secret ≠ []) (numeric : Value → Option JsNumber) (now : Int)
    {token part sigPart : JsString} {rest : List JsString} {tag : List UInt8}
    (split : token.splitOn 0x2E = part :: sigPart :: rest) (filled : part ≠ [])
    (filled' : sigPart ≠ []) (decoded : fromBase64Url sigPart = some tag) :
    verifySessionToken hmac secret numeric now (some token) =
      some (if hmac (key secret) (Utf8.encode part) = tag then readClaims numeric now part
        else none) := by
  have nonempty : token ≠ [] := by
    rintro rfl
    cases split
  have goes : ¬ (part = [] ∨ sigPart = []) := by simp [filled, filled']
  unfold verifySessionToken
  split
  · rename_i h
    cases h
  · rename_i h
    exact absurd (Option.some.inj h) nonempty
  · rename_i h
    cases h
    simp only [split, goes, if_false, sign_keyed hmac keyed, decoded, Option.bind_eq_bind,
      Option.bind_some]
    by_cases same : hmac (key secret) (Utf8.encode part) = tag
    · simp [same, (timingSafeEqual_iff tag tag).mpr rfl]
    · have other : timingSafeEqual (hmac (key secret) (Utf8.encode part)) tag = false := by
        rw [← Bool.not_eq_true, timingSafeEqual_iff]
        exact same
      simp [same, other]

/-- A token has the segments it was put together from, and more where more is
added to it behind a dot. -/
theorem segments {p tail : JsString} (plain : ∀ u ∈ p, u ≠ 0x2E) :
    (p ++ 0x2E :: tail).splitOn 0x2E = p :: tail.splitOn 0x2E :=
  List.splitOn_append_cons_self_of_not_mem (fun member => plain _ member rfl) tail

theorem created_segments {userId : JsString} {moment : Int} {token : JsString}
    (created : createSessionToken hmac secret userId moment = some token) :
    ∃ tag, sign hmac secret (payloadPart (issuedClaims userId moment)) = some tag ∧
      token = payloadPart (issuedClaims userId moment) ++ 0x2E :: toBase64Url tag ∧
      token.splitOn 0x2E = [payloadPart (issuedClaims userId moment), toBase64Url tag] := by
  simp only [createSessionToken, Option.bind_eq_bind, Option.bind_eq_some_iff] at created
  obtain ⟨tag, signed, token_⟩ := created
  have split : token = payloadPart (issuedClaims userId moment) ++ 0x2E :: toBase64Url tag :=
    (Option.some.inj token_).symm
  refine ⟨tag, signed, split, ?_⟩
  rw [split, segments (p := payloadPart _) (toBase64Url_plain _),
    List.splitOn_eq_singleton fun member => toBase64Url_plain tag _ member rfl]

/-- A token that was issued, with anything behind it, gives its claims while they last. -/
theorem verify_created (sized : ∀ k m, (hmac k m).length = 32) (keyed : secret ≠ [])
    (numeric : Value → Option JsNumber) (now : Int) {userId : JsString} {moment : Int}
    {token part sigPart : JsString} {tag : List UInt8} {rest : List JsString}
    (claimed : part = payloadPart (issuedClaims userId moment))
    (signed : sign hmac secret part = some tag)
    (encoded : sigPart = toBase64Url tag)
    (split : token.splitOn 0x2E = part :: sigPart :: rest) :
    verifySessionToken hmac secret numeric now (some token) =
      some (if userId ≠ [] ∧ now / 1000 < (issuedClaims userId moment).exp
        then some (issuedClaims userId moment).value else none) := by
  have tagged : hmac (key secret) (Utf8.encode part) = tag := by
    rw [sign_keyed hmac keyed] at signed
    exact Option.some.inj signed
  have filled : tag ≠ [] := by
    rintro rfl
    have size := sized (key secret) (Utf8.encode part)
    rw [tagged] at size
    cases size
  rw [verify_segments hmac keyed numeric now split (claimed ▸ payloadPart_filled _)
    (encoded ▸ toBase64Url_filled filled) (encoded ▸ fromBase64Url_toBase64Url tag), if_pos tagged,
    claimed, readClaims_part]
  rfl

/-- A token that can be decoded gives claims back, exactly as they are issued, if it
vouches for them, and nothing otherwise; issued tokens do until they expire. -/
theorem sessions_verified (sized : ∀ k m, (hmac k m).length = 32) (keyed : secret ≠ [])
    (numeric : Value → Option JsNumber) (now : Int) (token : JsString)
    (unforged : Unforged hmac secret token) (decodable : Decodable token) :
    (∃ result, verifySessionToken hmac secret numeric now (some token) = some result ∧
      ∀ v, result = some v ↔ ∃ claims, Vouches hmac secret now token claims ∧ v = claims.value) ∧
    ∀ userId moment, userId ≠ [] → now / 1000 < (issuedClaims userId moment).exp →
      ∃ issued, createSessionToken hmac secret userId moment = some issued ∧
        verifySessionToken hmac secret numeric now (some issued) =
          some (some (issuedClaims userId moment).value) := by
  constructor
  · have none_ : verifySessionToken hmac secret numeric now (some token) = some none →
        (∀ claims, ¬ Vouches hmac secret now token claims) →
          ∃ result, verifySessionToken hmac secret numeric now (some token) = some result ∧
            ∀ v, result = some v ↔ ∃ claims, Vouches hmac secret now token claims ∧ v = claims.value :=
      fun null refused => ⟨none, null, fun v => ⟨by simp, fun ⟨claims, vouched, _⟩ =>
        absurd vouched (refused claims)⟩⟩
    have signed : ∀ {part sigPart : JsString},
        fromBase64Url sigPart = sign hmac secret part → sigPart ≠ [] := by
      rintro part sigPart same rfl
      rw [sign_keyed hmac keyed] at same
      have size := sized (key secret) (Utf8.encode part)
      rw [← Option.some.inj same] at size
      cases size
    cases split : token.splitOn 0x2E with
    | nil => exact absurd split (List.splitOn_ne_nil 0x2E token)
    | cons part later =>
      cases later with
      | nil =>
        refine none_ ?_ ?_
        · cases token with
          | nil => rfl
          | cons u us => simp only [verifySessionToken, split]
        · rintro claims ⟨userId, moment, sigPart, rest, -, -, -, segments_, -⟩
          rw [split] at segments_
          cases segments_
      | cons sigPart rest =>
        by_cases empty : part = [] ∨ sigPart = []
        · refine none_ ?_ ?_
          · cases token with
            | nil => rfl
            | cons u us => simp only [verifySessionToken, split, empty, if_true]
          · rintro claims ⟨userId, moment, sigPart', rest', -, -, -, segments_, same⟩
            rw [split] at segments_
            cases segments_
            exact empty.elim (payloadPart_filled claims) (signed same)
        · obtain ⟨filled, filled'⟩ := not_or.mp empty
          obtain ⟨tag, decoded⟩ := Option.isSome_iff_exists.mp
            (decodable part sigPart rest split filled filled')
          have result := verify_segments hmac keyed numeric now split filled filled' decoded
          by_cases same : hmac (key secret) (Utf8.encode part) = tag
          · obtain ⟨userId, moment, bytes⟩ := unforged part sigPart rest split (by rw [decoded, same])
            have claimed : part = payloadPart (issuedClaims userId moment) :=
              Utf8.encode_ascii_inj (payloadPart_ascii _) bytes
            rw [if_pos same] at result
            refine ⟨_, result, fun v => ⟨fun read => ?_, ?_⟩⟩
            · rw [claimed, readClaims_part] at read
              split at read
              · rename_i live
                refine ⟨_, ⟨userId, moment, sigPart, rest, rfl, live.1, live.2, ?_, ?_⟩,
                  (Option.some.inj read).symm⟩
                · rw [split, claimed]
                · rw [decoded, sign_keyed hmac keyed, ← claimed, same]
              · cases read
            · rintro ⟨claims, ⟨userId', moment', sigPart', rest', rfl, named, live, segments_, -⟩, rfl⟩
              rw [split] at segments_
              cases segments_
              rw [readClaims_part, if_pos ⟨named, live⟩]
          · rw [if_neg same] at result
            refine none_ result ?_
            rintro claims ⟨userId, moment, sigPart', rest', -, -, -, segments_, signature⟩
            rw [split] at segments_
            cases segments_
            rw [decoded, sign_keyed hmac keyed] at signature
            exact same (Option.some.inj signature).symm
  · intro userId moment named live
    have signed := sign_keyed hmac keyed (payloadPart (issuedClaims userId moment))
    obtain ⟨issued, created⟩ : ∃ issued, createSessionToken hmac secret userId moment = some issued := by
      simp only [createSessionToken, signed, Option.bind_eq_bind, Option.bind_some]
      exact ⟨_, rfl⟩
    obtain ⟨tag, signed', -, split⟩ := created_segments created
    refine ⟨issued, created, ?_⟩
    rw [verify_created sized keyed numeric now rfl signed' rfl split, if_pos ⟨named, live⟩]

end

def devSecret : JsString := getSessionSecret none

def alice : JsString := .ofString "a"

/-- HMAC with SHA-256 under the secret above, on the two messages signed below. -/
def devHmac (_ message : List UInt8) : List UInt8 :=
  if message = Utf8.encode (payloadPart (issuedClaims alice 0)) then
    [248, 214, 14, 142, 103, 211, 79, 156, 197, 136, 98, 45, 69, 194, 254, 74,
      210, 158, 216, 150, 40, 248, 242, 69, 74, 202, 46, 150, 123, 91, 101, 23]
  else
    [149, 70, 58, 88, 37, 218, 163, 154, 180, 207, 204, 255, 210, 105, 233, 156,
      144, 188, 56, 105, 215, 87, 14, 180, 80, 160, 124, 146, 73, 31, 178, 183]

theorem devHmac_sized (k m : List UInt8) : (devHmac k m).length = 32 := by
  unfold devHmac
  split <;> rfl

theorem devSecret_keyed : devSecret ≠ [] := by decide

theorem sessions_verified_dev : ∃ token,
    createSessionToken devHmac devSecret alice 0 = some token ∧
      verifySessionToken devHmac devSecret (fun _ => none) 0 (some token) =
        some (some (issuedClaims alice 0).value) := by
  obtain ⟨token, created⟩ : ∃ token, createSessionToken devHmac devSecret alice 0 = some token := by
    simp only [createSessionToken, sign_keyed _ devSecret_keyed, Option.bind_eq_bind, Option.bind_some]
    exact ⟨_, rfl⟩
  obtain ⟨tag, signed, -, split⟩ := created_segments created
  have unforged : Unforged devHmac devSecret token := by
    intro part sigPart rest segments_ _
    rw [split] at segments_
    cases segments_
    exact ⟨alice, 0, rfl⟩
  have decodable : Decodable token := by
    intro part sigPart rest segments_ _ _
    rw [split] at segments_
    cases segments_
    rw [fromBase64Url_toBase64Url]
    rfl
  obtain ⟨⟨result, verified, returned⟩, _⟩ := sessions_verified devHmac_sized devSecret_keyed
    (fun _ => none) 0 token unforged decodable
  have vouched : Vouches devHmac devSecret 0 token (issuedClaims alice 0) :=
    ⟨alice, 0, _, _, rfl, by decide, by decide, split, by rw [fromBase64Url_toBase64Url, signed]⟩
  exact ⟨token, created, by rw [verified, (returned _).mpr ⟨_, vouched, rfl⟩]⟩

/-- Tokens give claims back exactly if they were issued for them, and no call throws. -/
def Exact (hmac : List UInt8 → List UInt8 → List UInt8) (secret : JsString)
    (numeric : Value → Option JsNumber) (now : Int) : Prop :=
  ∀ token, Unforged hmac secret token →
    ∃ result, verifySessionToken hmac secret numeric now (some token) = some result ∧
      ∀ v, result = some v ↔ ∃ userId moment,
        createSessionToken hmac secret userId moment = some token ∧
          now / 1000 < (issuedClaims userId moment).exp ∧ v = (issuedClaims userId moment).value

/-- A token issued for no user is refused, an issued token with one more segment is
not, and a signature of other letters throws. -/
theorem sessions_inexact :
    (∃ token, createSessionToken devHmac devSecret [] 0 = some token ∧
      verifySessionToken devHmac devSecret (fun _ => none) 0 (some token) = some none) ∧
    (∃ token, createSessionToken devHmac devSecret alice 0 = some token ∧
      verifySessionToken devHmac devSecret (fun _ => none) 0 (some (token ++ .ofString ".x")) =
        some (some (issuedClaims alice 0).value)) ∧
    verifySessionToken devHmac devSecret (fun _ => none) 0 (some (.ofString "a.!")) = none ∧
    ¬ Exact devHmac devSecret (fun _ => none) 0 := by
  have create : ∀ userId, ∃ token, createSessionToken devHmac devSecret userId 0 = some token := by
    intro userId
    simp only [createSessionToken, sign_keyed _ devSecret_keyed, Option.bind_eq_bind, Option.bind_some]
    exact ⟨_, rfl⟩
  have refused : ∀ token, createSessionToken devHmac devSecret [] 0 = some token →
      verifySessionToken devHmac devSecret (fun _ => none) 0 (some token) = some none := by
    intro token created
    obtain ⟨tag, signed, -, split⟩ := created_segments created
    rw [verify_created devHmac_sized devSecret_keyed _ 0 rfl signed rfl split]
    rfl
  refine ⟨?_, ?_, ?_, ?_⟩
  · obtain ⟨token, created⟩ := create []
    exact ⟨token, created, refused token created⟩
  · obtain ⟨token, created⟩ := create alice
    obtain ⟨tag, signed, whole_, -⟩ := created_segments created
    refine ⟨token, created, ?_⟩
    have split : (token ++ JsString.ofString ".x").splitOn 0x2E =
        [payloadPart (issuedClaims alice 0), toBase64Url tag, .ofString "x"] := by
      have dot : JsString.ofString ".x" = 0x2E :: JsString.ofString "x" := rfl
      rw [whole_, dot, List.append_assoc, List.cons_append,
        segments (p := payloadPart _) (toBase64Url_plain _), segments (toBase64Url_plain tag)]
      rfl
    rw [verify_created devHmac_sized devSecret_keyed _ 0 rfl signed rfl split]
    rfl
  · have illegal : fromBase64Url (.ofString "!") = none := by decide
    have split : (JsString.ofString "a.!").splitOn 0x2E = [JsString.ofString "a", JsString.ofString "!"] := by
      decide
    have filled : ¬ (JsString.ofString "a" = [] ∨ JsString.ofString "!" = []) := by decide
    have token : JsString.ofString "a.!" = 0x61 :: JsString.ofString ".!" := rfl
    rw [token] at split ⊢
    simp only [verifySessionToken, split, filled, if_false, sign_keyed _ devSecret_keyed, illegal,
      Option.bind_eq_bind, Option.bind_some, Option.bind_none]
  · intro exact_
    obtain ⟨token, created⟩ := create []
    obtain ⟨tag, -, -, split⟩ := created_segments created
    have unforged : Unforged devHmac devSecret token := by
      intro part sigPart rest segments_ _
      rw [split] at segments_
      cases segments_
      exact ⟨[], 0, rfl⟩
    obtain ⟨result, verified, returned⟩ := exact_ token unforged
    have accepted := (returned _).mpr ⟨[], 0, created, by decide, rfl⟩
    rw [refused token created, accepted] at verified
    cases verified

end VantGrowth.Proofs.SessionTokens
