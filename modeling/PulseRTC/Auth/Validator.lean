import Mathlib.Data.List.DropRight
import Mathlib.Logic.Equiv.List
import PulseRTC.Cluster.Messages

/-!
# Tokens and their validation

A token is a compact JWS: the header, the claims and the signature, each as base64 text, joined by
dots. `Sign` makes one and `Validator.Validate` turns one into an identity.

* The JSON and base64 encodings and the HMAC are a parameter, the `Codec`; all that is known of the
  encodings is that a value comes back from its text, and that the text is made of characters
  that are neither dots nor blanks. `Codec.unary` is one.
-/

namespace PulseRTC.Auth

open Cluster List

/-! ## Times -/

/-- The largest `time.Duration`. -/
def maxDuration : Time := 2 ^ 63 - 1

/-- The smallest `time.Duration`. -/
def minDuration : Time := -2 ^ 63

/-- `t.Sub(u)`, which stops at the ends of the range of a duration. -/
def sub (t u : Time) : Time := max minDuration (min maxDuration (t - u))

/-- The sum of two durations, an `int64`. -/
def addDuration (d e : Time) : Time := Int.bmod (d + e) (2 ^ 64)

/-- `time.Unix(sec, 0)`. -/
def unixTime (sec : ℤ) : Time := sec * second

/-- `t.Unix()`: whole seconds, rounded down. -/
def toUnix (t : Time) : ℤ := t / second

theorem unixTime_toUnix_le (t : Time) : unixTime (toUnix t) ≤ t :=
  Int.ediv_mul_le t (by decide)

theorem sub_mono {t t' : Time} (h : t ≤ t') (u : Time) : sub t u ≤ sub t' u :=
  max_le_max le_rfl (min_le_min le_rfl (Int.sub_le_sub_right h u))

/-! ## Data -/

structure Permissions where
  join : Bool := false
  publish : Bool := false
  subscribe : Bool := false
  control : Bool := false
  deriving DecidableEq

/-- `Claims`; times are UNIX seconds, 0 when absent. -/
structure Claims where
  subject : String
  name : String := ""
  room : String := ""
  permissions : Permissions := {}
  issuedAt : ℤ := 0
  expiresAt : ℤ := 0
  issuer : String := ""
  audience : String := ""
  jti : String := ""
  deriving DecidableEq

structure Identity where
  subject : String
  name : String := ""
  room : String := ""
  permissions : Permissions := {}
  jti : String := ""
  expiresAt : ℤ := 0
  deriving DecidableEq

/-- The codes of the errors below. -/
inductive Code
  | unauthenticated
  | invalidToken
  | expiredToken
  | invalidIssuer
  | invalidAudience
  | rateLimited
  deriving DecidableEq

structure Error where
  code : Code
  message : String
  deriving DecidableEq

def errMissing : Error := ⟨.unauthenticated, "authentication required"⟩
def errMalformed : Error := ⟨.invalidToken, "token is malformed"⟩
def errBadSig : Error := ⟨.invalidToken, "token signature is invalid"⟩
def errBadAlg : Error := ⟨.invalidToken, "unexpected token algorithm"⟩
def errExpired : Error := ⟨.expiredToken, "token has expired"⟩
def errNotYetValid : Error := ⟨.invalidToken, "token is not valid yet"⟩
def errNoIat : Error := ⟨.invalidToken, "token is missing iat"⟩
def errStale : Error := ⟨.invalidToken, "token is too old"⟩
def errNoSub : Error := ⟨.invalidToken, "token is missing sub"⟩
def errIssuer : Error := ⟨.invalidIssuer, "token issuer is not accepted"⟩
def errAudience : Error := ⟨.invalidAudience, "token audience is not accepted"⟩

/-- The part of `Config` that concerns tokens. -/
structure Config where
  enabled : Bool := true
  secret : String := ""
  issuer : String := "pulsertc"
  audience : String := "pulsertc"
  algs : List String := ["HS256"]
  leeway : Time := 60 * second
  maxTokenAge : Time := 3600 * second
  deriving DecidableEq

/-! ## Encodings -/

/-- The algorithms of `hmacHashes`. -/
inductive Alg
  | hs256
  | hs384
  | hs512
  deriving DecidableEq

def hmacHashes : String → Option Alg
  | "HS256" => some .hs256
  | "HS384" => some .hs384
  | "HS512" => some .hs512
  | _ => none

/-- `jwtHeader`. -/
structure Header where
  alg : String
  typ : String
  deriving DecidableEq

/-- The JSON of a value as base64 text, and back. -/
structure Encoding (α : Type) where
  encode : α → List Char
  decode : List Char → Option α
  decode_encode : ∀ a, decode (encode a) = some a
  encode_ne_nil : ∀ a, encode a ≠ []
  plain : ∀ a, ∀ c ∈ encode a, c ≠ '.' ∧ isSpace c = false

/-- The encodings of the three parts of a token, and the HMAC with each of the hashes. -/
structure Codec (σ : Type) where
  header : Encoding Header
  claims : Encoding Claims
  signature : Encoding σ
  mac : Alg → String → List Char → σ

/-- `strings.TrimSpace`. -/
def trimSpace (s : List Char) : List Char := (s.dropWhile isSpace).rdropWhile isSpace

theorem trimSpace_of_plain {s : List Char} (h : ∀ c ∈ s, isSpace c = false) :
    trimSpace s = s := by
  have hdrop : s.dropWhile isSpace = s := by
    rw [dropWhile_eq_self_iff]
    intro hl
    simp [h _ (getElem_mem hl)]
  rw [trimSpace, hdrop, rdropWhile_eq_self_iff]
  intro hl
  simp [h _ (getLast_mem hl)]

section

variable {σ : Type} (c : Codec σ)

def sign (claims : Claims) (alg secret : String) : Except Error String :=
  match hmacHashes alg with
  | none => .error errBadAlg
  | some newHash =>
    let signing := c.header.encode ⟨alg, "JWT"⟩ ++ '.' :: c.claims.encode claims
    .ok (String.ofList (signing ++ '.' :: c.signature.encode (c.mac newHash secret signing)))

variable {claims : Claims} {alg secret token : String}

theorem blank_sign (h : sign c claims alg secret = .ok token) : blank token = false := by
  unfold sign at h
  split at h
  · cases h
  · obtain rfl := Except.ok.inj h
    simp [blank, isSpace]

variable [DecidableEq σ]

/-- What `parse` does with the three parts of a token. -/
def parseParts (h p s : List Char) (secret : String) (allowedAlgs : List String) :
    Except Error Claims :=
  match c.header.decode h with
  | none => .error errMalformed
  | some hdr =>
    if hdr.alg ∉ allowedAlgs then .error errBadAlg
    else match hmacHashes hdr.alg with
    | none => .error errBadAlg
    | some newHash =>
      match c.signature.decode s with
      | none => .error errMalformed
      | some sig =>
        if sig ≠ c.mac newHash secret (h ++ '.' :: p) then .error errBadSig
        else match c.claims.decode p with
        | none => .error errMalformed
        | some claims => .ok claims

def parse (token secret : String) (allowedAlgs : List String) : Except Error Claims :=
  match (trimSpace token.toList).splitOn '.' with
  | [h, p, s] =>
    if h = [] ∨ p = [] ∨ s = [] then .error errMalformed
    else parseParts c h p s secret allowedAlgs
  | _ => .error errMalformed

/-! ## Validation -/

structure Validator where
  secret : String
  issuer : String
  audience : String
  algs : List String
  leeway : Time
  maxTokenAge : Time
  deriving DecidableEq

/-- `strings.ToUpper(strings.TrimSpace(a))`, on ASCII letters. -/
def normalizeAlg (a : String) : String := String.ofList ((trimSpace a.toList).map Char.toUpper)

/-- The keys of `algs` in `NewValidator`. -/
def Config.allowedAlgs (cfg : Config) : List String :=
  if cfg.algs = [] then ["HS256"] else cfg.algs.map normalizeAlg

def newValidator (cfg : Config) : Validator where
  secret := cfg.secret
  issuer := cfg.issuer
  audience := cfg.audience
  algs := cfg.allowedAlgs
  leeway := cfg.leeway
  maxTokenAge := cfg.maxTokenAge

/-- The identity that the claims describe. -/
def Claims.identity (claims : Claims) : Identity where
  subject := claims.subject
  name := claims.name
  room := claims.room
  permissions := claims.permissions
  jti := claims.jti
  expiresAt := claims.expiresAt

/-- What `Validate` checks of the claims of a token with a good signature. -/
def Validator.check (v : Validator) (claims : Claims) (now : Time) : Except Error Identity :=
  if claims.expiresAt = 0 then .error errExpired
  else if unixTime claims.expiresAt + v.leeway < now then .error errExpired
  else if claims.issuedAt = 0 then .error errNoIat
  else if now + v.leeway < unixTime claims.issuedAt then .error errNotYetValid
  else if 0 < v.maxTokenAge ∧
      addDuration v.maxTokenAge v.leeway < sub now (unixTime claims.issuedAt) then
    .error errStale
  else if blank claims.subject then .error errNoSub
  else if v.issuer ≠ "" ∧ claims.issuer ≠ v.issuer then .error errIssuer
  else if v.audience ≠ "" ∧ claims.audience ≠ v.audience then .error errAudience
  else .ok claims.identity

/-- `Validator.Validate`, at the time `now`. -/
def Validator.validate (v : Validator) (token : String) (now : Time) : Except Error Identity :=
  if blank token then .error errMissing
  else match parse c token v.secret v.algs with
  | .error e => .error e
  | .ok claims => v.check claims now

def Identity.expiresIn (i : Identity) (now : Time) : Time := sub (unixTime i.expiresAt) now

/-! ## What is accepted -/

/-- What the claims of a token have to satisfy at the time `now`. -/
structure Validator.Admits (v : Validator) (claims : Claims) (now : Time) : Prop where
  exp : claims.expiresAt ≠ 0
  unexpired : now ≤ unixTime claims.expiresAt + v.leeway
  iat : claims.issuedAt ≠ 0
  started : unixTime claims.issuedAt ≤ now + v.leeway
  fresh : 0 < v.maxTokenAge →
    sub now (unixTime claims.issuedAt) ≤ addDuration v.maxTokenAge v.leeway
  subject : blank claims.subject = false
  issuer : v.issuer ≠ "" → claims.issuer = v.issuer
  audience : v.audience ≠ "" → claims.audience = v.audience

variable {v : Validator} {id : Identity} {now : Time}

/-- **The checks of `Validate` are `Admits`.** -/
theorem check_eq_ok_iff :
    v.check claims now = .ok id ↔ v.Admits claims now ∧ id = claims.identity := by
  constructor
  · intro h
    unfold Validator.check at h
    split_ifs at h with hexp hlate hiat hsoon hstale hsub hiss haud
    exact ⟨⟨hexp, not_lt.1 hlate, hiat, not_lt.1 hsoon,
      fun hpos => not_lt.1 fun hlt => hstale ⟨hpos, hlt⟩, by simpa using hsub,
      fun hne => by_contra fun hd => hiss ⟨hne, hd⟩,
      fun hne => by_contra fun hd => haud ⟨hne, hd⟩⟩, (Except.ok.inj h).symm⟩
  · rintro ⟨h, rfl⟩
    unfold Validator.check
    rw [if_neg h.exp, if_neg h.unexpired.not_gt, if_neg h.iat, if_neg h.started.not_gt,
      if_neg fun hs => (h.fresh hs.1).not_gt hs.2, if_neg (by simp [h.subject]),
      if_neg fun hd => hd.2 (h.issuer hd.1), if_neg fun hd => hd.2 (h.audience hd.1)]

theorem parseParts_sign {newHash : Alg} (halg : hmacHashes alg = some newHash)
    (allowedAlgs : List String) :
    parseParts c (c.header.encode ⟨alg, "JWT"⟩) (c.claims.encode claims)
        (c.signature.encode (c.mac newHash secret
          (c.header.encode ⟨alg, "JWT"⟩ ++ '.' :: c.claims.encode claims))) secret allowedAlgs =
      if alg ∈ allowedAlgs then .ok claims else .error errBadAlg := by
  unfold parseParts
  rw [c.header.decode_encode]
  by_cases hmem : alg ∈ allowedAlgs
  · simp [hmem, halg, c.signature.decode_encode, c.claims.decode_encode]
  · simp [hmem]

/-- Three texts without dots and blanks, joined by dots, are the parts of their token. -/
theorem parse_join {h p s : List Char} (hh : h ≠ []) (hp : p ≠ []) (hs : s ≠ [])
    (hplain : ∀ l ∈ [h, p, s], ∀ x ∈ l, x ≠ '.' ∧ isSpace x = false) (secret : String)
    (allowedAlgs : List String) :
    parse c (String.ofList (h ++ '.' :: p ++ '.' :: s)) secret allowedAlgs =
      parseParts c h p s secret allowedAlgs := by
  have htrim : trimSpace (h ++ '.' :: p ++ '.' :: s) = h ++ '.' :: p ++ '.' :: s := by
    apply trimSpace_of_plain
    intro x hx
    simp only [mem_append, mem_cons] at hx
    obtain (hx | rfl | hx) | rfl | hx := hx
    · exact (hplain h (by simp) x hx).2
    · decide
    · exact (hplain p (by simp) x hx).2
    · decide
    · exact (hplain s (by simp) x hx).2
  have hsplit : (h ++ '.' :: p ++ '.' :: s).splitOn '.' = [h, p, s] := by
    have hjoin : ['.'].intercalate [h, p, s] = h ++ '.' :: p ++ '.' :: s := by
      simp [intercalate]
    rw [← hjoin]
    exact splitOn_intercalate '.' (fun l hl hdot => (hplain l hl '.' hdot).1 rfl) (by simp)
  unfold parse
  rw [String.toList_ofList, htrim, hsplit]
  simp [hh, hp, hs]

/-- **A signed token gives its claims back**, when its algorithm is allowed. -/
theorem parse_sign (h : sign c claims alg secret = .ok token) (allowedAlgs : List String) :
    parse c token secret allowedAlgs =
      if alg ∈ allowedAlgs then .ok claims else .error errBadAlg := by
  unfold sign at h
  split at h
  · cases h
  · rename_i newHash halg
    obtain rfl := Except.ok.inj h
    rw [← parseParts_sign c halg]
    apply parse_join c (c.header.encode_ne_nil _) (c.claims.encode_ne_nil _)
      (c.signature.encode_ne_nil _)
    simpa using ⟨c.header.plain _, c.claims.plain _, c.signature.plain _⟩

/-- **What `Validate` accepts of a signed token.** -/
theorem validate_sign_iff (h : sign c claims alg v.secret = .ok token) :
    v.validate c token now = .ok id ↔
      alg ∈ v.algs ∧ v.Admits claims now ∧ id = claims.identity := by
  unfold Validator.validate
  rw [if_neg (by simp [blank_sign c h]), parse_sign c h]
  by_cases hmem : alg ∈ v.algs
  · simp [hmem, check_eq_ok_iff]
  · simp [hmem]

end

/-! ## A codec -/

/-- Strings as the lists of their code points. -/
instance encodableString : Encodable String :=
  Encodable.ofLeftInverse (fun s => s.toList.map Char.toNat)
    (fun l => String.ofList (l.map Char.ofNat)) (fun s => by simp [Function.comp_def])

instance encodableHeader : Encodable Header :=
  Encodable.ofLeftInverse (fun h => (h.alg, h.typ)) (fun x => ⟨x.1, x.2⟩) fun _ => rfl

instance encodablePermissions : Encodable Permissions :=
  Encodable.ofLeftInverse (fun p => (p.join, p.publish, p.subscribe, p.control))
    (fun x => ⟨x.1, x.2.1, x.2.2.1, x.2.2.2⟩) fun _ => rfl

instance encodableClaims : Encodable Claims :=
  Encodable.ofLeftInverse
    (fun c => ((c.subject, c.name, c.room, c.permissions), (c.issuedAt, c.expiresAt),
      c.issuer, c.audience, c.jti))
    (fun x => ⟨x.1.1, x.1.2.1, x.1.2.2.1, x.1.2.2.2, x.2.1.1, x.2.1.2, x.2.2.1, x.2.2.2.1,
      x.2.2.2.2⟩) fun _ => rfl

/-- A value as the unary text of its number. -/
def Encoding.unary (α : Type) [Encodable α] : Encoding α where
  encode a := List.replicate (Encodable.encode a + 1) 'A'
  decode l := Encodable.decode (l.length - 1)
  decode_encode a := by simp
  encode_ne_nil a := by simp
  plain a x hx := by
    obtain rfl := List.eq_of_mem_replicate hx
    decide

/-- A codec with these texts; the signature is the secret before what is signed. -/
def Codec.unary : Codec String where
  header := Encoding.unary Header
  claims := Encoding.unary Claims
  signature := Encoding.unary String
  mac _ secret signing := secret ++ String.ofList signing

/-- The default configuration, with a secret. -/
def sampleConfig : Config := { secret := "s3cr3t" }

end PulseRTC.Auth
