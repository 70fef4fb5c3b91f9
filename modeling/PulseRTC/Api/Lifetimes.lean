import PulseRTC.Api.Minting
import PulseRTC.Api.Rooms

/-!
# Lifetimes of tokens

`mintToken` takes the lifetime of a token in seconds. The product with a second is one of 64 bits,
and `Mint` clamps what is left of it.

* `lifetime_iff`: the lifetime is the requested one within the limits, unless the product wraps.
-/

namespace PulseRTC.Api

open Foundations Cluster Auth

structure PermissionsRequest where
  join : Option Bool := none
  publish : Option Bool := none
  subscribe : Option Bool := none
  control : Option Bool := none
  deriving DecidableEq

structure CreateTokenRequest where
  identity : String
  name : String := ""
  permissions : Option PermissionsRequest := none
  ttlSeconds : Int64 := 0
  metadata : Metadata := none

/-- The permissions of a token. -/
def CreateTokenRequest.perms (req : CreateTokenRequest) : Permissions :=
  let p := req.permissions.getD {}
  { join := p.join.getD true
    publish := p.publish.getD true
    subscribe := p.subscribe.getD true
    control := p.control.getD false }

/-- The lifetime that `mintToken` passes to `Mint`. -/
def CreateTokenRequest.ttl (req : CreateTokenRequest) : Time :=
  if 0 < req.ttlSeconds then (req.ttlSeconds * .ofInt second).toInt else 0

/-- The checks of `mintToken`, and the parameters that it passes to `Mint`. -/
def tokenParams (allowControlTokens : Bool) (roomID : RoomId) (req : CreateTokenRequest)
    (walk : List String) : Except APIError TokenParams := do
  validateRoomID roomID
  let identity := trim req.identity
  if identity = "" then throw (apiErr .invalidRequest "identity is required")
  if 256 < identity.utf8ByteSize then throw (apiErr .invalidRequest "identity is too long")
  validateMetadata req.metadata walk
  if req.perms.control ∧ allowControlTokens = false then
    throw (apiErr .forbidden
      "control tokens are disabled (set PULSERTC_API_ALLOW_CONTROL_TOKENS=true)")
  return { roomID := roomID, identity := identity, name := trim req.name
           permissions := req.perms, ttl := req.ttl }

/-- `Service.mintToken`; the token is minted at the time `now`, and the record made, if there is
none, at the time `later`. -/
def mintToken {σ : Type} (c : Codec σ) (ti : TokenIssuer) (allowControlTokens : Bool)
    (r : RoomRegistry) (roomID : RoomId) (req : CreateTokenRequest) (walk : List String)
    (now later : Time) : RoomRegistry × Except APIError MintedToken :=
  match tokenParams allowControlTokens roomID req walk with
  | .error e => (r, .error e)
  | .ok p =>
    match ti.mint c p now with
    | .error .noSigningSecret =>
      (r, .error (apiErr .notConfigured "token signing is not configured"))
    | .error (.sign _) => (r, .error (apiErr .internalError "could not mint token"))
    | .ok minted => (r.ensureExists later roomID, .ok minted)

theorem ttl_of_tokenParams {allowControlTokens : Bool} {roomID : RoomId} {req : CreateTokenRequest}
    {walk : List String} {p : TokenParams}
    (h : tokenParams allowControlTokens roomID req walk = .ok p) : p.ttl = req.ttl := by
  simp only [tokenParams, bind, Except.bind] at h
  repeat' split at h
  all_goals cases h
  all_goals rfl

/-- The lifetime that a request for `n` seconds should get. -/
def Config.lifetime (api : Config) (n : ℤ) : Time :=
  if n ≤ 0 then api.tokenTTL else min (n * second) api.tokenTTLMax

/-- What is granted for a product that wraps around to `w`, if that is less than the largest
lifetime. -/
def Config.wrapped (api : Config) (w : Time) : Time :=
  if w ≤ 0 then api.tokenTTL else max second w

variable {api : Config}

/-- The clamp, for `n` seconds and their product `w`. -/
theorem clamp_iff {d m n w : ℤ} (hmin : 1000000000 ≤ d) (hle : d ≤ m) (hmax : m ≤ 2 ^ 63 - 1)
    (hw : 0 < n → n * 1000000000 ≤ 2 ^ 63 - 1 → w = n * 1000000000) :
    max 1000000000 (min (if (if 0 < n then w else 0) ≤ 0 then d else if 0 < n then w else 0) m) =
      (if n ≤ 0 then d else min (n * 1000000000) m) ↔
    n * 1000000000 ≤ 2 ^ 63 - 1 ∨ m ≤ if w ≤ 0 then d else max 1000000000 w := by
  split_ifs <;> omega

theorem granted_ttl_iff (hmin : second ≤ api.tokenTTL) (hle : api.tokenTTL ≤ api.tokenTTLMax)
    (hmax : api.tokenTTLMax ≤ maxDuration) (req : CreateTokenRequest) :
    api.granted req.ttl = api.lifetime req.ttlSeconds.toInt ↔
      req.ttlSeconds.toInt * second ≤ maxDuration ∨
        api.tokenTTLMax ≤ api.wrapped ((req.ttlSeconds.toInt * second).bmod (2 ^ 64)) := by
  have hpos : 0 < req.ttlSeconds ↔ 0 < req.ttlSeconds.toInt := Int64.lt_iff_toInt_lt
  have hmul : (req.ttlSeconds * .ofInt second).toInt =
      (req.ttlSeconds.toInt * second).bmod (2 ^ 64) := Int64.toInt_mul _ _
  unfold CreateTokenRequest.ttl
  rw [hmul]
  simp only [hpos]
  refine clamp_iff hmin hle hmax fun hn hfits => ?_
  rw [show second = 1000000000 from rfl]
  apply Int.bmod_eq_of_le <;> omega

/-- **The lifetime of a token** is the requested one, or the default one, up to the largest, if and
only if the product does not wrap around, or the limits make the same of it. -/
theorem lifetime_iff {σ : Type} (c : Codec σ) {cfg : Auth.Config}
    (hsecret : blank cfg.secret = false) (hmin : second ≤ api.tokenTTL)
    (hle : api.tokenTTL ≤ api.tokenTTLMax) (hmax : api.tokenTTLMax ≤ maxDuration)
    {allowControlTokens : Bool} {roomID : RoomId} {req : CreateTokenRequest} {walk : List String}
    {p : TokenParams} (hvalid : tokenParams allowControlTokens roomID req walk = .ok p)
    (r : RoomRegistry) (now later : Time) :
    ∃ m, (mintToken c (newTokenIssuer cfg api) allowControlTokens r roomID req walk now later).2 =
        .ok m ∧
      (m.expiresAt - now = api.lifetime req.ttlSeconds.toInt ↔
        req.ttlSeconds.toInt * second ≤ maxDuration ∨
          api.tokenTTLMax ≤ api.wrapped ((req.ttlSeconds.toInt * second).bmod (2 ^ 64))) := by
  obtain ⟨tok, -, hmint⟩ := mint_eq_ok c cfg hsecret api p now
  refine ⟨⟨tok, p.identity, p.roomID, now + api.granted p.ttl⟩, ?_, ?_⟩
  · simp only [mintToken, hvalid, hmint]
  · rw [← granted_ttl_iff hmin hle hmax, ← ttl_of_tokenParams hvalid, add_sub_cancel_left]

/-- The token of a request for a room, by the default configurations. -/
def sampleToken (ttlSeconds : Int64) : Except APIError MintedToken :=
  (mintToken Codec.unary (newTokenIssuer sampleConfig {}) false {} "room"
    { identity := "user", ttlSeconds := ttlSeconds } [] 0 0).2

/-- A request for an hour gets an hour. -/
theorem lifetime_iff_hour : ∃ m, sampleToken 3600 = .ok m ∧ m.expiresAt = 3600 * second := by
  obtain ⟨m, hm, hiff⟩ := lifetime_iff Codec.unary
    (show blank sampleConfig.secret = false by decide)
    (show second ≤ ({} : Config).tokenTTL by decide) (by decide) (by decide)
    (show tokenParams false "room" { identity := "user", ttlSeconds := 3600 } [] = .ok _ from rfl)
    {} 0 0
  exact ⟨m, hm, (sub_zero _).symm.trans (hiff.2 (by decide))⟩

/-- A request for almost three centuries gets an hour. -/
theorem lifetime_wraps : ∃ m, sampleToken 9223372037 = .ok m ∧
    m.expiresAt = 3600 * second ∧ ({} : Config).lifetime 9223372037 = 12 * 3600 * second :=
  ⟨_, rfl, by decide, by decide⟩

end PulseRTC.Api
