import PulseRTC.Auth.Validator

/-!
# Minted tokens

`TokenIssuer.Mint` signs a participant token for a room, with the secret, the issuer and the
audience that the signaling layer validates, so that the token is accepted by `/ws`. The two sides
have their limits from different variables: the issuer a default and a largest lifetime, the
validator its algorithms, its leeway and its largest age of a token.

* `minted_accepted_iff`: the token is accepted up to its expiry iff the limits agree (`Agrees`).
-/

namespace PulseRTC.Api

open Cluster Auth

/-! ## The model -/

/-- The part of the API's `Config` that concerns tokens. -/
structure Config where
  tokenTTL : Time := 3600 * second
  tokenTTLMax : Time := 12 * 3600 * second
  deriving DecidableEq

structure TokenIssuer where
  secret : String
  issuer : String
  audience : String
  ttl : Time
  ttlMax : Time
  deriving DecidableEq

def newTokenIssuer (authCfg : Auth.Config) (apiCfg : Config) : TokenIssuer where
  secret := authCfg.secret
  issuer := authCfg.issuer
  audience := authCfg.audience
  ttl := apiCfg.tokenTTL
  ttlMax := apiCfg.tokenTTLMax

structure TokenParams where
  roomID : String
  identity : String
  name : String := ""
  permissions : Permissions := {}
  ttl : Time := 0
  deriving DecidableEq

structure MintedToken where
  token : String
  identity : String
  roomID : String
  expiresAt : Time
  deriving DecidableEq

/-- The errors of `Mint`. -/
inductive MintError
  /-- `errNoSigningSecret`. -/
  | noSigningSecret
  | sign (err : Auth.Error)
  deriving DecidableEq

/-- The lifetime that `Mint` gives for a requested one. -/
def TokenIssuer.clamp (ti : TokenIssuer) (requested : Time) : Time :=
  let ttl := if requested ≤ 0 then ti.ttl else requested
  let ttl := if ti.ttlMax < ttl then ti.ttlMax else ttl
  if ttl < second then second else ttl

/-- The claims that `Mint` signs at the time `now`. -/
def TokenIssuer.claims (ti : TokenIssuer) (p : TokenParams) (now : Time) : Claims where
  subject := p.identity
  name := p.name
  room := p.roomID
  permissions := p.permissions
  issuedAt := toUnix now
  expiresAt := toUnix (now + ti.clamp p.ttl)
  issuer := ti.issuer
  audience := ti.audience

section

variable {σ : Type} (c : Codec σ)

/-- `TokenIssuer.Mint`, at the time `now`. -/
def TokenIssuer.mint (ti : TokenIssuer) (p : TokenParams) (now : Time) :
    Except MintError MintedToken :=
  if blank ti.secret then .error .noSigningSecret
  else match sign c (ti.claims p now) "HS256" ti.secret with
  | .error e => .error (.sign e)
  | .ok tok => .ok ⟨tok, p.identity, p.roomID, now + ti.clamp p.ttl⟩

/-! ## When the two sides agree -/

/-- The lifetime of a token: the requested one, or the default one for a request without, within
one second and the largest one. -/
def Config.granted (api : Config) (requested : Time) : Time :=
  max second (min (if requested ≤ 0 then api.tokenTTL else requested) api.tokenTTLMax)

theorem clamp_eq_granted (cfg : Auth.Config) (api : Config) (requested : Time) :
    (newTokenIssuer cfg api).clamp requested = api.granted requested := by
  have hmin (a b : Time) : (if b < a then b else a) = min a b := by
    split_ifs with h
    · exact (min_eq_right h.le).symm
    · exact (min_eq_left (not_lt.1 h)).symm
  have hmax (a b : Time) : (if a < b then b else a) = max b a := by
    split_ifs with h
    · exact (max_eq_left h.le).symm
    · exact (max_eq_right (not_lt.1 h)).symm
  unfold TokenIssuer.clamp Config.granted
  simp only [hmin, hmax]
  rfl

theorem le_add_granted (api : Config) (requested now : Time) : now ≤ now + api.granted requested :=
  Int.le_add_of_nonneg_right ((show (0 : Time) ≤ second by decide).trans (le_max_left _ _))

/-- The condition under which a minted token is accepted until its expiry: the validator allows
the one algorithm that `Mint` signs with, neither time is in the first second of 1970 (which reads
as an absent claim), the leeway covers what the rounding to seconds takes off the expiry, and the
token does not grow older than the validator lets it. -/
structure Agrees (cfg : Auth.Config) (api : Config) (requested now : Time) : Prop where
  alg : "HS256" ∈ cfg.allowedAlgs
  iat : toUnix now ≠ 0
  exp : toUnix (now + api.granted requested) ≠ 0
  rounding : now + api.granted requested ≤
    unixTime (toUnix (now + api.granted requested)) + cfg.leeway
  age : 0 < cfg.maxTokenAge →
    sub (now + api.granted requested) (unixTime (toUnix now)) ≤
      addDuration cfg.maxTokenAge cfg.leeway

/-- What `Mint` returns with a secret. -/
theorem mint_eq_ok (cfg : Auth.Config) (hsecret : blank cfg.secret = false) (api : Config)
    (p : TokenParams) (now : Time) :
    ∃ tok, sign c ((newTokenIssuer cfg api).claims p now) "HS256" cfg.secret = .ok tok ∧
      (newTokenIssuer cfg api).mint c p now =
        .ok ⟨tok, p.identity, p.roomID, now + api.granted p.ttl⟩ := by
  refine ⟨_, rfl, ?_⟩
  unfold TokenIssuer.mint
  rw [if_neg (by simp [newTokenIssuer, hsecret]), ← clamp_eq_granted cfg]
  rfl

/-- The claims of a minted token pass the checks up to its expiry. -/
theorem Agrees.admits {cfg : Auth.Config} {api : Config} {p : TokenParams} {now t : Time}
    (h : Agrees cfg api p.ttl now) (hleeway : 0 ≤ cfg.leeway) (hid : blank p.identity = false)
    (hnow : now ≤ t) (ht : t ≤ now + api.granted p.ttl) :
    (newValidator cfg).Admits ((newTokenIssuer cfg api).claims p now) t := by
  have hexp : ((newTokenIssuer cfg api).claims p now).expiresAt =
      toUnix (now + api.granted p.ttl) := by
    rw [← clamp_eq_granted cfg]
    rfl
  refine ⟨hexp ▸ h.exp, hexp ▸ ht.trans h.rounding, h.iat, ?_, fun hpos => ?_, hid,
    fun _ => rfl, fun _ => rfl⟩
  · calc unixTime (toUnix now) ≤ now := unixTime_toUnix_le now
      _ ≤ t := hnow
      _ ≤ t + cfg.leeway := Int.le_add_of_nonneg_right hleeway
  · exact (sub_mono ht _).trans (h.age hpos)

variable [DecidableEq σ]

/-- **A minted token is accepted until the expiry that `Mint` reports iff the two sides agree.** -/
theorem minted_accepted_iff {cfg : Auth.Config} (hsecret : blank cfg.secret = false)
    (hleeway : 0 ≤ cfg.leeway) (api : Config) {p : TokenParams}
    (hid : blank p.identity = false) (now : Time) :
    (∃ m, (newTokenIssuer cfg api).mint c p now = .ok m ∧ ∀ t, now ≤ t → t ≤ m.expiresAt → ∃ id,
        (newValidator cfg).validate c m.token t = .ok id ∧
        id.subject = p.identity ∧ id.room = p.roomID ∧ id.permissions = p.permissions) ↔
      Agrees cfg api p.ttl now := by
  obtain ⟨tok, hsign, hmint⟩ := mint_eq_ok c cfg hsecret api p now
  constructor
  · rintro ⟨m, hm, hall⟩
    obtain rfl := Except.ok.inj (hmint.symm.trans hm)
    -- the last instant is the one that the checks bound
    obtain ⟨id, hvalid, -⟩ := hall _ (le_add_granted api p.ttl now) le_rfl
    obtain ⟨halg, had, -⟩ := (validate_sign_iff c hsign).1 hvalid
    have hexp : ((newTokenIssuer cfg api).claims p now).expiresAt =
        toUnix (now + api.granted p.ttl) := by
      rw [← clamp_eq_granted cfg]
      rfl
    exact ⟨halg, had.iat, hexp ▸ had.exp, hexp ▸ had.unexpired, had.fresh⟩
  · intro h
    refine ⟨_, hmint, fun t hnow ht => ?_⟩
    exact ⟨_, (validate_sign_iff c hsign).2 ⟨h.alg, h.admits hleeway hid hnow ht, rfl⟩,
      rfl, rfl, rfl⟩

end

theorem minted_accepted_iff_default :
    ∃ m, (newTokenIssuer sampleConfig {}).mint Codec.unary
        { roomID := "room", identity := "user" } (1000 * second) = .ok m ∧
      ∀ t, 1000 * second ≤ t → t ≤ m.expiresAt → ∃ id,
        (newValidator sampleConfig).validate Codec.unary m.token t = .ok id ∧
        id.subject = "user" ∧ id.room = "room" ∧ id.permissions = {} :=
  (minted_accepted_iff Codec.unary (by decide) (by decide) {}
    (p := { roomID := "room", identity := "user" }) (by decide) (1000 * second)).2
    ⟨by decide, by decide, by decide, by decide, by decide⟩

/-- With the default configurations, a token for two hours is refused after an hour. -/
theorem minted_refused :
    ∃ m, (newTokenIssuer sampleConfig {}).mint Codec.unary
        { roomID := "room", identity := "user", ttl := 7200 * second } (1000 * second) = .ok m ∧
      1000 * second ≤ 4661 * second ∧ 4661 * second ≤ m.expiresAt ∧
      (newValidator sampleConfig).validate Codec.unary m.token (4661 * second) =
        .error errStale := by
  obtain ⟨tok, hsign, hmint⟩ := mint_eq_ok Codec.unary sampleConfig (by decide) {}
    { roomID := "room", identity := "user", ttl := 7200 * second } (1000 * second)
  refine ⟨_, hmint, by decide, ?_, ?_⟩
  · show 4661 * second ≤ 1000 * second + Config.granted {} (7200 * second)
    decide
  · unfold Validator.validate
    rw [if_neg (by simp [blank_sign _ hsign]),
      show (newValidator sampleConfig).secret = sampleConfig.secret from rfl,
      parse_sign _ hsign, if_pos (by decide)]
    rfl

end PulseRTC.Api
