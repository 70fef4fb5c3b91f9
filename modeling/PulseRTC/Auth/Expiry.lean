import PulseRTC.Auth.Validator

/-!
# The expiry of a session's token

`HandleWS` validates the token of a request and sets up a client, and `scheduleTokenExpiry` then
arms a timer for the token's `exp`: when it fires, the client is told that its token has expired,
and its socket is closed `flushDelay` later. `Validate` accepts a token until `exp` and a leeway,
but `scheduleTokenExpiry` does nothing when `exp` has been reached. So a client that comes within
the leeway is never disconnected.

* `expiry_enforced_iff`: the socket is closed in time iff `exp` is still to come when the timer is
  armed.
-/

namespace PulseRTC.Auth

open Cluster

/-! ## The model -/

/-- What `AuthenticateRequest` reads of a request: whether the rate limiter lets its address pass,
its token, and a fresh uuid. -/
structure Request where
  allowed : Bool := true
  token : String := ""
  uuid : String := ""
  deriving DecidableEq

/-- The part of a `Client` that concerns its token: the times for which its timers are armed, the
notices sent to it and whether its socket is closed. -/
structure Client where
  identity : Identity
  expiryTimer : Option Time := none
  closeTimer : Option Time := none
  sent : List Error := []
  closed : Bool := false
  deriving DecidableEq

/-- The time that `writePump` has to flush the notice. -/
def flushDelay : Time := 200000000

section

variable {σ : Type} [DecidableEq σ] (c : Codec σ) (cfg : Config)

def authenticateRequest (r : Request) (now : Time) : Except Error Identity :=
  if !r.allowed then .error ⟨.rateLimited, "too many connection attempts"⟩
  else if !cfg.enabled then
    .ok { subject := "anonymous-" ++ r.uuid, name := "anonymous",
          permissions := ⟨true, true, true, true⟩,
          expiresAt := toUnix (now + 24 * 3600 * second) }
  else (newValidator cfg).validate c r.token now

def Client.scheduleTokenExpiry (cl : Client) (now : Time) : Client :=
  if !cfg.enabled then cl
  else
    let ttl := cl.identity.expiresIn now
    if ttl ≤ 0 then cl else { cl with expiryTimer := some (now + ttl) }

/-- `HandleWS`, which authenticates the request at the time `t` and arms the timer at `t'`. -/
def handleWS (r : Request) (t t' : Time) : Except Error Client :=
  match authenticateRequest c cfg r t with
  | .error e => .error e
  | .ok id => .ok (Client.scheduleTokenExpiry cfg { identity := id } t')

/-- The function of the expiry timer, at the time `now`. -/
def Client.expire (cl : Client) (now : Time) : Client :=
  { cl with
    expiryTimer := none
    closeTimer := some (now + flushDelay)
    sent := cl.sent ++ [⟨.expiredToken, "session token expired"⟩] }

/-- The expiry timer, if it is armed for a time up to `t`. -/
def Client.runExpiry (cl : Client) (t : Time) : Client :=
  match cl.expiryTimer with
  | none => cl
  | some e => if e ≤ t then cl.expire e else cl

/-- The timer that closes the socket, if it is armed for a time up to `t`. -/
def Client.runClose (cl : Client) (t : Time) : Client :=
  match cl.closeTimer with
  | none => cl
  | some e => if e ≤ t then { cl with closeTimer := none, closed := true } else cl

/-- The client once its timers have run up to the time `t`. -/
def Client.runUntil (cl : Client) (t : Time) : Client := (cl.runExpiry t).runClose t

/-! ## When the socket is closed -/

/-- The client that `HandleWS` sets up for an identity. -/
theorem handleWS_eq_ok {r : Request} {t t' : Time} {cl : Client}
    (h : handleWS c cfg r t t' = .ok cl) :
    ∃ id, authenticateRequest c cfg r t = .ok id ∧
      cl = Client.scheduleTokenExpiry cfg { identity := id } t' := by
  unfold handleWS at h
  split at h
  · cases h
  · rename_i id hid
    exact ⟨id, hid, (Except.ok.inj h).symm⟩

variable {cfg}

variable {id : Identity} {now : Time}

/-- A token that has reached its `exp` gets no timer, so its socket is never closed. -/
theorem scheduleTokenExpiry_past (h : unixTime id.expiresAt ≤ now) (t : Time) :
    ((Client.scheduleTokenExpiry cfg { identity := id } now).runUntil t).closed = false := by
  have httl : id.expiresIn now ≤ 0 :=
    max_le (by decide) ((min_le_right _ _).trans (Int.sub_nonpos_of_le h))
  unfold Client.scheduleTokenExpiry
  dsimp only
  rw [if_pos httl, ite_self]
  rfl

/-- A token with its `exp` to come gets a timer for a time up to `exp`. -/
theorem scheduleTokenExpiry_future (hon : cfg.enabled = true) (h : now < unixTime id.expiresAt) :
    ∃ e ≤ unixTime id.expiresAt, Client.scheduleTokenExpiry cfg { identity := id } now =
      { identity := id, expiryTimer := some e } := by
  have hpos : 0 < id.expiresIn now :=
    lt_max_of_lt_right (lt_min (by decide) (Int.sub_pos_of_lt h))
  have hle : id.expiresIn now ≤ unixTime id.expiresAt - now :=
    max_le ((show minDuration ≤ 0 by decide).trans (Int.sub_nonneg_of_le h.le))
      (min_le_right _ _)
  refine ⟨now + id.expiresIn now, ?_, ?_⟩
  · exact (Int.add_le_add_left hle now).trans_eq (add_sub_cancel _ _)
  · unfold Client.scheduleTokenExpiry
    rw [hon]
    exact if_neg hpos.not_ge

theorem runUntil_closed {e t : Time} (h : e + flushDelay ≤ t) :
    (Client.runUntil { identity := id, expiryTimer := some e } t).closed = true := by
  have he : e ≤ t := (Int.le_add_of_nonneg_right (by decide)).trans h
  simp [Client.runUntil, Client.runExpiry, Client.runClose, Client.expire, he, h]

/-- **The expiry of a token is enforced iff it is still to come when the timer is armed.** -/
theorem expiry_enforced_iff (hon : cfg.enabled = true) {r : Request} {t t' : Time} {cl : Client}
    (h : handleWS c cfg r t t' = .ok cl) :
    (cl.runUntil (max t' (unixTime cl.identity.expiresAt) + flushDelay)).closed = true ↔
      t' < unixTime cl.identity.expiresAt := by
  obtain ⟨id, -, rfl⟩ := handleWS_eq_ok c cfg h
  have hid : (Client.scheduleTokenExpiry cfg { identity := id } t').identity = id := by
    unfold Client.scheduleTokenExpiry
    dsimp only
    split_ifs <;> rfl
  rw [hid]
  constructor
  · intro hclosed
    by_contra hpast
    rw [scheduleTokenExpiry_past (not_lt.1 hpast)] at hclosed
    cases hclosed
  · intro hfuture
    obtain ⟨e, he, heq⟩ := scheduleTokenExpiry_future hon hfuture
    rw [heq]
    exact runUntil_closed (Int.add_le_add_right (he.trans (le_max_right _ _)) _)

end

/-- A token issued at 1000 s that expires at 2000 s. -/
def sampleClaims : Claims where
  subject := "user"
  issuedAt := 1000
  expiresAt := 2000
  issuer := "pulsertc"
  audience := "pulsertc"

/-- With the default leeway, the token is accepted from its issue until 60 s after its expiry. -/
theorem handleWS_sample {token : String}
    (htoken : sign Codec.unary sampleClaims "HS256" sampleConfig.secret = .ok token) (t t' : Time)
    (h : (newValidator sampleConfig).Admits sampleClaims t) :
    handleWS Codec.unary sampleConfig { token := token } t t' =
      .ok (Client.scheduleTokenExpiry sampleConfig { identity := sampleClaims.identity } t') := by
  have hv : (newValidator sampleConfig).validate Codec.unary token t =
      .ok sampleClaims.identity :=
    (validate_sign_iff Codec.unary htoken).2 ⟨by decide, h, rfl⟩
  have hr : authenticateRequest Codec.unary sampleConfig { token := token } t =
      .ok sampleClaims.identity := hv
  unfold handleWS
  rw [hr]

theorem expiry_enforced_iff_early : ∃ token cl,
    handleWS Codec.unary sampleConfig { token := token } (1500 * second) (1500 * second) =
      .ok cl ∧
    ((cl.runUntil (max (1500 * second) (unixTime cl.identity.expiresAt) + flushDelay)).closed =
        true ↔
      1500 * second < unixTime cl.identity.expiresAt) := by
  have hcl := handleWS_sample rfl (1500 * second) (1500 * second)
    ⟨by decide, by decide, by decide, by decide, by decide, by decide, by decide, by decide⟩
  exact ⟨_, _, hcl, expiry_enforced_iff Codec.unary rfl hcl⟩

theorem expired_token_kept : ∃ token cl,
    handleWS Codec.unary sampleConfig { token := token } (2000 * second) (2000 * second) =
      .ok cl ∧
    unixTime cl.identity.expiresAt = 2000 * second ∧ ∀ t, (cl.runUntil t).closed = false := by
  have hcl := handleWS_sample rfl (2000 * second) (2000 * second)
    ⟨by decide, by decide, by decide, by decide, by decide, by decide, by decide, by decide⟩
  exact ⟨_, _, hcl, by decide, scheduleTokenExpiry_past (le_of_eq (by decide))⟩

end PulseRTC.Auth
