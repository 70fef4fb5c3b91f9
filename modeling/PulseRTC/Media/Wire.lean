import Mathlib.Data.List.GetD
import PulseRTC.Foundations.Prefixed

/-!
# The media wire format

The datagrams of the media transport, byte by byte: a header with magic, version, kind, session and
the payload's length as sixteen bits, then the payload. A media payload is a key with its length
byte and a packet; the payload of a `HELLO` is the two node ids with their length bytes and a MAC
over session and ids. Ids and keys are the bytes of their Go strings.

* `decodeFrame_encodeFrame`, `decodeKeyed_encodeKeyed`, `parseHello_helloPayload`: what comes back
  of what is sent. A length is written modulo its width, so long payloads, keys and ids do not.
-/

namespace PulseRTC.Media

open Foundations List

/-- `[16]byte`: the id of a media session. -/
abbrev SessionId := { b : Bytes // b.length = 16 }

/-- A SHA-256 digest. -/
abbrev Digest := { b : Bytes // b.length = 32 }

/-! ## Frames -/

def mediaMagic : UInt8 := 0x9C

def mediaVersion : UInt8 := 0x01

def mediaHeaderSize : ℕ := 21

def frameHello : UInt8 := 0x00

def frameRTP : UInt8 := 0x01

def frameRTCP : UInt8 := 0x02

def frameHeartbeat : UInt8 := 0x03

def frameBye : UInt8 := 0x04

def encodeFrame (kind : UInt8) (sessionID : SessionId) (payload : Bytes) : Bytes :=
  [mediaMagic, mediaVersion, kind] ++ sessionID.1 ++
    [UInt8.ofNat (payload.length / 256), UInt8.ofNat payload.length] ++ payload

theorem length_encodeFrame (kind : UInt8) (sessionID : SessionId) (payload : Bytes) :
    (encodeFrame kind sessionID payload).length = 21 + payload.length := by
  have hs := sessionID.2
  simp only [encodeFrame, length_append, length_cons, length_nil]
  omega

structure ParsedFrame where
  kind : UInt8
  sessionID : SessionId
  payload : Bytes
  deriving DecidableEq

/-- `binary.BigEndian.Uint16`. -/
def uint16 (hi lo : UInt8) : ℕ := hi.toNat * 256 + lo.toNat

def decodeFrame (b : Bytes) : Option ParsedFrame :=
  if h : mediaHeaderSize ≤ b.length ∧ b.getD 0 0 = mediaMagic ∧ b.getD 1 0 = mediaVersion then
    let plen := uint16 (b.getD 19 0) (b.getD 20 0)
    if mediaHeaderSize + plen ≤ b.length then
      some { kind := b.getD 2 0
             sessionID := ⟨(b.drop 3).take 16, by
               have := h.1
               simp only [mediaHeaderSize] at this
               simp
               omega⟩
             payload := (b.drop mediaHeaderSize).take plen }
    else none
  else none

theorem uint16_length (n : ℕ) :
    uint16 (UInt8.ofNat (n / 256)) (UInt8.ofNat n) = n % 65536 := by
  simp only [uint16, UInt8.toNat_ofNat']
  omega

/-- The length is sixteen bits wide: a payload comes back up to its length modulo 65536. -/
theorem decodeFrame_encodeFrame (kind : UInt8) (sessionID : SessionId) (payload : Bytes) :
    decodeFrame (encodeFrame kind sessionID payload) =
      some ⟨kind, sessionID, payload.take (payload.length % 65536)⟩ := by
  obtain ⟨s, hs⟩ := sessionID
  set b := encodeFrame kind ⟨s, hs⟩ payload with hb
  have hlen : b.length = 21 + payload.length := length_encodeFrame kind ⟨s, hs⟩ payload
  have hsplit : b = ([mediaMagic, mediaVersion, kind] ++ s) ++
      (UInt8.ofNat (payload.length / 256) :: UInt8.ofNat payload.length :: payload) := by
    simp [hb, encodeFrame]
  have h19 : b.getD 19 0 = UInt8.ofNat (payload.length / 256) := by
    rw [hsplit, getD_append_right _ _ _ _ (by simp [hs])]
    simp [hs]
  have h20 : b.getD 20 0 = UInt8.ofNat payload.length := by
    rw [hsplit, getD_append_right _ _ _ _ (by simp [hs])]
    simp [hs]
  have hses : (b.drop 3).take 16 = s := by simp [hb, encodeFrame, hs]
  have hdrop : b.drop mediaHeaderSize = payload := by
    rw [hsplit, drop_append]
    simp [mediaHeaderSize, hs]
  have hhead : mediaHeaderSize ≤ 21 + payload.length := Nat.le_add_right 21 _
  have hle : mediaHeaderSize + payload.length % 65536 ≤ 21 + payload.length :=
    Nat.add_le_add_left (Nat.mod_le _ _) 21
  simp only [decodeFrame, hlen, h19, h20, uint16_length, hdrop, hses, hle, hhead]
  simp [hb, encodeFrame]

/-! ## Media payloads -/

def encodeKeyed (key packet : Bytes) : Bytes := Prefixed.write (key.take 255) ++ packet

def decodeKeyed (payload : Bytes) : Option (Bytes × Bytes) := Prefixed.read payload

/-- A key comes back up to its first 255 bytes. -/
theorem decodeKeyed_encodeKeyed (key packet : Bytes) :
    decodeKeyed (encodeKeyed key packet) = some (key.take 255, packet) :=
  Prefixed.read_write (length_take_le _ _) packet

/-! ## `HELLO` -/

/-- The bytes `helloMAC` authenticates. -/
def macInput (sessionID : SessionId) (src dst : Bytes) : Bytes := sessionID.1 ++ src ++ [0] ++ dst

/-- The input of the MAC determines the session and the two ids, if these have no zero byte. -/
theorem macInput_injective {s s' : SessionId} {src src' dst dst' : Bytes} (hsrc : 0 ∉ src)
    (hdst : 0 ∉ dst) (h : macInput s src dst = macInput s' src' dst') :
    s = s' ∧ src = src' ∧ dst = dst' := by
  simp only [macInput, append_assoc, singleton_append] at h
  obtain ⟨hs, hrest⟩ := append_inj h (s.2.trans s'.2.symm)
  obtain ⟨rfl, -, rfl⟩ := (append_cons_inj_of_notMem hsrc hdst).1 hrest
  exact ⟨Subtype.ext hs, rfl, rfl⟩

/-- A parsed `HELLO`. -/
structure Hello where
  src : Bytes
  dst : Bytes
  mac : Bytes
  deriving DecidableEq

/-- The payload that `sendHello` builds. -/
def helloPayload (src dst : Bytes) (mac : Digest) : Bytes :=
  Prefixed.write src ++ (Prefixed.write dst ++ mac.1)

theorem length_helloPayload (src dst : Bytes) (mac : Digest) :
    (helloPayload src dst mac).length = src.length + dst.length + 34 := by
  have hmac := mac.2
  simp only [helloPayload, Prefixed.write, length_append, length_cons]
  omega

/-- `parseHello`: two strings with length bytes, then exactly `sha256.Size` bytes. -/
def parseHello (p : Bytes) : Option Hello :=
  match Prefixed.read p with
  | none => none
  | some (src, rest) =>
    match Prefixed.read rest with
    | none => none
    | some (dst, mac) => if mac.length = 32 then some ⟨src, dst, mac⟩ else none

theorem parseHello_helloPayload {src dst : Bytes} (hsrc : src.length ≤ 255)
    (hdst : dst.length ≤ 255) (mac : Digest) :
    parseHello (helloPayload src dst mac) = some ⟨src, dst, mac.1⟩ := by
  simp [parseHello, helloPayload, Prefixed.read_write hsrc, Prefixed.read_write hdst, mac.2]

/-- The ids of an accepted `HELLO` have at most 255 bytes. -/
theorem parseHello_eq_some {p : Bytes} {m : Hello} (h : parseHello p = some m) :
    m.src.length ≤ 255 ∧ m.dst.length ≤ 255 := by
  unfold parseHello at h
  split at h
  next => cases h
  next src rest hsrc =>
    split at h
    next => cases h
    next dst mac hdst =>
      split_ifs at h
      cases h
      exact ⟨Prefixed.length_of_read hsrc, Prefixed.length_of_read hdst⟩

end PulseRTC.Media
