import PulseRTC.Foundations.Slices
import PulseRTC.Media.Wire

/-!
# The codec of the media transport, index by index

The functions of the wire format as they run on slices, with every read and write checked against
the length of the slice it is made on. Each of them stays within bounds on every input and computes
the function of the same name of the format: `decodeFrame_eq_ok`, `decodeKeyed_eq_ok`,
`parseHello_eq_ok` for what reads untrusted datagrams, `encodeFrame_eq_ok` and `encodeKeyed_eq_ok`
for what writes them.

`codec_faithful` collects what the format promises: what is accepted is the encoding of what was
read out of it, and what is encoded is read back.
-/

namespace PulseRTC.Media

open Foundations Slices

namespace Checked

/-! ## Frames -/

/-- `make([]byte, n)`. -/
def make (n : ℕ) : Bytes := List.replicate n 0

def encodeFrame (kind : UInt8) (sessionID : SessionId) (payload : Bytes) :
    Except OutOfRange Bytes := do
  let buf := make (mediaHeaderSize + payload.length)
  let buf ← put buf 0 mediaMagic
  let buf ← put buf 1 mediaVersion
  let buf ← put buf 2 kind
  let buf ← copyTo buf 3 19 sessionID.1
  -- `binary.BigEndian.PutUint16(buf[19:21], uint16(len(payload)))`
  let n := payload.length % 65536
  let buf ← copyTo buf 19 21 [UInt8.ofNat (n / 256), UInt8.ofNat n]
  copyTo buf 21 buf.length payload

/-- `copy(f.sessionID[:], s)` into the zero array. -/
def copySession (s : Bytes) : SessionId := ⟨(s ++ make 16).take 16, by simp [make]⟩

def decodeFrame (b : Bytes) : Except OutOfRange (Option ParsedFrame) := do
  if b.length < mediaHeaderSize then return none
  if (← get b 0) ≠ mediaMagic then return none
  if (← get b 1) ≠ mediaVersion then return none
  let l ← slice b 19 21
  let plen := uint16 (← get l 0) (← get l 1)
  if mediaHeaderSize + plen > b.length then return none
  let kind ← get b 2
  let sessionID := copySession (← slice b 3 19)
  let payload ← slice b mediaHeaderSize (mediaHeaderSize + plen)
  return some { kind, sessionID, payload }

/-! ## Media payloads -/

/-- The key that `encodeKeyed` writes. -/
def clip (key : Bytes) : Except OutOfRange Bytes :=
  if key.length > 255 then slice key 0 255 else .ok key

def encodeKeyed (key packet : Bytes) : Except OutOfRange Bytes := do
  let key ← clip key
  let out := make (1 + key.length + packet.length)
  let out ← put out 0 (UInt8.ofNat key.length)
  let out ← copyTo out 1 out.length key
  copyTo out (1 + key.length) out.length packet

def decodeKeyed (payload : Bytes) : Except OutOfRange (Option (Bytes × Bytes)) := do
  if payload.length < 1 then return none
  let kl := (← get payload 0).toNat
  if 1 + kl > payload.length then return none
  return some (← slice payload 1 (1 + kl), ← slice payload (1 + kl) payload.length)

/-! ## `HELLO` -/

def parseHello (p : Bytes) : Except OutOfRange (Option Hello) := do
  if p.length < 1 then return none
  let sl := (← get p 0).toNat
  if 1 + sl + 1 > p.length then return none
  let src ← slice p 1 (1 + sl)
  let off := 1 + sl
  let dl := (← get p off).toNat
  let off := off + 1
  if off + dl + 32 ≠ p.length then return none
  let dst ← slice p off (off + dl)
  let mac ← slice p (off + dl) p.length
  return some ⟨src, dst, mac⟩

/-! ## The writers stay within bounds -/

theorem encodeFrame_eq_ok (kind : UInt8) (sessionID : SessionId) (payload : Bytes) :
    encodeFrame kind sessionID payload = .ok (Media.encodeFrame kind sessionID payload) := by
  obtain ⟨s, hs⟩ := sessionID
  set n := payload.length with hn
  have hmake : make (mediaHeaderSize + n) = [0] ++ 0 :: 0 :: (make 16 ++ ([0, 0] ++ make n)) := by
    simp only [make, mediaHeaderSize, List.replicate_add]
    rfl
  -- the buffer is filled from the left: what is written so far, and the zeros after it
  have hmagic : put ([0] ++ 0 :: 0 :: (make 16 ++ ([0, 0] ++ make n))) 0 mediaMagic =
      .ok ([mediaMagic] ++ 0 :: 0 :: (make 16 ++ ([0, 0] ++ make n))) :=
    put_append [] _ rfl _ _
  have hversion : put ([mediaMagic] ++ 0 :: 0 :: (make 16 ++ ([0, 0] ++ make n))) 1 mediaVersion =
      .ok ([mediaMagic, mediaVersion] ++ 0 :: (make 16 ++ ([0, 0] ++ make n))) :=
    put_append _ _ rfl _ _
  have hkind : put ([mediaMagic, mediaVersion] ++ 0 :: (make 16 ++ ([0, 0] ++ make n))) 2 kind =
      .ok ([mediaMagic, mediaVersion, kind] ++ (make 16 ++ ([0, 0] ++ make n))) :=
    put_append _ _ rfl _ _
  have hsession : copyTo ([mediaMagic, mediaVersion, kind] ++ (make 16 ++ ([0, 0] ++ make n)))
      3 19 s = .ok ([mediaMagic, mediaVersion, kind] ++ (s ++ ([0, 0] ++ make n))) :=
    copyTo_append (by simp [make, hs]) rfl (by simp [hs]) (by simp [make])
  have hbytes : [UInt8.ofNat (n % 65536 / 256), UInt8.ofNat (n % 65536)] =
      [UInt8.ofNat (n / 256), UInt8.ofNat n] := by
    simp only [List.cons.injEq, and_true, ← UInt8.toNat_inj, UInt8.toNat_ofNat']
    omega
  have hlength : copyTo ([mediaMagic, mediaVersion, kind] ++ s ++ ([0, 0] ++ make n)) 19 21
      [UInt8.ofNat (n / 256), UInt8.ofNat n] =
      .ok ([mediaMagic, mediaVersion, kind] ++ s ++
        ([UInt8.ofNat (n / 256), UInt8.ofNat n] ++ make n)) :=
    copyTo_append rfl (by simp [hs]) (Nat.le_refl _) (by simp [hs]; omega)
  set head := [mediaMagic, mediaVersion, kind] ++ s ++ [UInt8.ofNat (n / 256), UInt8.ofNat n]
    with hhead
  have hpayload : copyTo (head ++ (make n ++ [])) 21 (head ++ (make n ++ [])).length payload =
      .ok (head ++ (payload ++ [])) :=
    copyTo_append (by simp [make, hn]) (by simp [hhead, hs]) (by simp [hhead, hs, make, hn]; omega)
      (Nat.le_refl _)
  unfold encodeFrame
  simp only [← hn, hmake, hmagic, hversion, hkind, hsession, hbytes, ok_bind]
  rw [← List.append_assoc, hlength, ok_bind, ← List.append_assoc, ← hhead]
  simpa [Media.encodeFrame, hhead] using hpayload

theorem encodeKeyed_eq_ok (key packet : Bytes) :
    encodeKeyed key packet = .ok (Media.encodeKeyed key packet) := by
  have hkey : clip key = .ok (key.take 255) := by
    unfold clip
    split_ifs with hlong
    · rw [slice_eq_ok (Nat.zero_le _) (by omega), List.drop_zero]
    · rw [List.take_of_length_le (by omega)]
  set k := key.take 255
  have hmake : make (1 + k.length + packet.length) =
      [] ++ 0 :: (make k.length ++ make packet.length) := by
    simp only [make, List.replicate_add]
    rfl
  have hlen : put ([] ++ 0 :: (make k.length ++ make packet.length)) 0 (UInt8.ofNat k.length) =
      .ok ([UInt8.ofNat k.length] ++ (make k.length ++ make packet.length)) :=
    put_append [] _ rfl _ _
  have hcopy : copyTo ([UInt8.ofNat k.length] ++ (make k.length ++ make packet.length)) 1
      ([UInt8.ofNat k.length] ++ (make k.length ++ make packet.length)).length k =
      .ok ([UInt8.ofNat k.length] ++ (k ++ make packet.length)) :=
    copyTo_append (by simp [make]) rfl (by simp [make]; omega) (Nat.le_refl _)
  have hpacket : copyTo (Prefixed.write k ++ (make packet.length ++ [])) (1 + k.length)
      (Prefixed.write k ++ (make packet.length ++ [])).length packet =
      .ok (Prefixed.write k ++ (packet ++ [])) :=
    copyTo_append (by simp [make]) (by simp [Prefixed.write, Nat.add_comm])
      (by simp [Prefixed.write, make]; omega) (Nat.le_refl _)
  unfold encodeKeyed
  simp only [hkey, hmake, hlen, hcopy, ok_bind]
  rw [List.append_nil, List.append_nil] at hpacket
  exact hpacket

/-! ## The readers stay within bounds -/

theorem decodeFrame_eq_ok (b : Bytes) : decodeFrame b = .ok (Media.decodeFrame b) := by
  unfold decodeFrame Media.decodeFrame
  by_cases hlen : mediaHeaderSize ≤ b.length
  swap
  · rw [if_pos (by omega), dif_neg (fun h => hlen h.1)]
    rfl
  have hsize : 21 ≤ b.length := hlen
  rw [if_neg (by omega), get_eq_ok (by omega) 0, get_eq_ok (by omega) 0, get_eq_ok (by omega) 0]
  simp only [ok_bind]
  by_cases hmagic : b.getD 0 0 = mediaMagic
  swap
  · rw [if_pos hmagic, dif_neg (fun h => hmagic h.2.1)]
    rfl
  by_cases hversion : b.getD 1 0 = mediaVersion
  swap
  · rw [if_neg (not_not.2 hmagic), if_pos hversion, dif_neg (fun h => hversion h.2.2)]
    rfl
  rw [if_neg (not_not.2 hmagic), if_neg (not_not.2 hversion), dif_pos ⟨hlen, hmagic, hversion⟩]
  have hl : slice b 19 21 = .ok ((b.drop 19).take 2) := slice_eq_ok (by omega) (by omega)
  have hl2 : ((b.drop 19).take 2).length = 2 := by simp; omega
  have hhi : get ((b.drop 19).take 2) 0 = .ok (b.getD 19 0) := by
    rw [get_eq_ok (by omega) 0]
    simp [List.getD_eq_getElem?_getD]
  have hlo : get ((b.drop 19).take 2) 1 = .ok (b.getD 20 0) := by
    rw [get_eq_ok (by omega) 0]
    simp [List.getD_eq_getElem?_getD]
  simp only [hl, hhi, hlo, ok_bind]
  set plen := uint16 (b.getD 19 0) (b.getD 20 0)
  by_cases hfits : mediaHeaderSize + plen ≤ b.length
  swap
  · rw [if_pos (by omega), if_neg hfits]
    rfl
  rw [if_neg (by omega), if_pos hfits, slice_eq_ok (by omega) (by omega),
    slice_eq_ok (by omega) hfits]
  simp only [ok_bind, Nat.add_sub_cancel_left]
  have hsession : ((b.drop 3).take 16).length = 16 := by simp; omega
  have hcopy : ((b.drop 3).take 16 ++ make 16).take 16 = (b.drop 3).take 16 := by
    rw [List.take_append_of_le_length (by omega), List.take_of_length_le (by omega)]
  simp only [copySession, hcopy]
  rfl

theorem decodeKeyed_eq_ok (payload : Bytes) :
    decodeKeyed payload = .ok (Media.decodeKeyed payload) := by
  cases payload with
  | nil => rfl
  | cons n r =>
    have hget : get (n :: r) 0 = .ok n := rfl
    have hlen : (n :: r).length = 1 + r.length := by simp [Nat.add_comm]
    unfold decodeKeyed Media.decodeKeyed
    rw [if_neg (by simp), hget, ok_bind]
    simp only [Prefixed.read]
    by_cases hle : n.toNat ≤ r.length
    · rw [if_neg (by omega), if_pos hle, slice_eq_ok (by omega) (by omega),
        slice_length_eq_ok (by omega)]
      simp [Nat.add_comm 1]
    · rw [if_pos (by omega), if_neg hle]
      rfl

theorem parseHello_eq_ok (p : Bytes) : parseHello p = .ok (Media.parseHello p) := by
  cases p with
  | nil => rfl
  | cons n r =>
    have hget : get (n :: r) 0 = .ok n := rfl
    have hlen : (n :: r).length = 1 + r.length := by simp [Nat.add_comm]
    unfold parseHello Media.parseHello
    rw [if_neg (by simp), hget, ok_bind]
    simp only [Prefixed.read]
    by_cases hle : n.toNat < r.length
    swap
    · -- no byte is left for the length of the second id
      rw [if_pos (by omega)]
      split_ifs with hsrc
      · rw [List.drop_of_length_le (by omega)]
        rfl
      · rfl
    obtain ⟨m, t, hdrop⟩ : ∃ m t, r.drop n.toNat = m :: t := by
      cases hd : r.drop n.toNat with
      | nil => exact absurd (List.drop_eq_nil_iff.1 hd) (by omega)
      | cons m t => exact ⟨m, t, rfl⟩
    have htail : r.length = n.toNat + (1 + t.length) := by
      have h := congrArg List.length hdrop
      rw [List.length_drop, List.length_cons] at h
      omega
    have hfirst : (n :: r).drop 1 = r := rfl
    have hsecond : get (n :: r) (1 + n.toNat) = .ok m := by
      rw [get_eq_ok (by omega) 0, Nat.add_comm, List.getD_cons_succ,
        List.getD_eq_getElem?_getD, ← Nat.add_zero n.toNat, ← List.getElem?_drop, hdrop]
      rfl
    have hrest : (n :: r).drop (1 + n.toNat + 1) = t := by
      rw [Nat.add_comm 1, Nat.add_assoc, List.drop_succ_cons, ← List.drop_drop, hdrop]
      rfl
    have hbeyond : (n :: r).drop (1 + n.toNat + 1 + m.toNat) = t.drop m.toNat := by
      rw [← List.drop_drop, hrest]
    rw [if_neg (by omega), if_pos (by omega), slice_eq_ok (by omega) (by omega), hsecond, hdrop]
    simp only [ok_bind]
    by_cases hexact : 1 + n.toNat + 1 + m.toNat + 32 = (n :: r).length
    · have hmac : (t.drop m.toNat).length = 32 := by
        rw [List.length_drop]
        omega
      rw [if_neg (not_not.2 hexact), if_pos (by omega), slice_eq_ok (by omega) (by omega),
        slice_length_eq_ok (by omega), hbeyond, hrest, hfirst, Nat.add_sub_cancel_left,
        Nat.add_sub_cancel_left]
      simp only [ok_bind, hmac]
      rfl
    · rw [if_pos hexact]
      split_ifs with hdst
      · have hmac : ¬ (t.drop m.toNat).length = 32 := by
          rw [List.length_drop]
          omega
        simp only [hmac]
        rfl
      · rfl

end Checked

/-! ## What is accepted is an encoding -/

/-- A datagram with a whole header, cut at the places of the header. -/
theorem header_split {b : Bytes} (h : mediaHeaderSize ≤ b.length) :
    b = [b.getD 0 0, b.getD 1 0, b.getD 2 0] ++ (b.drop 3).take 16 ++
      [b.getD 19 0, b.getD 20 0] ++ b.drop mediaHeaderSize := by
  have hsize : 21 ≤ b.length := h
  have hget : ∀ (i : ℕ), i < b.length → b.drop i = b.getD i 0 :: b.drop (i + 1) := by
    intro i hi
    rw [List.drop_eq_getElem_cons hi, List.getD_eq_getElem b 0 hi]
  calc b = b.drop 0 := rfl
    _ = [b.getD 0 0, b.getD 1 0, b.getD 2 0] ++ b.drop 3 := by
      rw [hget 0 (by omega), hget 1 (by omega), hget 2 (by omega)]
      rfl
    _ = [b.getD 0 0, b.getD 1 0, b.getD 2 0] ++ ((b.drop 3).take 16 ++ b.drop 19) := by
      rw [← List.drop_drop (i := 16) (j := 3), List.take_append_drop]
    _ = _ := by
      rw [hget 19 (by omega), hget 20 (by omega)]
      simp [mediaHeaderSize]

/-- The two bytes of a length. -/
theorem ofNat_uint16 (hi lo : UInt8) :
    UInt8.ofNat (uint16 hi lo / 256) = hi ∧ UInt8.ofNat (uint16 hi lo) = lo := by
  have hlo : lo.toNat < 256 := lo.toNat_lt
  have hhi : hi.toNat < 256 := hi.toNat_lt
  simp only [← UInt8.toNat_inj, UInt8.toNat_ofNat', uint16]
  omega

/-- An accepted datagram starts with the encoding of its frame. -/
theorem encodeFrame_of_decodeFrame {b : Bytes} {f : ParsedFrame} (h : decodeFrame b = some f) :
    encodeFrame f.kind f.sessionID f.payload <+: b := by
  unfold decodeFrame at h
  split_ifs at h with hhead
  obtain ⟨hsize, hmagic, hversion⟩ := hhead
  simp only at h
  set plen := uint16 (b.getD 19 0) (b.getD 20 0) with hplen
  split_ifs at h with hfits
  cases h
  have hlen : ((b.drop mediaHeaderSize).take plen).length = plen := by
    rw [List.length_take, List.length_drop]
    omega
  refine ⟨(b.drop mediaHeaderSize).drop plen, ?_⟩
  obtain ⟨hhi, hlo⟩ := ofNat_uint16 (b.getD 19 0) (b.getD 20 0)
  calc encodeFrame (b.getD 2 0) ⟨(b.drop 3).take 16, _⟩ ((b.drop mediaHeaderSize).take plen) ++
        (b.drop mediaHeaderSize).drop plen
      = [mediaMagic, mediaVersion, b.getD 2 0] ++ (b.drop 3).take 16 ++
          [UInt8.ofNat (plen / 256), UInt8.ofNat plen] ++ b.drop mediaHeaderSize := by
        rw [encodeFrame, hlen, List.append_assoc, List.take_append_drop]
    _ = b := by
        rw [hhi, hlo, ← hmagic, ← hversion]
        exact (header_split hsize).symm

theorem encodeKeyed_of_decodeKeyed {payload key packet : Bytes}
    (h : decodeKeyed payload = some (key, packet)) : encodeKeyed key packet = payload := by
  have hshort : key.length ≤ 255 := Prefixed.length_of_read h
  unfold encodeKeyed
  rw [List.take_of_length_le hshort]
  exact Prefixed.write_of_read h

/-- **The wire format is safe and faithful.** On every byte string the three readers stay within
bounds; an accepted datagram starts with the encoding of its frame and an accepted media payload
is the encoding of its key and packet; a key of at most 255 bytes with a packet that fits one frame
comes back from the encoded frame and its payload; and the payload of a `HELLO` between ids of at
most 255 bytes parses back to the ids and the MAC. -/
theorem codec_faithful :
    (∀ b : Bytes, (∃ r, Checked.decodeFrame b = .ok r) ∧ (∃ r, Checked.decodeKeyed b = .ok r) ∧
      ∃ r, Checked.parseHello b = .ok r) ∧
    (∀ (b : Bytes) (f : ParsedFrame), Checked.decodeFrame b = .ok (some f) →
      ∃ e, Checked.encodeFrame f.kind f.sessionID f.payload = .ok e ∧ e <+: b) ∧
    (∀ payload key packet : Bytes, Checked.decodeKeyed payload = .ok (some (key, packet)) →
      Checked.encodeKeyed key packet = .ok payload) ∧
    (∀ (kind : UInt8) (sessionID : SessionId) (key packet : Bytes), key.length ≤ 255 →
      1 + key.length + packet.length < 65536 →
      ∃ payload e, Checked.encodeKeyed key packet = .ok payload ∧
        Checked.encodeFrame kind sessionID payload = .ok e ∧
        Checked.decodeFrame e = .ok (some ⟨kind, sessionID, payload⟩) ∧
        Checked.decodeKeyed payload = .ok (some (key, packet))) ∧
    (∀ (src dst : Bytes) (mac : Digest), src.length ≤ 255 → dst.length ≤ 255 →
      Checked.parseHello (helloPayload src dst mac) = .ok (some ⟨src, dst, mac.1⟩)) := by
  refine ⟨?_, ?_, ?_, ?_, ?_⟩
  · intro b
    exact ⟨⟨_, Checked.decodeFrame_eq_ok b⟩, ⟨_, Checked.decodeKeyed_eq_ok b⟩,
      ⟨_, Checked.parseHello_eq_ok b⟩⟩
  · intro b f h
    rw [Checked.decodeFrame_eq_ok] at h
    exact ⟨_, Checked.encodeFrame_eq_ok _ _ _, encodeFrame_of_decodeFrame (Except.ok.inj h)⟩
  · intro payload key packet h
    rw [Checked.decodeKeyed_eq_ok] at h
    rw [Checked.encodeKeyed_eq_ok, encodeKeyed_of_decodeKeyed (Except.ok.inj h)]
  · intro kind sessionID key packet hkey hfits
    have htake : key.take 255 = key := List.take_of_length_le hkey
    have hlen : (encodeKeyed key packet).length % 65536 = (encodeKeyed key packet).length := by
      apply Nat.mod_eq_of_lt
      simp only [encodeKeyed, htake, Prefixed.write, List.length_append, List.length_cons]
      omega
    refine ⟨_, _, Checked.encodeKeyed_eq_ok key packet, Checked.encodeFrame_eq_ok _ _ _, ?_, ?_⟩
    · rw [Checked.decodeFrame_eq_ok, decodeFrame_encodeFrame, hlen, List.take_length]
    · rw [Checked.decodeKeyed_eq_ok, decodeKeyed_encodeKeyed, htake]
  · intro src dst mac hsrc hdst
    rw [Checked.parseHello_eq_ok, parseHello_helloPayload hsrc hdst]

end PulseRTC.Media
