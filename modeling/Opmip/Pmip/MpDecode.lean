import Opmip.Pmip.MpSender

/-!
# What a receiver reads from `pbu_sender` and `pba_sender`

`MpSender` gives the bytes the constructors of `mp_sender.cpp` send for every
identifier (`wireBytes`). This module runs the receiver's parse of
`Ip.Mproto.Spec` over them: the header, the message data, and the walk over
the options, which reads the three options the constructors wrote and then
whatever lies between the ATT option and `_length` (`wireRest`).

Results:
* `senders_decode_every_id`: for every identifier, a receiver reads the header
  and message data as set, the NAI option with only its first
  `r = (|id| + 1) mod 256` bytes, Handoff and ATT, and then the walk of
  `wireRest`: no message it accepts carries an identifier of 255 bytes or more
  whole.
* `pbuSender_decodes`, `pbaSender_decodes`: for an identifier of at most 254
  bytes and a `_buffer` that holds the padded message, `wireRest` is all zeros
  (`wireBytes_of_le`), so the first `_length` bytes parse as the message meant:
  the three options in order, then Pad1 bytes up to the next multiple of 8,
  which `_length` and Header Len agree on (`mpSender_decodes`).
* `pbuSender_id255_undecodable`, `pbaSender_id255_undecodable`: for a 255-byte
  identifier the length byte wraps to 0, `_length` is 24, and the four bytes
  after the ATT option are identifier bytes the receiver cannot walk, so it
  rejects the message.
-/

namespace Opmip.Pmip

open Opmip.Ip.Mproto
open Opmip.Ip.Mproto.Spec (MhOption MhBody MhMessage)

/-! ## The messages the senders mean -/

/-- The options both senders mean to send, then `k` Pad1 bytes. -/
def mpMessageOptions (pbinfo : ProxyBindingInfo) (k : Nat) : List MhOption :=
  [.nai 1 pbinfo.id, .handoff pbinfo.handoff, .att pbinfo.linkType] ++ List.replicate k .pad1

/-- The message both senders mean to send: payload protocol `IPPROTO_NONE`,
    zero reserved and checksum bytes, `body`, and the options padded by `k`. -/
def mpMessage (body : MhBody) (pbinfo : ProxyBindingInfo) (k : Nat) : MhMessage :=
  ⟨59, 0, 0, body, mpMessageOptions pbinfo k⟩

/-- The PBU for `pbinfo` with `k` bytes of padding: flags `A` and `P`, the
    sequence number modulo `2^16` and the lifetime in units of 4 s. -/
def pbuMessage (pbinfo : ProxyBindingInfo) (k : Nat) : MhMessage :=
  mpMessage (.pbu (UInt16.ofNat pbinfo.sequence) 0x8200 (UInt16.ofNat (pbinfo.lifetime / 4000)))
    pbinfo k

/-- The PBA for `pbinfo` with `k` bytes of padding: its status and the flag `P`. -/
def pbaMessage (pbinfo : ProxyBindingInfo) (k : Nat) : MhMessage :=
  mpMessage (.pba pbinfo.status 0x20 (UInt16.ofNat pbinfo.sequence)
    (UInt16.ofNat (pbinfo.lifetime / 4000))) pbinfo k

theorem mpMessage_length (body : MhBody) (pbinfo : ProxyBindingInfo) (k : Nat) :
    (mpMessage body pbinfo k).length = 21 + pbinfo.id.length + k := by
  simp [MhMessage.length, mpMessage, mpMessageOptions, Spec.encodeOptions, MhOption.encode,
    MhOption.nai, MhOption.handoff, MhOption.att]
  omega

theorem mpMessage_wf (body : MhBody) (pbinfo : ProxyBindingInfo) (hid : pbinfo.id.length ≤ 254)
    (k : Nat) (haligned : (21 + pbinfo.id.length + k) % 8 = 0) (hk : k < 8) :
    (mpMessage body pbinfo k).WF where
  options := by
    simp only [mpMessage, mpMessageOptions, List.mem_append, List.mem_cons, List.mem_replicate]
    rintro o ((rfl | rfl | rfl | h) | ⟨-, rfl⟩)
    · exact ⟨by decide, by simp; omega⟩
    · exact ⟨by decide, by simp⟩
    · exact ⟨by decide, by simp⟩
    · simp at h
    · trivial
  aligned := by rw [mpMessage_length]; exact haligned
  fits := by rw [mpMessage_length]; omega

/-! ## The bytes sent, as the receiver splits them -/

/-- The bytes between the end of the ATT option and `_length`: what is left of
    the identifier, then the zeros of `std::fill`. -/
def wireRest (pbinfo : ProxyBindingInfo) : List UInt8 :=
  let length := alignTo 8 (20 + naiLength pbinfo)
  ((1 :: pbinfo.id).drop (naiLength pbinfo + 6) ++ List.replicate length 0).take
    (length - (20 + naiLength pbinfo))

theorem wireBytes_eq_append (body : MhBody) (pbinfo : ProxyBindingInfo) :
    wireBytes body.mhType body pbinfo =
      [59, UInt8.ofNat (alignTo 8 (20 + naiLength pbinfo) / 8 - 1), body.mhType, 0] ++ be16 0 ++
        body.encode ++ (Spec.encodeOptions (wrappedOptions pbinfo) ++ wireRest pbinfo) := by
  have h6 : body.encode.length = 6 := by cases body <;> rfl
  obtain ⟨ha, -, -⟩ := alignTo_eight (20 + naiLength pbinfo)
  have hpre : ([59, UInt8.ofNat (alignTo 8 (20 + naiLength pbinfo) / 8 - 1), body.mhType, 0, 0, 0] ++
      (body.encode ++ Spec.encodeOptions (wrappedOptions pbinfo))).length = 20 + naiLength pbinfo := by
    simp [h6, length_encodeOptions_wrappedOptions]; omega
  simp only [wireBytes, wireImage, wireOptions, wireRest, List.append_assoc]
  rw [← List.append_assoc body.encode, ← List.append_assoc [_, _, _, _, _, _],
    List.take_append_eq_append_take, List.take_of_length_le (by omega), hpre]
  simp [be16]

theorem wrappedOptions_wf (pbinfo : ProxyBindingInfo) : ∀ o ∈ wrappedOptions pbinfo, o.WF := by
  simp only [wrappedOptions, List.mem_cons, List.not_mem_nil, or_false]
  rintro o (rfl | rfl | rfl)
  · exact ⟨by decide, by rw [length_take_naiLength]; exact Nat.mod_lt _ (by decide)⟩
  · exact ⟨by decide, by simp⟩
  · exact ⟨by decide, by simp⟩

/-- A receiver reads the header and message data as written, the three options
    as written, then whatever the bytes after the ATT option walk to. -/
theorem decode_wireBytes (body : MhBody) (pbinfo : ProxyBindingInfo) :
    Spec.decode (wireBytes body.mhType body pbinfo) =
      (Spec.decodeOptions (wireRest pbinfo)).map
        fun os => ⟨59, 0, 0, body, wrappedOptions pbinfo ++ os⟩ := by
  have hlen : (Spec.encodeOptions (wrappedOptions pbinfo) ++ wireRest pbinfo).length + 12 =
      ((UInt8.ofNat (alignTo 8 (20 + naiLength pbinfo) / 8 - 1)).toNat + 1) * 8 := by
    obtain ⟨ha1, ha2, ha3⟩ := alignTo_eight (20 + naiLength pbinfo)
    have : naiLength pbinfo < 256 := Nat.mod_lt _ (by decide)
    simp [wireRest, length_encodeOptions_wrappedOptions, toNat_ofNat_uint8]
    omega
  rw [wireBytes_eq_append, Spec.decode_append _ _ _ _ _ _ hlen,
    Spec.decodeOptions_encodeOptions_append _ (wrappedOptions_wf pbinfo), Option.map_map]
  rfl

/-- For an identifier of at most 254 bytes the NAI option carries all of it,
    only zeros follow the ATT option, and the bytes are the encoding of
    `mpMessage` padded to `_length`. -/
theorem wireBytes_of_le (body : MhBody) (pbinfo : ProxyBindingInfo)
    (hid : pbinfo.id.length ≤ 254) :
    wireBytes body.mhType body pbinfo = (mpMessage body pbinfo
      (alignTo 8 (21 + pbinfo.id.length) - (21 + pbinfo.id.length))).encode := by
  have hn : naiLength pbinfo = pbinfo.id.length + 1 := by simp only [naiLength]; omega
  have hk := mpMessage_length body pbinfo
    (alignTo 8 (21 + pbinfo.id.length) - (21 + pbinfo.id.length))
  rw [Nat.add_sub_cancel' (alignTo_eight _).1] at hk
  rw [wireBytes_eq_append, MhMessage.encode, hk]
  simp only [mpMessage, mpMessageOptions, Spec.encodeOptions_append,
    Spec.encodeOptions_replicate_pad1]
  simp [wireRest, wrappedOptions, hn, MhOption.nai, List.take_replicate,
    show 20 + (pbinfo.id.length + 1) = 21 + pbinfo.id.length by omega,
    List.drop_eq_nil_of_le (show pbinfo.id.length ≤ pbinfo.id.length + 6 by omega)]

/-! ## Identifiers the length byte can count -/

/-- Both constructors send `mpMessage body`, padded to a multiple of 8, when
    the header setters leave `body` after the six bytes of the Mobility Header. -/
theorem mpSender_decodes (setHeader : Buffer → Buffer) (body : MhBody)
    (hheader : HeaderWrites setHeader ([0, 0, 0, 0, 0, 0] ++ body.encode))
    (cap : Nat) (raw : Nat → UInt8) (pbinfo : ProxyBindingInfo) (hid : pbinfo.id.length ≤ 254)
    (hcap : alignTo 8 (21 + pbinfo.id.length) ≤ cap) :
    ∃ k, k < 8 ∧
      (mpSender setHeader body.mhType cap raw pbinfo).length = 21 + pbinfo.id.length + k ∧
      (mpSender setHeader body.mhType cap raw pbinfo).length % 8 = 0 ∧
      (mpSender setHeader body.mhType cap raw pbinfo).bytes[1]? =
        some (UInt8.ofNat ((mpSender setHeader body.mhType cap raw pbinfo).length / 8 - 1)) ∧
      Spec.decode (mpSender setHeader body.mhType cap raw pbinfo).bytes =
        some (mpMessage body pbinfo k) := by
  have hr : 20 + naiLength pbinfo = 21 + pbinfo.id.length := by simp only [naiLength]; omega
  obtain ⟨hlen, hb⟩ := mpSender_wire setHeader body hheader cap raw pbinfo (by rw [hr]; exact hcap)
  rw [hr] at hlen
  rw [wireBytes_of_le body pbinfo hid] at hb
  obtain ⟨ha1, ha2, ha3⟩ := alignTo_eight (21 + pbinfo.id.length)
  have hk := Nat.add_sub_cancel' ha1
  refine ⟨alignTo 8 (21 + pbinfo.id.length) - (21 + pbinfo.id.length), by omega,
    by rw [hlen]; omega, by rw [hlen]; exact ha3, ?_, ?_⟩
  · rw [hb, hlen, MhMessage.encode, mpMessage_length, hk]; rfl
  · rw [hb]
    exact Spec.decode_encode _ (mpMessage_wf _ _ hid _ (by rw [hk]; exact ha3) (by omega))

/-- For an identifier of at most 254 bytes and a `_buffer` that holds the
    padded message, the first `_length` bytes of `pbu_sender(p)` parse as one PBU: the
    sequence number modulo `2^16`, flags `A` and `P`, and the options NAI
    (subtype 1 and the identifier), Handoff and ATT followed by Pad1 bytes
    only. `_length` is the least multiple of 8 not below the unpadded length,
    and Header Len agrees with it. -/
theorem pbuSender_decodes (cap : Nat) (raw : Nat → UInt8) (pbinfo : ProxyBindingInfo)
    (hid : pbinfo.id.length ≤ 254) (hcap : alignTo 8 (21 + pbinfo.id.length) ≤ cap) :
    ∃ k, k < 8 ∧ (pbuSender cap raw pbinfo).length = 21 + pbinfo.id.length + k ∧
      (pbuSender cap raw pbinfo).length % 8 = 0 ∧
      (pbuSender cap raw pbinfo).bytes[1]? =
        some (UInt8.ofNat ((pbuSender cap raw pbinfo).length / 8 - 1)) ∧
      Spec.decode (pbuSender cap raw pbinfo).bytes = some (pbuMessage pbinfo k) :=
  mpSender_decodes (pbuHeader pbinfo) (pbuBody pbinfo) (pbuHeader_writes pbinfo) cap raw pbinfo
    hid hcap

/-- The binding of `scenarioBinding` with the four-byte identifier `mn10`: its
    21 + 4 = 25 bytes are padded by seven Pad1 bytes to 32. -/
def paddedBinding : ProxyBindingInfo := { scenarioBinding with id := [0x6d, 0x6e, 0x31, 0x30] }

theorem pbuSender_decodes_scenario :
    paddedBinding.id.length ≤ 254 ∧ alignTo 8 (21 + paddedBinding.id.length) ≤ 1024 ∧
      ∃ k, k < 8 ∧ (pbuSender 1024 (fun _ => 0) paddedBinding).length =
          21 + paddedBinding.id.length + k ∧
        (pbuSender 1024 (fun _ => 0) paddedBinding).length % 8 = 0 ∧
        (pbuSender 1024 (fun _ => 0) paddedBinding).bytes[1]? =
          some (UInt8.ofNat ((pbuSender 1024 (fun _ => 0) paddedBinding).length / 8 - 1)) ∧
        Spec.decode (pbuSender 1024 (fun _ => 0) paddedBinding).bytes =
          some (pbuMessage paddedBinding k) :=
  ⟨by decide, by decide,
    pbuSender_decodes 1024 (fun _ => 0) paddedBinding (by decide) (by decide)⟩

/-- The same for `pba_sender(p)`: one PBA with the status of `p`, the flag `P`,
    the sequence number modulo `2^16`, and the same options and padding. -/
theorem pbaSender_decodes (cap : Nat) (raw : Nat → UInt8) (pbinfo : ProxyBindingInfo)
    (hid : pbinfo.id.length ≤ 254) (hcap : alignTo 8 (21 + pbinfo.id.length) ≤ cap) :
    ∃ k, k < 8 ∧ (pbaSender cap raw pbinfo).length = 21 + pbinfo.id.length + k ∧
      (pbaSender cap raw pbinfo).length % 8 = 0 ∧
      (pbaSender cap raw pbinfo).bytes[1]? =
        some (UInt8.ofNat ((pbaSender cap raw pbinfo).length / 8 - 1)) ∧
      Spec.decode (pbaSender cap raw pbinfo).bytes = some (pbaMessage pbinfo k) :=
  mpSender_decodes (pbaHeader pbinfo) (pbaBody pbinfo) (pbaHeader_writes pbinfo) cap raw pbinfo
    hid hcap

theorem pbaSender_decodes_scenario :
    paddedBinding.id.length ≤ 254 ∧ alignTo 8 (21 + paddedBinding.id.length) ≤ 1024 ∧
      ∃ k, k < 8 ∧ (pbaSender 1024 (fun _ => 0) paddedBinding).length =
          21 + paddedBinding.id.length + k ∧
        (pbaSender 1024 (fun _ => 0) paddedBinding).length % 8 = 0 ∧
        (pbaSender 1024 (fun _ => 0) paddedBinding).bytes[1]? =
          some (UInt8.ofNat ((pbaSender 1024 (fun _ => 0) paddedBinding).length / 8 - 1)) ∧
        Spec.decode (pbaSender 1024 (fun _ => 0) paddedBinding).bytes =
          some (pbaMessage paddedBinding k) :=
  ⟨by decide, by decide,
    pbaSender_decodes 1024 (fun _ => 0) paddedBinding (by decide) (by decide)⟩

/-! ## Identifiers of every length -/

theorem pbuSender_decode (cap : Nat) (raw : Nat → UInt8) (pbinfo : ProxyBindingInfo)
    (hcap : alignTo 8 (20 + naiLength pbinfo) ≤ cap) :
    Spec.decode (pbuSender cap raw pbinfo).bytes = (Spec.decodeOptions (wireRest pbinfo)).map
      (fun os => ⟨59, 0, 0, pbuBody pbinfo, wrappedOptions pbinfo ++ os⟩) := by
  rw [(pbuSender_wire cap raw pbinfo hcap).2]
  exact decode_wireBytes (pbuBody pbinfo) pbinfo

theorem pbaSender_decode (cap : Nat) (raw : Nat → UInt8) (pbinfo : ProxyBindingInfo)
    (hcap : alignTo 8 (20 + naiLength pbinfo) ≤ cap) :
    Spec.decode (pbaSender cap raw pbinfo).bytes = (Spec.decodeOptions (wireRest pbinfo)).map
      (fun os => ⟨59, 0, 0, pbaBody pbinfo, wrappedOptions pbinfo ++ os⟩) := by
  rw [(pbaSender_wire cap raw pbinfo hcap).2]
  exact decode_wireBytes (pbaBody pbinfo) pbinfo

/-- What a receiver makes of what `pbu_sender` and `pba_sender` send, for every
    identifier: the header and message data as set, the NAI option with its
    first `naiLength` bytes, Handoff, ATT, and then the walk of `wireRest`. -/
theorem senders_decode_every_id (cap : Nat) (raw : Nat → UInt8) (pbinfo : ProxyBindingInfo)
    (hcap : alignTo 8 (20 + naiLength pbinfo) ≤ cap) :
    Spec.decode (pbuSender cap raw pbinfo).bytes = (Spec.decodeOptions (wireRest pbinfo)).map
        (fun os => ⟨59, 0, 0, pbuBody pbinfo, wrappedOptions pbinfo ++ os⟩) ∧
      Spec.decode (pbaSender cap raw pbinfo).bytes = (Spec.decodeOptions (wireRest pbinfo)).map
        (fun os => ⟨59, 0, 0, pbaBody pbinfo, wrappedOptions pbinfo ++ os⟩) :=
  ⟨pbuSender_decode cap raw pbinfo hcap, pbaSender_decode cap raw pbinfo hcap⟩

theorem senders_decode_every_id_long :
    alignTo 8 (20 + naiLength longBinding) ≤ 1024 ∧
      (Spec.decode (pbuSender 1024 (fun _ => 0) longBinding).bytes =
          (Spec.decodeOptions (wireRest longBinding)).map
            (fun os => ⟨59, 0, 0, pbuBody longBinding, wrappedOptions longBinding ++ os⟩) ∧
        Spec.decode (pbaSender 1024 (fun _ => 0) longBinding).bytes =
          (Spec.decodeOptions (wireRest longBinding)).map
            (fun os => ⟨59, 0, 0, pbaBody longBinding, wrappedOptions longBinding ++ os⟩)) :=
  ⟨longBinding_fits, senders_decode_every_id 1024 (fun _ => 0) longBinding longBinding_fits⟩

/-! ## Identifiers of 255 bytes -/

/-- The binding of `scenarioBinding` with an identifier of 255 bytes "a". -/
def id255Binding : ProxyBindingInfo := { scenarioBinding with id := List.replicate 255 0x61 }

theorem naiLength_id255 : naiLength id255Binding = 0 := by
  simp only [naiLength, id255Binding, List.length_replicate]

/-- `_length` for the 255-byte identifier: the ATT option ends at byte 20. -/
theorem alignTo_id255 : alignTo 8 (20 + naiLength id255Binding) = 24 := by
  rw [naiLength_id255]; rfl

/-- Up to `_length = 24` the ATT option is followed by four bytes of the
    identifier. -/
theorem wireRest_id255 : wireRest id255Binding = List.replicate 4 0x61 := by
  have hid : id255Binding.id = List.replicate 255 0x61 := rfl
  simp only [wireRest]
  rw [alignTo_id255, naiLength_id255, hid, List.drop_succ_cons, List.drop_replicate,
    List.take_append_of_le_length (by rw [List.length_replicate]; omega), List.take_replicate]
  rfl

/-- For a 255-byte identifier the PBU is 24 bytes long, not the 280 its
    options need, and a receiver rejects it: the NAI option's length byte
    wrapped to 0, and the identifier bytes after the ATT option do not walk as
    options. -/
theorem pbuSender_id255_undecodable :
    (pbuSender 1024 (fun _ => 0) id255Binding).length = 24 ∧
      Spec.decode (pbuSender 1024 (fun _ => 0) id255Binding).bytes = none := by
  have hcap : alignTo 8 (20 + naiLength id255Binding) ≤ 1024 := by rw [alignTo_id255]; decide
  refine ⟨(pbuSender_wire _ _ _ hcap).1.trans alignTo_id255, ?_⟩
  rw [pbuSender_decode _ _ _ hcap, wireRest_id255]
  rfl

/-- The PBA for a 255-byte identifier is 24 bytes long and rejected as well. -/
theorem pbaSender_id255_undecodable :
    (pbaSender 1024 (fun _ => 0) id255Binding).length = 24 ∧
      Spec.decode (pbaSender 1024 (fun _ => 0) id255Binding).bytes = none := by
  have hcap : alignTo 8 (20 + naiLength id255Binding) ≤ 1024 := by rw [alignTo_id255]; decide
  refine ⟨(pbaSender_wire _ _ _ hcap).1.trans alignTo_id255, ?_⟩
  rw [pbaSender_decode _ _ _ hcap, wireRest_id255]
  rfl

end Opmip.Pmip
