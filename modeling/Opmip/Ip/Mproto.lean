import Opmip.Buffer

/-!
# Mobility Header messages

The Proxy Binding Update and Acknowledgement of `mp_sender.cpp` are built with
the classes of `ip::mproto` (`opmip/ip/mproto.hpp`, which is not among the
sources). This module holds both sides of their wire format:

* `Spec`: a message as a value (`MhMessage`), its encoding, and the decoder a
  receiver runs: the header-length check of RFC 6275 §6.1.1, the PBU and PBA
  message data of RFC 6275 §6.1.7–6.1.8 with the `P` flags of RFC 5213 §8.1–8.2,
  and the walk over the type-length-value options of RFC 6275 §6.2, where a
  zero byte is Pad1. The option codes are those of the spec, §6: NAI 8,
  Handoff 15, Access Technology Type 17.
* the members of `ip::mproto::pbu`, `pba` and `option` that the senders call,
  as writes on a `Buffer`.

Results:
* `decodeOptions_encodeOptions`, `encodeOptions_of_decodeOptions`: the option
  walk and the option encoding are inverse on well-formed options.
* `decode_encode`, `encode_of_decode`: the same for whole messages, so
  `encode (decode m) = m` for every message the decoder accepts.
* `decodeOptions_encodeOptions_append`, `decode_append`: the walk reads
  encoded options back whatever follows them, and a header whose Header Len
  counts the bytes after it is read as written; what the senders leave after
  their options is then all the receiver has to walk.

**Layout of the message data.** It follows RFC 6275 §6.1.7–6.1.8, which the spec
names as the framing of both messages, and not the spec's own sentence on it
in §6 (flags and a reserved field first, then sequence, lifetime and a
trailing reserved field, 8 bytes in all), and `sizeof` of the classes, where
the senders put their first option, is taken as the RFC's six bytes of
Mobility Header and six of message data. The PBU carries its sequence number at bytes 6–7, its
flags at 8–9 (`A` is 0x80 and `P` 0x02 of byte 8) and its lifetime at 10–11;
the PBA carries its status at byte 6, its flags at 7 (`P` is 0x20), its
sequence number at 8–9 and its lifetime at 10–11. The setters below are
modelled on this layout.
-/

namespace Opmip.Ip.Mproto

/-! ## Specification -/

namespace Spec

/-- A mobility option: Pad1, a single zero byte, or type, 8-bit length and
    `length` bytes of data. -/
inductive MhOption where
  | pad1
  | tlv (type : UInt8) (data : List UInt8)
  deriving DecidableEq, Repr

/-- The NAI (mobile node identifier) option: subtype, then the identifier. -/
def MhOption.nai (subtype : UInt8) (id : List UInt8) : MhOption := .tlv 8 (subtype :: id)

/-- The Handoff Indicator option. -/
def MhOption.handoff (indicator : UInt8) : MhOption := .tlv 15 [indicator]

/-- The Access Technology Type option. -/
def MhOption.att (techType : UInt8) : MhOption := .tlv 17 [techType]

/-- An option the encoding can carry: a non-zero type and at most 255 data bytes. -/
def MhOption.WF : MhOption → Prop
  | .pad1 => True
  | .tlv t d => t ≠ 0 ∧ d.length < 256

def MhOption.encode : MhOption → List UInt8
  | .pad1 => [0]
  | .tlv t d => t :: UInt8.ofNat d.length :: d

def encodeOptions : List MhOption → List UInt8
  | [] => []
  | o :: os => o.encode ++ encodeOptions os

/-- The option walk, one option per unit of `fuel`. -/
def decodeOptionsFuel : Nat → List UInt8 → Option (List MhOption)
  | _, [] => some []
  | 0, _ :: _ => none
  | n + 1, t :: rest =>
    if t = 0 then (MhOption.pad1 :: ·) <$> decodeOptionsFuel n rest
    else match rest with
      | [] => none
      | l :: data =>
        if l.toNat ≤ data.length then
          (MhOption.tlv t (data.take l.toNat) :: ·) <$> decodeOptionsFuel n (data.drop l.toNat)
        else none

@[simp] theorem decodeOptionsFuel_nil (n : Nat) : decodeOptionsFuel n [] = some [] := by
  cases n <;> rfl

/-- The walk over an option area: every option takes at least one byte. -/
def decodeOptions (bs : List UInt8) : Option (List MhOption) := decodeOptionsFuel bs.length bs

@[simp] theorem encodeOptions_append (os os' : List MhOption) :
    encodeOptions (os ++ os') = encodeOptions os ++ encodeOptions os' := by
  induction os with
  | nil => rfl
  | cons o os ih => simp [encodeOptions, ih]

@[simp] theorem encodeOptions_replicate_pad1 (k : Nat) :
    encodeOptions (List.replicate k .pad1) = List.replicate k 0 := by
  induction k with
  | zero => rfl
  | succ k ih => simp [List.replicate_succ, encodeOptions, MhOption.encode, ih]

theorem length_le_length_encodeOptions (os : List MhOption) :
    os.length ≤ (encodeOptions os).length := by
  induction os with
  | nil => simp [encodeOptions]
  | cons o os ih => cases o <;> simp [encodeOptions, MhOption.encode] <;> omega

/-- The walk reads well-formed encoded options back one by one, whatever
    follows them. -/
theorem decodeOptionsFuel_encodeOptions_append (os : List MhOption) (hwf : ∀ o ∈ os, o.WF)
    (rest : List UInt8) : ∀ n, os.length ≤ n →
      decodeOptionsFuel n (encodeOptions os ++ rest) =
        (decodeOptionsFuel (n - os.length) rest).map (os ++ ·) := by
  induction os with
  | nil => intro n _; simp [encodeOptions]
  | cons o os ih =>
    intro n hn
    obtain ⟨n, rfl⟩ : ∃ m, n = m + 1 := ⟨n - 1, by simp at hn; omega⟩
    have hos := ih (fun o ho => hwf o (List.mem_cons_of_mem _ ho)) n (by simp at hn; omega)
    cases o with
    | pad1 => simp [encodeOptions, MhOption.encode, decodeOptionsFuel, hos, Option.map_map,
        Function.comp_def]
    | tlv t d =>
      obtain ⟨ht, hd⟩ : t ≠ 0 ∧ d.length < 256 := hwf _ (List.mem_cons_self _ _)
      have hl : (UInt8.ofNat d.length).toNat = d.length := by
        rw [toNat_ofNat_uint8]; omega
      simp [encodeOptions, MhOption.encode, decodeOptionsFuel, ht, hl, hos, Option.map_map,
        Function.comp_def]

/-- Fuel beyond the number of bytes does not change the walk: every option
    takes at least one byte. -/
theorem decodeOptionsFuel_congr (n : Nat) (bs : List UInt8) :
    ∀ m, bs.length ≤ n → bs.length ≤ m → decodeOptionsFuel n bs = decodeOptionsFuel m bs := by
  induction n, bs using decodeOptionsFuel.induct with
  | case1 => simp
  | case2 => intro m h; simp at h
  | case3 n rest ih =>
    intro m hn hm
    obtain ⟨m, rfl⟩ : ∃ k, m = k + 1 := ⟨m - 1, by simp at hm; omega⟩
    simp only [decodeOptionsFuel, if_true]
    rw [ih m (by simp at hn; omega) (by simp at hm; omega)]
  | case4 n t ht => intro m _ _; cases m <;> simp [decodeOptionsFuel, ht]
  | case5 n t ht l data hl ih =>
    intro m hn hm
    obtain ⟨m, rfl⟩ : ∃ k, m = k + 1 := ⟨m - 1, by simp at hm; omega⟩
    simp only [decodeOptionsFuel, ht, hl, if_false, if_true]
    rw [ih m (by simp at hn ⊢; omega) (by simp at hm ⊢; omega)]
  | case6 n t ht l data hl => intro m _ _; cases m <;> simp [decodeOptionsFuel, ht, hl]

theorem decodeOptions_encodeOptions_append (os : List MhOption) (hwf : ∀ o ∈ os, o.WF)
    (rest : List UInt8) :
    decodeOptions (encodeOptions os ++ rest) = (decodeOptions rest).map (os ++ ·) := by
  have h := length_le_length_encodeOptions os
  rw [decodeOptions, decodeOptionsFuel_encodeOptions_append os hwf rest _ (by simp; omega),
    decodeOptions, decodeOptionsFuel_congr _ _ _ (by simp; omega) le_rfl]

theorem decodeOptions_encodeOptions (os : List MhOption) (hwf : ∀ o ∈ os, o.WF) :
    decodeOptions (encodeOptions os) = some os := by
  simpa [decodeOptions] using decodeOptions_encodeOptions_append os hwf []

theorem encodeOptions_of_decodeOptionsFuel (n : Nat) (bs : List UInt8) :
    ∀ os, decodeOptionsFuel n bs = some os → encodeOptions os = bs ∧ ∀ o ∈ os, o.WF := by
  induction n, bs using decodeOptionsFuel.induct with
  | case1 => simp [decodeOptionsFuel, encodeOptions]
  | case2 => simp [decodeOptionsFuel]
  | case3 n rest ih =>
    intro os h
    simp only [decodeOptionsFuel, if_true] at h
    obtain ⟨os', h', rfl⟩ := Option.map_eq_some'.mp h
    obtain ⟨he, hw⟩ := ih _ h'
    exact ⟨by simp [encodeOptions, MhOption.encode, he],
      List.forall_mem_cons.2 ⟨trivial, hw⟩⟩
  | case4 n t ht => simp [decodeOptionsFuel, ht]
  | case5 n t ht l data hl ih =>
    intro os h
    simp only [decodeOptionsFuel, ht, hl, if_false, if_true] at h
    obtain ⟨os', h', rfl⟩ := Option.map_eq_some'.mp h
    obtain ⟨he, hw⟩ := ih _ h'
    have h256 : l.toNat < 256 := l.toNat_lt_size
    have hl' : UInt8.ofNat l.toNat = l := UInt8.toNat.inj (by rw [toNat_ofNat_uint8]; omega)
    refine ⟨?_, List.forall_mem_cons.2 ⟨⟨ht, by simp; omega⟩, hw⟩⟩
    simp [encodeOptions, MhOption.encode, he, hl', Nat.min_eq_left hl]
  | case6 n t ht l data hl => simp [decodeOptionsFuel, ht, hl]

theorem encodeOptions_of_decodeOptions {bs : List UInt8} {os : List MhOption}
    (h : decodeOptions bs = some os) : encodeOptions os = bs :=
  (encodeOptions_of_decodeOptionsFuel _ _ _ h).1

/-- The message data after the six bytes of Mobility Header: for a PBU the
    sequence number, the flags `A H L K M R P` and reserved bits, and the
    lifetime; for a PBA the status, the flags `K R P` and reserved bits, the
    sequence number and the lifetime. -/
inductive MhBody where
  | pbu (sequence flags lifetime : UInt16)
  | pba (status flags : UInt8) (sequence lifetime : UInt16)
  deriving DecidableEq, Repr

/-- The MH type of a body: 5 for a PBU, 6 for a PBA. -/
def MhBody.mhType : MhBody → UInt8
  | .pbu .. => 5
  | .pba .. => 6

def MhBody.encode : MhBody → List UInt8
  | .pbu s f l => be16 s ++ be16 f ++ be16 l
  | .pba st f s l => [st, f] ++ be16 s ++ be16 l

/-- The six bytes of message data read back as the body of MH type `ty`. -/
def MhBody.decode (ty d0 d1 d2 d3 d4 d5 : UInt8) : Option MhBody :=
  if ty = 5 then some (.pbu (ofBe16 d0 d1) (ofBe16 d2 d3) (ofBe16 d4 d5))
  else if ty = 6 then some (.pba d0 d1 (ofBe16 d2 d3) (ofBe16 d4 d5))
  else none

/-- A PBU or PBA with its Mobility Header fields. The header length and the MH
    type are not fields: the encoding computes them. -/
structure MhMessage where
  payloadProto : UInt8
  reserved : UInt8
  checksum : UInt16
  body : MhBody
  options : List MhOption
  deriving DecidableEq, Repr

/-- The length of the encoded message in bytes. -/
def MhMessage.length (m : MhMessage) : Nat := 12 + (encodeOptions m.options).length

/-- The bytes of a message: Header Len is the length in 8-octet units, not
    counting the first eight octets. -/
def MhMessage.encode (m : MhMessage) : List UInt8 :=
  [m.payloadProto, UInt8.ofNat (m.length / 8 - 1), m.body.mhType, m.reserved] ++
    be16 m.checksum ++ m.body.encode ++ encodeOptions m.options

/-- A message the encoding carries faithfully: well-formed options and a length
    that is a multiple of 8 and fits the 8-bit Header Len. -/
structure MhMessage.WF (m : MhMessage) : Prop where
  options : ∀ o ∈ m.options, o.WF
  aligned : m.length % 8 = 0
  fits : m.length ≤ 2048

/-- The receiver's parse: the length must agree with Header Len, the MH type
    must be a PBU or a PBA, and the rest must walk as options. -/
def decode : List UInt8 → Option MhMessage
  | p :: hl :: ty :: r :: c0 :: c1 :: d0 :: d1 :: d2 :: d3 :: d4 :: d5 :: opts =>
    if opts.length + 12 = (hl.toNat + 1) * 8 then
      (MhBody.decode ty d0 d1 d2 d3 d4 d5).bind fun body =>
        (decodeOptions opts).map fun os => ⟨p, r, ofBe16 c0 c1, body, os⟩
    else none
  | _ => none

theorem MhBody.decode_encode (b : MhBody) :
    ∃ d0 d1 d2 d3 d4 d5, b.encode = [d0, d1, d2, d3, d4, d5] ∧
      MhBody.decode b.mhType d0 d1 d2 d3 d4 d5 = some b := by
  cases b <;> exact ⟨_, _, _, _, _, _, rfl, by simp [MhBody.decode, mhType]⟩

/-- A receiver given a header whose Header Len counts the bytes that follow
    reads the message data and walks the rest as options. -/
theorem decode_append (p hl r : UInt8) (c : UInt16) (body : MhBody) (opts : List UInt8)
    (h : opts.length + 12 = (hl.toNat + 1) * 8) :
    decode ([p, hl, body.mhType, r] ++ be16 c ++ body.encode ++ opts) =
      (decodeOptions opts).map fun os => ⟨p, r, c, body, os⟩ := by
  obtain ⟨d0, d1, d2, d3, d4, d5, hb, hd⟩ := body.decode_encode
  simp [be16, hb, decode, h, hd]

/-- Decoding an encoded well-formed message gives it back. -/
theorem decode_encode (m : MhMessage) (hwf : m.WF) : decode m.encode = some m := by
  obtain ⟨d0, d1, d2, d3, d4, d5, hb, hd⟩ := m.body.decode_encode
  have hlen : (encodeOptions m.options).length + 12 =
      ((UInt8.ofNat (m.length / 8 - 1)).toNat + 1) * 8 := by
    have := hwf.aligned; have := hwf.fits
    simp only [toNat_ofNat_uint8, MhMessage.length] at *
    omega
  simp [MhMessage.encode, be16, hb, decode, hlen, hd,
    decodeOptions_encodeOptions _ hwf.options]

theorem MhBody.encode_of_decode {ty d0 d1 d2 d3 d4 d5 : UInt8} {b : MhBody}
    (h : MhBody.decode ty d0 d1 d2 d3 d4 d5 = some b) :
    b.mhType = ty ∧ b.encode = [d0, d1, d2, d3, d4, d5] := by
  unfold MhBody.decode at h
  split_ifs at h with h5 h6
  · cases h; exact ⟨h5.symm, by simp [MhBody.encode, be16_ofBe16]⟩
  · cases h; exact ⟨h6.symm, by simp [MhBody.encode, be16_ofBe16]⟩

/-- Every message the receiver accepts is the encoding of what it decodes to. -/
theorem encode_of_decode {bs : List UInt8} {m : MhMessage} (h : decode bs = some m) :
    m.encode = bs := by
  match bs, h with
  | p :: hl :: ty :: r :: c0 :: c1 :: d0 :: d1 :: d2 :: d3 :: d4 :: d5 :: opts, h =>
    simp only [decode] at h
    split_ifs at h with hl8
    obtain ⟨body, hbody, h⟩ := Option.bind_eq_some.mp h
    obtain ⟨os, hos, rfl⟩ := Option.map_eq_some'.mp h
    obtain ⟨hty, hbe⟩ := MhBody.encode_of_decode hbody
    have he := encodeOptions_of_decodeOptions hos
    have hhl : UInt8.ofNat ((12 + opts.length) / 8 - 1) = hl :=
      UInt8.toNat.inj (by have : hl.toNat < 256 := hl.toNat_lt_size; rw [toNat_ofNat_uint8]; omega)
    simp [MhMessage.encode, MhMessage.length, he, hty, hbe, be16_ofBe16, hhl]

end Spec

/-! ## The `ip::mproto` classes the senders use -/

/-- Modelled from the spec: `sizeof(ip::mproto::pbu)` and `sizeof(ip::mproto::pba)`,
    six bytes of Mobility Header and six of message data. -/
def headerSize : Nat := 12

/-- Modelled from the spec: `ip::mproto::pbu::mh_type`. -/
def pbuMhType : UInt8 := 5

/-- Modelled from the spec: `ip::mproto::pba::mh_type`. -/
def pbaMhType : UInt8 := 6

/-- Modelled from the spec: `new(_buffer) ip::mproto::pbu` (or `pba`), a header
    whose fields are all zero. -/
def headerNew (b : Buffer) : Buffer := b.write 0 (List.replicate headerSize 0)

/-- Modelled from the spec: `pbu->sequence(v)`, bytes 6–7 as in RFC 6275 §6.1.7
    (see the module doc on the layout). The parameter is the 16-bit field, so
    the caller's value arrives modulo `2^16`. -/
def pbuSequence (b : Buffer) (v : UInt16) : Buffer := b.write 6 (be16 v)

/-- Modelled from the spec: `pbu->ack(v)`, the `A` flag, bit 15 of the flags at
    bytes 8–9. -/
def pbuAck (b : Buffer) (v : Bool) : Buffer := b.setFlag 8 0x80 v

/-- Modelled from the spec: `pbu->proxy_reg(v)`, the `P` flag, bit 9 of the flags. -/
def pbuProxyReg (b : Buffer) (v : Bool) : Buffer := b.setFlag 8 0x02 v

/-- Modelled from the spec: `pbu->lifetime(v)`, bytes 10–11, in units of 4 s. -/
def pbuLifetime (b : Buffer) (v : UInt16) : Buffer := b.write 10 (be16 v)

/-- Modelled from the spec: `pba->status(v)`, byte 6 as in RFC 6275 §6.1.8 (see
    the module doc on the layout). -/
def pbaStatus (b : Buffer) (v : UInt8) : Buffer := b.write 6 [v]

/-- Modelled from the spec: `pba->proxy_reg(v)`, the `P` flag, bit 5 of byte 7. -/
def pbaProxyReg (b : Buffer) (v : Bool) : Buffer := b.setFlag 7 0x20 v

/-- Modelled from the spec: `pba->sequence(v)`, bytes 8–9. -/
def pbaSequence (b : Buffer) (v : UInt16) : Buffer := b.write 8 (be16 v)

/-- Modelled from the spec: `pba->lifetime(v)`, bytes 10–11. -/
def pbaLifetime (b : Buffer) (v : UInt16) : Buffer := b.write 10 (be16 v)

/-- Modelled from the spec: `pbu->init(mh_type, length)` and `pba->init`: payload
    protocol `IPPROTO_NONE`, Header Len `length / 8 - 1`, the MH type, and zero
    reserved and checksum bytes (the kernel computes the checksum). -/
def headerInit (b : Buffer) (mhType : UInt8) (length : Nat) : Buffer :=
  b.write 0 ([59, UInt8.ofNat (length / 8 - 1), mhType, 0] ++ be16 0)

/-- Modelled from the spec: an option class `T` of `ip::mproto::option`, by its
    `T::type_value` and `sizeof(T)`. -/
structure OptionClass where
  typeValue : UInt8
  size : Nat

/-- Modelled from the spec: `option::nai`, a `subtype` byte followed by the
    identifier as a flexible array. -/
def nai : OptionClass := ⟨8, 1⟩

/-- Modelled from the spec: `option::handoff`, one `indicator` byte. -/
def handoff : OptionClass := ⟨15, 1⟩

/-- Modelled from the spec: `option::att`, one `tech_type` byte. -/
def att : OptionClass := ⟨17, 1⟩

/-- Modelled from the spec: `new(p) ip::mproto::option(T(), len)`, the type byte
    and the 8-bit length `sizeof(T) + len`. -/
def optionNew (b : Buffer) (off : Nat) (T : OptionClass) (len : Nat) : Buffer :=
  b.write off [T.typeValue, UInt8.ofNat (T.size + len)]

/-- Modelled from the spec: `opt->get<T>()`, the option's data after its type and
    length bytes. -/
def optionData (off : Nat) : Nat := off + 2

/-- Modelled from the spec: `ip::mproto::option::size(opt)`, one byte for Pad1 and
    otherwise the type and length bytes and `length` bytes of data. -/
def optionSize (b : Buffer) (off : Nat) : Nat :=
  if b.mem off = 0 then 1 else (b.mem (off + 1)).toNat + 2

/-- Modelled from the spec: `align_to<n>(len)` (`opmip/base.hpp`), the least
    multiple of `n` not below `len`. -/
def alignTo (n len : Nat) : Nat := (len + n - 1) / n * n

theorem alignTo_eight (len : Nat) :
    len ≤ alignTo 8 len ∧ alignTo 8 len < len + 8 ∧ alignTo 8 len % 8 = 0 := by
  simp only [alignTo]; omega

end Opmip.Ip.Mproto
