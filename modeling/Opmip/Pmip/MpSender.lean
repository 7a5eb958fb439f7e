import Opmip.Ip.Mproto

/-!
# `pbu_sender` and `pba_sender`

`lib/opmip/pmip/mp_sender.cpp` builds a Proxy Binding Update (lines 24–71) or
Acknowledgement (lines 74–121) from a `proxy_binding_info`: it zeroes
`_buffer`, places the fixed header and sets its fields, appends the NAI,
Handoff and Access Technology Type options at the running offset `len`, and
finally sets `_length = align_to<8>(len)` and the header with `init`. The two
constructors are the same code apart from the header setters; here they are
`mpSender` applied to `pbuHeader` and `pbaHeader`.

The NAI option's length byte holds `r = (|id| + 1) mod 256`, `option::size`
advances `len` by `2 + r`, and the Handoff and ATT options are placed there,
over whatever `std::copy` wrote of the identifier past that point. This module
describes what the constructors write for every identifier (`wireImage`); what
a receiver makes of it is `MpDecode`.

Results:
* `senders_mem_every_id`: for every `sizeof(_buffer)`, the memory from
  `_buffer` on holds `wireImage`, `max(20 + r, 15 + |id|)` bytes: the header,
  the message data, an NAI option carrying the first `r` bytes of the subtype
  and the identifier, Handoff, ATT, and for an identifier of 255 bytes or more
  the rest of it, written whether or not `_buffer` holds it.
* `senders_wire_every_id`: `_length` is `align_to<8>(20 + r)` and the bytes
  sent are `wireImage` padded with the zeros of `std::fill` (`wireBytes`).
* `senders_overrun_every_id`, `senders_overrun_iff`: both constructors write
  past `_buffer` exactly when it is shorter than `15 + |id|` or `20 + r` bytes,
  which for an identifier of at most 254 bytes is `21 + |id|`.
* `senders_lifetime_eq_zero_iff`, `senders_lifetime_wraps`,
  `senders_lifetime_mono`: the lifetime field holds
  `(lifetime / 4000) mod 2^16` (`pbuSender_lifetime`), so it truncates and wraps.

**Deviation from RFC 5213.** The NAI option of an identifier of `n ≥ 255`
bytes carries only `n mod 256` of them (none, and no subtype, when
`n mod 256 = 255`), and `std::copy` writes the whole identifier past the
options, into the bytes sent up to `_length` and past them.
-/

namespace Opmip.Pmip

open Opmip.Ip.Mproto
open Opmip.Ip.Mproto.Spec (MhOption MhBody MhMessage)

/-- Modelled from the spec: `proxy_binding_info` (`opmip/pmip/mp_sender.hpp` is
    not among the sources), the fields the senders read. The lifetime is in
    milliseconds. -/
structure ProxyBindingInfo where
  address : Ipv6Address
  id : List UInt8
  sequence : Nat
  lifetime : Nat
  handoff : UInt8
  linkType : UInt8
  status : UInt8

/-- The binding of the spec's first end-to-end scenario: `mn1`, sequence 1,
    3600000 ms, first attach (1), IEEE 802.11 (4). -/
def scenarioBinding : ProxyBindingInfo :=
  ⟨⟨List.replicate 16 0, rfl⟩, [0x6d, 0x6e, 0x31], 1, 3600000, 1, 4, 0⟩

/-- A constructed sender: `_endpoint`, `_length` and `_buffer`. -/
structure MpSender where
  endpoint : Ipv6Address
  length : Nat
  buffer : Buffer

/-- The first `_length` bytes of `_buffer`, which the sender puts on the wire. -/
def MpSender.bytes (s : MpSender) : List UInt8 := read s.buffer.mem 0 s.length

/-- The 16-bit lifetime field the sender wrote, bytes 10–11. -/
def MpSender.lifetime (s : MpSender) : UInt16 := ofBe16 (s.buffer.mem 10) (s.buffer.mem 11)

/-- The NAI block (lines 38–47): the option header with length
    `sizeof(nai) + id.length()`, `nai->subtype = 1`, `std::copy` of the
    identifier, `len += option::size(opt)`. -/
def naiOption (c : Cursor) (id : List UInt8) : Cursor :=
  let b := optionNew c.buf c.len nai id.length
  let b := b.write (optionData c.len) [1]
  let b := b.write (optionData c.len + 1) id
  ⟨b, c.len + optionSize b c.len⟩

/-- The block of an option of class `T` with one data byte `v`: the Handoff
    (lines 49–57) and ATT (lines 59–67) blocks. -/
def byteOption (T : OptionClass) (c : Cursor) (v : UInt8) : Cursor :=
  let b := optionNew c.buf c.len T 0
  let b := b.write (optionData c.len) [v]
  ⟨b, c.len + optionSize b c.len⟩

/-- `hof->indicator = pbinfo.handoff`. -/
def handoffOption (c : Cursor) (v : UInt8) : Cursor := byteOption handoff c v

/-- `att->tech_type = pbinfo.link_type`. -/
def attOption (c : Cursor) (v : UInt8) : Cursor := byteOption att c v

/-- The option blocks of both constructors (lines 38–67 and 88–117). -/
def mpOptions (c : Cursor) (pbinfo : ProxyBindingInfo) : Cursor :=
  attOption (handoffOption (naiOption c pbinfo.id) pbinfo.handoff) pbinfo.linkType

/-- The body both constructors share: `std::fill`, the placement of the header,
    the header setters `setHeader`, the options, `_length = align_to<8>(len)`
    and `init`. `cap` is `sizeof(_buffer)` and `raw` what the storage held. -/
def mpSender (setHeader : Buffer → Buffer) (mhType : UInt8) (cap : Nat) (raw : Nat → UInt8)
    (pbinfo : ProxyBindingInfo) : MpSender :=
  let c := mpOptions ⟨setHeader (headerNew (Buffer.fresh cap raw).fill), headerSize⟩ pbinfo
  let length := alignTo 8 c.len
  ⟨pbinfo.address, length, headerInit c.buf mhType length⟩

/-- The PBU header setters (lines 33–36). -/
def pbuHeader (pbinfo : ProxyBindingInfo) (b : Buffer) : Buffer :=
  let b := pbuSequence b (UInt16.ofNat pbinfo.sequence)
  let b := pbuAck b true
  let b := pbuProxyReg b true
  pbuLifetime b (UInt16.ofNat (pbinfo.lifetime / 4000))

/-- `pbu_sender::pbu_sender(pbinfo)` (lines 24–71). -/
def pbuSender (cap : Nat) (raw : Nat → UInt8) (pbinfo : ProxyBindingInfo) : MpSender :=
  mpSender (pbuHeader pbinfo) pbuMhType cap raw pbinfo

/-- The PBA header setters (lines 83–86). -/
def pbaHeader (pbinfo : ProxyBindingInfo) (b : Buffer) : Buffer :=
  let b := pbaStatus b pbinfo.status
  let b := pbaProxyReg b true
  let b := pbaSequence b (UInt16.ofNat pbinfo.sequence)
  pbaLifetime b (UInt16.ofNat (pbinfo.lifetime / 4000))

/-- `pba_sender::pba_sender(pbinfo)` (lines 74–121). -/
def pbaSender (cap : Nat) (raw : Nat → UInt8) (pbinfo : ProxyBindingInfo) : MpSender :=
  mpSender (pbaHeader pbinfo) pbaMhType cap raw pbinfo

/-! ## What the constructors write -/

/-- The value of the NAI option's 8-bit length byte, `sizeof(nai) + id.length()`. -/
def naiLength (pbinfo : ProxyBindingInfo) : Nat := (pbinfo.id.length + 1) % 256

/-- The options the constructors write for an identifier of any length: the NAI
    option carries as many bytes of its subtype and the identifier as its
    length byte counts. -/
def wrappedOptions (pbinfo : ProxyBindingInfo) : List MhOption :=
  [.tlv 8 ((1 :: pbinfo.id).take (naiLength pbinfo)), .handoff pbinfo.handoff,
    .att pbinfo.linkType]

/-- The bytes from offset 12 on: the options, then what `std::copy` wrote of
    the identifier past the Handoff and ATT options. -/
def wireOptions (pbinfo : ProxyBindingInfo) : List UInt8 :=
  Spec.encodeOptions (wrappedOptions pbinfo) ++ (1 :: pbinfo.id).drop (naiLength pbinfo + 6)

/-- What a constructor with MH type `mhType` and message data `body` writes
    from `_buffer` on: Mobility Header, `body`, then `wireOptions`. -/
def wireImage (mhType : UInt8) (body : MhBody) (pbinfo : ProxyBindingInfo) : List UInt8 :=
  [59, UInt8.ofNat (alignTo 8 (20 + naiLength pbinfo) / 8 - 1), mhType, 0, 0, 0] ++ body.encode ++
    wireOptions pbinfo

/-- The first `_length = align_to<8>(20 + naiLength)` bytes from `_buffer` on,
    which the constructor sends: `wireImage`, then the zeros of `std::fill`. -/
def wireBytes (mhType : UInt8) (body : MhBody) (pbinfo : ProxyBindingInfo) : List UInt8 :=
  let length := alignTo 8 (20 + naiLength pbinfo)
  (wireImage mhType body pbinfo ++ List.replicate length 0).take length

/-- The message data of `pbu_sender` (lines 33–36). -/
def pbuBody (pbinfo : ProxyBindingInfo) : MhBody :=
  .pbu (UInt16.ofNat pbinfo.sequence) 0x8200 (UInt16.ofNat (pbinfo.lifetime / 4000))

/-- The message data of `pba_sender` (lines 83–86). -/
def pbaBody (pbinfo : ProxyBindingInfo) : MhBody :=
  .pba pbinfo.status 0x20 (UInt16.ofNat pbinfo.sequence) (UInt16.ofNat (pbinfo.lifetime / 4000))

theorem length_take_naiLength (pbinfo : ProxyBindingInfo) :
    ((1 :: pbinfo.id).take (naiLength pbinfo)).length = naiLength pbinfo := by
  simp [naiLength]; omega

theorem length_encodeOptions_wrappedOptions (pbinfo : ProxyBindingInfo) :
    (Spec.encodeOptions (wrappedOptions pbinfo)).length = 8 + naiLength pbinfo := by
  simp only [wrappedOptions, Spec.encodeOptions, MhOption.encode, MhOption.handoff, MhOption.att,
    List.length_append, List.length_cons, length_take_naiLength, List.length_nil]
  omega

theorem length_wireImage (mhType : UInt8) (body : MhBody) (pbinfo : ProxyBindingInfo) :
    (wireImage mhType body pbinfo).length = max (20 + naiLength pbinfo) (15 + pbinfo.id.length) := by
  have h6 : body.encode.length = 6 := by cases body <;> rfl
  simp [wireImage, wireOptions, length_encodeOptions_wrappedOptions, h6, naiLength]
  omega

/-! ## The option blocks -/

/-- `option::size` reads back the length byte the NAI block wrote: `1 + |id|`
    modulo 256. -/
theorem naiOption_len (c : Cursor) (id : List UInt8) :
    (naiOption c id).len = c.len + 2 + (id.length + 1) % 256 := by
  simp (disch := omega) only [naiOption, optionSize, optionNew, optionData, Buffer.write_mem, nai,
    store_apply_of_lt]
  rw [store_apply_add _ _ _ (by simp)]
  simp [toNat_ofNat_uint8]
  omega

theorem byteOption_len (T : OptionClass) (hT : T.typeValue ≠ 0) (hs : T.size = 1) (c : Cursor)
    (v : UInt8) : (byteOption T c v).len = c.len + 3 := by
  simp (disch := omega) only [byteOption, optionSize, optionNew, optionData, Buffer.write_mem,
    store_apply_of_lt]
  rw [store_apply_add _ _ _ (by simp)]
  simp [hT, hs]

/-- The three blocks advance `len` by `8 + naiLength`. -/
theorem mpOptions_len (c : Cursor) (pbinfo : ProxyBindingInfo) :
    (mpOptions c pbinfo).len = c.len + 8 + naiLength pbinfo := by
  simp only [mpOptions, attOption, handoffOption, byteOption_len att (by decide) rfl,
    byteOption_len handoff (by decide) rfl, naiOption_len, naiLength]
  omega

theorem store_append_at (m : Nat → UInt8) (a b : List UInt8) {n : Nat} (h : n = a.length) :
    store (store m 0 a) n b = store m 0 (a ++ b) := by
  subst h; exact store_append m a b

/-- The NAI block appends its header, the subtype and the whole identifier,
    whatever its length byte says. -/
theorem naiOption_mem {c : Cursor} {m : Nat → UInt8} {acc : List UInt8}
    (hm : c.buf.mem = store m 0 acc) (hl : c.len = acc.length) (id : List UInt8) :
    (naiOption c id).buf.mem = store m 0 (acc ++ [8, UInt8.ofNat (id.length + 1)] ++ 1 :: id) := by
  simp only [naiOption, optionNew, optionData, Buffer.write_mem, hm, nai]
  rw [store_append_at _ _ _ hl, store_append_at _ _ _ (by simp [hl]),
    store_append_at _ _ _ (by simp [hl])]
  simp [Nat.add_comm]

/-- A one-byte option block at `len` overwrites the next three bytes of what
    was written, or extends it. -/
theorem byteOption_mem (T : OptionClass) (hs : T.size = 1) {c : Cursor} {m : Nat → UInt8}
    {p q : List UInt8} (hm : c.buf.mem = store m 0 (p ++ q)) (hl : c.len = p.length) (v : UInt8) :
    (byteOption T c v).buf.mem = store m 0 (p ++ [T.typeValue, 1, v] ++ q.drop 3) := by
  simp only [byteOption, optionNew, optionData, Buffer.write_mem, hm, hs, hl]
  have h2 : p.length + 2 = (p ++ [T.typeValue, UInt8.ofNat (1 + 0)]).length := by simp
  rw [store_splice _ _ _ (by simp), overwrite_at_length, h2, store_splice _ _ _ (by simp),
    overwrite_at_length]
  simp

/-- After the three option blocks, the bytes from the header on are the header
    and `wireOptions`. -/
theorem mpOptions_mem (c : Cursor) {m : Nat → UInt8} {fixed : List UInt8}
    (hm : c.buf.mem = store m 0 fixed) (hl : c.len = fixed.length) (pbinfo : ProxyBindingInfo) :
    (mpOptions c pbinfo).buf.mem = store m 0 (fixed ++ wireOptions pbinfo) := by
  have hr := length_take_naiLength pbinfo
  have hsplit : fixed ++ [8, UInt8.ofNat (pbinfo.id.length + 1)] ++ 1 :: pbinfo.id =
      (fixed ++ [8, UInt8.ofNat (pbinfo.id.length + 1)] ++ (1 :: pbinfo.id).take (naiLength pbinfo)) ++
        (1 :: pbinfo.id).drop (naiLength pbinfo) := by
    rw [List.append_assoc _ _ (List.drop _ _), List.take_append_drop]
  have h1 := naiOption_mem hm hl pbinfo.id
  rw [hsplit] at h1
  have hl1 : (naiOption c pbinfo.id).len = (fixed ++ [8, UInt8.ofNat (pbinfo.id.length + 1)] ++
      (1 :: pbinfo.id).take (naiLength pbinfo)).length := by
    rw [naiOption_len, hl]; simp [naiLength]; omega
  have h2 := byteOption_mem handoff rfl h1 hl1 pbinfo.handoff
  have hl2 : (handoffOption (naiOption c pbinfo.id) pbinfo.handoff).len =
      (fixed ++ [8, UInt8.ofNat (pbinfo.id.length + 1)] ++ (1 :: pbinfo.id).take (naiLength pbinfo) ++
        [handoff.typeValue, 1, pbinfo.handoff]).length := by
    rw [handoffOption, byteOption_len handoff (by decide) rfl, hl1]; simp; omega
  have h3 := byteOption_mem att rfl h2 hl2 pbinfo.linkType
  have hx : UInt8.ofNat (naiLength pbinfo) = UInt8.ofNat (pbinfo.id.length + 1) :=
    UInt8.toNat.inj (by simp [toNat_ofNat_uint8, naiLength])
  refine h3.trans (congrArg (store m 0) ?_)
  simp [wireOptions, wrappedOptions, Spec.encodeOptions, MhOption.encode, MhOption.handoff,
    MhOption.att, hr, hx, handoff, att, List.drop_drop]

/-! ## The fixed headers -/

/-- What a constructor's header setters do: on the twelve zeroed bytes of the
    header they leave `fixed`. -/
def HeaderWrites (setHeader : Buffer → Buffer) (fixed : List UInt8) : Prop :=
  ∀ b m, b.mem = store m 0 (List.replicate 12 0) → (setHeader b).mem = store m 0 fixed

/-- The setters of lines 33–36 leave the PBU message data `pbuBody` after six
    zero bytes. -/
theorem pbuHeader_writes (pbinfo : ProxyBindingInfo) :
    HeaderWrites (pbuHeader pbinfo) ([0, 0, 0, 0, 0, 0] ++ (pbuBody pbinfo).encode) := by
  intro b m h
  simp only [pbuHeader, pbuSequence, pbuAck, pbuProxyReg, pbuLifetime, Buffer.setFlag,
    Buffer.write_mem, h]
  simp (disch := simp [overwrite]) only [store_overwrite, store_zero_apply]
  simp [overwrite, be16, pbuBody, MhBody.encode]
  rfl

/-- The setters of lines 83–86 leave the PBA message data `pbaBody`. -/
theorem pbaHeader_writes (pbinfo : ProxyBindingInfo) :
    HeaderWrites (pbaHeader pbinfo) ([0, 0, 0, 0, 0, 0] ++ (pbaBody pbinfo).encode) := by
  intro b m h
  simp only [pbaHeader, pbaStatus, pbaSequence, pbaProxyReg, pbaLifetime, Buffer.setFlag,
    Buffer.write_mem, h]
  simp (disch := simp [overwrite]) only [store_overwrite, store_zero_apply]
  simp [overwrite, be16, pbaBody, MhBody.encode]
  rfl

/-! ## The memory and the bytes sent -/

/-- `_length` for every identifier: the NAI option's length byte wraps at 256. -/
theorem mpSender_length (setHeader : Buffer → Buffer) (mhType : UInt8) (cap : Nat)
    (raw : Nat → UInt8) (pbinfo : ProxyBindingInfo) :
    (mpSender setHeader mhType cap raw pbinfo).length = alignTo 8 (20 + naiLength pbinfo) := by
  simp only [mpSender, mpOptions_len, headerSize]

/-- Both constructors, for every identifier and every `_buffer`: the memory
    from `_buffer` on is `wireImage` over what `std::fill` left. -/
theorem mpSender_mem (setHeader : Buffer → Buffer) (body : MhBody)
    (hheader : HeaderWrites setHeader ([0, 0, 0, 0, 0, 0] ++ body.encode))
    (cap : Nat) (raw : Nat → UInt8) (pbinfo : ProxyBindingInfo) :
    (mpSender setHeader body.mhType cap raw pbinfo).buffer.mem =
      store (store raw 0 (List.replicate cap 0)) 0 (wireImage body.mhType body pbinfo) := by
  have h6 : body.encode.length = 6 := by cases body <;> rfl
  have hm := mpOptions_mem ⟨setHeader (headerNew (Buffer.fresh cap raw).fill), headerSize⟩
    (hheader _ _ rfl) (by simp [h6, headerSize]) pbinfo
  simp only [mpSender, headerInit, Buffer.write_mem, hm, mpOptions_len]
  rw [store_overwrite _ _ _ _ (by simp [h6])]
  rfl

/-- Both constructors, for every identifier: `_length` is `align_to<8>` of the
    offset the ATT block leaves, and the bytes sent are `wireBytes`. -/
theorem mpSender_wire (setHeader : Buffer → Buffer) (body : MhBody)
    (hheader : HeaderWrites setHeader ([0, 0, 0, 0, 0, 0] ++ body.encode))
    (cap : Nat) (raw : Nat → UInt8) (pbinfo : ProxyBindingInfo)
    (hcap : alignTo 8 (20 + naiLength pbinfo) ≤ cap) :
    (mpSender setHeader body.mhType cap raw pbinfo).length = alignTo 8 (20 + naiLength pbinfo) ∧
      (mpSender setHeader body.mhType cap raw pbinfo).bytes =
        wireBytes body.mhType body pbinfo := by
  refine ⟨mpSender_length _ _ _ _ _, ?_⟩
  rw [MpSender.bytes, mpSender_length, mpSender_mem _ _ hheader]
  exact read_store_fill_take _ _ _ hcap

theorem pbuSender_wire (cap : Nat) (raw : Nat → UInt8) (pbinfo : ProxyBindingInfo)
    (hcap : alignTo 8 (20 + naiLength pbinfo) ≤ cap) :
    (pbuSender cap raw pbinfo).length = alignTo 8 (20 + naiLength pbinfo) ∧
      (pbuSender cap raw pbinfo).bytes = wireBytes pbuMhType (pbuBody pbinfo) pbinfo :=
  mpSender_wire _ (pbuBody pbinfo) (pbuHeader_writes pbinfo) cap raw pbinfo hcap

theorem pbaSender_wire (cap : Nat) (raw : Nat → UInt8) (pbinfo : ProxyBindingInfo)
    (hcap : alignTo 8 (20 + naiLength pbinfo) ≤ cap) :
    (pbaSender cap raw pbinfo).length = alignTo 8 (20 + naiLength pbinfo) ∧
      (pbaSender cap raw pbinfo).bytes = wireBytes pbaMhType (pbaBody pbinfo) pbinfo :=
  mpSender_wire _ (pbaBody pbinfo) (pbaHeader_writes pbinfo) cap raw pbinfo hcap

/-- `pbu_sender` and `pba_sender` for every `proxy_binding_info`: `_length` is
    `align_to<8>(20 + naiLength)` and the bytes sent are `wireBytes`. -/
theorem senders_wire_every_id (cap : Nat) (raw : Nat → UInt8) (pbinfo : ProxyBindingInfo)
    (hcap : alignTo 8 (20 + naiLength pbinfo) ≤ cap) :
    ((pbuSender cap raw pbinfo).length = alignTo 8 (20 + naiLength pbinfo) ∧
        (pbuSender cap raw pbinfo).bytes = wireBytes pbuMhType (pbuBody pbinfo) pbinfo) ∧
      ((pbaSender cap raw pbinfo).length = alignTo 8 (20 + naiLength pbinfo) ∧
        (pbaSender cap raw pbinfo).bytes = wireBytes pbaMhType (pbaBody pbinfo) pbinfo) :=
  ⟨pbuSender_wire cap raw pbinfo hcap, pbaSender_wire cap raw pbinfo hcap⟩

/-- A binding whose identifier is 300 bytes "a": its length byte holds 45. -/
def longBinding : ProxyBindingInfo :=
  ⟨⟨List.replicate 16 0, rfl⟩, List.replicate 300 0x61, 1, 3600000, 1, 4, 0⟩

theorem longBinding_fits : alignTo 8 (20 + naiLength longBinding) ≤ 1024 := by
  simp only [naiLength, longBinding, List.length_replicate]
  decide

theorem senders_wire_every_id_long :
    alignTo 8 (20 + naiLength longBinding) ≤ 1024 ∧
      (((pbuSender 1024 (fun _ => 0) longBinding).length =
          alignTo 8 (20 + naiLength longBinding) ∧
        (pbuSender 1024 (fun _ => 0) longBinding).bytes =
          wireBytes pbuMhType (pbuBody longBinding) longBinding) ∧
      ((pbaSender 1024 (fun _ => 0) longBinding).length =
          alignTo 8 (20 + naiLength longBinding) ∧
        (pbaSender 1024 (fun _ => 0) longBinding).bytes =
          wireBytes pbaMhType (pbaBody longBinding) longBinding)) :=
  ⟨longBinding_fits, senders_wire_every_id 1024 (fun _ => 0) longBinding longBinding_fits⟩

/-- What `pbu_sender` and `pba_sender` leave in memory, for every identifier
    and every `sizeof(_buffer)`: `wireImage`, `max (20 + naiLength) (15 + |id|)`
    bytes from `_buffer` on, over the zeros of `std::fill` and whatever lay
    past `_buffer`. -/
theorem senders_mem_every_id (cap : Nat) (raw : Nat → UInt8) (pbinfo : ProxyBindingInfo) :
    (pbuSender cap raw pbinfo).buffer.mem =
        store (store raw 0 (List.replicate cap 0)) 0 (wireImage pbuMhType (pbuBody pbinfo) pbinfo) ∧
      (pbaSender cap raw pbinfo).buffer.mem =
        store (store raw 0 (List.replicate cap 0)) 0 (wireImage pbaMhType (pbaBody pbinfo) pbinfo) ∧
      (wireImage pbuMhType (pbuBody pbinfo) pbinfo).length =
        max (20 + naiLength pbinfo) (15 + pbinfo.id.length) ∧
      (wireImage pbaMhType (pbaBody pbinfo) pbinfo).length =
        max (20 + naiLength pbinfo) (15 + pbinfo.id.length) :=
  ⟨mpSender_mem _ (pbuBody pbinfo) (pbuHeader_writes pbinfo) cap raw pbinfo,
    mpSender_mem _ (pbaBody pbinfo) (pbaHeader_writes pbinfo) cap raw pbinfo,
    length_wireImage _ _ _, length_wireImage _ _ _⟩

/-! ## Writes past `_buffer` -/

@[simp] theorem naiOption_cap (c : Cursor) (id : List UInt8) :
    (naiOption c id).buf.cap = c.buf.cap := rfl

@[simp] theorem byteOption_cap (T : OptionClass) (c : Cursor) (v : UInt8) :
    (byteOption T c v).buf.cap = c.buf.cap := rfl

/-- The NAI block writes up to the end of the identifier, `len + 3 + |id|`,
    whatever its length byte says. -/
theorem naiOption_overrun (c : Cursor) (id : List UInt8) :
    (naiOption c id).buf.overrun = (c.buf.overrun || decide (c.buf.cap < c.len + 3 + id.length)) := by
  simp only [naiOption, optionNew, optionData, Buffer.write_overrun, Buffer.write_cap]
  cases c.buf.overrun
  · rw [Bool.eq_iff_iff]; simp; omega
  · simp

theorem byteOption_overrun (T : OptionClass) (c : Cursor) (v : UInt8) :
    (byteOption T c v).buf.overrun = (c.buf.overrun || decide (c.buf.cap < c.len + 3)) := by
  simp only [byteOption, optionNew, optionData, Buffer.write_overrun, Buffer.write_cap]
  cases c.buf.overrun
  · rw [Bool.eq_iff_iff]; simp; omega
  · simp

/-- The header setters write inside the twelve bytes of the fixed header. -/
theorem pbuHeader_tracks (pbinfo : ProxyBindingInfo) (b : Buffer) :
    (pbuHeader pbinfo b).cap = b.cap ∧
      (pbuHeader pbinfo b).overrun = (b.overrun || decide (b.cap < 12)) := by
  simp only [pbuHeader, pbuSequence, pbuAck, pbuProxyReg, pbuLifetime, Buffer.setFlag,
    Buffer.write_cap, Buffer.write_overrun, length_be16, true_and, List.length_singleton]
  cases b.overrun
  · simp; omega
  · simp

theorem pbaHeader_tracks (pbinfo : ProxyBindingInfo) (b : Buffer) :
    (pbaHeader pbinfo b).cap = b.cap ∧
      (pbaHeader pbinfo b).overrun = (b.overrun || decide (b.cap < 12)) := by
  simp only [pbaHeader, pbaStatus, pbaProxyReg, pbaSequence, pbaLifetime, Buffer.setFlag,
    Buffer.write_cap, Buffer.write_overrun, length_be16, true_and, List.length_singleton]
  cases b.overrun
  · simp; omega
  · simp

/-- Both constructors write past `_buffer` exactly when it is shorter than the
    end of the identifier's copy, `15 + |id|`, or of the ATT option,
    `20 + naiLength`. -/
theorem mpSender_overrun_every_id (setHeader : Buffer → Buffer) (mhType : UInt8)
    (hset : ∀ b, (setHeader b).cap = b.cap ∧
      (setHeader b).overrun = (b.overrun || decide (b.cap < 12)))
    (cap : Nat) (raw : Nat → UInt8) (pbinfo : ProxyBindingInfo) :
    (mpSender setHeader mhType cap raw pbinfo).buffer.overrun =
      decide (cap < 15 + pbinfo.id.length ∨ cap < 20 + naiLength pbinfo) := by
  obtain ⟨h0c, h0o⟩ := hset (headerNew (Buffer.fresh cap raw).fill)
  simp only [mpSender, mpOptions, attOption, handoffOption, headerInit, Buffer.write_overrun,
    Buffer.write_cap, byteOption_overrun, byteOption_cap, byteOption_len handoff (by decide) rfl,
    naiOption_overrun, naiOption_cap, naiOption_len, h0o, h0c]
  rw [Bool.eq_iff_iff]
  simp [headerNew, headerSize, naiLength]
  omega

/-- For an identifier of at most 254 bytes, `pbu_sender` and `pba_sender` write
    only inside `_buffer` exactly when the unpadded message, `21 + |id|` bytes,
    fits in it; the padding up to `_length` is not written. -/
theorem senders_overrun_iff (cap : Nat) (raw : Nat → UInt8) (pbinfo : ProxyBindingInfo)
    (hid : pbinfo.id.length ≤ 254) :
    ((pbuSender cap raw pbinfo).buffer.overrun = false ↔ 21 + pbinfo.id.length ≤ cap) ∧
      ((pbaSender cap raw pbinfo).buffer.overrun = false ↔ 21 + pbinfo.id.length ≤ cap) := by
  have hn : naiLength pbinfo = pbinfo.id.length + 1 := by simp only [naiLength]; omega
  rw [pbuSender, pbaSender, mpSender_overrun_every_id _ _ (pbuHeader_tracks pbinfo),
    mpSender_overrun_every_id _ _ (pbaHeader_tracks pbinfo), hn]
  simp only [decide_eq_false_iff_not, and_self]
  omega

theorem senders_overrun_iff_scenario :
    scenarioBinding.id.length ≤ 254 ∧
      (((pbuSender 1024 (fun _ => 0) scenarioBinding).buffer.overrun = false ↔
          21 + scenarioBinding.id.length ≤ 1024) ∧
        ((pbaSender 1024 (fun _ => 0) scenarioBinding).buffer.overrun = false ↔
          21 + scenarioBinding.id.length ≤ 1024)) :=
  ⟨by decide, senders_overrun_iff 1024 (fun _ => 0) scenarioBinding (by decide)⟩

/-! ## The lifetime field -/

/-- Bytes 10–11 hold the lifetime field of the message data, past `init` and
    before the options. -/
theorem mpSender_lifetime (setHeader : Buffer → Buffer) (body : MhBody)
    (hheader : HeaderWrites setHeader ([0, 0, 0, 0, 0, 0] ++ body.encode))
    (v : UInt16) (hv : body.encode.drop 4 = be16 v) (cap : Nat) (raw : Nat → UInt8)
    (pbinfo : ProxyBindingInfo) : (mpSender setHeader body.mhType cap raw pbinfo).lifetime = v := by
  have h6 : body.encode.length = 6 := by cases body <;> rfl
  have hd : (wireImage body.mhType body pbinfo).drop 10 = be16 v ++ wireOptions pbinfo := by
    simp [wireImage, List.drop_append_eq_append_drop, h6, hv]
  have h10 : (wireImage body.mhType body pbinfo)[10]? = (be16 v ++ wireOptions pbinfo)[0]? := by
    rw [← hd, List.getElem?_drop]
  have h11 : (wireImage body.mhType body pbinfo)[11]? = (be16 v ++ wireOptions pbinfo)[1]? := by
    rw [← hd, List.getElem?_drop]
  rw [MpSender.lifetime, mpSender_mem _ _ hheader]
  simp [store_zero_apply, h10, h11, be16]

theorem pbuSender_lifetime (cap : Nat) (raw : Nat → UInt8) (pbinfo : ProxyBindingInfo) :
    (pbuSender cap raw pbinfo).lifetime = UInt16.ofNat (pbinfo.lifetime / 4000) :=
  mpSender_lifetime _ (pbuBody pbinfo) (pbuHeader_writes pbinfo) _ rfl cap raw pbinfo

theorem pbaSender_lifetime (cap : Nat) (raw : Nat → UInt8) (pbinfo : ProxyBindingInfo) :
    (pbaSender cap raw pbinfo).lifetime = UInt16.ofNat (pbinfo.lifetime / 4000) :=
  mpSender_lifetime _ (pbaBody pbinfo) (pbaHeader_writes pbinfo) _ rfl cap raw pbinfo

theorem uint16_ofNat_eq_zero_iff (n : Nat) : UInt16.ofNat n = 0 ↔ n % 65536 = 0 := by
  constructor
  · intro h; simpa [toNat_ofNat_uint16] using congrArg UInt16.toNat h
  · intro h; exact UInt16.toNat.inj (by rw [toNat_ofNat_uint16]; exact h)

/-- Below `65536 · 4000` ms, where the 16-bit field does not wrap, both senders
    write a zero lifetime exactly for lifetimes under 4000 ms: the conversion
    to units of 4 s truncates. -/
theorem senders_lifetime_eq_zero_iff (cap : Nat) (raw : Nat → UInt8) (pbinfo : ProxyBindingInfo)
    (h : pbinfo.lifetime < 65536 * 4000) :
    ((pbuSender cap raw pbinfo).lifetime = 0 ↔ pbinfo.lifetime < 4000) ∧
      ((pbaSender cap raw pbinfo).lifetime = 0 ↔ pbinfo.lifetime < 4000) := by
  simp only [pbuSender_lifetime, pbaSender_lifetime, uint16_ofNat_eq_zero_iff, and_self]
  omega

/-- The binding of `scenarioBinding` with a lifetime of one second. -/
def oneSecondBinding : ProxyBindingInfo := { scenarioBinding with lifetime := 1000 }

/-- The scenario's hour, whose lifetime is not zero, and one second, which goes
    on the wire as zero. -/
theorem senders_lifetime_eq_zero_iff_scenario :
    (scenarioBinding.lifetime < 65536 * 4000 ∧
      (((pbuSender 1024 (fun _ => 0) scenarioBinding).lifetime = 0 ↔
          scenarioBinding.lifetime < 4000) ∧
        ((pbaSender 1024 (fun _ => 0) scenarioBinding).lifetime = 0 ↔
          scenarioBinding.lifetime < 4000))) ∧
    (oneSecondBinding.lifetime < 65536 * 4000 ∧
      (((pbuSender 1024 (fun _ => 0) oneSecondBinding).lifetime = 0 ↔
          oneSecondBinding.lifetime < 4000) ∧
        ((pbaSender 1024 (fun _ => 0) oneSecondBinding).lifetime = 0 ↔
          oneSecondBinding.lifetime < 4000))) :=
  ⟨⟨by decide, senders_lifetime_eq_zero_iff 1024 (fun _ => 0) scenarioBinding (by decide)⟩,
    ⟨by decide, senders_lifetime_eq_zero_iff 1024 (fun _ => 0) oneSecondBinding (by decide)⟩⟩

/-- A lifetime of one second goes on the wire as 0, a deregistration. -/
theorem senders_lifetime_zero_of_one_second :
    ¬ ∀ (cap : Nat) (raw : Nat → UInt8) (pbinfo : ProxyBindingInfo),
      ((pbuSender cap raw pbinfo).lifetime = 0 ↔ pbinfo.lifetime = 0) ∧
        ((pbaSender cap raw pbinfo).lifetime = 0 ↔ pbinfo.lifetime = 0) := by
  intro h
  have h1 := (h 1024 (fun _ => 0) oneSecondBinding).1
  rw [pbuSender_lifetime] at h1
  exact absurd (h1.1 rfl) (by decide)

/-- Past `65535 · 4000` ms the 16-bit lifetime wraps: a lifetime one unit longer
    goes on the wire as 0. -/
theorem senders_lifetime_wraps (cap : Nat) (raw : Nat → UInt8) (pbinfo : ProxyBindingInfo) :
    (pbuSender cap raw { pbinfo with lifetime := 65535 * 4000 }).lifetime = 65535 ∧
      (pbuSender cap raw { pbinfo with lifetime := 65536 * 4000 }).lifetime = 0 ∧
      (pbaSender cap raw { pbinfo with lifetime := 65535 * 4000 }).lifetime = 65535 ∧
      (pbaSender cap raw { pbinfo with lifetime := 65536 * 4000 }).lifetime = 0 := by
  simp only [pbuSender_lifetime, pbaSender_lifetime]
  decide

/-- Below the wrap the conversion is monotone, for both senders. -/
theorem senders_lifetime_mono (cap : Nat) (raw : Nat → UInt8) (p q : ProxyBindingInfo)
    (hpq : p.lifetime ≤ q.lifetime) (hq : q.lifetime < 65536 * 4000) :
    (pbuSender cap raw p).lifetime.toNat ≤ (pbuSender cap raw q).lifetime.toNat ∧
      (pbaSender cap raw p).lifetime.toNat ≤ (pbaSender cap raw q).lifetime.toNat := by
  simp only [pbuSender_lifetime, pbaSender_lifetime, toNat_ofNat_uint16, and_self]
  have : p.lifetime / 4000 ≤ q.lifetime / 4000 := Nat.div_le_div_right hpq
  omega

theorem senders_lifetime_mono_scenario :
    { scenarioBinding with lifetime := 1800000 }.lifetime ≤ scenarioBinding.lifetime ∧
      scenarioBinding.lifetime < 65536 * 4000 ∧
      ((pbuSender 1024 (fun _ => 0) { scenarioBinding with lifetime := 1800000 }).lifetime.toNat ≤
          (pbuSender 1024 (fun _ => 0) scenarioBinding).lifetime.toNat ∧
        (pbaSender 1024 (fun _ => 0) { scenarioBinding with lifetime := 1800000 }).lifetime.toNat ≤
          (pbaSender 1024 (fun _ => 0) scenarioBinding).lifetime.toNat) :=
  ⟨by decide, by decide, senders_lifetime_mono 1024 (fun _ => 0) _ _ (by decide) (by decide)⟩

end Opmip.Pmip
