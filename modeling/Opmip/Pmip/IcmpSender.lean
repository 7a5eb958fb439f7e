import Opmip.Ip.Icmp

/-!
# `icmp_ra_sender`

`lib/opmip/pmip/icmp_sender.cpp` (lines 27–72) builds the Router
Advertisement a MAG sends to a mobile node: the fixed header with router
lifetime `~0`, a Source Link-Layer Address option, an MTU option, and one
Prefix Information option per element of `preflist`, each placed at the
running offset `len`. Nothing bounds `preflist` or compares `len` with
`sizeof(_buffer)`.

Results:
* `icmpRaSender_encodes`: for every MAC, MTU and prefix list, the first
  `_length` bytes are the encoding of the advertisement with lifetime 0xFFFF
  and the options SLL, MTU, then one Prefix Information option per prefix in
  list order (flags `L` and `A`, lifetimes 7200 and 1800), and they decode
  back to it. The proof is an induction over the list with the bytes written
  so far as the invariant (`foldl_prefixOption_holds`).
* `icmpRaSender_frame`: nothing from `_length` on is written.
* `icmpRaSender_overrun_iff`: some write reaches past `_buffer` exactly when
  `_length = 32 + 32·|preflist|` exceeds `sizeof(_buffer)`, and
  `icmpRaSender_overruns`: for every size of `_buffer` some prefix list does so.
-/

namespace Opmip.Pmip

open Opmip.Ip.Icmp
open Opmip.Ip.Icmp.Spec (NdOption RouterAdvertisement)

/-- A constructed `icmp_ra_sender`: `_endpoint` (its address), `_length` and
    `_buffer`. -/
structure IcmpRaSender where
  endpoint : Ipv6Address
  length : Nat
  buffer : Buffer

/-- The first `_length` bytes of `_buffer`, which the sender puts on the wire. -/
def IcmpRaSender.bytes (s : IcmpRaSender) : List UInt8 := read s.buffer.mem 0 s.length

/-- The Source link layer block (lines 43–46). -/
def sllOption (c : Cursor) (mac : MacAddress) : Cursor :=
  let b := optSourceLinkLayerNew c.buf c.len
  let b := optSourceLinkLayerAssign b c.len mac
  ⟨b, c.len + optionSize b c.len⟩

/-- The MTU block (lines 51–54). -/
def mtuOption (c : Cursor) (mtu : UInt32) : Cursor :=
  let b := optMtuNew c.buf c.len
  let b := optMtuSet b c.len mtu
  ⟨b, c.len + optionSize b c.len⟩

/-- The body of the prefix loop (lines 60–68). -/
def prefixOption (c : Cursor) (pfx : Prefix) : Cursor :=
  let b := optPrefixInfoNew c.buf c.len
  let b := optPrefixInfoL b c.len true
  let b := optPrefixInfoA b c.len true
  let b := optPrefixInfoValidLifetime b c.len 7200
  let b := optPrefixInfoPreferedLifetime b c.len 1800
  let b := optPrefixInfoPrefix b c.len pfx
  ⟨b, c.len + optionSize b c.len⟩

/-- `icmp_ra_sender::icmp_ra_sender(mac, mtu, preflist, destination)`
    (lines 27–72) on storage of `cap` bytes holding `raw`. `ra->lifetime(~0)`
    passes `~0` to the 16-bit lifetime, which holds 0xFFFF. -/
def icmpRaSender (cap : Nat) (raw : Nat → UInt8) (mac : MacAddress) (mtu : UInt32)
    (preflist : List Prefix) (destination : Ipv6Address) : IcmpRaSender :=
  let b := routerAdvertisementNew (Buffer.fresh cap raw).fill
  let b := routerAdvertisementLifetime b 0xFFFF
  let c := preflist.foldl prefixOption (mtuOption (sllOption ⟨b, raSize⟩ mac) mtu)
  ⟨destination, c.len, c.buf⟩

/-! ## The option blocks -/

/-- The Prefix Information option the loop writes for `pfx`: flags `L` and `A`,
    valid lifetime 7200 s and preferred lifetime 1800 s. -/
def prefixInfoOption (pfx : Prefix) : NdOption := NdOption.prefixInformation pfx 0xC0 7200 1800

@[simp] theorem size_prefixInfoOption (pfx : Prefix) : (prefixInfoOption pfx).size = 32 := by
  simp [prefixInfoOption]

/-- Each block advances `len` by the size its own length byte gives, which no
    later setter of the block touches. -/
theorem sllOption_len (c : Cursor) (mac : MacAddress) : (sllOption c mac).len = c.len + 8 := by
  simp (disch := omega) only [sllOption, optionSize, optSourceLinkLayerAssign,
    optSourceLinkLayerNew, Buffer.write_mem, store_apply_of_lt]
  rw [store_apply_add _ _ _ (by simp)]
  rfl

theorem mtuOption_len (c : Cursor) (mtu : UInt32) : (mtuOption c mtu).len = c.len + 8 := by
  simp (disch := omega) only [mtuOption, optionSize, optMtuSet, optMtuNew, Buffer.write_mem,
    store_apply_of_lt]
  rw [store_apply_add _ _ _ (by simp)]
  rfl

theorem prefixOption_len (c : Cursor) (pfx : Prefix) : (prefixOption c pfx).len = c.len + 32 := by
  simp (disch := omega) only [prefixOption, optionSize, optPrefixInfoPrefix,
    optPrefixInfoPreferedLifetime, optPrefixInfoValidLifetime, optPrefixInfoA, optPrefixInfoL,
    Buffer.setFlag, optPrefixInfoNew, Buffer.write_mem, store_apply_of_lt]
  rw [store_apply_add _ _ _ (by simp)]
  rfl

/-! ## The bytes written -/

/-- Each block appends its encoded option to the bytes written so far. -/
theorem sllOption_holds {c : Cursor} {m : Nat → UInt8} {acc : List UInt8} (h : c.Holds m acc)
    (mac : MacAddress) :
    (sllOption c mac).Holds m (acc ++ (NdOption.sourceLinkLayer mac).encode) := by
  obtain ⟨hm, hl⟩ := h
  refine ⟨?_, by simp [sllOption_len, hl]⟩
  simp only [sllOption, optSourceLinkLayerAssign, optSourceLinkLayerNew, Buffer.write_mem, hm, hl,
    store_append]
  rw [store_append_overwrite _ _ _ _ _ (by simp [mac.length_eq])]
  simp [overwrite, NdOption.encode, NdOption.sourceLinkLayer, NdOption.size, mac.length_eq]

theorem mtuOption_holds {c : Cursor} {m : Nat → UInt8} {acc : List UInt8} (h : c.Holds m acc)
    (mtu : UInt32) :
    (mtuOption c mtu).Holds m (acc ++ (NdOption.mtu mtu).encode) := by
  obtain ⟨hm, hl⟩ := h
  refine ⟨?_, by simp [mtuOption_len, hl]⟩
  simp only [mtuOption, optMtuSet, optMtuNew, Buffer.write_mem, hm, hl, store_append]
  rw [store_append_overwrite _ _ _ _ _ (by simp [be32])]
  simp [overwrite, NdOption.encode, NdOption.mtu, NdOption.size, be32]

theorem prefixOption_holds {c : Cursor} {m : Nat → UInt8} {acc : List UInt8} (h : c.Holds m acc)
    (pfx : Prefix) : (prefixOption c pfx).Holds m (acc ++ (prefixInfoOption pfx).encode) := by
  obtain ⟨hm, hl⟩ := h
  refine ⟨?_, by simp [prefixOption_len, hl, prefixInfoOption]⟩
  simp only [prefixOption, optPrefixInfoNew, optPrefixInfoL, optPrefixInfoA,
    optPrefixInfoValidLifetime, optPrefixInfoPreferedLifetime, optPrefixInfoPrefix,
    Buffer.setFlag, Buffer.write_mem, hm, hl, store_append]
  simp (disch := simp [overwrite, pfx.address.length_eq]) only [store_append_overwrite,
    store_apply_append]
  simp [overwrite, prefixInfoOption, NdOption.prefixInformation, NdOption.encode, NdOption.size,
    be32, pfx.address.length_eq]
  rfl

/-- The prefix loop appends one Prefix Information option per prefix, in list
    order: `len` stays just past the last option written. -/
theorem foldl_prefixOption_holds {c : Cursor} {m : Nat → UInt8} {acc : List UInt8}
    (h : c.Holds m acc) (preflist : List Prefix) :
    (preflist.foldl prefixOption c).Holds m
      (acc ++ Spec.encodeOptions (preflist.map prefixInfoOption)) := by
  induction preflist generalizing c acc with
  | nil => simpa [Spec.encodeOptions] using h
  | cons pfx rest ih => simpa [Spec.encodeOptions] using ih (prefixOption_holds h pfx)

/-! ## The advertisement on the wire -/

/-- The options the sender means to send: SLL carrying `mac`, MTU carrying
    `mtu`, then one Prefix Information option per prefix in list order. -/
def raOptions (mac : MacAddress) (mtu : UInt32) (preflist : List Prefix) : List NdOption :=
  NdOption.sourceLinkLayer mac :: NdOption.mtu mtu :: preflist.map prefixInfoOption

/-- The advertisement the sender means to send: router lifetime 0xFFFF and
    every other fixed field zero. -/
def raMessage (mac : MacAddress) (mtu : UInt32) (preflist : List Prefix) : RouterAdvertisement :=
  ⟨0, 0, 0, 0, 0xFFFF, 0, 0, raOptions mac mtu preflist⟩

/-- Lines 33–38 leave the fixed header of the advertisement over the zeroed
    array, with `len` just past it. -/
theorem raHeader_holds (cap : Nat) (raw : Nat → UInt8) :
    (⟨routerAdvertisementLifetime (routerAdvertisementNew (Buffer.fresh cap raw).fill) 0xFFFF,
      raSize⟩ : Cursor).Holds (Buffer.fresh cap raw).fill.mem
      (RouterAdvertisement.encode ⟨0, 0, 0, 0, 0xFFFF, 0, 0, []⟩) := by
  refine ⟨?_, rfl⟩
  simp only [routerAdvertisementLifetime, routerAdvertisementNew, Buffer.write_mem]
  rw [store_overwrite _ _ _ _ (by decide)]
  simp [overwrite, be16, be32, RouterAdvertisement.encode, Spec.encodeOptions]

theorem icmpRaSender_holds (cap : Nat) (raw : Nat → UInt8) (mac : MacAddress) (mtu : UInt32)
    (preflist : List Prefix) (destination : Ipv6Address) :
    (icmpRaSender cap raw mac mtu preflist destination).buffer.mem =
        store (Buffer.fresh cap raw).fill.mem 0 (raMessage mac mtu preflist).encode ∧
      (icmpRaSender cap raw mac mtu preflist destination).length =
        (raMessage mac mtu preflist).encode.length := by
  have he : (raMessage mac mtu preflist).encode =
      RouterAdvertisement.encode ⟨0, 0, 0, 0, 0xFFFF, 0, 0, []⟩ ++
        (NdOption.sourceLinkLayer mac).encode ++ (NdOption.mtu mtu).encode ++
        Spec.encodeOptions (preflist.map prefixInfoOption) := by
    simp [RouterAdvertisement.encode, raMessage, raOptions, Spec.encodeOptions]
  rw [he]
  exact foldl_prefixOption_holds (mtuOption_holds (sllOption_holds (raHeader_holds cap raw) mac)
    mtu) preflist

theorem length_encode_raMessage (mac : MacAddress) (mtu : UInt32) (preflist : List Prefix) :
    (raMessage mac mtu preflist).encode.length =
      raSize + Spec.optionsSize (raOptions mac mtu preflist) := by
  rw [RouterAdvertisement.encode, raMessage]
  simp only [List.length_append, List.length_cons, List.length_nil, Spec.length_encodeOptions,
    length_be16, length_be32, raSize]

theorem optionsSize_map_prefixInfoOption (preflist : List Prefix) :
    Spec.optionsSize (preflist.map prefixInfoOption) = 32 * preflist.length := by
  induction preflist with
  | nil => rfl
  | cons pfx rest ih => simp [Spec.optionsSize, ih]; omega

/-- `_length` is 32 bytes of header, SLL and MTU, and 32 per prefix. -/
theorem icmpRaSender_length (cap : Nat) (raw : Nat → UInt8) (mac : MacAddress) (mtu : UInt32)
    (preflist : List Prefix) (destination : Ipv6Address) :
    (icmpRaSender cap raw mac mtu preflist destination).length = 32 + 32 * preflist.length := by
  rw [(icmpRaSender_holds cap raw mac mtu preflist destination).2, length_encode_raMessage]
  simp [raOptions, raSize, Spec.optionsSize, optionsSize_map_prefixInfoOption]
  omega

/-- For every MAC, MTU and prefix list, the first `_length` bytes are the
    advertisement with lifetime 0xFFFF and the options SLL, MTU and one Prefix
    Information option per prefix in list order, and a host's parse, which
    walks the options by their length bytes, gives it back. `_length` is the
    header size plus the sizes of the options. -/
theorem icmpRaSender_encodes (cap : Nat) (raw : Nat → UInt8) (mac : MacAddress) (mtu : UInt32)
    (preflist : List Prefix) (destination : Ipv6Address) :
    (icmpRaSender cap raw mac mtu preflist destination).length =
        raSize + Spec.optionsSize (raOptions mac mtu preflist) ∧
      (icmpRaSender cap raw mac mtu preflist destination).bytes =
        (raMessage mac mtu preflist).encode ∧
      Spec.decode (icmpRaSender cap raw mac mtu preflist destination).bytes =
        some (raMessage mac mtu preflist) := by
  obtain ⟨hm, hl⟩ := icmpRaSender_holds cap raw mac mtu preflist destination
  have hbytes : (icmpRaSender cap raw mac mtu preflist destination).bytes =
      (raMessage mac mtu preflist).encode := by
    rw [IcmpRaSender.bytes, hm, hl, read_store_self]
  refine ⟨by rw [hl, length_encode_raMessage], hbytes, ?_⟩
  rw [hbytes]
  refine Spec.decode_encode _ fun o ho => ?_
  simp only [raMessage, raOptions, List.mem_cons, List.mem_map] at ho
  rcases ho with rfl | rfl | ⟨pfx, -, rfl⟩ <;> simp [NdOption.WF, prefixInfoOption]

/-- The constructor writes nothing from `_length` on: there `_buffer` keeps the
    zeros of `std::fill`, and the memory past it what it held before. -/
theorem icmpRaSender_frame (cap : Nat) (raw : Nat → UInt8) (mac : MacAddress) (mtu : UInt32)
    (preflist : List Prefix) (destination : Ipv6Address) {i : Nat}
    (hi : (icmpRaSender cap raw mac mtu preflist destination).length ≤ i) :
    (icmpRaSender cap raw mac mtu preflist destination).buffer.mem i =
      if i < cap then 0 else raw i := by
  obtain ⟨hm, hl⟩ := icmpRaSender_holds cap raw mac mtu preflist destination
  rw [hm, store_apply_of_le _ _ (by omega)]
  simp only [Buffer.fill, Buffer.fresh, Buffer.write_mem, store_zero_apply]
  split_ifs with h
  · simp [h]
  · rw [List.getElem?_eq_none (by simpa using Nat.le_of_not_lt h)]
    rfl

theorem icmpRaSender_frame_scenario :
    (icmpRaSender 1500 (fun _ => 0xAA) ⟨List.replicate 6 0, rfl⟩ 1500 []
        ⟨List.replicate 16 0, rfl⟩).length ≤ 40 ∧
      (icmpRaSender 1500 (fun _ => 0xAA) ⟨List.replicate 6 0, rfl⟩ 1500 []
        ⟨List.replicate 16 0, rfl⟩).buffer.mem 40 = if 40 < 1500 then 0 else 0xAA :=
  ⟨by rw [icmpRaSender_length]; decide,
    icmpRaSender_frame _ _ _ _ _ _ (by rw [icmpRaSender_length]; decide)⟩

/-! ## Writes past `_buffer` -/

/-- Each block writes only below the offset it leaves in `len`. -/
theorem sllOption_tracks {c : Cursor} {cap : Nat} (h : c.Tracks cap) (mac : MacAddress) :
    (sllOption c mac).Tracks cap := by
  obtain ⟨hc, ho⟩ := h
  simp only [Cursor.Tracks, sllOption_len]
  simp only [sllOption, optSourceLinkLayerAssign, optSourceLinkLayerNew, Buffer.write_overrun,
    Buffer.write_cap, hc, ho]
  simp [mac.length_eq]
  omega

theorem mtuOption_tracks {c : Cursor} {cap : Nat} (h : c.Tracks cap) (mtu : UInt32) :
    (mtuOption c mtu).Tracks cap := by
  obtain ⟨hc, ho⟩ := h
  simp only [Cursor.Tracks, mtuOption_len]
  simp only [mtuOption, optMtuSet, optMtuNew, Buffer.write_overrun, Buffer.write_cap, hc, ho]
  simp [be32]
  omega

theorem prefixOption_tracks {c : Cursor} {cap : Nat} (h : c.Tracks cap) (pfx : Prefix) :
    (prefixOption c pfx).Tracks cap := by
  obtain ⟨hc, ho⟩ := h
  simp only [Cursor.Tracks, prefixOption_len]
  simp only [prefixOption, optPrefixInfoPrefix, optPrefixInfoPreferedLifetime,
    optPrefixInfoValidLifetime, optPrefixInfoA, optPrefixInfoL, Buffer.setFlag, optPrefixInfoNew,
    Buffer.write_overrun, Buffer.write_cap, hc, ho]
  simp [be32, pfx.address.length_eq]
  omega

theorem foldl_prefixOption_tracks {c : Cursor} {cap : Nat} (h : c.Tracks cap)
    (preflist : List Prefix) : (preflist.foldl prefixOption c).Tracks cap := by
  induction preflist generalizing c with
  | nil => exact h
  | cons pfx rest ih => exact ih (prefixOption_tracks h pfx)

theorem raHeader_tracks (cap : Nat) (raw : Nat → UInt8) :
    (⟨routerAdvertisementLifetime (routerAdvertisementNew (Buffer.fresh cap raw).fill) 0xFFFF,
      raSize⟩ : Cursor).Tracks cap := by
  simp [Cursor.Tracks, routerAdvertisementLifetime, routerAdvertisementNew, be16, raSize]
  omega

theorem icmpRaSender_tracks (cap : Nat) (raw : Nat → UInt8) (mac : MacAddress) (mtu : UInt32)
    (preflist : List Prefix) (destination : Ipv6Address) :
    (icmpRaSender cap raw mac mtu preflist destination).buffer.overrun =
      decide (cap < 32 + 32 * preflist.length) := by
  rw [← icmpRaSender_length cap raw mac mtu preflist destination]
  exact (foldl_prefixOption_tracks (mtuOption_tracks (sllOption_tracks (raHeader_tracks cap raw)
    mac) mtu) preflist).2

/-- Every write of the constructor stays inside `_buffer` exactly when
    `32 + 32·|preflist|` bytes fit in it. -/
theorem icmpRaSender_overrun_iff (cap : Nat) (raw : Nat → UInt8) (mac : MacAddress) (mtu : UInt32)
    (preflist : List Prefix) (destination : Ipv6Address) :
    (icmpRaSender cap raw mac mtu preflist destination).buffer.overrun = false ↔
      32 + 32 * preflist.length ≤ cap := by
  rw [icmpRaSender_tracks]
  simp

/-- Nothing bounds the prefix list: for every size of `_buffer`, a list of
    `sizeof(_buffer) / 32` prefixes makes the loop write past its end, and
    `_length` exceeds it. -/
theorem icmpRaSender_overruns (cap : Nat) (raw : Nat → UInt8) (mac : MacAddress) (mtu : UInt32)
    (pfx : Prefix) (destination : Ipv6Address) :
    (icmpRaSender cap raw mac mtu (List.replicate (cap / 32) pfx) destination).buffer.overrun =
        true ∧
      cap < (icmpRaSender cap raw mac mtu (List.replicate (cap / 32) pfx) destination).length := by
  rw [icmpRaSender_tracks, icmpRaSender_length, List.length_replicate]
  constructor
  · simp only [decide_eq_true_eq]; omega
  · omega

end Opmip.Pmip
