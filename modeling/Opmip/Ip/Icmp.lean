import Opmip.Buffer

/-!
# Router Advertisements

`icmp_sender.cpp` builds a Router Advertisement with the classes of
`ip::icmp` and `ip::opt_*` (`opmip/ip/icmp.hpp` and `opmip/ip/icmp_options.hpp`,
which are not among the sources). This module holds both sides of the format,
RFC 4861 §4.2 and §4.6 as the spec's §4.5 and §6 name them:

* `Spec`: a Router Advertisement as a value, its encoding, and the decoder a
  host runs: type 134, the fixed fields, and the walk over the options, whose
  length byte counts the whole option in units of 8 octets and must not be 0.
* the members of `router_advertisement`, `opt_source_link_layer`, `opt_mtu`
  and `opt_prefix_info` that the sender calls, as writes on a `Buffer`.

Results:
* `decodeOptions_encodeOptions`, `encodeOptions_of_decodeOptions`: the option
  walk and the option encoding are inverse on well-formed options.
* `decode_encode`, `encode_of_decode`: the same for whole advertisements.
-/

namespace Opmip.Ip.Icmp

/-- Modelled from the spec: an element of `prefix_list`, an IPv6 address and a
    prefix length (1..128). -/
structure Prefix where
  address : Ipv6Address
  length : UInt8
  deriving DecidableEq

/-! ## Specification -/

namespace Spec

/-- A Neighbor Discovery option: its type and the data after the type and
    length bytes. -/
structure NdOption where
  type : UInt8
  data : List UInt8
  deriving DecidableEq, Repr

/-- The bytes the option occupies. -/
def NdOption.size (o : NdOption) : Nat := o.data.length + 2

/-- An option the encoding carries: a whole number of 8-octet units, at least
    one and at most 255. -/
def NdOption.WF (o : NdOption) : Prop := o.size % 8 = 0 ∧ 8 ≤ o.size ∧ o.size < 2048

def NdOption.encode (o : NdOption) : List UInt8 := o.type :: UInt8.ofNat (o.size / 8) :: o.data

/-- The Source Link-Layer Address option (RFC 4861 §4.6.1). -/
def NdOption.sourceLinkLayer (mac : MacAddress) : NdOption := ⟨1, mac.bytes⟩

/-- The MTU option (RFC 4861 §4.6.4): two reserved bytes, then the MTU. -/
def NdOption.mtu (mtu : UInt32) : NdOption := ⟨5, [0, 0] ++ be32 mtu⟩

/-- The Prefix Information option (RFC 4861 §4.6.2): prefix length, the flags
    `L` (0x80) and `A` (0x40), valid and preferred lifetimes, four reserved
    bytes, the prefix. -/
def NdOption.prefixInformation (pfx : Prefix) (flags : UInt8) (valid preferred : UInt32) :
    NdOption :=
  ⟨3, [pfx.length, flags] ++ be32 valid ++ be32 preferred ++ [0, 0, 0, 0] ++ pfx.address.bytes⟩

@[simp] theorem size_sourceLinkLayer (mac : MacAddress) :
    (NdOption.sourceLinkLayer mac).size = 8 := by
  simp [NdOption.sourceLinkLayer, NdOption.size, mac.length_eq]

@[simp] theorem size_mtu (mtu : UInt32) : (NdOption.mtu mtu).size = 8 := rfl

@[simp] theorem size_prefixInformation (pfx : Prefix) (flags : UInt8) (valid preferred : UInt32) :
    (NdOption.prefixInformation pfx flags valid preferred).size = 32 := by
  simp [NdOption.prefixInformation, NdOption.size, be32, pfx.address.length_eq]

def encodeOptions : List NdOption → List UInt8
  | [] => []
  | o :: os => o.encode ++ encodeOptions os

/-- The bytes a list of options occupies. -/
def optionsSize : List NdOption → Nat
  | [] => 0
  | o :: os => o.size + optionsSize os

/-- The option walk, one option per unit of `fuel`. -/
def decodeOptionsFuel : Nat → List UInt8 → Option (List NdOption)
  | _, [] => some []
  | 0, _ :: _ => none
  | n + 1, t :: rest =>
    match rest with
    | [] => none
    | l :: data =>
      if l ≠ 0 ∧ l.toNat * 8 - 2 ≤ data.length then
        (⟨t, data.take (l.toNat * 8 - 2)⟩ :: ·) <$>
          decodeOptionsFuel n (data.drop (l.toNat * 8 - 2))
      else none

def decodeOptions (bs : List UInt8) : Option (List NdOption) := decodeOptionsFuel bs.length bs

@[simp] theorem encodeOptions_append (os os' : List NdOption) :
    encodeOptions (os ++ os') = encodeOptions os ++ encodeOptions os' := by
  induction os with
  | nil => rfl
  | cons o os ih => simp [encodeOptions, ih]

@[simp] theorem length_encode (o : NdOption) : o.encode.length = o.size := by
  simp [NdOption.encode, NdOption.size]

theorem length_encodeOptions (os : List NdOption) :
    (encodeOptions os).length = optionsSize os := by
  induction os with
  | nil => rfl
  | cons o os ih => simp [encodeOptions, optionsSize, ih]

theorem decodeOptionsFuel_encodeOptions (os : List NdOption) (hwf : ∀ o ∈ os, o.WF) :
    ∀ n, os.length ≤ n → decodeOptionsFuel n (encodeOptions os) = some os := by
  induction os with
  | nil => intro n _; cases n <;> rfl
  | cons o os ih =>
    intro n hn
    obtain ⟨n, rfl⟩ : ∃ m, n = m + 1 := ⟨n - 1, by simp at hn; omega⟩
    have hos := ih (fun o ho => hwf o (List.mem_cons_of_mem _ ho)) n (by simp at hn; omega)
    obtain ⟨h8, hlo, hhi⟩ := hwf o (List.mem_cons_self _ _)
    simp only [NdOption.size] at h8 hlo hhi
    have hl : (UInt8.ofNat ((o.data.length + 2) / 8)).toNat = (o.data.length + 2) / 8 := by
      rw [toNat_ofNat_uint8]; omega
    have hne : UInt8.ofNat ((o.data.length + 2) / 8) ≠ 0 := fun h => by
      have := congrArg UInt8.toNat h; rw [hl] at this; simp at this; omega
    have hd : (o.data.length + 2) / 8 * 8 - 2 = o.data.length := by omega
    simp [encodeOptions, NdOption.encode, NdOption.size, decodeOptionsFuel, hl, hne, hd, hos]

theorem decodeOptions_encodeOptions (os : List NdOption) (hwf : ∀ o ∈ os, o.WF) :
    decodeOptions (encodeOptions os) = some os := by
  refine decodeOptionsFuel_encodeOptions os hwf _ ?_
  rw [length_encodeOptions]
  clear hwf
  induction os with
  | nil => simp
  | cons o os ih => simp [optionsSize, NdOption.size] at ih ⊢; omega

theorem encodeOptions_of_decodeOptionsFuel (n : Nat) (bs : List UInt8) :
    ∀ os, decodeOptionsFuel n bs = some os → encodeOptions os = bs ∧ ∀ o ∈ os, o.WF := by
  induction n, bs using decodeOptionsFuel.induct with
  | case1 => simp [decodeOptionsFuel, encodeOptions]
  | case2 => simp [decodeOptionsFuel]
  | case3 => simp [decodeOptionsFuel]
  | case4 n t l data hl ih =>
    intro os h
    rw [decodeOptionsFuel, if_pos hl] at h
    obtain ⟨os', h', rfl⟩ := Option.map_eq_some'.mp h
    obtain ⟨he, hw⟩ := ih _ h'
    have h256 : l.toNat < 256 := l.toNat_lt_size
    have hl0 : 0 < l.toNat := Nat.pos_of_ne_zero fun h0 => hl.1 (UInt8.toNat.inj h0)
    have hlen : (data.take (l.toNat * 8 - 2)).length + 2 = l.toNat * 8 := by simp; omega
    have hl' : UInt8.ofNat (l.toNat * 8 / 8) = l :=
      UInt8.toNat.inj (by rw [toNat_ofNat_uint8]; omega)
    refine ⟨?_, List.forall_mem_cons.2 ⟨?_, hw⟩⟩
    · simp only [encodeOptions, NdOption.encode, NdOption.size, hlen, hl', he]
      simp
    · simp only [NdOption.WF, NdOption.size, hlen]; omega
  | case5 n t l data hl => simp only [decodeOptionsFuel, if_neg hl]; simp

theorem encodeOptions_of_decodeOptions {bs : List UInt8} {os : List NdOption}
    (h : decodeOptions bs = some os) : encodeOptions os = bs :=
  (encodeOptions_of_decodeOptionsFuel _ _ _ h).1

/-- A Router Advertisement (RFC 4861 §4.2); the ICMPv6 type 134 is not a field. -/
structure RouterAdvertisement where
  code : UInt8
  checksum : UInt16
  curHopLimit : UInt8
  flags : UInt8
  lifetime : UInt16
  reachableTime : UInt32
  retransTimer : UInt32
  options : List NdOption
  deriving DecidableEq, Repr

def RouterAdvertisement.encode (ra : RouterAdvertisement) : List UInt8 :=
  [134, ra.code] ++ be16 ra.checksum ++ [ra.curHopLimit, ra.flags] ++ be16 ra.lifetime ++
    be32 ra.reachableTime ++ be32 ra.retransTimer ++ encodeOptions ra.options

/-- A host's parse: type 134, sixteen bytes of fixed fields, then the options. -/
def decode : List UInt8 → Option RouterAdvertisement
  | t :: code :: c0 :: c1 :: hop :: fl :: l0 :: l1 :: r0 :: r1 :: r2 :: r3 :: x0 :: x1 :: x2 ::
      x3 :: opts =>
    if t = 134 then
      (decodeOptions opts).map fun os =>
        ⟨code, ofBe16 c0 c1, hop, fl, ofBe16 l0 l1, ofBe32 r0 r1 r2 r3, ofBe32 x0 x1 x2 x3, os⟩
    else none
  | _ => none

theorem decode_encode (ra : RouterAdvertisement) (hwf : ∀ o ∈ ra.options, o.WF) :
    decode ra.encode = some ra := by
  simp [RouterAdvertisement.encode, be16, be32, decode, decodeOptions_encodeOptions _ hwf]

theorem encode_of_decode {bs : List UInt8} {ra : RouterAdvertisement} (h : decode bs = some ra) :
    ra.encode = bs := by
  match bs, h with
  | t :: code :: c0 :: c1 :: hop :: fl :: l0 :: l1 :: r0 :: r1 :: r2 :: r3 :: x0 :: x1 :: x2 ::
      x3 :: opts, h =>
    simp only [decode] at h
    split_ifs at h with ht
    obtain ⟨os, hos, rfl⟩ := Option.map_eq_some'.mp h
    simp [RouterAdvertisement.encode, be16_ofBe16, be32_ofBe32, encodeOptions_of_decodeOptions hos,
      ht]

end Spec

/-! ## The classes the sender uses -/

/-- Modelled from the spec: `sizeof(ip::icmp::router_advertisement)`, the
    sixteen bytes of RFC 4861 §4.2. -/
def raSize : Nat := 16

/-- Modelled from the spec: `new(_buffer) ip::icmp::router_advertisement()`,
    type 134 and every other field zero. -/
def routerAdvertisementNew (b : Buffer) : Buffer := b.write 0 (134 :: List.replicate 15 0)

/-- Modelled from the spec: `ra->lifetime(v)`, the router lifetime at bytes 6–7. -/
def routerAdvertisementLifetime (b : Buffer) (v : UInt16) : Buffer := b.write 6 (be16 v)

/-- Modelled from the spec: `new(p) ip::opt_source_link_layer()`, type 1, length
    one unit of 8 octets, a zero address. -/
def optSourceLinkLayerNew (b : Buffer) (off : Nat) : Buffer :=
  b.write off [1, 1, 0, 0, 0, 0, 0, 0]

/-- Modelled from the spec: `*sll = mac`, the address after the type and length. -/
def optSourceLinkLayerAssign (b : Buffer) (off : Nat) (mac : MacAddress) : Buffer :=
  b.write (off + 2) mac.bytes

/-- Modelled from the spec: `new(p) ip::opt_mtu()`, type 5, length one unit. -/
def optMtuNew (b : Buffer) (off : Nat) : Buffer := b.write off [5, 1, 0, 0, 0, 0, 0, 0]

/-- Modelled from the spec: `omtu->set(mtu)`, the MTU at bytes 4–7 of the option. -/
def optMtuSet (b : Buffer) (off : Nat) (mtu : UInt32) : Buffer := b.write (off + 4) (be32 mtu)

/-- Modelled from the spec: `new(p) ip::opt_prefix_info()`, type 3, length four
    units, the other fields zero. -/
def optPrefixInfoNew (b : Buffer) (off : Nat) : Buffer :=
  b.write off (3 :: 4 :: List.replicate 30 0)

/-- Modelled from the spec: `pref->L(v)`, the on-link flag, bit 7 of byte 3. -/
def optPrefixInfoL (b : Buffer) (off : Nat) (v : Bool) : Buffer := b.setFlag (off + 3) 0x80 v

/-- Modelled from the spec: `pref->A(v)`, the autonomous flag, bit 6 of byte 3. -/
def optPrefixInfoA (b : Buffer) (off : Nat) (v : Bool) : Buffer := b.setFlag (off + 3) 0x40 v

/-- Modelled from the spec: `pref->valid_lifetime(v)`, bytes 4–7 of the option. -/
def optPrefixInfoValidLifetime (b : Buffer) (off : Nat) (v : UInt32) : Buffer :=
  b.write (off + 4) (be32 v)

/-- Modelled from the spec: `pref->prefered_lifetime(v)`, bytes 8–11 of the option. -/
def optPrefixInfoPreferedLifetime (b : Buffer) (off : Nat) (v : UInt32) : Buffer :=
  b.write (off + 8) (be32 v)

/-- Modelled from the spec: `pref->prefix(p)`, the prefix length at byte 2 and
    the address at bytes 16–31 of the option. -/
def optPrefixInfoPrefix (b : Buffer) (off : Nat) (p : Prefix) : Buffer :=
  (b.write (off + 2) [p.length]).write (off + 16) p.address.bytes

/-- Modelled from the spec: `ip::option::size(opt)`, the length byte in units of
    8 octets. -/
def optionSize (b : Buffer) (off : Nat) : Nat := (b.mem (off + 1)).toNat * 8

end Opmip.Ip.Icmp
