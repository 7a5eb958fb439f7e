import Opmip.Buffer

/-!
# `ip6_tunnel_service::parameters`

`inc/opmip/sys/ip6_tunnel_service.hpp` declares the parameters of an IPv6
tunnel as the kernel's ioctls take them (lines 105–160) and the per-tunnel
state of the service (lines 166–183). The name setter copies with
`std::strncpy(_name, str, sizeof(_name))` into an array of
`if_name_size = 16` chars, and `name()` hands that array to its readers
(`operator<<`, the ioctls) as a C string.

The getters of lines 138–146 read a member and are the projections of
`Parameters`; the setters of lines 129–136 assign one member and are Lean's
structure update. Only `name(str)` does more, and it is `Parameters.setName`.

Results:
* `zero_mem_setName_iff`: after `name(s)` the array holds a NUL exactly when
  `s` has at most 15 bytes, and then `name()` reads back `s`
  (`readCString_setName`).
* `setName_unterminated`: for a name of 16 bytes or more the array holds its
  first 16 bytes and no NUL, so a reader of `name()` runs past `_name`.

`delete_on_close(impl, value)` is `deleteOnClose`, an exchange of the stored
flag.
-/

namespace Opmip.Sys

/-- `if_name_size` (line 39). -/
def ifNameSize : Nat := 16

/-- A C string: the bytes before its terminating NUL. -/
structure CString where
  chars : List UInt8
  nul_free : 0 ∉ chars

/-- `std::strncpy(dst, src, n)`: the bytes of `src` up to its terminator, at
    most `n` of them, then NUL up to `n` bytes; `dst` from byte `n` on is kept. -/
def strncpy (dst : List UInt8) (src : CString) (n : Nat) : List UInt8 :=
  (src.chars ++ List.replicate n 0).take n ++ dst.drop n

/-- What a reader of a `const char*` into the array `a` sees: the bytes before
    the first NUL, or `none` when `a` holds no NUL and the read runs past it. -/
def readCString (a : List UInt8) : Option (List UInt8) :=
  if 0 ∈ a then some (a.takeWhile (· ≠ 0)) else none

/-- `ip6_tunnel_service::parameters` (lines 150–159), each member under the
    name of its getter; `name` is the array `_name`. -/
structure Parameters where
  name : List UInt8
  name_length : name.length = ifNameSize
  device : Int
  protocol : UInt8
  encapsulationLimit : UInt8
  hopLimit : UInt8
  flowinfo : UInt32
  flags : UInt32
  localAddress : Ipv6Address
  remoteAddress : Ipv6Address

theorem length_strncpy (dst : List UInt8) (src : CString) {n : Nat} (h : n ≤ dst.length) :
    (strncpy dst src n).length = dst.length := by
  simp [strncpy]; omega

/-- `name(str)` (line 128): `std::strncpy(_name, str, sizeof(_name))`. -/
def Parameters.setName (p : Parameters) (str : CString) : Parameters :=
  { p with
    name := strncpy p.name str ifNameSize
    name_length := by rw [length_strncpy _ _ (by rw [p.name_length])]; exact p.name_length }

/-- `name()` (line 138) as its readers see it. -/
def Parameters.nameString (p : Parameters) : Option (List UInt8) := readCString p.name

/-! ## The name array -/

theorem strncpy_of_lt {dst : List UInt8} {src : CString} {n : Nat} (h : src.chars.length < n)
    (hn : dst.length = n) :
    strncpy dst src n = src.chars ++ List.replicate (n - src.chars.length) 0 := by
  simp [strncpy, List.take_append_eq_append_take, List.take_of_length_le h.le, hn,
    List.take_replicate, show min (n - src.chars.length) n = n - src.chars.length by omega]

theorem strncpy_of_le {dst : List UInt8} {src : CString} {n : Nat} (h : n ≤ src.chars.length)
    (hn : dst.length = n) : strncpy dst src n = src.chars.take n := by
  simp [strncpy, List.take_append_of_le_length h, hn]

theorem readCString_append_zero (s : CString) {k : Nat} (hk : 0 < k) :
    readCString (s.chars ++ List.replicate k 0) = some s.chars := by
  have hs : ∀ a ∈ s.chars, decide (a ≠ 0) = true := fun a ha =>
    decide_eq_true fun h => s.nul_free (h ▸ ha)
  rw [readCString, if_pos (List.mem_append_right _ (List.mem_replicate.2 ⟨hk.ne', rfl⟩)),
    List.takeWhile_append_of_pos hs]
  simp [List.takeWhile_replicate]

theorem zero_not_mem_setName (p : Parameters) {s : CString} (h : ifNameSize ≤ s.chars.length) :
    0 ∉ (p.setName s).name := by
  show 0 ∉ strncpy p.name s ifNameSize
  rw [strncpy_of_le h p.name_length]
  exact fun hm => s.nul_free (List.mem_of_mem_take hm)

/-- After `name(s)` the array holds a NUL exactly when `s` is shorter than
    the array. -/
theorem zero_mem_setName_iff (p : Parameters) (s : CString) :
    0 ∈ (p.setName s).name ↔ s.chars.length < ifNameSize := by
  rcases Nat.lt_or_ge s.chars.length ifNameSize with h | h
  · simp only [Parameters.setName, strncpy_of_lt h p.name_length, h, iff_true]
    exact List.mem_append_right _ (List.mem_replicate.2 ⟨by omega, rfl⟩)
  · simp only [zero_not_mem_setName p h, not_lt.2 h]

/-- A name of at most 15 bytes is read back unchanged. -/
theorem readCString_setName (p : Parameters) (s : CString) (h : s.chars.length < ifNameSize) :
    (p.setName s).nameString = some s.chars := by
  show readCString (strncpy p.name s ifNameSize) = _
  rw [strncpy_of_lt h p.name_length]
  exact readCString_append_zero s (by omega)

/-- Parameters with a zeroed name and addresses and the defaults of lines
    109–111: protocol `IPPROTO_IPV6`, encapsulation limit 4, hop limit 64. -/
def scenarioParameters : Parameters :=
  ⟨List.replicate 16 0, rfl, 0, 41, 4, 64, 0, 0, ⟨List.replicate 16 0, rfl⟩,
    ⟨List.replicate 16 0, rfl⟩⟩

/-- The name "ip6tnl0". -/
def scenarioName : CString := ⟨[0x69, 0x70, 0x36, 0x74, 0x6e, 0x6c, 0x30], by decide⟩

theorem readCString_setName_scenario :
    scenarioName.chars.length < ifNameSize ∧
      (scenarioParameters.setName scenarioName).nameString = some scenarioName.chars :=
  ⟨by decide, readCString_setName scenarioParameters scenarioName (by decide)⟩

/-- A name of 16 bytes or more fills the array with its first 16 bytes and
    leaves no NUL in it: `name()` points at an unterminated array. -/
theorem setName_unterminated (p : Parameters) (s : CString) (h : ifNameSize ≤ s.chars.length) :
    (p.setName s).name = s.chars.take ifNameSize ∧ 0 ∉ (p.setName s).name ∧
      (p.setName s).nameString = none := by
  have hnul := zero_not_mem_setName p h
  exact ⟨strncpy_of_le h p.name_length, hnul,
    by simp [Parameters.nameString, readCString, hnul]⟩

/-- A name of sixteen bytes "a". -/
def sixteenName : CString := ⟨List.replicate 16 0x61, by decide⟩

theorem setName_unterminated_sixteen :
    ifNameSize ≤ sixteenName.chars.length ∧
      (scenarioParameters.setName sixteenName).name = sixteenName.chars.take ifNameSize ∧
      0 ∉ (scenarioParameters.setName sixteenName).name ∧
      (scenarioParameters.setName sixteenName).nameString = none :=
  ⟨by decide, setName_unterminated scenarioParameters sixteenName (by decide)⟩

/-! ## `delete_on_close` -/

/-- `ip6_tunnel_service::implementation_type` (lines 166–170); the list hook
    `node` is left out. -/
structure ImplementationType where
  data : Parameters
  deleteOnClose : Bool

/-- `delete_on_close(impl, value)` (lines 173–178): stores `value` and returns
    the flag it replaced. -/
def deleteOnClose (impl : ImplementationType) (value : Bool) : Bool × ImplementationType :=
  (impl.deleteOnClose, { impl with deleteOnClose := value })

end Opmip.Sys
