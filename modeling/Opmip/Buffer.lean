import Mathlib.Data.List.Basic

/-!
# Sender buffers

Each sender of `lib/opmip/pmip` (`pbu_sender`, `pba_sender`, `icmp_ra_sender`)
owns an array `uchar _buffer[N]`. Its constructor zeroes the array with
`std::fill`, placement-`new`s a fixed header at `_buffer` and one option object
after another at a running offset `len`, calls their setters, and keeps the
message length in `_length`. Nothing compares `len` with `sizeof(_buffer)`.

`Buffer` is the memory from `_buffer` on. A write that reaches past the array
still lands in memory, in whatever follows `_buffer`, and `overrun` records
that it happened: the layout theorems are about `mem`, the bounds theorems
about `overrun`.

* `store_append`, `store_splice`: a write right after the bytes written so
  far appends to them; a write that starts inside them overwrites them in
  place and extends them by what reaches past their end (`store_overwrite`
  when nothing does).
* `read_store`: reading back what was stored.
* `ofBe16_be16`, `be16_ofBe16` (and the 32-bit pair): network byte order.

`Ipv6Address` and `MacAddress` carry their length, so that a wrong-sized
address cannot be built.
-/

namespace Opmip

/-! ## Memory -/

/-- `l` with `v` written over it from position `off` on. -/
def overwrite {α : Type} (l : List α) (off : Nat) (v : List α) : List α :=
  l.take off ++ v ++ l.drop (off + v.length)

/-- Memory `m` after storing `bs` at address `off`. -/
def store (m : Nat → UInt8) (off : Nat) (bs : List UInt8) : Nat → UInt8 :=
  fun i => if off ≤ i then bs[i - off]?.getD (m i) else m i

/-- The `n` bytes of `m` from address `off` on. -/
def read (m : Nat → UInt8) (off n : Nat) : List UInt8 :=
  (List.range n).map fun i => m (off + i)

@[simp] theorem length_read (m : Nat → UInt8) (off n : Nat) : (read m off n).length = n := by
  simp [read]

@[simp] theorem length_overwrite {α : Type} (l : List α) (off : Nat) (v : List α)
    (h : off + v.length ≤ l.length) : (overwrite l off v).length = l.length := by
  simp [overwrite]; omega

/-- Overwriting past a prefix leaves the prefix alone. -/
theorem overwrite_append_right {α : Type} (a c : List α) (k : Nat) (v : List α) :
    overwrite (a ++ c) (a.length + k) v = a ++ overwrite c k v := by
  simp only [overwrite, List.take_append, Nat.add_assoc, List.drop_append, List.append_assoc]

theorem store_apply_of_lt (m : Nat → UInt8) {off i : Nat} (bs : List UInt8) (h : i < off) :
    store m off bs i = m i := by
  simp [store, Nat.not_le.mpr h]

theorem store_apply_of_le (m : Nat → UInt8) {off i : Nat} (bs : List UInt8)
    (h : off + bs.length ≤ i) : store m off bs i = m i := by
  simp [store, show off ≤ i by omega, List.getElem?_eq_none (show bs.length ≤ i - off by omega)]

theorem store_apply_add (m : Nat → UInt8) (off : Nat) (bs : List UInt8) {k : Nat}
    (hk : k < bs.length) : store m off bs (off + k) = bs[k] := by
  simp [store, hk]

@[simp] theorem store_apply_head (m : Nat → UInt8) (off : Nat) (b : UInt8) (bs : List UInt8) :
    store m off (b :: bs) off = b := by
  simp [store]

theorem store_zero_apply (m : Nat → UInt8) (a : List UInt8) (i : Nat) :
    store m 0 a i = a[i]?.getD (m i) := by
  simp [store]

theorem store_apply_append (m : Nat → UInt8) (a l : List UInt8) (k : Nat) :
    store m 0 (a ++ l) (a.length + k) = l[k]?.getD (m (a.length + k)) := by
  simp [store, List.getElem?_append_right]

theorem store_zero_apply_lt (m : Nat → UInt8) (a : List UInt8) {i : Nat} (h : i < a.length) :
    store m 0 a i = a[i] := by
  simp [store, h]

/-- Storing right after the bytes stored so far appends to them. -/
theorem store_append (m : Nat → UInt8) (a b : List UInt8) :
    store (store m 0 a) a.length b = store m 0 (a ++ b) := by
  funext i
  by_cases hi : i < a.length
  · simp [store, hi, List.getElem?_append_left, Nat.not_le.mpr hi]
  · simp [store, Nat.le_of_not_lt hi, List.getElem?_append_right, List.getElem?_eq_none]

/-- A write that starts inside or right after the bytes stored so far splices
    into them, whether or not it ends past them. -/
theorem store_splice (m : Nat → UInt8) (a : List UInt8) {off : Nat} (v : List UInt8)
    (h : off ≤ a.length) : store (store m 0 a) off v = store m 0 (overwrite a off v) := by
  funext i
  have ht : (a.take off).length = off := by simp; omega
  simp only [store, Nat.zero_le, if_true, Nat.sub_zero, overwrite, List.getElem?_append,
    List.length_append, ht, List.getElem?_drop]
  by_cases hlo : i < off
  · simp [hlo, List.getElem?_take_of_lt hlo, show i < off + v.length by omega, Nat.not_le.2 hlo]
  · by_cases hhi : i < off + v.length
    · simp [hlo, hhi, Nat.le_of_not_lt hlo,
        List.getElem?_eq_getElem (show i - off < v.length by omega)]
    · simp [hlo, hhi, Nat.le_of_not_lt hlo, Nat.add_sub_cancel' (Nat.le_of_not_lt hhi),
        List.getElem?_eq_none (show v.length ≤ i - off by omega)]

/-- Storing inside the bytes stored so far overwrites them in place. -/
theorem store_overwrite (m : Nat → UInt8) (a : List UInt8) (off : Nat) (v : List UInt8)
    (h : off + v.length ≤ a.length) :
    store (store m 0 a) off v = store m 0 (overwrite a off v) :=
  store_splice m a v (by omega)

theorem overwrite_at_length {α : Type} (p q v : List α) :
    overwrite (p ++ q) p.length v = p ++ v ++ q.drop v.length := by
  simp [overwrite, List.take_append_eq_append_take, List.drop_append_eq_append_drop]

/-- A write at offset `k` of the block stored after `acc` overwrites that block. -/
theorem store_append_overwrite (m : Nat → UInt8) (acc blk v : List UInt8) (k : Nat)
    (h : k + v.length ≤ blk.length) :
    store (store m 0 (acc ++ blk)) (acc.length + k) v = store m 0 (acc ++ overwrite blk k v) := by
  rw [store_overwrite _ _ _ _ (by simp; omega), overwrite_append_right]

/-- Reading back what was stored. -/
theorem read_store (m : Nat → UInt8) (a : List UInt8) (off n : Nat) (h : off + n ≤ a.length) :
    read (store m 0 a) off n = (a.drop off).take n := by
  apply List.ext_getElem
  · simp; omega
  · intro i h1 h2
    simp only [read, List.getElem_map, List.getElem_range, List.getElem_take, List.getElem_drop]
    rw [store_zero_apply_lt _ _ (by simp at h1; omega)]

theorem read_store_self (m : Nat → UInt8) (a : List UInt8) :
    read (store m 0 a) 0 a.length = a := by
  simp [read_store]

/-- What `std::fill` zeroed, with `acc` stored over its start, read up to `n`
    bytes inside the array: `acc`, then zeros. -/
theorem read_store_fill_take (raw : Nat → UInt8) (cap : Nat) (acc : List UInt8) {n : Nat}
    (h : n ≤ cap) :
    read (store (store raw 0 (List.replicate cap 0)) 0 acc) 0 n =
      (acc ++ List.replicate n 0).take n := by
  rw [store_splice _ _ _ (Nat.zero_le _), read_store _ _ _ _ (by simp [overwrite]; omega)]
  simp [overwrite, List.take_append_eq_append_take, List.take_replicate]
  omega

/-- What `std::fill` zeroed, with `acc` stored over its start: padding reads as
    zero up to the end of the array. -/
theorem read_store_fill (raw : Nat → UInt8) (cap : Nat) (acc : List UInt8) (n : Nat)
    (h1 : acc.length ≤ n) (h2 : n ≤ cap) :
    read (store (store raw 0 (List.replicate cap 0)) 0 acc) 0 n =
      acc ++ List.replicate (n - acc.length) 0 := by
  rw [read_store_fill_take _ _ _ h2]
  simp [List.take_append_eq_append_take, List.take_of_length_le h1, List.take_replicate]

/-! ## The buffer -/

/-- The memory of a sender from `_buffer` on: `cap` is `sizeof(_buffer)`, `mem i`
    the byte at `_buffer + i`, and `overrun` records that some write reached past
    `_buffer + cap`. -/
structure Buffer where
  cap : Nat
  mem : Nat → UInt8
  overrun : Bool

namespace Buffer

/-- The storage of a sender being constructed: `sizeof(_buffer) = cap`, holding `raw`. -/
def fresh (cap : Nat) (raw : Nat → UInt8) : Buffer := ⟨cap, raw, false⟩

/-- Store `bs` at `_buffer + off`; a non-empty write that ends past the array
    sets `overrun`. -/
def write (b : Buffer) (off : Nat) (bs : List UInt8) : Buffer where
  cap := b.cap
  mem := store b.mem off bs
  overrun := b.overrun || decide (0 < bs.length ∧ b.cap < off + bs.length)

/-- `std::fill(_buffer, _buffer + sizeof(_buffer), 0)`. -/
def fill (b : Buffer) : Buffer := b.write 0 (List.replicate b.cap 0)

/-- A setter of a one-bit flag: sets (`v`) or clears the bits of `mask` in the
    byte at `_buffer + off`. -/
def setFlag (b : Buffer) (off : Nat) (mask : UInt8) (v : Bool) : Buffer :=
  b.write off [if v then b.mem off ||| mask else b.mem off &&& ~~~mask]

@[simp] theorem write_cap (b : Buffer) (off : Nat) (bs : List UInt8) :
    (b.write off bs).cap = b.cap := rfl

@[simp] theorem write_mem (b : Buffer) (off : Nat) (bs : List UInt8) :
    (b.write off bs).mem = store b.mem off bs := rfl

@[simp] theorem write_overrun (b : Buffer) (off : Nat) (bs : List UInt8) :
    (b.write off bs).overrun = (b.overrun || decide (0 < bs.length ∧ b.cap < off + bs.length)) :=
  rfl

@[simp] theorem fresh_cap (cap : Nat) (raw : Nat → UInt8) : (fresh cap raw).cap = cap := rfl

@[simp] theorem fresh_overrun (cap : Nat) (raw : Nat → UInt8) : (fresh cap raw).overrun = false :=
  rfl

@[simp] theorem fill_cap (b : Buffer) : b.fill.cap = b.cap := rfl

@[simp] theorem fill_overrun (b : Buffer) : b.fill.overrun = b.overrun := by
  simp [fill]

end Buffer

/-- The locals of a sender's constructor between two statements: `_buffer`
    and the running offset `len`. -/
structure Cursor where
  buf : Buffer
  len : Nat

/-- The first `acc.length` bytes of the buffer hold `acc`, `len` points right
    after them, and from there on the memory is still `m`. -/
def Cursor.Holds (c : Cursor) (m : Nat → UInt8) (acc : List UInt8) : Prop :=
  c.buf.mem = store m 0 acc ∧ c.len = acc.length

/-- The buffer is `cap` bytes long and has been written past its end exactly
    when `len` has passed it. -/
def Cursor.Tracks (c : Cursor) (cap : Nat) : Prop :=
  c.buf.cap = cap ∧ c.buf.overrun = decide (cap < c.len)

/-! ## Network byte order -/

theorem toNat_ofNat_uint8 (n : Nat) : (UInt8.ofNat n).toNat = n % 256 := rfl

theorem toNat_ofNat_uint16 (n : Nat) : (UInt16.ofNat n).toNat = n % 65536 := rfl

theorem toNat_ofNat_uint32 (n : Nat) : (UInt32.ofNat n).toNat = n % 4294967296 := rfl

/-- `htons(v)` as stored: high byte first. -/
def be16 (v : UInt16) : List UInt8 := [UInt8.ofNat (v.toNat / 256), UInt8.ofNat v.toNat]

/-- `htonl(v)` as stored: high byte first. -/
def be32 (v : UInt32) : List UInt8 :=
  [UInt8.ofNat (v.toNat / 16777216), UInt8.ofNat (v.toNat / 65536), UInt8.ofNat (v.toNat / 256),
    UInt8.ofNat v.toNat]

/-- `ntohs` of two stored bytes. -/
def ofBe16 (hi lo : UInt8) : UInt16 := UInt16.ofNat (hi.toNat * 256 + lo.toNat)

/-- `ntohl` of four stored bytes. -/
def ofBe32 (b0 b1 b2 b3 : UInt8) : UInt32 :=
  UInt32.ofNat (((b0.toNat * 256 + b1.toNat) * 256 + b2.toNat) * 256 + b3.toNat)

@[simp] theorem length_be16 (v : UInt16) : (be16 v).length = 2 := rfl

@[simp] theorem length_be32 (v : UInt32) : (be32 v).length = 4 := rfl

@[simp] theorem ofBe16_be16 (v : UInt16) :
    ofBe16 (UInt8.ofNat (v.toNat / 256)) (UInt8.ofNat v.toNat) = v := by
  apply UInt16.toNat.inj
  have : v.toNat < 65536 := v.toNat_lt_size
  simp only [ofBe16, toNat_ofNat_uint8, toNat_ofNat_uint16]
  omega

theorem be16_ofBe16 (hi lo : UInt8) : be16 (ofBe16 hi lo) = [hi, lo] := by
  have : hi.toNat < 256 := hi.toNat_lt_size
  have : lo.toNat < 256 := lo.toNat_lt_size
  simp only [be16, ofBe16, toNat_ofNat_uint16, List.cons.injEq, and_true]
  constructor <;> apply UInt8.toNat.inj <;> simp only [toNat_ofNat_uint8] <;> omega

@[simp] theorem ofBe32_be32 (v : UInt32) :
    ofBe32 (UInt8.ofNat (v.toNat / 16777216)) (UInt8.ofNat (v.toNat / 65536))
      (UInt8.ofNat (v.toNat / 256)) (UInt8.ofNat v.toNat) = v := by
  apply UInt32.toNat.inj
  have : v.toNat < 4294967296 := v.toNat_lt_size
  simp only [ofBe32, toNat_ofNat_uint8, toNat_ofNat_uint32]
  omega

theorem be32_ofBe32 (b0 b1 b2 b3 : UInt8) : be32 (ofBe32 b0 b1 b2 b3) = [b0, b1, b2, b3] := by
  have : b0.toNat < 256 := b0.toNat_lt_size
  have : b1.toNat < 256 := b1.toNat_lt_size
  have : b2.toNat < 256 := b2.toNat_lt_size
  have : b3.toNat < 256 := b3.toNat_lt_size
  simp only [be32, ofBe32, toNat_ofNat_uint32, List.cons.injEq, and_true]
  refine ⟨?_, ?_, ?_, ?_⟩ <;> apply UInt8.toNat.inj <;> simp only [toNat_ofNat_uint8] <;> omega

/-! ## Addresses -/

/-- `ip::address_v6`: sixteen bytes. -/
structure Ipv6Address where
  bytes : List UInt8
  length_eq : bytes.length = 16
  deriving DecidableEq

/-- `ll::mac_address`: six bytes. -/
structure MacAddress where
  bytes : List UInt8
  length_eq : bytes.length = 6
  deriving DecidableEq

end Opmip
