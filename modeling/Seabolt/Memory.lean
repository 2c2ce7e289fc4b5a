import Seabolt.Lib.ByteOrder

/-!
# Blocks of memory

A block of memory is the list of its bytes.  `memcpy` overwrites a part of a
block.  A copy that runs past the end of the block makes the list longer than
the block, so an overrun shows as a length.

Memory that the program has not written yet is indeterminate.  The model
carries a list of bytes, the garbage, from which every read of such memory
takes its value; an exhausted list reads as zero.  Statements are for every
garbage.
-/

namespace Seabolt

/-- `memcpy(&dest[offset], src, n)` with `n` the length of `src`. -/
def memcpy (dest : List UInt8) (offset : Nat) (src : List UInt8) : List UInt8 :=
  dest.take offset ++ src ++ dest.drop (offset + src.length)

/-- A copy into the block keeps the length of the block. -/
theorem length_memcpy {dest src : List UInt8} {offset : Nat}
    (h : offset + src.length ≤ dest.length) :
    (memcpy dest offset src).length = dest.length := by
  simp only [memcpy, List.length_append, List.length_take, List.length_drop]
  omega

/-- The bytes before the copy are untouched, and the copy follows them. -/
theorem take_memcpy (dest src : List UInt8) {offset : Nat} (h : offset ≤ dest.length) :
    (memcpy dest offset src).take (offset + src.length) = dest.take offset ++ src := by
  have hlen : (dest.take offset ++ src).length = offset + src.length := by
    simp [h]
  rw [memcpy, ← hlen, List.take_left]

/-- A copy that follows another is one copy. -/
theorem memcpy_memcpy {dest first second : List UInt8} {offset : Nat}
    (h : offset + first.length ≤ dest.length) :
    memcpy (memcpy dest offset first) (offset + first.length) second =
      memcpy dest offset (first ++ second) := by
  have hdrop : (memcpy dest offset first).drop (offset + first.length + second.length) =
      dest.drop (offset + (first ++ second).length) := by
    have hlen : (dest.take offset ++ first).length = offset + first.length := by
      simp only [List.length_append, List.length_take]
      omega
    have hstart : offset + first.length + second.length =
        (dest.take offset ++ first).length + second.length := by rw [hlen]
    rw [memcpy, hstart, ← List.drop_drop, List.drop_left, List.drop_drop, List.length_append,
      ← Nat.add_assoc]
  conv_lhs => rw [memcpy, hdrop, take_memcpy _ _ (by omega)]
  rw [memcpy, List.append_assoc (dest.take offset)]

/-- A copy that has to stay inside the block. -/
def store (dest : List UInt8) (offset : Nat) (src : List UInt8) : Option (List UInt8) :=
  if offset + src.length ≤ dest.length then some (memcpy dest offset src) else none

theorem store_eq {dest src : List UInt8} {offset : Nat} (h : offset + src.length ≤ dest.length) :
    store dest offset src = some (memcpy dest offset src) := if_pos h

/-- `memcpy_be`: on a little-endian host the copy reverses the bytes. -/
def memcpyBe (src : List UInt8) : List UInt8 := src.reverse

@[simp] theorem length_memcpyBe (src : List UInt8) : (memcpyBe src).length = src.length := by
  simp [memcpyBe]

@[simp] theorem memcpyBe_memcpyBe (src : List UInt8) : memcpyBe (memcpyBe src) = src := by
  simp [memcpyBe]

/-- The object representation of an `n`-byte integer, written big-endian. -/
def beBytes (n x : Nat) : List UInt8 := memcpyBe (ByteOrder.leBytes n x)

/-- The integer whose big-endian representation is `bs`. -/
def beValue (bs : List UInt8) : Nat := ByteOrder.leValue (memcpyBe bs)

@[simp] theorem length_beBytes (n x : Nat) : (beBytes n x).length = n := by
  simp [beBytes]

theorem beBytes_one (x : Nat) : beBytes 1 x = [UInt8.ofNat x] := rfl

theorem beValue_beBytes {n x : Nat} (h : x < 256 ^ n) : beValue (beBytes n x) = x := by
  rw [beValue, beBytes, memcpyBe_memcpyBe, ByteOrder.leValue_leBytes_of_lt h]

theorem beValue_lt (bs : List UInt8) : beValue bs < 256 ^ bs.length := by
  have hlt := ByteOrder.leValue_lt (memcpyBe bs)
  rwa [length_memcpyBe] at hlt

theorem beBytes_beValue (bs : List UInt8) : beBytes bs.length (beValue bs) = bs := by
  have hbytes := ByteOrder.leBytes_leValue (memcpyBe bs)
  rw [length_memcpyBe] at hbytes
  rw [beBytes, beValue, hbytes, memcpyBe_memcpyBe]

/-- The bytes that `n` bytes of uninitialised memory hold, and the garbage
that is left for later reads. -/
def indeterminate (n : Nat) (garbage : List UInt8) : List UInt8 × List UInt8 :=
  ((garbage ++ List.replicate n 0).take n, garbage.drop n)

@[simp] theorem length_indeterminate (n : Nat) (garbage : List UInt8) :
    (indeterminate n garbage).1.length = n := by
  simp [indeterminate]

end Seabolt
