import Mathlib.Tactic

/-!
# Fixed-width integers as bytes

The object representation of an unsigned integer of `n` bytes, least
significant byte first, and the two's complement reading of the same bytes.
A big-endian field is the reversed list, so one pair of round-trip lemmas
serves both byte orders.
-/

namespace ByteOrder

/-- The `n` low bytes of `x`, least significant first. -/
def leBytes : Nat → Nat → List UInt8
  | 0, _ => []
  | n + 1, x => UInt8.ofNat x :: leBytes n (x / 256)

/-- The number that a list of bytes represents, least significant first. -/
def leValue : List UInt8 → Nat
  | [] => 0
  | b :: bs => b.toNat + 256 * leValue bs

@[simp] theorem length_leBytes (n x : Nat) : (leBytes n x).length = n := by
  induction n generalizing x with
  | zero => rfl
  | succ n ih => simp [leBytes, ih]

/-- The bytes of `x` represent `x` modulo the range of the width. -/
theorem leValue_leBytes (n x : Nat) : leValue (leBytes n x) = x % 256 ^ n := by
  induction n generalizing x with
  | zero => simp [leBytes, leValue, Nat.mod_one]
  | succ n ih =>
    have hbyte : (UInt8.ofNat x).toNat = x % 256 := UInt8.toNat_ofNat'
    simp only [leBytes, leValue, ih, hbyte]
    rw [Nat.pow_succ, Nat.mul_comm (256 ^ n) 256, Nat.mod_mul]

/-- A number inside the range of the width survives the round trip. -/
theorem leValue_leBytes_of_lt {n x : Nat} (h : x < 256 ^ n) :
    leValue (leBytes n x) = x := by
  rw [leValue_leBytes, Nat.mod_eq_of_lt h]

/-- What a list of bytes represents is inside the range of its width. -/
theorem leValue_lt (bs : List UInt8) : leValue bs < 256 ^ bs.length := by
  induction bs with
  | nil => simp [leValue]
  | cons b bs ih =>
    have hb : b.toNat < 256 := b.toNat_lt
    simp only [leValue, List.length_cons, Nat.pow_succ]
    omega

/-- The bytes that represent a number are the ones it was read from. -/
theorem leBytes_leValue (bs : List UInt8) : leBytes bs.length (leValue bs) = bs := by
  induction bs with
  | nil => rfl
  | cons b bs ih =>
    have hb : b.toNat < 256 := b.toNat_lt
    have hhead : UInt8.ofNat (b.toNat + 256 * leValue bs) = b := by
      apply UInt8.toNat_inj.mp
      rw [UInt8.toNat_ofNat']
      omega
    have htail : (b.toNat + 256 * leValue bs) / 256 = leValue bs := by omega
    rw [List.length_cons, leValue, leBytes, hhead, htail, ih]

/-! ## Two's complement -/

/-- The residue of `x` that a field of `n` bytes stores. -/
def unsigned (n : Nat) (x : Int) : Nat :=
  (x % (256 ^ n : Nat)).toNat

/-- The two's complement reading of a field of `n` bytes. -/
def signed (n : Nat) (u : Nat) : Int :=
  Int.bmod u (256 ^ n)

theorem unsigned_lt (n : Nat) (x : Int) : unsigned n x < 256 ^ n := by
  have hpos : (0 : Int) < (256 ^ n : Nat) := by positivity
  have hlt := Int.emod_lt_of_pos x hpos
  have hnonneg := Int.emod_nonneg x (ne_of_gt hpos)
  unfold unsigned
  omega

/-- A natural number inside the range is its own residue. -/
theorem unsigned_natCast {n x : Nat} (h : x < 256 ^ n) : unsigned n x = x := by
  unfold unsigned
  rw [← Int.natCast_mod, Int.toNat_natCast, Nat.mod_eq_of_lt h]

/-- The residue of a two's complement reading is what was read. -/
theorem unsigned_bmod_signed {n u : Nat} (h : u < 256 ^ n) :
    unsigned n (Int.bmod (signed n u) (256 ^ n)) = u := by
  unfold unsigned signed
  rw [Int.bmod_bmod, Int.bmod_emod, ← Int.natCast_mod, Int.toNat_natCast, Nat.mod_eq_of_lt h]

/-- A number inside the signed range survives the round trip. -/
theorem signed_unsigned {n : Nat} {x : Int}
    (hlow : -((256 ^ n : Nat) / 2 : Int) ≤ x)
    (hhigh : x < (((256 ^ n : Nat) : Int) + 1) / 2) :
    signed n (unsigned n x) = x := by
  have hpos : (0 : Int) < (256 ^ n : Nat) := by positivity
  have hnonneg := Int.emod_nonneg x (ne_of_gt hpos)
  unfold signed unsigned
  rw [Int.toNat_of_nonneg hnonneg, Int.emod_bmod]
  exact Int.bmod_eq_of_le hlow hhigh

end ByteOrder
