import Mathlib.Data.Finset.Card

/-!
# Blobber masks

The allocation addresses its blobbers through Go `uint32` masks: bit `i` stands for
blobber `i` of `Blobbers`. This file models the mask arithmetic of `allocation.go` on
`BitVec 32` (the all-ones mask `(1 << uint32(n)) - 1`, the repair complement
`^found & mask`, and `bits.TrailingZeros32`) and relates each operation to the finite
set of blobbers it denotes.
-/

namespace ZboxSdk

/-- `(1 << uint32(n)) - 1` in `uint32` arithmetic, the mask that `uploadOrUpdateFile`,
`downloadFile` and `downloadFromAuthTicket` start from for `n = len(a.Blobbers)`. Go
shifts an unsigned value to `0` once the count reaches 32, and the subtraction then wraps. -/
def fullMask (n : ℕ) : BitVec 32 := ((1 : BitVec 32) <<< (n % 2 ^ 32)) - 1

/-- How many blobbers, from blobber `0` on, the all-ones mask for `n` blobbers addresses. -/
def addressedBlobbers (n : ℕ) : ℕ := min (n % 2 ^ 32) 32

/-- `bits.TrailingZeros32`, scanning upwards from bit `i` with `k` bits left to inspect. -/
def trailingZerosFrom (x : BitVec 32) : ℕ → ℕ → ℕ
  | _, 0 => 0
  | i, k + 1 => if x.getLsbD i then 0 else trailingZerosFrom x (i + 1) k + 1

/-- `bits.TrailingZeros32`: the number of trailing zero bits, `32` for the zero mask. -/
def trailingZeros32 (x : BitVec 32) : ℕ := trailingZerosFrom x 0 32

/-- The blobbers a mask selects: the indices of its set bits. -/
def maskBlobbers (m : BitVec 32) : Finset ℕ := (Finset.range 32).filter (fun i => m.getLsbD i)

/-- Below 32 blobbers the all-ones mask is the number `2^n - 1`. -/
theorem fullMask_toNat_of_lt {n : ℕ} (h : n % 2 ^ 32 < 32) :
    (fullMask n).toNat = 2 ^ (n % 2 ^ 32) - 1 := by
  have hlt : (2 : ℕ) ^ (n % 2 ^ 32) < 2 ^ 32 := Nat.pow_lt_pow_right (by decide) h
  have hpos : 0 < 2 ^ (n % 2 ^ 32) := Nat.pos_pow_of_pos _ (by decide)
  have hone : (1 : BitVec 32).toNat = 1 := rfl
  simp only [fullMask, BitVec.toNat_sub, BitVec.toNat_shiftLeft, hone, Nat.shiftLeft_eq,
    Nat.one_mul, Nat.mod_eq_of_lt hlt]
  omega

/-- From 32 blobbers on, the shift overflows to `0` and the mask saturates at all 32 bits. -/
theorem fullMask_toNat_of_ge {n : ℕ} (h : 32 ≤ n % 2 ^ 32) : (fullMask n).toNat = 2 ^ 32 - 1 := by
  have hdvd : 2 ^ 32 ∣ 2 ^ (n % 2 ^ 32) := Nat.pow_dvd_pow 2 h
  have hone : (1 : BitVec 32).toNat = 1 := rfl
  simp only [fullMask, BitVec.toNat_sub, BitVec.toNat_shiftLeft, hone, Nat.shiftLeft_eq,
    Nat.one_mul, Nat.mod_eq_zero_of_dvd hdvd]
  rfl

/-- Bit `i` of the all-ones mask is set exactly for the addressed blobbers. -/
@[simp] theorem getLsbD_fullMask (n i : ℕ) :
    (fullMask n).getLsbD i = decide (i < addressedBlobbers n) := by
  rw [← BitVec.testBit_toNat, addressedBlobbers]
  rcases Nat.lt_or_ge (n % 2 ^ 32) 32 with h | h
  · rw [fullMask_toNat_of_lt h, Nat.testBit_two_pow_sub_one, min_eq_left h.le]
  · rw [fullMask_toNat_of_ge h, Nat.testBit_two_pow_sub_one, min_eq_right h]

/-- Below `2 ^ 32` blobbers, the mask addresses the first `min n 32`; up to 32 blobbers,
all of them. -/
theorem addressedBlobbers_of_lt {n : ℕ} (h : n < 2 ^ 32) : addressedBlobbers n = min n 32 := by
  rw [addressedBlobbers, Nat.mod_eq_of_lt h]

example : fullMask 4 = 0b1111 := by decide

/-- A blobber is addressed by a mask exactly when the mask's bit for it is set. -/
@[simp] theorem mem_maskBlobbers {m : BitVec 32} {i : ℕ} :
    i ∈ maskBlobbers m ↔ m.getLsbD i = true := by
  simp only [maskBlobbers, Finset.mem_filter, Finset.mem_range, and_iff_right_iff_imp]
  intro h
  by_contra hi
  simp [BitVec.getLsbD_ge m i (by omega)] at h

/-- A mask is determined by the blobbers it selects. -/
theorem maskBlobbers_inj {m m' : BitVec 32} : maskBlobbers m = maskBlobbers m' ↔ m = m' := by
  refine ⟨fun h => BitVec.eq_of_getLsbD_eq fun i => ?_, congrArg _⟩
  have hi := Finset.ext_iff.mp h i.val
  simp only [mem_maskBlobbers] at hi
  cases hm : m.getLsbD i <;> cases hm' : m'.getLsbD i <;> simp_all

/-- The all-ones mask selects exactly the addressed blobbers. -/
theorem maskBlobbers_fullMask (n : ℕ) :
    maskBlobbers (fullMask n) = Finset.range (addressedBlobbers n) := by
  ext i
  simp

/-- The repair complement `^found & mask` selects the blobbers of `mask` missing from `found`. -/
theorem maskBlobbers_repair (found mask : BitVec 32) :
    maskBlobbers (~~~found &&& mask) = maskBlobbers mask \ maskBlobbers found := by
  ext i
  by_cases hi : i < 32
  · simp [hi, and_comm]
  · simp [hi, BitVec.getLsbD_ge mask i (by omega)]

/-- Scanning from bit `i`, the bits skipped are clear, and the scan stops at a set bit
unless it ran out of bits. -/
theorem trailingZerosFrom_spec (x : BitVec 32) (i k : ℕ) :
    trailingZerosFrom x i k ≤ k ∧
      (∀ j, i ≤ j → j < i + trailingZerosFrom x i k → x.getLsbD j = false) ∧
      (trailingZerosFrom x i k < k → x.getLsbD (i + trailingZerosFrom x i k) = true) := by
  induction k generalizing i with
  | zero =>
    simp only [trailingZerosFrom, Nat.add_zero]
    exact ⟨le_rfl, fun j h1 h2 => absurd h2 (by omega), fun h => absurd h (Nat.lt_irrefl 0)⟩
  | succ k ih =>
    by_cases hx : x.getLsbD i = true
    · rw [trailingZerosFrom, if_pos hx]
      exact ⟨by omega, fun j _ _ => by omega, fun _ => hx⟩
    · obtain ⟨hle, hclear, hset⟩ := ih (i + 1)
      simp only [trailingZerosFrom, hx, Bool.false_eq_true, if_false]
      refine ⟨by omega, fun j hij hj => ?_, fun hlt => ?_⟩
      · rcases Nat.eq_or_lt_of_le hij with rfl | hij
        · simpa using hx
        · exact hclear j hij (by omega)
      · rw [show i + (trailingZerosFrom x (i + 1) k + 1) =
          i + 1 + trailingZerosFrom x (i + 1) k by omega]
        exact hset (by omega)

/-- `bits.TrailingZeros32 x` is the lowest set bit of `x`: every bit below it is clear, and
it is set unless `x` is zero and the count is `32`. -/
theorem trailingZeros32_spec (x : BitVec 32) :
    (∀ j < trailingZeros32 x, x.getLsbD j = false) ∧
      (trailingZeros32 x < 32 → x.getLsbD (trailingZeros32 x) = true) := by
  obtain ⟨_, hclear, hset⟩ := trailingZerosFrom_spec x 0 32
  exact ⟨fun j hj => hclear j (Nat.zero_le j) (by simpa [trailingZeros32] using hj),
    fun h => by simpa [trailingZeros32] using hset h⟩

example : trailingZeros32 0b1010 = 1 ∧ trailingZeros32 0 = 32 := by decide

end ZboxSdk
