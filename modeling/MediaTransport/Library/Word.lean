import Mathlib.Tactic

namespace MediaTransport.Library

/-!
# Fixed-width unsigned words

C arithmetic on small unsigned types promotes to a wider type, computes
there, and truncates on assignment.  A model of such code therefore computes
over `Int` and applies `word bits` exactly where the source assigns to an
unsigned variable of that width.
-/

variable (left right : Int) (value : Int)

abbrev Byte := BitVec 8

/-- The value an unsigned variable of `bits` bits holds after an assignment. -/
def word (bits : Nat) (value : Int) : Nat :=
  (value % (2 ^ bits : Int)).toNat

abbrev u8 (value : Int) : Nat := word 8 value

abbrev u16 (value : Int) : Nat := word 16 value

abbrev u32 (value : Int) : Nat := word 32 value

/-- The value a signed variable of 32 bits holds after an assignment. -/
def int32 (value : Int) : Int :=
  if u32 value < 2147483648 then u32 value else (u32 value : Int) - 4294967296

/-- The value a signed variable of 64 bits holds after an assignment. -/
def int64 (value : Int) : Int :=
  if word 64 value < 9223372036854775808 then word 64 value
  else (word 64 value : Int) - 18446744073709551616

theorem word_lt (bits : Nat) (value : Int) : word bits value < 2 ^ bits := by
  have positive : (0 : Int) < 2 ^ bits := by positivity
  have cast : ((2 ^ bits : Nat) : Int) = 2 ^ bits := by push_cast; rfl
  unfold word
  omega

theorem word64_eq : word 64 value = (value % 18446744073709551616).toNat := rfl

theorem word64_cast : (word 64 value : Int) = value % 18446744073709551616 := by
  rw [word64_eq]
  omega

theorem int32_of_fits {value : Int} (low : 0 ≤ value) (high : value < 2147483648) : int32 value = value := by
  have reduced : (u32 value : Int) = value := by
    unfold u32 word
    omega
  unfold int32
  rw [if_pos (by omega), reduced]

theorem int64_eq :
    int64 value =
      (value + 9223372036854775808) % 18446744073709551616 - 9223372036854775808 := by
  unfold int64
  rw [word64_eq]
  split <;> omega

theorem u16_eq : u16 value = (value % 65536).toNat := rfl

theorem u32_eq : u32 value = (value % 4294967296).toNat := rfl

/-- A number counted on from another leads back to it. -/
theorem u32_base (base index : Nat) : u32 ((u32 (base + index : Nat) : Int) - index) = u32 base := by
  simp only [u32_eq]
  omega

theorem u16_lt : u16 value < 65536 := word_lt 16 value

theorem u32_lt : u32 value < 4294967296 := word_lt 32 value

theorem word_of_lt {bits value : Nat} (bound : value < 2 ^ bits) :
    word bits value = value := by
  unfold word
  have cast : ((2 ^ bits : Nat) : Int) = 2 ^ bits := by push_cast; rfl
  rw [← cast, ← Int.natCast_mod, Int.toNat_natCast, Nat.mod_eq_of_lt bound]

theorem u16_of_lt {value : Nat} (bound : value < 65536) : u16 value = value :=
  word_of_lt bound

theorem u32_of_lt {value : Nat} (bound : value < 4294967296) : u32 value = value :=
  word_of_lt bound

theorem u16_le (value : Nat) : u16 value ≤ value := by
  rw [u16_eq]
  omega

theorem u16_add_u16 : u16 ((u16 left : Int) + right) = u16 (left + right) := by
  simp only [u16_eq]
  omega

theorem u16_sub_left : u16 ((u16 left : Int) - right) = u16 (left - right) := by
  simp only [u16_eq]
  omega

theorem u16_sub_u16 : u16 ((u16 left : Int) - (u16 right : Int)) = u16 (left - right) := by
  simp only [u16_eq]
  omega

theorem u16_mod_of_dvd {modulus : Nat} (divides : modulus ∣ 65536) (number : Int) :
    ((u16 number % modulus : Nat) : Int) = number % (modulus : Int) := by
  have word : ((u16 number : Nat) : Int) = number % 65536 := by
    rw [u16_eq]
    omega
  rw [Int.natCast_mod, word, Int.emod_emod_of_dvd _ (by exact_mod_cast divides)]

theorem u16_injective_of_close {left right : Int} (same : u16 left = u16 right)
    (above : left - right < 65536) (below : right - left < 65536) : left = right := by
  simp only [u16_eq] at same
  omega

end MediaTransport.Library
