import MediaTransport.Library.Checksum

namespace MediaTransport.Util

open Library

/-!
# The checksum of `mt_util.c`

The sum is taken over half words as they lie in memory, with the least significant
byte first, or converted to network order.  A byte that is left over is added as the
first byte in memory in both cases.
-/

variable (convert : Bool) (p : List Byte)

/-- The loops of `mt_rf1071_check_sum`, and the byte behind them. -/
def rf1071Sum (convert : Bool) (sum : Nat) : List Byte -> Nat
  | first :: second :: rest =>
    let value :=
      if convert then first.toNat * 256 + second.toNat else second.toNat * 256 + first.toNat
    rf1071Sum convert (u32 (sum + value : Nat)) rest
  | [left] => u32 (sum + left.toNat : Nat)
  | [] => sum

/-- `mt_rf1071_check_sum` -/
def mtRf1071CheckSum (convert : Bool) : Nat :=
  let sum := rf1071Sum convert 0 p
  let sum := u32 (sum / 65536 + sum % 65536 : Nat)
  let sum := u32 (sum + sum / 65536 : Nat)
  65535 - u16 sum

/-- The ones' complement checksum of a message, as the value of the memory that holds it in network order, or
converted. -/
def rfc1071CheckSum (convert : Bool) : Nat :=
  let value := 65535 - onesSum p
  if convert then value else byteSwap value

def checkSumBytes (convert : Bool) (value : Nat) : List Byte :=
  be16 (if convert then value else byteSwap value)

structure CheckSumRight (p : List Byte) : Prop where
  standard : forall convert, mtRf1071CheckSum p convert = rfc1071CheckSum p convert
  swapped : mtRf1071CheckSum p true = byteSwap (mtRf1071CheckSum p false)
  carried : forall convert front back, p = front ++ [0, 0] ++ back -> front.length % 2 = 0 ->
    mtRf1071CheckSum (front ++ checkSumBytes convert (mtRf1071CheckSum p convert) ++ back) convert = 0

def inOrder (convert : Bool) (p : List Byte) : List Byte := if convert then p else swapPairs p

/-! ## The sum -/

theorem rf1071Sum_eq {convert : Bool} {sum : Nat} {p : List Byte}
    (fits : sum + wordSum (inOrder convert p) < 4294967296) :
    rf1071Sum convert sum p = sum + wordSum (inOrder convert p) := by
  induction p using wordSum.induct generalizing sum with
  | case1 first second rest ih =>
    have pair : wordSum (inOrder convert (first :: second :: rest)) =
        (if convert then first.toNat * 256 + second.toNat else second.toNat * 256 + first.toNat) +
          wordSum (inOrder convert rest) := by
      cases convert <;> rfl
    rw [pair] at fits ⊢
    rw [rf1071Sum]
    generalize (if convert then first.toNat * 256 + second.toNat
      else second.toNat * 256 + first.toNat) = value at fits ⊢
    have kept : u32 (sum + value : Nat) = sum + value := u32_of_lt (by omega)
    rw [kept, ih (by omega), Nat.add_assoc]
  | case2 left =>
    have same : wordSum (inOrder convert [left]) = left.toNat := by cases convert <;> rfl
    rw [same] at fits ⊢
    exact u32_of_lt fits
  | case3 => cases convert <;> rfl

theorem inOrder_length : (inOrder convert p).length = p.length := by
  unfold inOrder
  split
  · rfl
  · exact length_swapPairs p

/-- Two foldings are enough for every message. -/
theorem mtRf1071CheckSum_eq {p : List Byte} (short : p.length < 65536) :
    wordSum (inOrder convert p) < 2147483648 ∧
      mtRf1071CheckSum p convert = 65535 - foldWord (wordSum (inOrder convert p)) := by
  have bound := wordSum_le (inOrder convert p)
  rw [inOrder_length] at bound
  have small : wordSum (inOrder convert p) < 2147483648 := by omega
  refine ⟨small, ?_⟩
  unfold mtRf1071CheckSum foldWord
  rw [rf1071Sum_eq (by omega), Nat.zero_add]
  dsimp only
  generalize wordSum (inOrder convert p) = sum at small
  rw [u32_of_lt (show sum / 65536 + sum % 65536 < 4294967296 by omega), u32_of_lt (by omega)]
  unfold u16 word
  omega

/-! ## The standard's checksum -/

theorem standard_unconverted {p : List Byte} (short : p.length < 65536) :
    mtRf1071CheckSum p false = rfc1071CheckSum p false := by
  rcases mtRf1071CheckSum_eq false short with ⟨small, sum⟩
  have ones := onesSum_spec p
  have swap := byteSwap_spec ones.1
  have pairs : wordSum (inOrder false p) % 65535 = 256 * (halfWords p).sum % 65535 ∧
      (wordSum (inOrder false p) = 0 <-> (halfWords p).sum = 0) := wordSum_swapPairs p
  have fold : foldWord (wordSum (inOrder false p)) = byteSwap (onesSum p) := by
    apply foldWord_eq (by omega) swap.1
    · omega
    · rw [pairs.2, swap.2.2.1, ones.2.2]
  have standard : rfc1071CheckSum p false = byteSwap (65535 - onesSum p) := rfl
  rw [sum, fold, standard, swap.2.2.2]

/-- Converted, the last byte of an odd message enters at the wrong end of its half word. -/
theorem standard_converted_iff {p : List Byte} (short : p.length < 65536) :
    mtRf1071CheckSum p true = rfc1071CheckSum p true <-> p.length % 2 = 0 ∨ p.getLastD 0 = 0 := by
  rcases mtRf1071CheckSum_eq true short with ⟨small, sum⟩
  have ones := onesSum_spec p
  have tail := halfWords_sum p
  have plain : inOrder true p = p := rfl
  have standard : rfc1071CheckSum p true = 65535 - onesSum p := rfl
  have last := (p.getLastD 0).isLt
  have zero : p.getLastD 0 = 0 <-> (p.getLastD 0).toNat = 0 :=
    ⟨fun none => by rw [none]; rfl, fun none => BitVec.eq_of_toNat_eq none⟩
  rw [plain] at small sum
  rw [sum, standard, zero]
  constructor
  · intro same
    by_cases odd : p.length % 2 = 1
    · rw [if_pos odd] at tail
      by_cases positive : 0 < wordSum p
      · have spec := foldWord_pos positive (by omega)
        omega
      · have none : foldWord (wordSum p) = 0 := by rw [show wordSum p = 0 by omega]; rfl
        omega
    · exact Or.inl (by omega)
  · intro even
    have same : (halfWords p).sum = wordSum p := by
      rw [tail]
      split <;> omega
    rw [foldWord_eq (by omega) ones.1 (by omega) (by omega)]

theorem inOrder_field {front : List Byte} (even : front.length % 2 = 0) {field : List Byte}
    (whole : field.length = 2) (back : List Byte) :
    wordSum (inOrder convert (front ++ field ++ back)) =
      wordSum (inOrder convert front) + wordSum (inOrder convert field) + wordSum (inOrder convert back) := by
  have evenFront : (inOrder convert front).length % 2 = 0 := by rw [inOrder_length, even]
  have evenField : (inOrder convert field).length % 2 = 0 := by rw [inOrder_length, whole]
  have split : inOrder convert (front ++ field ++ back) =
      inOrder convert front ++ (inOrder convert field ++ inOrder convert back) := by
    cases convert with
    | true => exact List.append_assoc _ _ _
    | false =>
      change swapPairs (front ++ field ++ back) = swapPairs front ++ (swapPairs field ++ swapPairs back)
      rw [List.append_assoc, swapPairs_append even, swapPairs_append (by rw [whole])]
  rw [split, wordSum_append evenFront, wordSum_append evenField, Nat.add_assoc]

theorem checkSumBytes_sum {value : Nat} (small : value < 65536) :
    wordSum (inOrder convert (checkSumBytes convert value)) = value := by
  cases convert with
  | true => exact wordSum_be16 small
  | false =>
    have halves := byteSwap_halves small
    simp only [inOrder, checkSumBytes, be16, swapPairs, wordSum, Bool.false_eq_true, if_false,
      BitVec.toNat_ofNat]
    omega

/-- A field with the checksum of the rest makes the sum complete, whatever became of a last byte. -/
theorem checkSum_carried {front back : List Byte} (short : (front ++ [0, 0] ++ back).length < 65536)
    (even : front.length % 2 = 0) :
    mtRf1071CheckSum (front ++ checkSumBytes convert (mtRf1071CheckSum (front ++ [0, 0] ++ back) convert) ++
      back) convert = 0 := by
  rcases mtRf1071CheckSum_eq convert short with ⟨small, plain⟩
  have clear := inOrder_field convert even (show ([0, 0] : List Byte).length = 2 from rfl) back
  have zero : wordSum (inOrder convert [0, 0]) = 0 := by cases convert <;> rfl
  rw [zero, Nat.add_zero] at clear
  rw [plain]
  generalize rest_eq : wordSum (inOrder convert (front ++ [0, 0] ++ back)) = rest at small clear
  have folded := foldWord_le rest
  have field : (checkSumBytes convert (65535 - foldWord rest)).length = 2 := rfl
  have length : (front ++ checkSumBytes convert (65535 - foldWord rest) ++ back).length < 65536 := by
    rw [List.length_append, List.length_append, field]
    rw [List.length_append, List.length_append] at short
    exact short
  rcases mtRf1071CheckSum_eq convert length with ⟨_, complete⟩
  rw [complete, inOrder_field convert even field back, checkSumBytes_sum convert (by omega)]
  rw [show wordSum (inOrder convert front) + (65535 - foldWord rest) + wordSum (inOrder convert back) =
    rest + (65535 - foldWord rest) by omega]
  by_cases positive : 0 < rest
  · rw [foldWord_complement positive (by omega)]
  · rw [show rest = 0 by omega]
    rfl

/-- The checksum is the standard's in both orders unless a byte other than zero is left over. -/
theorem check_sum_right_iff {p : List Byte} (short : p.length < 65536) :
    CheckSumRight p <-> p.length % 2 = 0 ∨ p.getLastD 0 = 0 := by
  rw [<- standard_converted_iff short]
  constructor
  · exact fun right => right.standard true
  · intro converted
    have unconverted := standard_unconverted short
    constructor
    case standard =>
      intro convert
      cases convert with
      | true => exact converted
      | false => exact unconverted
    case swapped =>
      have halves := byteSwap_halves (show 65535 - onesSum p < 65536 by omega)
      have back : byteSwap (byteSwap (65535 - onesSum p)) = 65535 - onesSum p := by
        rw [byteSwap, halves.1, halves.2]
        omega
      have plain : rfc1071CheckSum p false = byteSwap (65535 - onesSum p) := rfl
      rw [converted, unconverted, plain, back]
      rfl
    case carried =>
      rintro convert front back rfl even
      exact checkSum_carried convert short even

theorem check_sum_right_six : CheckSumRight [0x12, 0x34, 0xFF, 0xFF, 0x80, 0] :=
  (@check_sum_right_iff [0x12, 0x34, 0xFF, 0xFF, 0x80, 0] (by decide)).mpr (Or.inl rfl)

/-- Three bytes: the last one is the high byte of the third half word. -/
theorem odd_message_wrong : mtRf1071CheckSum [0x12, 0x34, 0x56] true = 60789 ∧
    ¬CheckSumRight [0x12, 0x34, 0x56] :=
  ⟨by decide, fun right => absurd (right.standard true) (by decide)⟩

end MediaTransport.Util
