import MediaTransport.Library.Word

namespace MediaTransport

open Library

/-!
# Ports and wrapping comparisons

What the receive sessions of every media type share: the two redundant ports
and the comparisons of wrapping sequence numbers and timestamps.
-/

inductive MtlSessionPort where
  | p
  | r
  deriving DecidableEq, Repr

/-- `mt_seq16_greater`. -/
def mtSeq16Greater (left right : Int) : Bool :=
  let diff := u16 (left - right)
  decide (diff < 32768) && decide (diff ≠ 0)

/-- `mt_seq32_greater`. -/
def mtSeq32Greater (left right : Int) : Bool :=
  let diff := u32 (left - right)
  decide (diff < 2147483648) && decide (diff ≠ 0)

theorem mtSeq16Greater_iff {left right : Int} (above : left - right < 32768)
    (below : right - left < 32768) : mtSeq16Greater (u16 left) (u16 right) = true <-> right < left := by
  unfold mtSeq16Greater
  simp only [Bool.and_eq_true, decide_eq_true_eq]
  simp only [u16_eq]
  omega

theorem mtSeq32Greater_iff {left right : Int} (above : left - right < 2147483648)
    (below : right - left < 2147483648) :
    mtSeq32Greater (u32 left) (u32 right) = true <-> right < left := by
  unfold mtSeq32Greater
  simp only [Bool.and_eq_true, decide_eq_true_eq]
  simp only [u32_eq]
  omega

theorem mtSeq16Greater_pred (number : Int) : mtSeq16Greater number (number - 1) = true := by
  have one : number - (number - 1) = 1 := by omega
  unfold mtSeq16Greater
  rw [one]
  decide

end MediaTransport
