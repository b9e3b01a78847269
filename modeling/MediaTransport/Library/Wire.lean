import Mathlib.Data.List.GetD
import MediaTransport.Library.Word

namespace MediaTransport.Library

/-!
# Bytes on the wire

Packets are lists of bytes with fields in network byte order.  Parsers read
from a memory that may hold more than the packet, so memory is a total
function and the received length is a separate argument.  The laws say that a
field is read back wherever it was stored.
-/

/-- `htons` followed by a store of two bytes. -/
def be16 (value : Nat) : List Byte := [BitVec.ofNat 8 (value / 256), BitVec.ofNat 8 value]

def be32 (value : Nat) : List Byte := be16 (value / 65536) ++ be16 value

def readBe16 (memory : Nat -> Byte) (position : Nat) : Nat :=
  (memory position).toNat * 256 + (memory (position + 1)).toNat

/-- The memory a parser sees when the listed bytes start at its pointer. -/
def memoryOf (bytes : List Byte) : Nat -> Byte := fun position => bytes.getD position 0

@[simp] theorem be16_length (value : Nat) : (be16 value).length = 2 := rfl

theorem memoryOf_append_right (before after : List Byte) (position : Nat) :
    memoryOf (before ++ after) (before.length + position) = memoryOf after position := by
  unfold memoryOf
  rw [List.getD_append_right _ _ _ _ (Nat.le_add_right _ _), Nat.add_sub_cancel_left]

theorem map_memoryOf_range (bytes : List Byte) :
    (List.range bytes.length).map (memoryOf bytes) = bytes := by
  apply List.ext_getElem
  · rw [List.length_map, List.length_range]
  · intro position left right
    rw [List.getElem_map, List.getElem_range, memoryOf, List.getD_eq_getElem _ _ right]

theorem readBe16_be16 (value : Nat) (rest : List Byte) (bound : value < 65536) :
    readBe16 (memoryOf (be16 value ++ rest)) 0 = value := by
  simp only [readBe16, memoryOf, be16, List.cons_append, List.nil_append, List.getD_cons_zero,
    List.getD_cons_succ, Nat.zero_add, BitVec.toNat_ofNat]
  omega

theorem readBe16_append (before after : List Byte) (position : Nat) :
    readBe16 (memoryOf (before ++ after)) (before.length + position) =
      readBe16 (memoryOf after) position := by
  unfold readBe16
  rw [Nat.add_assoc, memoryOf_append_right, memoryOf_append_right]

theorem readBe16_lt (memory : Nat -> Byte) (position : Nat) : readBe16 memory position < 65536 := by
  unfold readBe16
  omega

end MediaTransport.Library
