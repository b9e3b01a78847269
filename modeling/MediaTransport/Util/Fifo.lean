import Mathlib.Tactic

namespace MediaTransport.Util

/-!
# The circular queue of `mt_util.c`

`mt_u64_fifo` keeps its items in a fixed array between a read and a write
index.  The model has the array, both indices and the fill count, with the
proof that they are consistent.  `contents` is the queue's meaning, oldest item
first.  Each operation is related to it once; callers never look at indices.
-/

structure MtU64Fifo (Item : Type) where
  data : Nat -> Item
  writeIdx : Nat
  readIdx : Nat
  size : Nat
  used : Nat
  readIdx_lt : readIdx < size
  used_le : used ≤ size
  writeIdx_eq : writeIdx = (readIdx + used) % size

namespace MtU64Fifo

variable {Item : Type}

variable (fifo : MtU64Fifo Item)

def contents : List Item :=
  (List.range fifo.used).map (fun index => fifo.data ((fifo.readIdx + index) % fifo.size))

@[simp] theorem length_contents : fifo.contents.length = fifo.used := by
  simp [contents]

theorem getElem?_contents (index : Nat) (inside : index < fifo.used) :
    fifo.contents[index]? = some (fifo.data ((fifo.readIdx + index) % fifo.size)) := by
  simp [contents, inside]

/-- `if (++idx >= size) idx = 0`. -/
def nextIdx (size idx : Nat) : Nat :=
  if size ≤ idx + 1 then 0 else idx + 1

theorem nextIdx_mod {size : Nat} (position : Nat) (positive : 0 < size) :
    nextIdx size (position % size) = (position + 1) % size := by
  have bound := Nat.mod_lt position positive
  unfold nextIdx
  rw [← Nat.mod_add_mod position size 1]
  split
  · have last : position % size + 1 = size := by omega
    rw [last, Nat.mod_self]
  · have inside : position % size + 1 < size := by omega
    rw [Nat.mod_eq_of_lt inside]

theorem cell_injective {size base left right : Nat} (close : left < right)
    (bound : right < left + size) : (base + left) % size ≠ (base + right) % size := by
  intro same
  have difference := Nat.ModEq.add_left_cancel' base same
  have remainder : (right - left) % size = 0 :=
    (Nat.modEq_iff_dvd' (Nat.le_of_lt close)).mp difference |> Nat.mod_eq_zero_of_dvd
  rw [Nat.mod_eq_of_lt (by omega)] at remainder
  omega

end MtU64Fifo

open MtU64Fifo

variable {Item : Type}

variable (fifo : MtU64Fifo Item)

def mtU64FifoInit [Inhabited Item] (size : Nat) (positive : 0 < size) : MtU64Fifo Item where
  data := fun _ => default
  writeIdx := 0
  readIdx := 0
  size := size
  used := 0
  readIdx_lt := positive
  used_le := Nat.zero_le _
  writeIdx_eq := (Nat.zero_mod size).symm

def mtU64FifoCount : Nat := fifo.used

def mtU64FifoFreeCount : Nat := fifo.size - fifo.used

/-- One round of the loops that store an item and advance the write index. -/
def MtU64Fifo.push (item : Item) (room : fifo.used < fifo.size) : MtU64Fifo Item where
  data := fun cell => if cell = fifo.writeIdx then item else fifo.data cell
  writeIdx := nextIdx fifo.size fifo.writeIdx
  readIdx := fifo.readIdx
  size := fifo.size
  used := fifo.used + 1
  readIdx_lt := fifo.readIdx_lt
  used_le := room
  writeIdx_eq := by
    rw [fifo.writeIdx_eq, nextIdx_mod _ (Nat.zero_lt_of_lt fifo.readIdx_lt), Nat.add_assoc]

def MtU64Fifo.pushAll (fifo : MtU64Fifo Item) :
    (items : List Item) -> fifo.used + items.length ≤ fifo.size -> MtU64Fifo Item
  | [], _ => fifo
  | item :: rest, room =>
    have first : fifo.used < fifo.size := by simp only [List.length_cons] at room; omega
    (fifo.push item first).pushAll rest (by
      change fifo.used + 1 + rest.length ≤ fifo.size
      simp only [List.length_cons] at room
      omega)

/-- `mt_u64_fifo_put_bulk`: all items are stored, or none and the call fails. -/
def mtU64FifoPutBulk (items : List Item) : Option (MtU64Fifo Item) :=
  if room : fifo.used + items.length ≤ fifo.size then
    some (fifo.pushAll items room)
  else
    none

/-- `mt_u64_fifo_get_bulk`: the `count` oldest items leave the queue. -/
def mtU64FifoGetBulk (count : Nat) : Option (List Item × MtU64Fifo Item) :=
  if enough : count ≤ fifo.used then
    some ((List.range count).map (fun index => fifo.data ((fifo.readIdx + index) % fifo.size)),
      { data := fifo.data
        writeIdx := fifo.writeIdx
        readIdx := (fifo.readIdx + count) % fifo.size
        size := fifo.size
        used := fifo.used - count
        readIdx_lt := Nat.mod_lt _ (Nat.zero_lt_of_lt fifo.readIdx_lt)
        used_le := Nat.le_trans (Nat.sub_le _ _) fifo.used_le
        writeIdx_eq := by
          rw [fifo.writeIdx_eq, Nat.mod_add_mod, Nat.add_assoc, Nat.add_sub_cancel' enough] })
  else
    none

def mtU64FifoReadFront : Option Item :=
  if fifo.used = 0 then none else some (fifo.data fifo.readIdx)

/-- `mt_u64_fifo_read_any_bulk`: copy out `count` items after skipping `skip`. -/
def mtU64FifoReadAnyBulk (count skip : Nat) : Option (List Item) :=
  if fifo.used < count then
    none
  else if fifo.used < skip + count then
    none
  else
    some ((List.range count).map
      (fun index => fifo.data ((fifo.readIdx + skip + index) % fifo.size)))

/-! ## Each operation on the queued items -/

theorem push_contents (item : Item) (room : fifo.used < fifo.size) :
    (fifo.push item room).contents = fifo.contents ++ [item] := by
  unfold contents MtU64Fifo.push
  rw [List.range_succ, List.map_append]
  congr 1
  · apply List.map_congr_left
    intro index member
    have inside : index < fifo.used := List.mem_range.mp member
    have different : (fifo.readIdx + index) % fifo.size ≠ fifo.writeIdx := by
      rw [fifo.writeIdx_eq]
      exact cell_injective inside (by omega)
    exact if_neg different
  · exact congrArg (fun value => [value]) (if_pos fifo.writeIdx_eq.symm)

theorem pushAll_contents (items : List Item) : forall (fifo : MtU64Fifo Item)
    (room : fifo.used + items.length ≤ fifo.size),
    (fifo.pushAll items room).contents = fifo.contents ++ items ∧
      (fifo.pushAll items room).size = fifo.size := by
  induction items with
  | nil =>
    intro fifo room
    exact ⟨(List.append_nil _).symm, rfl⟩
  | cons item rest ih =>
    intro fifo room
    have first : fifo.used < fifo.size := by simp only [List.length_cons] at room; omega
    obtain ⟨stored, size⟩ := ih (fifo.push item first) (by
      change fifo.used + 1 + rest.length ≤ fifo.size
      simp only [List.length_cons] at room
      omega)
    refine ⟨?_, size⟩
    change ((fifo.push item first).pushAll rest _).contents = _
    rw [stored, push_contents, List.append_assoc, List.singleton_append]

theorem mtU64FifoPutBulk_eq_some {fifo next : MtU64Fifo Item} {items : List Item}
    (stored : mtU64FifoPutBulk fifo items = some next) :
    next.contents = fifo.contents ++ items ∧ next.size = fifo.size := by
  unfold mtU64FifoPutBulk at stored
  split at stored
  · rename_i room
    cases stored
    exact pushAll_contents items fifo room
  · cases stored

theorem mtU64FifoGetBulk_eq_some {fifo next : MtU64Fifo Item} {count : Nat} {taken : List Item}
    (removed : mtU64FifoGetBulk fifo count = some (taken, next)) :
    taken = fifo.contents.take count ∧ next.contents = fifo.contents.drop count ∧
      next.size = fifo.size := by
  unfold mtU64FifoGetBulk at removed
  split at removed
  · rename_i enough
    cases removed
    refine ⟨?_, ?_, rfl⟩
    · unfold contents
      rw [← List.map_take, List.take_range, Nat.min_eq_left enough]
    · unfold contents
      apply List.ext_getElem?
      intro index
      rw [List.getElem?_drop]
      by_cases inside : index < fifo.used - count
      · have shifted : count + index < fifo.used := by omega
        simp [inside, shifted, Nat.add_assoc]
      · rw [List.getElem?_eq_none (by simpa using inside),
          List.getElem?_eq_none (by simp only [List.length_map, List.length_range]; omega)]
  · cases removed

theorem mtU64FifoReadFront_eq_head? : mtU64FifoReadFront fifo = fifo.contents.head? := by
  unfold mtU64FifoReadFront
  rw [List.head?_eq_getElem?]
  by_cases empty : fifo.used = 0
  · rw [if_pos empty]
    exact (List.getElem?_eq_none (by simp [empty])).symm
  · rw [if_neg empty, getElem?_contents fifo 0 (by omega), Nat.add_zero,
      Nat.mod_eq_of_lt fifo.readIdx_lt]

theorem mtU64FifoReadAnyBulk_eq_some {fifo : MtU64Fifo Item} {count skip : Nat}
    (inside : skip + count ≤ fifo.used) :
    mtU64FifoReadAnyBulk fifo count skip = some ((fifo.contents.drop skip).take count) := by
  unfold mtU64FifoReadAnyBulk
  rw [if_neg (by omega), if_neg (by omega)]
  congr 1
  apply List.ext_getElem?
  intro index
  by_cases listed : index < count
  · have queued : skip + index < fifo.used := by omega
    rw [List.getElem?_take_of_lt listed, List.getElem?_drop, getElem?_contents fifo _ queued]
    simp [listed, Nat.add_assoc]
  · rw [List.getElem?_eq_none (by simpa using listed),
      List.getElem?_eq_none (by simp only [List.length_take]; omega)]

end MediaTransport.Util
