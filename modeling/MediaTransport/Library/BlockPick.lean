import MediaTransport.Library.GroupLoop

namespace MediaTransport.Library

/-!
# Loops that also keep one group of each block

Lines of groups are cut into square blocks.  A loop converts all groups, line by
line, and at the last group of the last line of a block it keeps one converted
group of that block aside.  What is kept is the conversion of the planes that
the chosen groups make.
-/

variable {Value : Type*}

namespace GroupMap

variable (map : GroupMap Value)

/-- The planes whose groups are those of others, by their places. -/
def gathered (src : Planes Value) (origin : Nat -> Nat) : Planes Value :=
  fun plane position =>
    src plane (origin (position / map.inSize plane) * map.inSize plane + position % map.inSize plane)

theorem gathered_tail (src : Planes Value) (origin : Nat -> Nat) (index : Nat) {plane offset : Nat}
    (inside : offset < map.inSize plane) :
    (map.gathered src origin).tail (fun input => index * map.inSize input) plane offset =
      src.tail (fun input => origin index * map.inSize input) plane offset := by
  have quotient : (index * map.inSize plane + offset) / map.inSize plane = index := by
    rw [Nat.mul_comm, Nat.mul_add_div (by omega), Nat.div_eq_of_lt inside, Nat.add_zero]
  have rest : (index * map.inSize plane + offset) % map.inSize plane = offset := by
    rw [Nat.mul_comm, Nat.mul_add_mod, Nat.mod_eq_of_lt inside]
  unfold gathered Planes.tail
  dsimp only
  rw [quotient, rest]

theorem gathered_convert (src : Planes Value) (origin : Nat -> Nat) (index : Nat) {plane offset : Nat}
    (inside : offset < map.outSize plane) :
    map.convert ((map.gathered src origin).tail fun input => index * map.inSize input) plane offset =
      map.convert (src.tail fun input => origin index * map.inSize input) plane offset :=
  map.reads (fun _ _ within => map.gathered_tail src origin index within) plane offset inside

/-! ## The loop -/

/-- What the loop has done: the groups it has converted, and those it has kept. -/
structure Picking (Value : Type*) where
  group : Nat
  full : Planes Value
  count : Nat
  picked : Planes Value

/-- The group that is kept, from the converted one, all that is converted so far, and its length. -/
abbrev Chooser (Value : Type*) := Planes Value -> Planes Value -> Nat -> Planes Value

/-- A round converts one group, and keeps one if it is told to. -/
def pickRound (src : Planes Value) (choose : Chooser Value) (taken : Bool) (state : Picking Value) :
    Picking Value :=
  let converted := map.convert (src.tail fun plane => state.group * map.inSize plane)
  let full := state.full.put (fun plane => state.group * map.outSize plane) map.outSize converted
  let group := state.group + 1
  if taken then
    { group := group
      full := full
      count := state.count + 1
      picked := state.picked.put (fun plane => state.count * map.outSize plane) map.outSize
        (choose converted full group) }
  else
    { state with group := group, full := full }

/-- The groups of a line. -/
def pickLine (src : Planes Value) (choose : Chooser Value) (taken : Nat -> Bool) (count : Nat)
    (state : Picking Value) : Picking Value :=
  (List.range count).foldl (fun state index => map.pickRound src choose (taken index) state) state

/-- The lines. -/
def pickLines (src : Planes Value) (choose : Chooser Value) (taken : Nat -> Nat -> Bool) (perLine lines : Nat)
    (state : Picking Value) : Picking Value :=
  (List.range lines).foldl (fun state line => map.pickLine src choose (taken line) perLine state) state

theorem pickLine_succ (src : Planes Value) (choose : Chooser Value) (taken : Nat -> Bool) (count : Nat)
    (state : Picking Value) :
    map.pickLine src choose taken (count + 1) state =
      map.pickRound src choose (taken count) (map.pickLine src choose taken count state) := by
  rw [pickLine, List.range_succ, List.foldl_append]
  rfl

theorem pickLines_succ (src : Planes Value) (choose : Chooser Value) (taken : Nat -> Nat -> Bool)
    (perLine lines : Nat) (state : Picking Value) :
    map.pickLines src choose taken perLine (lines + 1) state =
      map.pickLine src choose (taken lines) perLine
        (map.pickLines src choose taken perLine lines state) := by
  rw [pickLines, List.range_succ, List.foldl_append]
  rfl

/-! ## Blocks -/

/-- The group that is kept as the given one: so many groups before the last one of the block. -/
def blockOrigin (side perLine back index : Nat) : Nat :=
  (index / (perLine / side) * side + (side - 1)) * perLine +
    (index % (perLine / side) * side + (side - 1)) - back

theorem blockOrigin_block {side perLine index : Nat} (back line : Nat) (below : index < perLine / side) :
    blockOrigin side perLine back (line * (perLine / side) + index) =
      (line * side + (side - 1)) * perLine + (index * side + (side - 1)) - back := by
  have quotient : (line * (perLine / side) + index) / (perLine / side) = line := by
    rw [Nat.mul_comm, Nat.mul_add_div (Nat.zero_lt_of_lt below), Nat.div_eq_of_lt below, Nat.add_zero]
  have rest : (line * (perLine / side) + index) % (perLine / side) = index := by
    rw [Nat.mul_comm, Nat.mul_add_mod, Nat.mod_eq_of_lt below]
  rw [blockOrigin, quotient, rest]

/-- It is the last one of a block at the end of the block. -/
theorem blockOrigin_last {side perLine line index : Nat} (back : Nat) (positive : 0 < side)
    (within : index < perLine) (lastLine : line % side = side - 1) (last : index % side = side - 1) :
    blockOrigin side perLine back (line / side * (perLine / side) + index / side) =
      line * perLine + index - back := by
  have lines : line / side * side + (side - 1) = line := by
    rw [← lastLine]
    exact Nat.div_add_mod' line side
  have groups : index / side * side + (side - 1) = index := by
    rw [← last]
    exact Nat.div_add_mod' index side
  have below : index / side < perLine / side := by
    apply (Nat.le_div_iff_mul_le positive).mpr
    rw [Nat.succ_mul]
    omega
  rw [blockOrigin_block back _ below, lines, groups]

theorem succ_div_of_last {side index : Nat} (positive : 0 < side) (last : index % side = side - 1) :
    (index + 1) / side = index / side + 1 := by
  have whole : index + 1 = side * (index / side + 1) := by
    have parts := Nat.div_add_mod index side
    rw [Nat.mul_succ]
    omega
  rw [whole, Nat.mul_div_cancel_left _ positive]

theorem succ_div_of_not_last {side index : Nat} (positive : 0 < side) (early : index % side ≠ side - 1) :
    (index + 1) / side = index / side := by
  have below := Nat.mod_lt index positive
  have parts := Nat.div_add_mod' index side
  apply Nat.div_eq_of_lt_le
  · omega
  · rw [Nat.succ_mul]
    omega

/-! ## What the loop leaves -/

section Spec

variable {map} {src full picked : Planes Value} {choose : Chooser Value} {taken : Nat -> Nat -> Bool}
  {side perLine back : Nat}

/-- After some lines and some groups of the next one. -/
structure Picked (map : GroupMap Value) (src full picked : Planes Value) (side perLine back line index : Nat)
    (state : Picking Value) : Prop where
  group : state.group = line * perLine + index
  full : state.full = map.run src full 0 (line * perLine + index)
  count : state.count =
    line / side * (perLine / side) + if line % side = side - 1 then index / side else 0
  picked : state.picked =
    map.run (map.gathered src (blockOrigin side perLine back)) picked 0 state.count

/-- The group that is chosen at the end of a block is the converted one so many groups before it. -/
def Chooses (map : GroupMap Value) (src full : Planes Value) (choose : Chooser Value) (side back : Nat) :
    Prop :=
  forall group, side ≤ group + 1 -> forall plane offset, offset < map.outSize plane ->
    choose (map.convert (src.tail fun plane => group * map.inSize plane)) (map.run src full 0 (group + 1))
        (group + 1) plane offset =
      map.convert (src.tail fun plane => (group - back) * map.inSize plane) plane offset

/-- A round at the end of a block keeps a group, any other one keeps none. -/
theorem Picked.round {line index : Nat} {state : Picking Value} (positive : 0 < side)
    (chooses : Chooses map src full choose side back)
    (told : taken line index = true ↔ line % side = side - 1 ∧ index % side = side - 1)
    (within : index < perLine) (after : Picked map src full picked side perLine back line index state) :
    Picked map src full picked side perLine back line (index + 1)
      (map.pickRound src choose (taken line index) state) := by
  have converts : state.full.put (fun plane => state.group * map.outSize plane) map.outSize
      (map.convert (src.tail fun plane => state.group * map.inSize plane)) =
      map.run src full 0 (line * perLine + (index + 1)) := by
    rw [after.full, after.group, ← Nat.add_assoc, run_succ, Nat.zero_add]
    rfl
  by_cases last : line % side = side - 1 ∧ index % side = side - 1
  · have count : state.count = line / side * (perLine / side) + index / side := by
      rw [after.count, if_pos last.1]
    have behind : side ≤ line * perLine + index + 1 := by
      have least := Nat.mod_le index side
      omega
    rw [told.mpr last, pickRound, if_pos rfl]
    exact {
      group := congrArg Nat.succ after.group
      full := converts
      count := by
        rw [if_pos last.1, succ_div_of_last positive last.2, ← Nat.add_assoc, ← count]
      picked := by
        show state.picked.put _ _ _ = _
        rw [after.picked, run_succ, GroupMap.round, Nat.zero_add]
        apply Planes.put_congr
        intro plane offset inside
        rw [gathered_convert _ _ _ _ inside, count, blockOrigin_last back positive within last.1 last.2,
          ← chooses _ behind plane offset inside, converts, after.group]
        rfl }
  · have untold : taken line index = false := Bool.eq_false_iff.mpr fun here => last (told.mp here)
    rw [untold, pickRound, if_neg Bool.false_ne_true]
    exact {
      group := congrArg Nat.succ after.group
      full := converts
      count := by
        rw [after.count]
        by_cases lastLine : line % side = side - 1
        · rw [if_pos lastLine, if_pos lastLine,
            succ_div_of_not_last positive fun here => last ⟨lastLine, here⟩]
        · rw [if_neg lastLine, if_neg lastLine]
      picked := after.picked }

/-- A whole line. -/
theorem Picked.line {line count : Nat} {state : Picking Value} (positive : 0 < side)
    (chooses : Chooses map src full choose side back)
    (told : ∀ index < perLine,
      (taken line index = true ↔ line % side = side - 1 ∧ index % side = side - 1))
    (within : count ≤ perLine) (after : Picked map src full picked side perLine back line 0 state) :
    Picked map src full picked side perLine back line count
      (map.pickLine src choose (taken line) count state) := by
  induction count with
  | zero => exact after
  | succ count ih =>
    rw [pickLine_succ]
    exact (ih (Nat.le_of_succ_le within)).round positive chooses (told count within) within

/-- The end of a line is the start of the next one. -/
theorem Picked.next {line : Nat} {state : Picking Value} (positive : 0 < side)
    (after : Picked map src full picked side perLine back line perLine state) :
    Picked map src full picked side perLine back (line + 1) 0 state where
  group := by rw [after.group, Nat.succ_mul, Nat.add_zero]
  full := by rw [after.full, Nat.succ_mul, Nat.add_zero]
  count := by
    rw [after.count, Nat.zero_div, ite_self, Nat.add_zero]
    by_cases lastLine : line % side = side - 1
    · rw [if_pos lastLine, succ_div_of_last positive lastLine, Nat.succ_mul]
    · rw [if_neg lastLine, succ_div_of_not_last positive lastLine, Nat.add_zero]
  picked := after.picked

/-- All groups are converted, and of each whole block one is kept. -/
theorem pickLines_picked (positive : 0 < side) (chooses : Chooses map src full choose side back) {lines : Nat}
    (told : ∀ line < lines, ∀ index < perLine,
      (taken line index = true ↔ line % side = side - 1 ∧ index % side = side - 1)) :
    Picked map src full picked side perLine back lines 0
      (map.pickLines src choose taken perLine lines ⟨0, full, 0, picked⟩) := by
  induction lines with
  | zero =>
    exact {
      group := by rw [Nat.zero_mul]; rfl
      full := by rw [Nat.zero_mul]; rfl
      count := by rw [Nat.zero_div, Nat.zero_mul, ite_self]; rfl
      picked := rfl }
  | succ lines ih =>
    rw [pickLines_succ]
    apply Picked.next positive
    exact (ih fun line below => told line (Nat.lt_succ_of_lt below)).line positive chooses
      (told lines (Nat.lt_succ_self lines)) (Nat.le_refl perLine)

end Spec

end GroupMap

end MediaTransport.Library
