import MediaTransport.Library.Memory

namespace MediaTransport.Library

/-!
# Tilings of a grid by line segments

A grid is a number of lines of equal length, read line after line.  Segments
are runs of cells inside one line.  Segments that follow one another without
a gap in reading order cover every cell between their ends exactly once,
however they are grouped into packets.
-/

variable {column first last : Nat} {segments : List Segment}

/-- A run of cells inside one line of a grid. -/
structure Segment where
  row : Nat
  column : Nat
  length : Nat
  deriving DecidableEq, Repr

namespace Segment

def covers (row column : Nat) (segment : Segment) : Bool :=
  decide (segment.row = row) && decide (segment.column ≤ column) &&
    decide (column < segment.column + segment.length)

/-- The segment lies inside a grid of `height` lines of `width` cells. -/
def Inside (height width : Nat) (segment : Segment) : Prop :=
  segment.row < height ∧ segment.column + segment.length ≤ width

/-- The place of the first cell in reading order. -/
def start (width : Nat) (segment : Segment) : Nat := segment.row * width + segment.column

theorem covers_iff (row column : Nat) (segment : Segment) :
    segment.covers row column = true ↔
      segment.row = row ∧ segment.column ≤ column ∧ column < segment.column + segment.length := by
  simp [covers, and_assoc]

/-- Inside its line a segment covers the cells of an interval in reading order. -/
theorem covers_iff_start {width row column : Nat} {segment : Segment}
    (fits : segment.column + segment.length ≤ width) (inLine : column < width) :
    segment.covers row column = true ↔
      segment.start width ≤ row * width + column ∧
        row * width + column < segment.start width + segment.length := by
  rw [covers_iff, start]
  constructor
  · rintro ⟨rfl, lower, upper⟩
    omega
  · rintro ⟨lower, upper⟩
    have same : segment.row = row := by
      rcases Nat.lt_trichotomy segment.row row with before | same | after
      · have next : (segment.row + 1) * width ≤ row * width := Nat.mul_le_mul_right width before
        rw [Nat.add_one_mul] at next
        omega
      · exact same
      · have next : (row + 1) * width ≤ segment.row * width := Nat.mul_le_mul_right width after
        rw [Nat.add_one_mul] at next
        omega
    subst same
    omega

end Segment

/-- Segments that follow one another from place `first` up to place `last`. -/
def Consecutive (width : Nat) : Nat -> List Segment -> Nat -> Prop
  | first, [], last => first = last
  | first, segment :: rest, last =>
    segment.start width = first ∧ segment.column + segment.length ≤ width ∧
      Consecutive width (first + segment.length) rest last

variable {width : Nat}

theorem Consecutive.le
    (consecutive : Consecutive width first segments last) : first ≤ last := by
  induction segments generalizing first with
  | nil => exact Nat.le_of_eq consecutive
  | cons segment rest ih => exact Nat.le_trans (Nat.le_add_right _ _) (ih consecutive.2.2)

theorem Consecutive.fits {segment : Segment}
    (consecutive : Consecutive width first segments last) (member : segment ∈ segments) :
    segment.column + segment.length ≤ width := by
  induction segments generalizing first with
  | nil => cases member
  | cons head rest ih =>
    cases member with
    | head => exact consecutive.2.1
    | tail _ later => exact ih consecutive.2.2 later

theorem Consecutive.append {middle : Nat} {before after : List Segment}
    (left : Consecutive width first before middle) (right : Consecutive width middle after last) :
    Consecutive width first (before ++ after) last := by
  induction before generalizing first with
  | nil => exact left ▸ right
  | cons segment rest ih => exact ⟨left.1, left.2.1, ih left.2.2⟩

theorem consecutive_flatMap_range (cut : Nat -> Nat) (segments : Nat -> List Segment) (count : Nat)
    (each : ∀ index < count,
      Consecutive width (cut index) (segments index) (cut (index + 1))) :
    Consecutive width (cut 0) ((List.range count).flatMap segments) (cut count) := by
  induction count with
  | zero => rfl
  | succ count ih =>
    rw [List.range_succ, List.flatMap_append, List.flatMap_singleton]
    exact (ih (fun index below => each index (Nat.lt_succ_of_lt below))).append
      (each count (Nat.lt_succ_self count))

/-- Consecutive segments cover a cell once when it lies between their ends and
not at all otherwise. -/
theorem Consecutive.countP_covers
    (consecutive : Consecutive width first segments last) (row : Nat)
    (inLine : column < width) :
    segments.countP (Segment.covers row column) =
      if first ≤ row * width + column ∧ row * width + column < last then 1 else 0 := by
  induction segments generalizing first with
  | nil =>
    have same : first = last := consecutive
    rw [List.countP_nil, if_neg (by omega)]
  | cons segment rest ih =>
    rcases consecutive with ⟨begins, fits, follow⟩
    have upper := follow.le
    have here := @Segment.covers_iff_start width row column segment fits inLine
    rw [begins] at here
    rw [List.countP_cons, ih follow]
    by_cases covered : segment.covers row column = true
    · have place := here.mp covered
      rw [if_neg (by omega), if_pos covered, if_pos (by omega)]
    · have place := mt here.mpr covered
      rw [if_neg covered]
      split <;> split <;> omega

theorem Consecutive.cover {segment : Segment} {row : Nat} (consecutive : Consecutive width first segments last)
    (member : segment ∈ segments) (inLine : column < width) (covered : segment.covers row column = true) :
    first ≤ row * width + column ∧ row * width + column < last := by
  have counted := consecutive.countP_covers row inLine
  have positive := List.countP_pos_iff.mpr ⟨segment, member, covered⟩
  rw [counted] at positive
  by_contra outside
  rw [if_neg outside] at positive
  cases positive

/-- Consecutive segments that are stored one after another fill the cells between their ends. -/
theorem Consecutive.foldl_store {Value : Type*} [Inhabited Value] {stride : Nat} (wide : width ≤ stride)
    (cell : Nat -> Nat -> Value) (consecutive : Consecutive width first segments last)
    (memory : Nat -> Value) (row : Nat) (inLine : column < width) :
    segments.foldl (fun memory segment => store memory (segment.start stride)
        ((List.range segment.length).map fun index => cell segment.row (segment.column + index))) memory
        (row * stride + column) =
      if first ≤ row * width + column ∧ row * width + column < last then cell row column
      else memory (row * stride + column) := by
  induction segments generalizing first memory with
  | nil =>
    have same : first = last := consecutive
    rw [List.foldl_nil, if_neg (by omega)]
  | cons segment rest ih =>
    rcases consecutive with ⟨begins, fits, follow⟩
    have upper := follow.le
    have here := @Segment.covers_iff_start width row column segment fits inLine
    have stored := @Segment.covers_iff_start stride row column segment (by omega) (by omega)
    rw [List.foldl_cons, ih follow]
    by_cases covered : segment.covers row column = true
    · rw [if_neg (by have := here.mp covered; omega), if_pos (by have := here.mp covered; omega),
        store_inside _ (stored.mp covered).1 (by simpa using (stored.mp covered).2)]
      rcases (Segment.covers_iff row column segment).mp covered with ⟨rfl, left, right⟩
      have index : segment.row * stride + column - segment.start stride = column - segment.column := by
        unfold Segment.start
        omega
      rw [index, List.getD_eq_getElem _ _ (by simp; omega), List.getElem_map, List.getElem_range,
        Nat.add_sub_cancel' left]
    · have place := mt here.mpr covered
      have kept := mt stored.mpr covered
      rw [store_outside _ (by rw [List.length_map, List.length_range]; omega)]
      exact if_congr (by omega) rfl rfl

/-! ## Places of a buffer as cells of a grid -/

/-- The line and the place in the line of a place in a buffer. -/
def gridPosition (width place : Nat) : Nat × Nat := (place / width, place % width)

/-- The cells of a run of places. -/
def gridRun (width place length : Nat) : List (Nat × Nat) :=
  (List.range length).map (fun index => gridPosition width (place + index))

theorem gridPosition_inside {width row : Nat} (inLine : column < width) :
    gridPosition width (row * width + column) = (row, column) := by
  have positive : 0 < width := Nat.zero_lt_of_lt inLine
  rw [gridPosition, Nat.mul_comm, Nat.mul_add_div positive, Nat.div_eq_of_lt inLine,
    Nat.mul_add_mod, Nat.mod_eq_of_lt inLine, Nat.add_zero]

theorem length_gridRun (width place length : Nat) : (gridRun width place length).length = length := by
  rw [gridRun, List.length_map, List.length_range]

/-- A run that leaves the narrower of two lines breaks there only. -/
theorem not_gridRun_of_narrow {narrow wide row length : Nat} (narrower : narrow < wide)
    (inLine : column < narrow) (leaves : narrow < column + length) :
    gridRun narrow (row * narrow + column) length ≠ gridRun wide (row * wide + column) length := by
  intro same
  have inside : narrow - column < (List.range length).length := by
    rw [List.length_range]
    omega
  have cell := congrArg (fun cells => cells[narrow - column]?) same
  simp only [gridRun, List.getElem?_map, List.getElem?_eq_getElem inside, List.getElem_range,
    Option.map_some, Option.some.injEq] at cell
  have left : row * narrow + column + (narrow - column) = (row + 1) * narrow + 0 := by
    rw [Nat.succ_mul]
    omega
  have right : row * wide + column + (narrow - column) = row * wide + narrow := by omega
  rw [left, right, gridPosition_inside (by omega), gridPosition_inside narrower] at cell
  have rows := congrArg Prod.fst cell
  simp only at rows
  omega

/-- Runs in two grids have the same cells exactly when they start at the same
cell and either the grids are the same or the run stays in one line of both. -/
theorem gridRun_eq_iff {left right leftRow rightRow leftColumn rightColumn length : Nat}
    (leftInside : leftColumn < left) (rightInside : rightColumn < right) (nonempty : 0 < length) :
    gridRun left (leftRow * left + leftColumn) length =
        gridRun right (rightRow * right + rightColumn) length ↔
      leftRow = rightRow ∧ leftColumn = rightColumn ∧
        (left = right ∨ leftColumn + length ≤ min left right) := by
  constructor
  · intro same
    have first : gridPosition left (leftRow * left + leftColumn) =
        gridPosition right (rightRow * right + rightColumn) := by
      rcases Nat.exists_eq_succ_of_ne_zero (Nat.pos_iff_ne_zero.mp nonempty) with ⟨rest, rfl⟩
      have heads := congrArg List.head? same
      simpa only [gridRun, List.range_succ_eq_map, List.map_cons, List.head?_cons, Nat.add_zero,
        Option.some.injEq] using heads
    rw [gridPosition_inside leftInside, gridPosition_inside rightInside, Prod.mk.injEq] at first
    rcases first with ⟨rfl, rfl⟩
    refine ⟨rfl, rfl, ?_⟩
    by_contra neither
    rcases Nat.lt_trichotomy left right with narrower | equal | wider
    · exact not_gridRun_of_narrow narrower leftInside (by omega) same
    · exact neither (Or.inl equal)
    · exact not_gridRun_of_narrow wider rightInside (by omega) same.symm
  · rintro ⟨rfl, rfl, rfl | fits⟩
    · rfl
    · apply List.map_congr_left
      intro index member
      have bound := List.mem_range.mp member
      rw [Nat.add_assoc, Nat.add_assoc, gridPosition_inside (by omega),
        gridPosition_inside (by omega)]

end MediaTransport.Library
