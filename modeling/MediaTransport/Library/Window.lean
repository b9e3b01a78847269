import Mathlib.Tactic

namespace MediaTransport.Library

/-!
# A window of numbers stored as bits

Protocols that number their packets often keep one bit per number of a moving
window, at a position computed from the number.  `Tracks` says that the bits
tell received from missing numbers on the window above `low`.  The laws state
what keeps that true: recording a number of the window, advancing past
numbers that were skipped, and giving up the oldest part of the window.
Positions may be computed in any way.
-/

/-- The integers strictly between two bounds, in increasing order. -/
def between (low high : Int) : List Int :=
  (List.range (high - low - 1).toNat).map (fun (index : Nat) => low + 1 + (index : Int))

theorem mem_between {low high number : Int} :
    number ∈ between low high ↔ low < number ∧ number < high := by
  unfold between
  rw [List.mem_map]
  constructor
  · rintro ⟨index, inside, rfl⟩
    have := List.mem_range.mp inside
    omega
  · rintro ⟨above, below⟩
    exact ⟨(number - low - 1).toNat, List.mem_range.mpr (by omega), by omega⟩

theorem nodup_between (low high : Int) : (between low high).Nodup := by
  refine List.Nodup.map ?_ List.nodup_range
  intro left right same
  simp only at same
  omega

theorem between_eq_nil {low high : Int} (empty : high ≤ low + 1) : between low high = [] := by
  unfold between
  rw [show (high - low - 1).toNat = 0 by omega]
  rfl

theorem between_cons {low high : Int} (room : low + 1 < high) :
    between low high = (low + 1) :: between (low + 1) high := by
  unfold between
  rw [show (high - low - 1).toNat = (high - (low + 1) - 1).toNat + 1 by omega,
    List.range_succ_eq_map, List.map_cons, List.map_map]
  congr 1
  · omega
  · apply List.map_congr_left
    intro index _
    simp only [Function.comp_apply, Nat.succ_eq_add_one, Nat.cast_add, Nat.cast_one]
    omega

theorem between_snoc {low high : Int} (room : low < high) :
    between low (high + 1) = between low high ++ [high] := by
  unfold between
  rw [show (high + 1 - low - 1).toNat = (high - low - 1).toNat + 1 by omega, List.range_succ,
    List.map_append, List.map_cons, List.map_nil]
  congr 2
  omega

/-- The positions of the numbers in `(low, newest]` are all different. -/
def Separated (position : Int -> Nat) (low newest : Int) : Prop :=
  forall left right, low < left -> left ≤ newest -> low < right -> right ≤ newest ->
    position left = position right -> left = right

theorem Separated.narrow {position : Int -> Nat} {low newest higher : Int}
    (separated : Separated position low newest) (raised : low ≤ higher) :
    Separated position higher newest := by
  intro left right leftAbove leftBelow rightAbove rightBelow same
  exact separated left right (by omega) leftBelow (by omega) rightBelow same

/-- The bits of the window `(low, newest]` are exactly the received numbers. -/
def Tracks (position : Int -> Nat) (bit : Nat -> Bool) (received : List Int)
    (low newest : Int) : Prop :=
  forall number, low < number -> number ≤ newest ->
    (bit (position number) = true ↔ number ∈ received)

variable {position : Int -> Nat} {bit next : Nat -> Bool} {received : List Int}
  {low newest number : Int}

theorem Tracks.of_empty (empty : newest ≤ low) : Tracks position bit received low newest := by
  intro other above below
  omega

section

variable (tracks : Tracks position bit received low newest)

include tracks

theorem Tracks.narrow {higher : Int}
    (raised : low ≤ higher) : Tracks position bit received higher newest :=
  fun other above below => tracks other (by omega) below

/-- Recording a number of the window, or an older one whose position does not
belong to a missing number of the window. -/
theorem Tracks.record (harmless : forall other, low < other -> other ≤ newest ->
      position other = position number -> other = number ∨ other ∈ received)
    (recorded : forall cell, next cell = (decide (cell = position number) || bit cell)) :
    Tracks position next (number :: received) low newest := by
  intro other above below
  rw [recorded, Bool.or_eq_true, decide_eq_true_eq, List.mem_cons, tracks other above below]
  constructor
  · rintro (same | member)
    · exact harmless other above below same
    · exact Or.inr member
  · rintro (rfl | member)
    · exact Or.inl rfl
    · exact Or.inr member

/-- Advancing to a newer number: the skipped positions are cleared first. -/
theorem Tracks.advance (newer : newest < number) (inside : low < number)
    (old : ∀ other ∈ received, other ≤ newest)
    (separated : Separated position low number)
    (cleared : forall other, newest < other -> other < number -> next (position other) = false)
    (kept : forall other, low < other -> other ≤ newest ->
      next (position other) = bit (position other)) :
    Tracks position (fun cell => decide (cell = position number) || next cell)
      (number :: received) low number := by
  intro other above below
  rw [Bool.or_eq_true, decide_eq_true_eq, List.mem_cons]
  rcases lt_trichotomy other number with before | rfl | after
  · have apart : position other ≠ position number := fun same =>
      (ne_of_lt before) (separated other number above below inside (le_refl _) same)
    rcases Int.lt_or_le newest other with skipped | retained
    · have missing : other ∉ received := fun member => by
        have := old other member
        omega
      simp [apart, cleared other skipped before, missing, ne_of_lt before]
    · rw [kept other above retained, tracks other above retained]
      simp [apart, ne_of_lt before]
  · simp
  · omega

end

end MediaTransport.Library
