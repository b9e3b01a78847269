import Mathlib.Tactic

namespace MediaTransport.Library

/-!
# Items that pass through stages in order

Numbered items enter at stage 0, move to later stages and leave, some of them
passed on and some dropped.  Those further along have the smaller numbers, and
everything passed on is numbered below everything still present.  This survives
as long as an item only overtakes items with larger numbers, and then the items
are passed on in the order in which they entered.
-/

variable {Item : Type*}

/-- The items present, by stage, with the numbers passed on and the next number. -/
structure InStages (stage : Item -> Option Nat) (number : Item -> Nat) (passed : List Nat)
    (next : Nat) : Prop where
  below : forall item place, stage item = some place -> number item < next
  distinct : forall first second, stage first ≠ none -> stage second ≠ none -> first ≠ second ->
    number first ≠ number second
  ahead : forall first second far near, stage first = some far -> stage second = some near ->
    near < far -> number first < number second
  passed_lt : ∀ value ∈ passed, value < next ∧
    forall item place, stage item = some place -> value < number item
  sorted : passed.Pairwise (· < ·)

/-- No item at the listed item's stage or behind it, but before the goal, is numbered lower. -/
def FirstTo (stage : Item -> Option Nat) (number : Item -> Nat) (item : Item) (goal : Nat) : Prop :=
  forall other place, stage other = some place -> place < goal -> number item ≤ number other

variable {stage : Item -> Option Nat} {number : Item -> Nat} {passed : List Nat} {next : Nat}

theorem InStages.empty (number : Item -> Nat) : InStages (fun _ => none) number [] 0 where
  below item place present := by cases present
  distinct first second present := absurd rfl present
  ahead first second far near present := by cases present
  passed_lt value member := by cases member
  sorted := List.Pairwise.nil

/-- Items may leave. -/
theorem InStages.leave (ordered : InStages stage number passed next) {later : Item -> Option Nat}
    (kept : forall item, later item = stage item ∨ later item = none) :
    InStages later number passed next := by
  have before : forall item place, later item = some place -> stage item = some place := by
    intro item place present
    rcases kept item with same | gone
    · rw [← same]
      exact present
    · rw [gone] at present
      cases present
  have there : forall item, later item ≠ none -> stage item ≠ none := by
    intro item present
    rcases kept item with same | gone
    · rw [← same]
      exact present
    · exact absurd gone present
  constructor
  · exact fun item place present => ordered.below item place (before item place present)
  · exact fun first second one two => ordered.distinct first second (there first one) (there second two)
  · exact fun first second far near one two =>
      ordered.ahead first second far near (before first far one) (before second near two)
  · exact fun value member => ⟨(ordered.passed_lt value member).1, fun item place present =>
      (ordered.passed_lt value member).2 item place (before item place present)⟩
  · exact ordered.sorted

variable [DecidableEq Item]

section

variable (ordered : InStages stage number passed next) {item : Item} {later : Item -> Option Nat}

include ordered

/-- A new item enters with the next number. -/
theorem InStages.enter (absent : stage item = none) (present : later item = some 0)
    (kept : ∀ other ≠ item, later other = stage other) :
    InStages later (Function.update number item next) passed (next + 1) := by
  have mine : Function.update number item next item = next := Function.update_self _ _ _
  have others : ∀ other ≠ item,
      Function.update number item next other = number other :=
    fun other different => Function.update_of_ne different _ _
  constructor
  · intro other place found
    by_cases same : other = item
    · rw [same, mine]
      omega
    · rw [others other same]
      have bound := ordered.below other place (kept other same ▸ found)
      omega
  · intro first second one two different
    by_cases left : first = item
    · have right : second ≠ item := fun equal => different (left.trans equal.symm)
      rw [left, mine, others second right]
      rw [kept second right] at two
      rcases Option.ne_none_iff_exists'.mp two with ⟨place, found⟩
      exact Nat.ne_of_gt (ordered.below second place found)
    · rw [others first left]
      rw [kept first left] at one
      by_cases right : second = item
      · rw [right, mine]
        rcases Option.ne_none_iff_exists'.mp one with ⟨place, found⟩
        exact Nat.ne_of_lt (ordered.below first place found)
      · rw [others second right]
        exact ordered.distinct first second one (kept second right ▸ two) different
  · intro first second far near one two closer
    have left : first ≠ item := by
      rintro rfl
      rw [present] at one
      cases one
      omega
    rw [others first left]
    rw [kept first left] at one
    by_cases right : second = item
    · rw [right, mine]
      exact ordered.below first far one
    · rw [others second right]
      exact ordered.ahead first second far near one (kept second right ▸ two) closer
  · intro value member
    have old := ordered.passed_lt value member
    refine ⟨by omega, fun other place found => ?_⟩
    by_cases same : other = item
    · rw [same, mine]
      exact old.1
    · rw [others other same]
      exact old.2 other place (kept other same ▸ found)
  · exact ordered.sorted

/-- An item moves on to a goal over items with larger numbers only. -/
theorem InStages.advance {start goal : Nat} (here : stage item = some start)
    (there : later item = some goal) (onwards : start ≤ goal)
    (kept : ∀ other ≠ item, later other = stage other)
    (first : FirstTo stage number item goal) : InStages later number passed next := by
  have present : forall other, later other ≠ none -> stage other ≠ none := by
    intro other found
    by_cases same : other = item
    · rw [same, here]
      exact Option.some_ne_none start
    · rw [← kept other same]
      exact found
  constructor
  · intro other place found
    rcases Option.ne_none_iff_exists'.mp (present other (by rw [found]; exact Option.some_ne_none _))
      with ⟨before, old⟩
    exact ordered.below other before old
  · exact fun one two left right => ordered.distinct one two (present one left) (present two right)
  · intro one two far near left right closer
    by_cases mover : one = item
    · subst mover
      have other : two ≠ one := by
        rintro rfl
        rw [left] at right
        cases right
        omega
      rw [there] at left
      cases left
      rw [kept two other] at right
      have smaller := first two near right closer
      have apart := ordered.distinct one two (by rw [here]; exact Option.some_ne_none _)
        (by rw [right]; exact Option.some_ne_none _) other.symm
      omega
    · rw [kept one mover] at left
      by_cases target : two = item
      · subst target
        rw [there] at right
        cases right
        exact ordered.ahead one two far start left here (by omega)
      · rw [kept two target] at right
        exact ordered.ahead one two far near left right closer
  · intro value member
    have old := ordered.passed_lt value member
    refine ⟨old.1, fun other place found => ?_⟩
    rcases Option.ne_none_iff_exists'.mp (present other (by rw [found]; exact Option.some_ne_none _))
      with ⟨before, was⟩
    exact old.2 other before was
  · exact ordered.sorted

/-- The item with the smallest number is passed on. -/
theorem InStages.pass {start : Nat} (here : stage item = some start)
    (gone : later item = none) (kept : ∀ other ≠ item, later other = stage other)
    (first : forall other place, stage other = some place -> number item ≤ number other) :
    InStages later number (passed ++ [number item]) next := by
  have left : InStages later number passed next := by
    apply ordered.leave
    intro other
    by_cases same : other = item
    · exact Or.inr (same ▸ gone)
    · exact Or.inl (kept other same)
  refine ⟨left.below, left.distinct, left.ahead, ?_, ?_⟩
  · intro value member
    rcases List.mem_append.mp member with old | new
    · exact left.passed_lt value old
    · obtain rfl := List.mem_singleton.mp new
      refine ⟨ordered.below item start here, fun other place found => ?_⟩
      have different : other ≠ item := by
        rintro rfl
        rw [gone] at found
        cases found
      rw [kept other different] at found
      have smaller := first other place found
      have apart := ordered.distinct item other (by rw [here]; exact Option.some_ne_none _)
        (by rw [found]; exact Option.some_ne_none _) different.symm
      omega
  · rw [List.pairwise_append]
    refine ⟨ordered.sorted, List.pairwise_singleton _ _, ?_⟩
    intro value member other single
    obtain rfl := List.mem_singleton.mp single
    exact (ordered.passed_lt value member).2 item start here

end

end MediaTransport.Library
