import Mathlib.Tactic

namespace MediaTransport.Library

/-!
# Scans around a ring of slots

A scan starts at a slot and visits every slot of the ring once, each behind
the one before.  It finds the wanted slot that is the fewest steps ahead of its
start.  When the start moves past the slot that was found, the order of the
slots farther ahead stays what it was.
-/

/-- The slot behind a slot, on a ring of so many. -/
def nextSlot (cnt idx : Nat) : Nat := if idx + 1 ≥ cnt then 0 else idx + 1

/-- The first wanted slot from this one on, within so many steps. -/
def scanSteps (cnt : Nat) (wanted : Nat -> Bool) : (steps : Nat) -> (idx : Nat) -> Option Nat
  | 0, _ => none
  | steps + 1, idx =>
    if wanted idx then some idx else scanSteps cnt wanted steps (nextSlot cnt idx)

/-- The first wanted slot of the ring. -/
def scan (cnt : Nat) (wanted : Nat -> Bool) (start : Nat) : Option Nat :=
  scanSteps cnt wanted cnt start

/-- The steps from one slot to another. -/
def ahead (cnt start idx : Nat) : Nat := if start ≤ idx then idx - start else idx + cnt - start

variable {cnt : Nat}

variable {wanted : Nat -> Bool}

theorem nextSlot_lt {idx : Nat} (inside : idx < cnt) : nextSlot cnt idx < cnt := by
  unfold nextSlot
  split <;> omega

theorem ahead_self (cnt start : Nat) : ahead cnt start start = 0 := by
  simp [ahead]

theorem ahead_nextSlot {start idx other : Nat} (start_inside : start < cnt) (inside : idx < cnt)
    (other_inside : other < cnt) (farther : ahead cnt start idx < ahead cnt start other) :
    ahead cnt (nextSlot cnt idx) other = ahead cnt start other - ahead cnt start idx - 1 := by
  unfold ahead nextSlot at *
  split at farther <;> split at farther <;> split <;> split <;> omega

theorem ahead_step {start other : Nat} (start_inside : start < cnt) (inside : other < cnt)
    (different : other ≠ start) :
    ahead cnt start other = ahead cnt (nextSlot cnt start) other + 1 := by
  have farther : ahead cnt start start < ahead cnt start other := by
    unfold ahead
    split <;> split <;> omega
  have closer := ahead_nextSlot start_inside start_inside inside farther
  rw [ahead_self] at closer farther
  omega

theorem scanSteps_spec {steps start : Nat} (inside : start < cnt) :
    match scanSteps cnt wanted steps start with
    | some found => found < cnt ∧ wanted found = true ∧ ahead cnt start found < steps ∧
        ∀ other < cnt, wanted other = true ->
          ahead cnt start found ≤ ahead cnt start other
    | none => ∀ other < cnt, ahead cnt start other < steps -> wanted other = false := by
  induction steps generalizing start with
  | zero =>
    intro other _ close
    exact (Nat.not_lt_zero _ close).elim
  | succ steps ih =>
    unfold scanSteps
    by_cases here : wanted start = true
    · rw [if_pos here]
      refine ⟨inside, here, ?_, fun other _ _ => ?_⟩
      · rw [ahead_self]
        exact Nat.succ_pos steps
      · rw [ahead_self]
        exact Nat.zero_le _
    · rw [if_neg here]
      have rest := @ih (nextSlot cnt start) (nextSlot_lt inside)
      cases result : scanSteps cnt wanted steps (nextSlot cnt start) with
      | none =>
        rw [result] at rest
        intro other other_inside close
        by_cases same : other = start
        · rw [same]
          exact eq_false_of_ne_true here
        · rw [ahead_step inside other_inside same] at close
          exact rest other other_inside (Nat.lt_of_succ_lt_succ close)
      | some found =>
        rw [result] at rest
        rcases rest with ⟨found_inside, found_wanted, close, least⟩
        have apart : forall other, wanted other = true -> other ≠ start := by
          rintro other other_wanted rfl
          exact here other_wanted
        have step := ahead_step inside found_inside (apart found found_wanted)
        refine ⟨found_inside, found_wanted, by omega, fun other other_inside other_wanted => ?_⟩
        have far := ahead_step inside other_inside (apart other other_wanted)
        have bound := least other other_inside other_wanted
        omega

theorem scan_some {start found : Nat} (inside : start < cnt)
    (result : scan cnt wanted start = some found) :
    found < cnt ∧ wanted found = true ∧ ∀ other < cnt, wanted other = true ->
      ahead cnt start found ≤ ahead cnt start other := by
  have spec := @scanSteps_spec cnt wanted cnt start inside
  unfold scan at result
  rw [result] at spec
  exact ⟨spec.1, spec.2.1, spec.2.2.2⟩

/-! ## Queues on a ring -/

/-- The slots of a queue, each farther ahead than the one before. -/
def Queued (cnt start : Nat) (slots : List Nat) : Prop :=
  List.Pairwise (fun first second => ahead cnt start first < ahead cnt start second) slots ∧
    ∀ idx ∈ slots, idx < cnt

theorem Queued.nil (cnt start : Nat) : Queued cnt start [] :=
  ⟨List.Pairwise.nil, fun _ absurd => (by cases absurd)⟩

/-- The scan finds the slot that was queued first. -/
theorem Queued.scan_head {start found : Nat} {slots : List Nat} (queued : Queued cnt start slots)
    (inside : start < cnt) (all : ∀ idx < cnt, (wanted idx = true <-> idx ∈ slots))
    (result : scan cnt wanted start = some found) :
    Exists fun rest => slots = found :: rest ∧ Queued cnt (nextSlot cnt found) rest := by
  rcases scan_some inside result with ⟨found_inside, found_wanted, least⟩
  have member := (all found found_inside).mp found_wanted
  cases slots with
  | nil => cases member
  | cons head rest =>
    rcases List.pairwise_cons.mp queued.1 with ⟨first, later⟩
    have head_inside := queued.2 head List.mem_cons_self
    have head_wanted := (all head head_inside).mpr List.mem_cons_self
    have same : found = head := by
      rcases List.mem_cons.mp member with same | behind
      · exact same
      · have close := least head head_inside head_wanted
        have far := first found behind
        omega
    subst same
    refine ⟨rest, rfl, ?_, fun idx inside_rest => queued.2 idx (List.mem_cons_of_mem found inside_rest)⟩
    refine List.Pairwise.imp_of_mem ?_ later
    intro one other one_in other_in closer
    have one_inside := queued.2 one (List.mem_cons_of_mem found one_in)
    have other_inside := queued.2 other (List.mem_cons_of_mem found other_in)
    rw [ahead_nextSlot inside head_inside one_inside (first one one_in),
      ahead_nextSlot inside head_inside other_inside (first other other_in)]
    have gap := first one one_in
    omega

/-- A slot behind all others may join the queue. -/
theorem Queued.concat {start idx : Nat} {slots : List Nat} (queued : Queued cnt start slots)
    (inside : idx < cnt)
    (behind : ∀ other ∈ slots, ahead cnt start other < ahead cnt start idx) :
    Queued cnt start (slots ++ [idx]) := by
  refine ⟨List.pairwise_append.mpr ⟨queued.1, List.pairwise_singleton _ _, ?_⟩, ?_⟩
  · intro other member last last_in
    rw [List.mem_singleton.mp last_in]
    exact behind other member
  · intro other member
    rcases List.mem_append.mp member with earlier | last
    · exact queued.2 other earlier
    · rw [List.mem_singleton.mp last]
      exact inside

end MediaTransport.Library
