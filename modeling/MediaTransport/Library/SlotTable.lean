import Mathlib.Data.List.ReduceOption
import Mathlib.Tactic

namespace MediaTransport.Library

/-!
# Tables of slots

A table of slots is filled at its first empty slot and emptied at the first
entry that is asked for.  Where the entries stand is of no interest to those
who use the table, so its live entries are a list up to permutation: `put`
adds one to it, `take` removes one, and taking what was put last gives the
table back.
-/

variable {Entry : Type*}

namespace SlotTable

/-- The entry goes to the first empty slot, if there is one. -/
def put (entry : Entry) : List (Option Entry) -> Option (List (Option Entry))
  | [] => none
  | none :: rest => some (some entry :: rest)
  | some held :: rest => (put entry rest).map (some held :: ·)

/-- The first entry that passes the test leaves its slot, if there is one. -/
def take (test : Entry -> Bool) : List (Option Entry) -> Option (List (Option Entry))
  | [] => none
  | none :: rest => (take test rest).map (none :: ·)
  | some held :: rest =>
    if test held then
      some (none :: rest)
    else
      (take test rest).map (some held :: ·)

variable {entry : Entry} {test : Entry -> Bool} {slots after : List (Option Entry)}

theorem put_length (filled : put entry slots = some after) : after.length = slots.length := by
  induction slots generalizing after with
  | nil => cases filled
  | cons slot rest ih =>
    cases slot with
    | none =>
      cases filled
      rfl
    | some held =>
      rcases Option.map_eq_some_iff.mp filled with ⟨more, later, rfl⟩
      exact congrArg (· + 1) (ih later)

theorem take_length (emptied : take test slots = some after) : after.length = slots.length := by
  induction slots generalizing after with
  | nil => cases emptied
  | cons slot rest ih =>
    cases slot with
    | none =>
      rcases Option.map_eq_some_iff.mp emptied with ⟨more, later, rfl⟩
      exact congrArg (· + 1) (ih later)
    | some held =>
      unfold take at emptied
      split at emptied
      · cases emptied
        rfl
      · rcases Option.map_eq_some_iff.mp emptied with ⟨more, later, rfl⟩
        exact congrArg (· + 1) (ih later)

theorem put_isSome : (put entry slots).isSome = true <-> none ∈ slots := by
  induction slots with
  | nil => simp [put]
  | cons slot rest ih =>
    cases slot with
    | none => simp [put]
    | some held => simp [put, ih]

/-- A new entry joins the live ones. -/
theorem put_live (filled : put entry slots = some after) :
    after.reduceOption.Perm (entry :: slots.reduceOption) := by
  induction slots generalizing after with
  | nil => cases filled
  | cons slot rest ih =>
    cases slot with
    | none =>
      cases filled
      rw [List.reduceOption_cons_of_some, List.reduceOption_cons_of_none]
    | some held =>
      rcases Option.map_eq_some_iff.mp filled with ⟨more, later, rfl⟩
      rw [List.reduceOption_cons_of_some, List.reduceOption_cons_of_some]
      exact ((ih later).cons held).trans (List.Perm.swap entry held _)

/-- An entry that passes the test has left the live ones, and its slot is free. -/
theorem take_live (emptied : take test slots = some after) :
    none ∈ after ∧ Exists fun held => test held = true ∧
      slots.reduceOption.Perm (held :: after.reduceOption) := by
  induction slots generalizing after with
  | nil => cases emptied
  | cons slot rest ih =>
    cases slot with
    | none =>
      rcases Option.map_eq_some_iff.mp emptied with ⟨more, later, rfl⟩
      rcases ih later with ⟨free, held, passes, live⟩
      refine ⟨List.mem_cons_self, held, passes, ?_⟩
      rw [List.reduceOption_cons_of_none, List.reduceOption_cons_of_none]
      exact live
    | some first =>
      unfold take at emptied
      split at emptied
      · next passes =>
          cases emptied
          refine ⟨List.mem_cons_self, first, passes, ?_⟩
          rw [List.reduceOption_cons_of_some, List.reduceOption_cons_of_none]
      · rcases Option.map_eq_some_iff.mp emptied with ⟨more, later, rfl⟩
        rcases ih later with ⟨free, held, passes, live⟩
        refine ⟨List.mem_cons_of_mem _ free, held, passes, ?_⟩
        rw [List.reduceOption_cons_of_some, List.reduceOption_cons_of_some]
        exact (live.cons first).trans (List.Perm.swap held first _)

/-- An entry that passes the test is found. -/
theorem take_isSome : (take test slots).isSome = true <->
    Exists fun held => held ∈ slots.reduceOption ∧ test held = true := by
  induction slots with
  | nil => simp [take]
  | cons slot rest ih =>
    cases slot with
    | none =>
      rw [List.reduceOption_cons_of_none, ← ih]
      simp [take]
    | some first =>
      rw [List.reduceOption_cons_of_some]
      unfold take
      split
      · next passes => exact iff_of_true rfl ⟨first, List.mem_cons_self, passes⟩
      · next fails =>
          rw [Option.isSome_map, ih]
          constructor
          · rintro ⟨held, live, passes⟩
            exact ⟨held, List.mem_cons_of_mem first live, passes⟩
          · rintro ⟨held, live, passes⟩
            rcases List.mem_cons.mp live with rfl | later
            · exact absurd passes fails
            · exact ⟨held, later, passes⟩

/-- Taking what was put gives the table back, when nothing else passes. -/
theorem take_put (filled : put entry slots = some after) (passes : test entry = true)
    (only : ∀ held ∈ slots.reduceOption, test held = false) :
    take test after = some slots := by
  induction slots generalizing after with
  | nil => cases filled
  | cons slot rest ih =>
    cases slot with
    | none =>
      cases filled
      exact if_pos passes
    | some first =>
      rcases Option.map_eq_some_iff.mp filled with ⟨more, later, rfl⟩
      have fails := only first (by rw [List.reduceOption_cons_of_some]; exact List.mem_cons_self)
      unfold take
      rw [if_neg (Bool.eq_false_iff.mp fails), ih later (fun held live => only held ?_)]
      · rfl
      · rw [List.reduceOption_cons_of_some]
        exact List.mem_cons_of_mem first live

end SlotTable

end MediaTransport.Library
