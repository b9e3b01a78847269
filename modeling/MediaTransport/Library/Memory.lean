import Mathlib.Data.List.GetD
import Mathlib.Tactic

namespace MediaTransport.Library

/-!
# Stores into a flat memory

A memory is a total function of places.  A store replaces a run of places by
listed values.  A write fixes the contents of some places and leaves the rest
alone; writes to disjoint places may be exchanged, so a list of pairwise
disjoint writes has one result whatever their order.
-/

variable {Value : Type*}

/-! ## Writes -/

/-- The change fixes exactly the given places, whatever they held before. -/
structure Writes (places : Nat -> Prop) (write : (Nat -> Value) -> Nat -> Value) : Prop where
  outside : forall memory position, ¬ places position -> write memory position = memory position
  inside : forall first second position, places position ->
    write first position = write second position

section

variable {left right : Nat -> Prop} {first second : (Nat -> Value) -> Nat -> Value}
    (before : Writes left first) (after : Writes right second)

include before after

/-- One write after another. -/
theorem Writes.comp :
    Writes (fun position => left position ∨ right position)
      (fun memory => second (first memory)) where
  outside memory position outside := by
    rw [after.outside _ _ (fun written => outside (Or.inr written)),
      before.outside _ _ (fun written => outside (Or.inl written))]
  inside one other position written := by
    by_cases later : right position
    · exact after.inside _ _ _ later
    · rw [after.outside _ _ later, after.outside _ _ later]
      exact before.inside _ _ _ (written.resolve_right later)

/-- Writes to disjoint places commute. -/
theorem Writes.comm
    (disjoint : forall position, left position -> ¬ right position) (memory : Nat -> Value) :
    second (first memory) = first (second memory) := by
  funext position
  by_cases early : left position
  · rw [after.outside _ _ (disjoint position early)]
    exact before.inside _ _ _ early
  · rw [before.outside _ _ early]
    by_cases late : right position
    · exact after.inside _ _ _ late
    · rw [after.outside _ _ late, after.outside _ _ late, before.outside _ _ early]

end

/-- Pairwise disjoint writes have one result in every order. -/
theorem foldl_writes_perm {Index : Type*} {places : Index -> Nat -> Prop}
    {write : Index -> (Nat -> Value) -> Nat -> Value} {order other : List Index}
    (perm : order.Perm other) (each : ∀ index ∈ order, Writes (places index) (write index))
    (disjoint : ∀ first ∈ order, ∀ second ∈ order, first ≠ second ->
      forall position, places first position -> ¬ places second position)
    (memory : Nat -> Value) :
    order.foldl (fun memory index => write index memory) memory =
      other.foldl (fun memory index => write index memory) memory := by
  apply perm.foldl_eq'
  intro first firstMember second secondMember memory
  by_cases same : first = second
  · rw [same]
  · exact (each first firstMember).comm (each second secondMember)
      (disjoint first firstMember second secondMember same) memory

/-! ## Stores -/

variable [Inhabited Value]

variable (memory : Nat -> Value)

/-- The memory after storing the values from `place` on. -/
def store (place : Nat) (values : List Value) : Nat -> Value :=
  fun position =>
    if place ≤ position ∧ position < place + values.length then
      values.getD (position - place) default
    else
      memory position

theorem store_inside {place position : Nat} {values : List Value} (lower : place ≤ position)
    (upper : position < place + values.length) :
    store memory place values position = values.getD (position - place) default := by
  rw [store, if_pos ⟨lower, upper⟩]

theorem store_outside {place position : Nat} {values : List Value}
    (outside : position < place ∨ place + values.length ≤ position) :
    store memory place values position = memory position := by
  rw [store, if_neg (by omega)]

theorem store_writes (place : Nat) (values : List Value) :
    Writes (fun position => place ≤ position ∧ position < place + values.length)
      (fun memory => store memory place values) where
  outside memory position outside := by rw [store, if_neg outside]
  inside first second position inside := by rw [store, store, if_pos inside, if_pos inside]

theorem store_append (place : Nat) (left right : List Value) :
    store memory place (left ++ right) = store (store memory place left) (place + left.length) right := by
  funext position
  have behind := List.getD_append_right left right default (position - place)
  have before := List.getD_append left right default (position - place)
  unfold store
  grind

end MediaTransport.Library
