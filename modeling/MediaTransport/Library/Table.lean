import Mathlib.Tactic

namespace MediaTransport.Library

/-!
# Tables of entries

A table is a list whose entries are replaced at their places.  Replacing one entry
leaves the others where they are, and moves every count by the difference that the
entry makes.
-/

variable {Entry : Type*}

theorem getElem?_replace {entries : List Entry} {idx : Nat} {old : Entry}
    (present : entries[idx]? = some old) (new : Entry) (place : Nat) :
    (entries.set idx new)[place]? = if place = idx then some new else entries[place]? := by
  rw [List.getElem?_set]
  by_cases same : idx = place
  · subst same
    simp [(List.getElem?_eq_some_iff.mp present).1]
  · rw [if_neg same, if_neg (Ne.symm same)]

theorem getElem?_replace_cases {entries : List Entry} {idx place : Nat} {old new entry : Entry}
    (present : entries[idx]? = some old) (found : (entries.set idx new)[place]? = some entry) :
    (place = idx ∧ entry = new) ∨ (place ≠ idx ∧ entries[place]? = some entry) := by
  rw [getElem?_replace present] at found
  by_cases same : place = idx
  · rw [if_pos same] at found
    exact .inl ⟨same, (Option.some.inj found).symm⟩
  · rw [if_neg same] at found
    exact .inr ⟨same, found⟩

/-- Replacing one entry of a list moves its count by the difference of the entry. -/
theorem countP_replace (test : Entry -> Bool) {entries : List Entry} {idx : Nat}
    {old : Entry} (present : entries[idx]? = some old) (new : Entry) :
    (entries.set idx new).countP test + (test old).toNat =
      entries.countP test + (test new).toNat := by
  induction entries generalizing idx with
  | nil => simp at present
  | cons head rest ih =>
    cases idx with
    | zero =>
      have same : head = old := by simpa using present
      subst same
      cases first : test head <;> cases second : test new <;>
        simp [first, second]
    | succ idx =>
      have shifted := ih (by simpa using present)
      simp only [List.set_cons_succ, List.countP_cons]
      omega

/-- Replacing one entry of a list moves a sum over it by the difference of the entry. -/
theorem sum_replace {Weight : Type*} [AddCommMonoid Weight] (weight : Entry -> Weight)
    {entries : List Entry} {idx : Nat} {old : Entry} (present : entries[idx]? = some old) (new : Entry) :
    ((entries.set idx new).map weight).sum + weight old = (entries.map weight).sum + weight new := by
  induction entries generalizing idx with
  | nil => simp at present
  | cons head rest ih =>
    cases idx with
    | zero =>
      have same : head = old := by simpa using present
      subst same
      simp only [List.set_cons_zero, List.map_cons, List.sum_cons]
      rw [add_right_comm, add_comm (weight new), add_right_comm, add_right_comm]
    | succ idx =>
      have shifted := ih (by simpa using present)
      simp only [List.set_cons_succ, List.map_cons, List.sum_cons]
      rw [add_assoc, shifted, add_assoc]

theorem map_replace {View : Type*} (view : Entry -> View) {entries : List Entry} {idx : Nat}
    {old new : Entry} (present : entries[idx]? = some old) (same : view new = view old) :
    (entries.set idx new).map view = entries.map view := by
  induction entries generalizing idx with
  | nil => cases present
  | cons head rest ih =>
    cases idx with
    | zero =>
      obtain rfl := Option.some.inj present
      rw [List.set_cons_zero, List.map_cons, List.map_cons, same]
    | succ idx =>
      rw [List.set_cons_succ, List.map_cons, List.map_cons, ih present]

end MediaTransport.Library
