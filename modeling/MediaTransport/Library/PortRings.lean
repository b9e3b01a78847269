import Mathlib.Logic.Function.Basic

namespace MediaTransport.Library

/-!
# Rings with an item that waits

A sender gives the items to the rings of its ports.  An item that a full ring refuses waits, and goes
first the next time.  So what was given to a port, on its ring or waiting, only grows at its end.
-/

section PortRings

variable {Port Item View : Type} (wire : Port -> List Item) (inflight : Port -> Option Item)

/-- All that was given to a port: what its ring has taken, and the item that waits. -/
def givenTo (port : Port) : List Item := wire port ++ (inflight port).toList

variable {wire inflight} {port : Port} {item : Item}

theorem givenTo_sent {view : Item -> View} {items : List View}
    (same : (givenTo wire inflight port).map view = items)
    {index : Nat} (found : (wire port)[index]? = some item) : items[index]? = some (view item) := by
  have inside : index < (wire port).length := (List.getElem?_eq_some_iff.mp found).1
  rw [← same, List.getElem?_map]
  unfold givenTo
  rw [List.getElem?_append_left inside, found]
  rfl

variable [DecidableEq Port]

/-- The item that waited is on the ring now. -/
theorem givenTo_flush (kept : inflight port = some item) :
    givenTo (Function.update wire port (wire port ++ [item])) (Function.update inflight port none) =
      givenTo wire inflight := by
  funext other
  unfold givenTo
  by_cases own : other = port
  · subst own
    rw [Function.update_self, Function.update_self, kept]
    exact List.append_nil _
  · rw [Function.update_of_ne own, Function.update_of_ne own]

theorem givenTo_put (clear : inflight port = none) :
    givenTo (Function.update wire port (wire port ++ [item])) inflight =
      Function.update (givenTo wire inflight) port (givenTo wire inflight port ++ [item]) := by
  funext other
  by_cases own : other = port
  · subst own
    simp [givenTo, clear]
  · simp [givenTo, own]

theorem givenTo_keep (clear : inflight port = none) :
    givenTo wire (Function.update inflight port (some item)) =
      Function.update (givenTo wire inflight) port (givenTo wire inflight port ++ [item]) := by
  funext other
  by_cases own : other = port
  · subst own
    simp [givenTo, clear]
  · simp [givenTo, own]

end PortRings

/-- What holds of the items at their places still holds when one more comes that it holds of. -/
theorem forall_places_concat {Item : Type} {holds : Nat -> Item -> Prop} {items : List Item} {last : Item}
    (all : forall (index : Nat) (item : Item), items[index]? = some item -> holds index item)
    (new : holds items.length last) (index : Nat) (item : Item)
    (found : (items ++ [last])[index]? = some item) : holds index item := by
  rcases Nat.lt_trichotomy index items.length with earlier | here | later
  · rw [List.getElem?_append_left earlier] at found
    exact all index item found
  · rw [here, List.getElem?_concat_length] at found
    rw [here, ← Option.some.inj found]
    exact new
  · rw [List.getElem?_eq_none (by rw [List.length_append, List.length_singleton]; omega)] at found
    cases found

end MediaTransport.Library
