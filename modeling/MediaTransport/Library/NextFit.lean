import Mathlib.Tactic

namespace MediaTransport.Library

/-!
# Cutting a list into runs of bounded size

Items with sizes are put into bins in their order; a bin takes items until the
next one does not fit, and is then closed.  No cut into consecutive runs of
bounded size needs fewer bins than this one.
-/

variable {Item : Type*} (size : Item -> Nat)

def total (items : List Item) : Nat := (items.map size).sum

/-- The items from the front that fit into the room, up to the first that does not. -/
def fill : (room : Nat) -> List Item -> List Item
  | _, [] => []
  | room, item :: rest => if size item ≤ room then item :: fill (room - size item) rest else []

/-- The contents of the first bins. -/
def cut (limit : Nat) : (bins : Nat) -> List Item -> List (List Item)
  | 0, _ => []
  | bins + 1, items =>
    fill size limit items :: cut limit bins (items.drop (fill size limit items).length)

/-- The list is a sequence of so many runs at most, none of which exceeds the limit. -/
def Cuttable (limit bins : Nat) (items : List Item) : Prop :=
  Exists fun runs : List (List Item) => runs.flatten = items ∧ runs.length ≤ bins ∧
    ∀ one ∈ runs, total size one ≤ limit

variable {size}

theorem total_cons (item : Item) (rest : List Item) :
    total size (item :: rest) = size item + total size rest := rfl

theorem total_append (first second : List Item) :
    total size (first ++ second) = total size first + total size second := by
  unfold total
  rw [List.map_append, List.sum_append]

theorem total_fill_le (room : Nat) (items : List Item) : total size (fill size room items) ≤ room := by
  induction items generalizing room with
  | nil => exact Nat.zero_le room
  | cons item rest ih =>
    rw [fill]
    split
    · next fits =>
        rw [total_cons]
        have bound := ih (room - size item)
        omega
    · exact Nat.zero_le room

theorem fill_append_drop (room : Nat) (items : List Item) :
    fill size room items ++ items.drop (fill size room items).length = items := by
  induction items generalizing room with
  | nil => rfl
  | cons item rest ih =>
    rw [fill]
    split
    · rw [List.cons_append, List.length_cons, List.drop_succ_cons, ih]
    · rfl

theorem length_le_fill {room : Nat} (first rest : List Item) (fits : total size first ≤ room) :
    first.length ≤ (fill size room (first ++ rest)).length := by
  induction first generalizing room with
  | nil => exact Nat.zero_le _
  | cons item others ih =>
    rw [total_cons] at fits
    rw [List.cons_append, fill, if_pos (by omega), List.length_cons, List.length_cons]
    exact Nat.succ_le_succ (ih (by omega))

theorem length_cut (limit bins : Nat) (items : List Item) : (cut size limit bins items).length = bins := by
  induction bins generalizing items with
  | zero => rfl
  | succ bins ih => rw [cut, List.length_cons, ih]

theorem total_cut_le {limit bins : Nat} {items one : List Item}
    (member : one ∈ cut size limit bins items) : total size one ≤ limit := by
  induction bins generalizing items with
  | zero => exact absurd member List.not_mem_nil
  | succ bins ih =>
    rw [cut] at member
    rcases List.mem_cons.mp member with first | later
    · rw [first]
      exact total_fill_le limit items
    · exact ih later

theorem cut_succ (limit bins : Nat) (items : List Item) :
    cut size limit (bins + 1) items = cut size limit bins items ++
      [fill size limit (items.drop (cut size limit bins items).flatten.length)] := by
  induction bins generalizing items with
  | zero => rfl
  | succ bins ih =>
    rw [cut, ih, cut, List.cons_append, List.flatten_cons, List.length_append, List.drop_drop]

theorem total_drop_le (count : Nat) (items : List Item) :
    total size (items.drop count) ≤ total size items := by
  have split := @total_append Item size (items.take count) (items.drop count)
  rw [List.take_append_drop] at split
  omega

/-- Leaving out items at the front needs no more runs. -/
theorem Cuttable.drop {limit bins : Nat} {items : List Item} (cuttable : Cuttable size limit bins items)
    (count : Nat) : Cuttable size limit bins (items.drop count) := by
  rcases cuttable with ⟨runs, whole, few, small⟩
  induction runs generalizing bins items count with
  | nil => exact ⟨[], by rw [← whole]; simp, Nat.zero_le bins, fun one absurd => (by cases absurd)⟩
  | cons first rest ih =>
    rw [List.length_cons] at few
    rw [List.flatten_cons] at whole
    by_cases inside : count ≤ first.length
    · refine ⟨first.drop count :: rest, ?_, few, ?_⟩
      · rw [← whole, List.flatten_cons, List.drop_append_of_le_length inside]
      · intro one member
        rcases List.mem_cons.mp member with head | tail
        · rw [head]
          exact Nat.le_trans (total_drop_le count first) (small first List.mem_cons_self)
        · exact small one (List.mem_cons_of_mem first tail)
    · have shorter := ih (count - first.length) rfl (Nat.le_sub_one_of_lt few)
        (fun one member => small one (List.mem_cons_of_mem first member))
      rcases shorter with ⟨runs, cover, fewer, bound⟩
      refine ⟨runs, ?_, by omega, bound⟩
      have gone : first.drop count = [] := List.drop_eq_nil_of_le (by omega)
      rw [cover, ← whole, List.drop_append, gone, List.nil_append]

/-- The bins take the whole list exactly when some cut into as many runs does. -/
theorem cut_flatten_iff (limit bins : Nat) (items : List Item) :
    (cut size limit bins items).flatten = items <-> Cuttable size limit bins items := by
  constructor
  · intro whole
    exact ⟨cut size limit bins items, whole, Nat.le_of_eq (length_cut limit bins items),
      fun one member => total_cut_le member⟩
  · intro cuttable
    induction bins generalizing items with
    | zero =>
      rcases cuttable with ⟨runs, whole, few, -⟩
      rw [List.length_eq_zero_iff.mp (Nat.le_zero.mp few)] at whole
      exact whole
    | succ bins ih =>
      rw [cut, List.flatten_cons, ih, fill_append_drop]
      rcases cuttable with ⟨runs, whole, few, small⟩
      cases runs with
      | nil =>
        refine ⟨[], ?_, Nat.zero_le bins, fun one absurd => (by cases absurd)⟩
        rw [← whole]
        simp
      | cons first rest =>
        rw [List.flatten_cons] at whole
        -- the first bin holds at least the first run, so the rest is a tail of the other runs
        have longer := @length_le_fill Item size limit first rest.flatten
          (small first List.mem_cons_self)
        rw [whole] at longer
        have others : Cuttable size limit bins rest.flatten :=
          ⟨rest, rfl, Nat.le_of_succ_le_succ few,
            fun one member => small one (List.mem_cons_of_mem first member)⟩
        have tail : items.drop (fill size limit items).length =
            rest.flatten.drop ((fill size limit items).length - first.length) := by
          generalize (fill size limit items).length = filled at longer
          rw [← whole, List.drop_append, List.drop_eq_nil_of_le longer, List.nil_append]
        rw [tail]
        exact others.drop _

end MediaTransport.Library
