import Mathlib.Tactic

namespace MediaTransport.Library

/-!
# Entries by key, and entries that count

A keyed list has at most one entry of a key.  An entry is changed at its place, comes
to the end when it is new, and is taken out when its change says so.  A tally is a
keyed list in which each entry carries a positive count.
-/

variable {Entry Key : Type*} [DecidableEq Key]

/-- The first entry of a key is changed, or a fresh one comes to the end. -/
def upsert (key : Entry -> Key) (own : Key) (change : Entry -> Entry) (fresh : Entry) :
    List Entry -> List Entry
  | [] => [fresh]
  | entry :: rest =>
    if key entry = own then change entry :: rest
    else entry :: upsert key own change fresh rest

/-- The first entry of a key is changed, or taken out. -/
def amend (key : Entry -> Key) (own : Key) (change : Entry -> Option Entry) : List Entry -> List Entry
  | [] => []
  | entry :: rest =>
    if key entry = own then (change entry).toList ++ rest
    else entry :: amend key own change rest

section Keyed

variable {key : Entry -> Key} {own : Key}

/-- With unique keys, the entry of the key is the changed one, or the fresh one when there was none. -/
theorem mem_upsert {change : Entry -> Entry} {fresh : Entry} {entries : List Entry}
    (nodup : (entries.map key).Nodup) (entry : Entry) :
    entry ∈ upsert key own change fresh entries ↔
      (entry ∈ entries ∧ key entry ≠ own) ∨
        (exists old, old ∈ entries ∧ key old = own ∧ entry = change old) ∨
        ((∀ old ∈ entries, key old ≠ own) ∧ entry = fresh) := by
  induction entries with
  | nil => simp [upsert]
  | cons head rest ih =>
    rw [List.map_cons, List.nodup_cons] at nodup
    by_cases same : key head = own
    · have others : ∀ old ∈ rest, key old ≠ own := by
        intro old member clash
        exact nodup.1 (List.mem_map.mpr ⟨old, member, clash.trans same.symm⟩)
      rw [upsert, if_pos same, List.mem_cons]
      constructor
      · rintro (rfl | member)
        · exact .inr (.inl ⟨head, List.mem_cons_self, same, rfl⟩)
        · exact .inl ⟨List.mem_cons_of_mem _ member, others entry member⟩
      · rintro (⟨member, apart⟩ | ⟨old, member, sameOld, rfl⟩ | ⟨none, -⟩)
        · rcases List.mem_cons.mp member with rfl | later
          · exact absurd same apart
          · exact .inr later
        · rcases List.mem_cons.mp member with rfl | later
          · exact .inl rfl
          · exact absurd sameOld (others old later)
        · exact absurd same (none head List.mem_cons_self)
    · rw [upsert, if_neg same, List.mem_cons, ih nodup.2]
      constructor
      · rintro (rfl | ⟨member, apart⟩ | ⟨old, member, sameOld, rfl⟩ | ⟨none, rfl⟩)
        · exact .inl ⟨List.mem_cons_self, same⟩
        · exact .inl ⟨List.mem_cons_of_mem _ member, apart⟩
        · exact .inr (.inl ⟨old, List.mem_cons_of_mem _ member, sameOld, rfl⟩)
        · refine .inr (.inr ⟨?_, rfl⟩)
          intro old member
          rcases List.mem_cons.mp member with rfl | later
          · exact same
          · exact none old later
      · rintro (⟨member, apart⟩ | ⟨old, member, sameOld, rfl⟩ | ⟨none, rfl⟩)
        · rcases List.mem_cons.mp member with rfl | later
          · exact .inl rfl
          · exact .inr (.inl ⟨later, apart⟩)
        · rcases List.mem_cons.mp member with rfl | later
          · exact absurd sameOld same
          · exact .inr (.inr (.inl ⟨old, later, sameOld, rfl⟩))
        · exact .inr (.inr (.inr ⟨fun old member => none old (List.mem_cons_of_mem _ member), rfl⟩))

section

variable {change : Entry -> Entry} {fresh : Entry}
    (keeps : forall entry, key (change entry) = key entry) (named : key fresh = own)

include keeps named

/-- The keys are those that were there, and the key of the entry at the end when it is new. -/
theorem map_upsert (entries : List Entry) :
    (upsert key own change fresh entries).map key =
      if own ∈ entries.map key then entries.map key else entries.map key ++ [own] := by
  induction entries with
  | nil => simp [upsert, named]
  | cons head rest ih =>
    by_cases same : key head = own
    · rw [upsert, if_pos same, List.map_cons, List.map_cons, keeps, if_pos (by simp [same])]
    · rw [upsert, if_neg same, List.map_cons, ih, List.map_cons]
      by_cases later : own ∈ rest.map key
      · rw [if_pos later, if_pos (List.mem_cons_of_mem _ later)]
      · rw [if_neg later, if_neg (by simpa [Ne.symm same] using later)]
        rfl

theorem nodup_upsert {entries : List Entry} (nodup : (entries.map key).Nodup) :
    ((upsert key own change fresh entries).map key).Nodup := by
  rw [map_upsert keeps named]
  split_ifs with known
  · exact nodup
  · rw [List.nodup_append]
    refine ⟨nodup, List.nodup_singleton own, ?_⟩
    intro old member other new
    rw [List.mem_singleton.mp new]
    rintro rfl
    exact known member

theorem length_upsert (entries : List Entry) :
    (upsert key own change fresh entries).length =
      if own ∈ entries.map key then entries.length else entries.length + 1 := by
  have keys := congrArg List.length (map_upsert keeps named entries)
  rw [List.length_map] at keys
  rw [keys]
  split_ifs
  · rw [List.length_map]
  · rw [List.length_append, List.length_map, List.length_singleton]

end

variable {change : Entry -> Option Entry}

/-- With unique keys, what is left of the key is what its change says. -/
theorem mem_amend {entries : List Entry} (nodup : (entries.map key).Nodup) (entry : Entry) :
    entry ∈ amend key own change entries ↔
      (entry ∈ entries ∧ key entry ≠ own) ∨
        exists old, old ∈ entries ∧ key old = own ∧ change old = some entry := by
  induction entries with
  | nil => simp [amend]
  | cons head rest ih =>
    rw [List.map_cons, List.nodup_cons] at nodup
    by_cases same : key head = own
    · have others : ∀ old ∈ rest, key old ≠ own := by
        intro old member clash
        exact nodup.1 (List.mem_map.mpr ⟨old, member, clash.trans same.symm⟩)
      rw [amend, if_pos same, List.mem_append, Option.mem_toList]
      constructor
      · rintro (left | member)
        · exact .inr ⟨head, List.mem_cons_self, same, left⟩
        · exact .inl ⟨List.mem_cons_of_mem _ member, others entry member⟩
      · rintro (⟨member, apart⟩ | ⟨old, member, sameOld, left⟩)
        · rcases List.mem_cons.mp member with rfl | later
          · exact absurd same apart
          · exact .inr later
        · rcases List.mem_cons.mp member with rfl | later
          · exact .inl left
          · exact absurd sameOld (others old later)
    · rw [amend, if_neg same, List.mem_cons, ih nodup.2]
      constructor
      · rintro (rfl | ⟨member, apart⟩ | ⟨old, member, sameOld, left⟩)
        · exact .inl ⟨List.mem_cons_self, same⟩
        · exact .inl ⟨List.mem_cons_of_mem _ member, apart⟩
        · exact .inr ⟨old, List.mem_cons_of_mem _ member, sameOld, left⟩
      · rintro (⟨member, apart⟩ | ⟨old, member, sameOld, left⟩)
        · rcases List.mem_cons.mp member with rfl | later
          · exact .inl rfl
          · exact .inr (.inl ⟨later, apart⟩)
        · rcases List.mem_cons.mp member with rfl | later
          · exact absurd sameOld same
          · exact .inr (.inr ⟨old, later, sameOld, left⟩)

/-- The keys that are left stand in the order in which they were. -/
theorem amend_sublist (keeps : forall old entry, change old = some entry -> key entry = key old)
    (entries : List Entry) :
    ((amend key own change entries).map key).Sublist (entries.map key) := by
  induction entries with
  | nil => exact List.Sublist.refl _
  | cons head rest ih =>
    by_cases same : key head = own
    · rw [amend, if_pos same]
      cases left : change head with
      | none => exact List.sublist_cons_self _ _
      | some entry =>
        rw [Option.toList_some, List.singleton_append, List.map_cons, List.map_cons, keeps head entry left]
    · rw [amend, if_neg same, List.map_cons, List.map_cons]
      exact ih.cons_cons _

/-- One entry goes where the change of the key's entry says so. -/
theorem length_amend {old : Entry} {entries : List Entry}
    (found : entries.find? (fun entry => decide (key entry = own)) = some old) :
    (amend key own change entries).length + 1 =
      entries.length + (change old).toList.length := by
  induction entries with
  | nil => cases found
  | cons head rest ih =>
    by_cases same : key head = own
    · rw [List.find?_cons_of_pos (by simpa using same)] at found
      obtain rfl := Option.some.inj found
      rw [amend, if_pos same, List.length_append, List.length_cons]
      omega
    · rw [List.find?_cons_of_neg (by simpa using same)] at found
      rw [amend, if_neg same, List.length_cons, List.length_cons]
      have shorter := ih found
      omega

end Keyed

/-! ## Tallies -/

/-- Each key that has a weight has one entry, which carries the weight. -/
structure Tallies (key : Entry -> Key) (cnt : Entry -> Nat) (weight : Key -> Nat) (entries : List Entry) :
    Prop where
  nodup : (entries.map key).Nodup
  counted : ∀ entry ∈ entries, cnt entry = weight (key entry) ∧ 0 < weight (key entry)
  listed : forall own, 0 < weight own -> exists entry, entry ∈ entries ∧ key entry = own

variable {key : Entry -> Key} {cnt : Entry -> Nat} {weight after : Key -> Nat} {entries : List Entry} {own : Key}

omit [DecidableEq Key] in
theorem Tallies.nil (empty : forall own, weight own = 0) : Tallies key cnt weight [] := by
  constructor
  · exact List.nodup_nil
  · intro entry member
    cases member
  · intro own positive
    rw [empty own] at positive
    cases positive

omit [DecidableEq Key] in
theorem Tallies.mem_keys (tallies : Tallies key cnt weight entries) (own : Key) :
    own ∈ entries.map key ↔ 0 < weight own := by
  constructor
  · intro member
    rcases List.mem_map.mp member with ⟨entry, present, rfl⟩
    exact (tallies.counted entry present).2
  · intro positive
    rcases tallies.listed own positive with ⟨entry, present, same⟩
    exact List.mem_map.mpr ⟨entry, present, same⟩

omit [DecidableEq Key] in
theorem Tallies.congr (tallies : Tallies key cnt weight entries) (same : forall own, after own = weight own) :
    Tallies key cnt after entries := by
  have equal : after = weight := funext same
  rw [equal]
  exact tallies

/-- One more of a key: its entry counts one more, or a fresh entry counts one. -/
theorem Tallies.upsert (tallies : Tallies key cnt weight entries) {change : Entry -> Entry} {fresh : Entry}
    (keeps : forall entry, key (change entry) = key entry) (named : key fresh = own) (one : cnt fresh = 1)
    (counts : ∀ entry ∈ entries, key entry = own -> cnt (change entry) = cnt entry + 1)
    (more : after own = weight own + 1) (others : ∀ other ≠ own, after other = weight other) :
    Tallies key cnt after (upsert key own change fresh entries) := by
  constructor
  · exact nodup_upsert keeps named tallies.nodup
  · intro entry member
    rcases (mem_upsert tallies.nodup entry).mp member with ⟨old, apart⟩ | ⟨old, present, same, rfl⟩ | ⟨none, rfl⟩
    · rw [others _ apart]
      exact tallies.counted entry old
    · rw [keeps, counts old present same, (tallies.counted old present).1, same, more]
      exact ⟨rfl, Nat.succ_pos _⟩
    · have zero : weight own = 0 := by
        by_contra positive
        rcases tallies.listed own (Nat.pos_of_ne_zero positive) with ⟨old, present, same⟩
        exact none old present same
      rw [named, one, more, zero]
      exact ⟨rfl, Nat.one_pos⟩
  · intro other positive
    apply List.mem_map.mp
    rw [map_upsert keeps named]
    by_cases same : other = own
    · rw [same]
      split_ifs with known
      · exact known
      · exact List.mem_append_right _ (List.mem_singleton.mpr rfl)
    · rw [others other same] at positive
      have known := (tallies.mem_keys other).mpr positive
      split_ifs
      · exact known
      · exact List.mem_append_left _ known

/-- One less of a key: its entry counts one less, and goes when it counted one. -/
theorem Tallies.amend (tallies : Tallies key cnt weight entries) {change : Entry -> Option Entry}
    (keeps : forall old entry, change old = some entry -> key entry = key old)
    (counts : ∀ old ∈ entries, key old = own ->
      (change old = none ∧ cnt old = 1) ∨ exists entry, change old = some entry ∧ cnt entry + 1 = cnt old ∧
        0 < cnt entry)
    (less : after own + 1 = weight own) (others : ∀ other ≠ own, after other = weight other) :
    Tallies key cnt after (amend key own change entries) := by
  constructor
  · exact tallies.nodup.sublist (amend_sublist keeps entries)
  · intro entry member
    rcases (mem_amend tallies.nodup entry).mp member with ⟨old, apart⟩ | ⟨old, present, same, left⟩
    · rw [others _ apart]
      exact tallies.counted entry old
    · rw [keeps old entry left, same]
      have weighed := (tallies.counted old present).1
      rw [same] at weighed
      rcases counts old present same with ⟨gone, -⟩ | ⟨remaining, stays, fewer, positive⟩
      · rw [left] at gone
        cases gone
      · obtain rfl : remaining = entry := Option.some.inj (stays.symm.trans left)
        omega
  · intro other positive
    by_cases same : other = own
    · rw [same] at positive
      rcases tallies.listed own (by omega) with ⟨old, present, named⟩
      have weighed := (tallies.counted old present).1
      rw [named] at weighed
      rcases counts old present named with ⟨-, one⟩ | ⟨remaining, stays, -, -⟩
      · omega
      · refine ⟨remaining, (mem_amend tallies.nodup remaining).mpr (.inr ⟨old, present, named, stays⟩), ?_⟩
        rw [keeps old remaining stays, named, same]
    · rw [others other same] at positive
      rcases tallies.listed other positive with ⟨old, present, named⟩
      refine ⟨old, (mem_amend tallies.nodup old).mpr (.inl ⟨present, ?_⟩), named⟩
      rw [named]
      exact same

/-- The entry of a key that has a weight. -/
theorem Tallies.find (tallies : Tallies key cnt weight entries) (positive : 0 < weight own) :
    exists old, entries.find? (fun entry => decide (key entry = own)) = some old ∧ old ∈ entries ∧
      key old = own ∧ cnt old = weight own := by
  rcases tallies.listed own positive with ⟨entry, present, same⟩
  cases found : entries.find? (fun entry => decide (key entry = own)) with
  | none =>
    have none := List.find?_eq_none.mp found entry present
    simp [same] at none
  | some old =>
    have named : key old = own :=
      of_decide_eq_true (List.find?_some (p := fun entry => decide (key entry = own)) found)
    have member := List.mem_of_find?_eq_some found
    refine ⟨old, rfl, member, named, ?_⟩
    rw [(tallies.counted old member).1, named]

end MediaTransport.Library
