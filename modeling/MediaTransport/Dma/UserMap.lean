import Mathlib
import MediaTransport.Library.Run
import MediaTransport.Library.SlotTable
import MediaTransport.Util.Errno

namespace MediaTransport.Dma

open Library

/-!
# The map of user memory

`mt_map_add` enters a range of user memory in a table and gives it IO virtual
addresses behind those of every live item; `mt_map_remove` takes it out again.
The virtual range is checked not to run around the address space.  The IO
virtual range is not, so the live items are apart in both spaces as long as
the next base and the size stay below 2^64.
-/

variable {answer : MapAnswer} {mgr : MtMapMgr} {top : BitVec 64}

/-! ## The table -/

/-- `struct mt_map_item`. -/
structure MtMapItem where
  vaddr : BitVec 64
  size : BitVec 64
  iova : BitVec 64
  deriving DecidableEq, Repr

/-- `MT_MAP_MAX_ITEMS`. -/
def mtMapMaxItems : Nat := 256

/-- `struct mt_map_mgr`. -/
structure MtMapMgr where
  items : List (Option MtMapItem)
  length_items : items.length = mtMapMaxItems

namespace MtMapItem

def stop (item : MtMapItem) : BitVec 64 := item.vaddr + item.size

def iovaEnd (item : MtMapItem) : BitVec 64 := item.iova + item.size

/-- The conflict test of `mt_map_add`. -/
def Overlaps (item other : MtMapItem) : Prop := item.vaddr < other.stop ∧ other.vaddr < item.stop

instance (item other : MtMapItem) : Decidable (item.Overlaps other) :=
  inferInstanceAs (Decidable (_ ∧ _))

/-- The comparison of `mt_map_remove`. -/
def sameItem (item other : MtMapItem) : Bool :=
  decide (item.vaddr = other.vaddr ∧ item.stop = other.stop ∧ item.iova = other.iova)

end MtMapItem

namespace MtMapMgr

def empty : MtMapMgr where
  items := List.replicate mtMapMaxItems none
  length_items := List.length_replicate

def live (mgr : MtMapMgr) : List MtMapItem := mgr.items.reduceOption

end MtMapMgr

/-- `UINTPTR_MAX`. -/
def uintptrMax : Nat := 18446744073709551615

def userIovaStart : BitVec 64 := 0x10000

/-- The scan of `mt_map_add`: `none` for a conflict, and otherwise the highest
end of the IO virtual ranges. -/
def mapScan (item : MtMapItem) : BitVec 64 -> List (Option MtMapItem) -> Option (BitVec 64)
  | iovaBase, [] => some iovaBase
  | iovaBase, none :: rest => mapScan item iovaBase rest
  | iovaBase, some other :: rest =>
    if item.Overlaps other then
      none
    else
      mapScan item (if iovaBase < other.iovaEnd then other.iovaEnd else iovaBase) rest

structure MapAnswer where
  mgr : MtMapMgr
  /-- The caller's item, which gets the IO virtual address. -/
  item : MtMapItem
  ret : Except Errno Unit

/-- `mt_map_add`; `memory` says whether the new entry can be allocated. -/
def mtMapAdd (mgr : MtMapMgr) (item : MtMapItem) (memory : Bool) : MapAnswer :=
  if uintptrMax - item.vaddr.toNat < item.size.toNat then
    { mgr := mgr, item := item, ret := .error .inval }
  else
    match mapScan item userIovaStart mgr.items with
    | none => { mgr := mgr, item := item, ret := .error .inval }
    | some iovaBase =>
      let item := { item with iova := iovaBase }
      match filled : SlotTable.put item mgr.items with
      | none => { mgr := mgr, item := item, ret := .error .io }
      | some items =>
        if memory then
          { mgr := ⟨items, (SlotTable.put_length filled).trans mgr.length_items⟩
            item := item
            ret := .ok () }
        else
          { mgr := mgr, item := item, ret := .error .inval }

/-- `mt_map_remove`. -/
def mtMapRemove (mgr : MtMapMgr) (item : MtMapItem) : MtMapMgr × Except Errno Unit :=
  match emptied : SlotTable.take item.sameItem mgr.items with
  | none => (mgr, .error .io)
  | some items => (⟨items, (SlotTable.take_length emptied).trans mgr.length_items⟩, .ok ())

/-! ## Ranges -/

namespace MtMapItem

def virtual (item : MtMapItem) : Set Nat := Set.Ico item.vaddr.toNat (item.vaddr.toNat + item.size.toNat)

def device (item : MtMapItem) : Set Nat := Set.Ico item.iova.toNat (item.iova.toNat + item.size.toNat)

def Straight (item : MtMapItem) : Prop := item.vaddr.toNat + item.size.toNat < 18446744073709551616

theorem straight_iff (item : MtMapItem) :
    item.Straight <-> ¬ uintptrMax - item.vaddr.toNat < item.size.toNat := by
  unfold Straight uintptrMax
  omega

theorem Straight.toNat_stop {item : MtMapItem} (straight : item.Straight) :
    item.stop.toNat = item.vaddr.toNat + item.size.toNat := by
  unfold Straight at straight
  rw [stop, BitVec.toNat_add]
  omega

section

variable {item other : MtMapItem}

theorem Overlaps.symm (overlap : item.Overlaps other) : other.Overlaps item :=
  ⟨overlap.2, overlap.1⟩

theorem disjoint_virtual (first : item.Straight) (second : other.Straight)
    (apart : ¬ item.Overlaps other) : Disjoint item.virtual other.virtual := by
  rw [Set.disjoint_left]
  rintro address ⟨low, high⟩ ⟨otherLow, below⟩
  apply apart
  rw [Overlaps, BitVec.lt_def, BitVec.lt_def, first.toNat_stop, second.toNat_stop]
  omega

theorem sameItem_iff : item.sameItem other = true <-> item = other := by
  unfold sameItem
  rw [decide_eq_true_eq]
  constructor
  · rintro ⟨vaddr, ends, iova⟩
    have size : item.size = other.size := by
      rw [stop, stop, vaddr] at ends
      exact (BitVec.add_right_inj other.vaddr).mp ends
    cases item
    cases other
    simp_all
  · rintro rfl
    exact ⟨rfl, rfl, rfl⟩

end

end MtMapItem

/-! ## The scan -/

variable {item : MtMapItem}

theorem mapScan_isSome {iovaBase : BitVec 64} {slots : List (Option MtMapItem)} :
    (mapScan item iovaBase slots).isSome = true <->
      ∀ other ∈ slots.reduceOption, ¬ item.Overlaps other := by
  induction slots generalizing iovaBase with
  | nil => simp [mapScan]
  | cons slot rest ih =>
    cases slot with
    | none =>
      rw [List.reduceOption_cons_of_none, ← ih]
      rfl
    | some first =>
      rw [List.reduceOption_cons_of_some, List.forall_mem_cons]
      unfold mapScan
      split
      · next overlap => exact iff_of_false nofun (fun all => all.1 overlap)
      · next apart => rw [ih, and_iff_right apart]

/-- The scan gives an upper bound of the ends, which is one of them or where it
started. -/
structure ScanTop (iovaBase top : BitVec 64) (live : List MtMapItem) : Prop where
  base : iovaBase ≤ top
  above : ∀ other ∈ live, other.iovaEnd ≤ top
  reached : top = iovaBase ∨ Exists fun other => other ∈ live ∧ top = other.iovaEnd

theorem mapScan_top {item : MtMapItem} {iovaBase : BitVec 64} {slots : List (Option MtMapItem)}
    (scanned : mapScan item iovaBase slots = some top) : ScanTop iovaBase top slots.reduceOption := by
  induction slots generalizing iovaBase with
  | nil =>
    cases scanned
    exact ⟨BitVec.le_refl _, (fun _ member => nomatch member), Or.inl rfl⟩
  | cons slot rest ih =>
    cases slot with
    | none =>
      rw [List.reduceOption_cons_of_none]
      exact ih scanned
    | some first =>
      rw [List.reduceOption_cons_of_some]
      unfold mapScan at scanned
      split at scanned
      · cases scanned
      · have later := ih scanned
        set next := if iovaBase < first.iovaEnd then first.iovaEnd else iovaBase with next_def
        have grown : iovaBase ≤ next ∧ first.iovaEnd ≤ next := by
          rw [next_def]
          split
          · next less => exact ⟨BitVec.le_of_lt less, BitVec.le_refl _⟩
          · next least => exact ⟨BitVec.le_refl _, BitVec.not_lt.mp least⟩
        refine ⟨BitVec.le_trans grown.1 later.base, ?_, ?_⟩
        · intro other member
          rcases List.mem_cons.mp member with rfl | member
          · exact BitVec.le_trans grown.2 later.base
          · exact later.above other member
        · rcases later.reached with same | ⟨other, member, same⟩
          · rw [same, next_def]
            split
            · exact Or.inr ⟨first, List.mem_cons_self, rfl⟩
            · exact Or.inl rfl
          · exact Or.inr ⟨other, List.mem_cons_of_mem first member, same⟩

/-! ## What a call does -/

/-- What a successful `mt_map_add` does. -/
structure Added (mgr : MtMapMgr) (item : MtMapItem) (answer : MapAnswer) (top : BitVec 64) : Prop where
  straight : item.Straight
  apart : ∀ other ∈ mgr.live, ¬ item.Overlaps other
  scanned : ScanTop userIovaStart top mgr.live
  item : answer.item = { item with iova := top }
  filled : SlotTable.put answer.item mgr.items = some answer.mgr.items

theorem mtMapAdd_cases (mgr : MtMapMgr) (item : MtMapItem) (memory : Bool) :
    ((mtMapAdd mgr item memory).ret ≠ .ok () ∧ (mtMapAdd mgr item memory).mgr = mgr ∧
      (memory = true -> none ∈ mgr.items -> item.Straight ->
        Exists fun other => other ∈ mgr.live ∧ item.Overlaps other)) ∨
    ((mtMapAdd mgr item memory).ret = .ok () ∧ memory = true ∧ none ∈ mgr.items ∧
      Exists fun top => Added mgr item (mtMapAdd mgr item memory) top) := by
  unfold mtMapAdd
  by_cases straight : item.Straight
  · rw [if_neg (item.straight_iff.mp straight)]
    cases scanned : mapScan item userIovaStart mgr.items with
    | none =>
      refine Or.inl ⟨nofun, rfl, fun _ _ _ => ?_⟩
      by_contra apart
      have found := (@mapScan_isSome item userIovaStart mgr.items).mpr
        (fun other member overlap => apart ⟨other, member, overlap⟩)
      rw [scanned] at found
      cases found
    | some top =>
      dsimp only
      split
      · next full =>
          refine Or.inl ⟨nofun, rfl, fun _ free _ => ?_⟩
          have filled := (@SlotTable.put_isSome _ { item with iova := top } mgr.items).mpr free
          rw [full] at filled
          cases filled
      · next items filled =>
          have free := SlotTable.put_isSome.mp (Option.isSome_of_eq_some filled)
          cases memory with
          | false => exact Or.inl ⟨nofun, rfl, nofun⟩
          | true =>
            exact Or.inr ⟨rfl, rfl, free, top, straight,
              mapScan_isSome.mp (Option.isSome_of_eq_some scanned), mapScan_top scanned, rfl, filled⟩
  · rw [if_pos (by_contra fun fits => straight (item.straight_iff.mpr fits))]
    exact Or.inl ⟨nofun, rfl, fun _ _ held => absurd held straight⟩

theorem mtMapAdd_of_room {item : MtMapItem} (free : none ∈ mgr.items)
    (straight : item.Straight) (apart : ∀ other ∈ mgr.live, ¬ item.Overlaps other) :
    (mtMapAdd mgr item true).ret = .ok () := by
  rcases mtMapAdd_cases mgr item true with ⟨_, _, blocked⟩ | ⟨added, _⟩
  · rcases blocked rfl free straight with ⟨other, member, overlap⟩
    exact absurd overlap (apart other member)
  · exact added

theorem Added.live {item : MtMapItem}
    (added : Added mgr item answer top) : answer.mgr.live.Perm (answer.item :: mgr.live) :=
  SlotTable.put_live added.filled

/-- What a successful `mt_map_remove` does. -/
structure Removed (mgr : MtMapMgr) (item : MtMapItem) (after : MtMapMgr) : Prop where
  free : none ∈ after.items
  live : mgr.live.Perm (item :: after.live)

theorem mtMapRemove_cases (mgr : MtMapMgr) (item : MtMapItem) :
    (item ∉ mgr.live ∧ mtMapRemove mgr item = (mgr, .error .io)) ∨
    (item ∈ mgr.live ∧ (mtMapRemove mgr item).2 = .ok () ∧
      SlotTable.take item.sameItem mgr.items = some (mtMapRemove mgr item).1.items ∧
      Removed mgr item (mtMapRemove mgr item).1) := by
  have found := @SlotTable.take_isSome _ item.sameItem mgr.items
  unfold mtMapRemove
  split
  · next missing =>
      rw [missing] at found
      refine Or.inl ⟨fun member => ?_, rfl⟩
      exact nomatch found.mpr ⟨item, member, MtMapItem.sameItem_iff.mpr rfl⟩
  · next items emptied =>
      rcases SlotTable.take_live emptied with ⟨free, held, passes, live⟩
      obtain rfl := MtMapItem.sameItem_iff.mp passes
      exact Or.inr ⟨live.mem_iff.mpr List.mem_cons_self, rfl, emptied, free, live⟩

/-! ## Runs -/

inductive MapCall where
  | add (item : MtMapItem) (memory : Bool)
  | remove (item : MtMapItem)

def mapStep (mgr : MtMapMgr) : MapCall -> MtMapMgr
  | .add item memory => (mtMapAdd mgr item memory).mgr
  | .remove item => (mtMapRemove mgr item).1

/-- A range that can be entered fits behind the IO virtual ranges of the live
items, and behind 64K, in less than 2^64. -/
def MapCall.Fits (mgr : MtMapMgr) : MapCall -> Prop
  | .add item memory =>
    memory = true -> none ∈ mgr.items -> item.Straight ->
      (∀ other ∈ mgr.live, ¬ item.Overlaps other) ->
      userIovaStart.toNat + item.size.toNat < 18446744073709551616 ∧
        ∀ other ∈ mgr.live,
          other.iova.toNat + other.size.toNat + item.size.toNat < 18446744073709551616
  | .remove _ => True

def MtMapItem.Inside (item : MtMapItem) : Prop :=
  userIovaStart.toNat ≤ item.iova.toNat ∧ item.iova.toNat + item.size.toNat < 18446744073709551616

def MtMapItem.DeviceApart (item other : MtMapItem) : Prop :=
  item.iova.toNat + item.size.toNat ≤ other.iova.toNat ∨
    other.iova.toNat + other.size.toNat ≤ item.iova.toNat

theorem MtMapItem.DeviceApart.symm {item other : MtMapItem} (apart : item.DeviceApart other) :
    other.DeviceApart item := Or.symm apart

theorem MtMapItem.DeviceApart.disjoint {item other : MtMapItem} (apart : item.DeviceApart other) :
    Disjoint item.device other.device := by
  rw [Set.disjoint_left]
  rintro address ⟨low, high⟩ ⟨otherLow, below⟩
  rcases apart with before | behind
  · omega
  · omega

/-- The live items are apart in both spaces. -/
structure MapApart (live : List MtMapItem) : Prop where
  straight : ∀ item ∈ live, item.Straight
  inside : ∀ item ∈ live, item.Inside
  virtual : live.Pairwise (fun item other => ¬ item.Overlaps other)
  device : live.Pairwise MtMapItem.DeviceApart

theorem MapApart.of_perm {live after : List MtMapItem} (apart : MapApart live) (same : live.Perm after) :
    MapApart after where
  straight item member := apart.straight item (same.mem_iff.mpr member)
  inside item member := apart.inside item (same.mem_iff.mpr member)
  virtual := (same.pairwise_iff (fun {_ _} clear overlap => clear overlap.symm)).mp apart.virtual
  device := (same.pairwise_iff (fun {_ _} clear => clear.symm)).mp apart.device

theorem MapApart.of_cons {live : List MtMapItem} (apart : MapApart (item :: live)) : MapApart live where
  straight other member := apart.straight other (List.mem_cons_of_mem item member)
  inside other member := apart.inside other (List.mem_cons_of_mem item member)
  virtual := (List.pairwise_cons.mp apart.virtual).2
  device := (List.pairwise_cons.mp apart.device).2

theorem MtMapItem.Inside.toNat_iovaEnd (inside : item.Inside) :
    item.iovaEnd.toNat = item.iova.toNat + item.size.toNat := by
  have fits := inside.2
  rw [iovaEnd, BitVec.toNat_add]
  omega

theorem MapApart.added {item : MtMapItem}
    (apart : MapApart mgr.live) (added : Added mgr item answer top)
    (start : userIovaStart.toNat + item.size.toNat < 18446744073709551616)
    (fits : ∀ other ∈ mgr.live,
      other.iova.toNat + other.size.toNat + item.size.toNat < 18446744073709551616) :
    MapApart answer.mgr.live := by
  refine MapApart.of_perm ?_ added.live.symm
  rw [added.item]
  have low : userIovaStart.toNat ≤ top.toNat := added.scanned.base
  have high : top.toNat + item.size.toNat < 18446744073709551616 := by
    rcases added.scanned.reached with same | ⟨other, member, same⟩
    · rw [same]
      exact start
    · rw [same, (apart.inside other member).toNat_iovaEnd]
      exact fits other member
  refine ⟨?_, ?_, List.pairwise_cons.mpr ⟨added.apart, apart.virtual⟩,
    List.pairwise_cons.mpr ⟨fun other member => Or.inr ?_, apart.device⟩⟩
  · intro other member
    rcases List.mem_cons.mp member with rfl | member
    · exact added.straight
    · exact apart.straight other member
  · intro other member
    rcases List.mem_cons.mp member with rfl | member
    · exact ⟨low, high⟩
    · exact apart.inside other member
  · have above : other.iovaEnd.toNat ≤ top.toNat := added.scanned.above other member
    rw [(apart.inside other member).toNat_iovaEnd] at above
    exact above

theorem mapStep_apart (mgr : MtMapMgr) (call : MapCall) (apart : MapApart mgr.live) (fits : call.Fits mgr) :
    MapApart (mapStep mgr call).live := by
  cases call with
  | add item memory =>
    rcases mtMapAdd_cases mgr item memory with ⟨-, kept, -⟩ | ⟨-, allocated, free, top, added⟩
    · rw [mapStep, kept]
      exact apart
    · rcases fits allocated free added.straight added.apart with ⟨start, behind⟩
      exact apart.added added start behind
  | remove item =>
    rcases mtMapRemove_cases mgr item with ⟨-, unknown⟩ | ⟨-, -, -, removed⟩
    · rw [mapStep, unknown]
      exact apart
    · exact (apart.of_perm removed.live).of_cons

/-- What users of the map rely on. -/
structure MapSound (mgr : MtMapMgr) : Prop where
  virtual : mgr.live.Pairwise (fun item other => Disjoint item.virtual other.virtual)
  device : mgr.live.Pairwise (fun item other => Disjoint item.device other.device)
  inside : ∀ item ∈ mgr.live,
    65536 ≤ item.iova.toNat ∧ item.iova.toNat + item.size.toNat < 18446744073709551616
  /-- An add that fails leaves the table. -/
  failed : forall item memory errno, (mtMapAdd mgr item memory).ret = .error errno ->
    (mtMapAdd mgr item memory).mgr = mgr
  /-- Removing what was just added gives the items back as they were, and the
  very table for a range that is not empty. -/
  undone : forall item memory, (mtMapAdd mgr item memory).ret = .ok () ->
    let answer := mtMapAdd mgr item memory
    let removed := mtMapRemove answer.mgr answer.item
    removed.2 = .ok () ∧ removed.1.live.Perm mgr.live ∧ (item.size ≠ 0 -> removed.1 = mgr)
  /-- A live item can be removed, and its range can be added again. -/
  again : ∀ item ∈ mgr.live,
    let removed := mtMapRemove mgr item
    removed.2 = .ok () ∧ mgr.live.Perm (item :: removed.1.live) ∧
      forall same : MtMapItem, same.vaddr = item.vaddr -> same.size = item.size ->
        (mtMapAdd removed.1 same true).ret = .ok ()

theorem MtMapMgr.eq_of_items {other : MtMapMgr} (same : mgr.items = other.items) : mgr = other := by
  cases mgr
  cases other
  simp_all

theorem map_empty_apart : MapApart MtMapMgr.empty.live := by
  have none_live : MtMapMgr.empty.live = [] := List.reduceOption_replicate_none
  rw [none_live]
  exact ⟨nofun, nofun, List.Pairwise.nil, List.Pairwise.nil⟩

theorem mtMapAdd_failed {item : MtMapItem} {memory : Bool} {errno : Errno}
    (failed : (mtMapAdd mgr item memory).ret = .error errno) : (mtMapAdd mgr item memory).mgr = mgr := by
  rcases mtMapAdd_cases mgr item memory with ⟨-, kept, -⟩ | ⟨added, -⟩
  · exact kept
  · rw [added] at failed
    cases failed

theorem Added.undone {item : MtMapItem}
    (added : Added mgr item answer top) :
    let removed := mtMapRemove answer.mgr answer.item
    removed.2 = .ok () ∧ removed.1.live.Perm mgr.live ∧ (item.size ≠ 0 -> removed.1 = mgr) := by
  rcases mtMapRemove_cases answer.mgr answer.item with ⟨unknown, -⟩ | ⟨-, fine, taken, removed⟩
  · exact absurd (added.live.mem_iff.mpr List.mem_cons_self) unknown
  · refine ⟨fine, (removed.live.symm.trans added.live).cons_inv, fun filled => ?_⟩
    -- An item of the table that the comparison accepts would lie in the range.
    have only : ∀ held ∈ mgr.items.reduceOption, answer.item.sameItem held = false := by
      intro held member
      by_contra same
      have equal := MtMapItem.sameItem_iff.mp (Bool.not_eq_false _ ▸ same)
      have apart := added.apart held member
      rw [← equal, added.item] at apart
      have size : item.size.toNat ≠ 0 := fun zero => filled (BitVec.eq_of_toNat_eq zero)
      have grows : item.vaddr < item.stop := by
        rw [BitVec.lt_def, added.straight.toNat_stop]
        omega
      exact apart ⟨grows, grows⟩
    have back := SlotTable.take_put added.filled (MtMapItem.sameItem_iff.mpr rfl) only
    rw [taken] at back
    exact MtMapMgr.eq_of_items (Option.some.inj back)

theorem MapApart.again (apart : MapApart mgr.live) {item : MtMapItem}
    (member : item ∈ mgr.live) :
    let removed := mtMapRemove mgr item
    removed.2 = .ok () ∧ mgr.live.Perm (item :: removed.1.live) ∧
      forall same : MtMapItem, same.vaddr = item.vaddr -> same.size = item.size ->
        (mtMapAdd removed.1 same true).ret = .ok () := by
  rcases mtMapRemove_cases mgr item with ⟨unknown, -⟩ | ⟨-, fine, -, removed⟩
  · exact absurd member unknown
  · refine ⟨fine, removed.live, fun same vaddr size => ?_⟩
    have clear := (List.pairwise_cons.mp (apart.of_perm removed.live).virtual).1
    have straight := apart.straight item member
    have range : same.stop = item.stop := by rw [MtMapItem.stop, MtMapItem.stop, vaddr, size]
    refine mtMapAdd_of_room removed.free ?_ (fun other live overlap => clear other live ?_)
    · rw [MtMapItem.Straight, vaddr, size]
      exact straight
    · rw [MtMapItem.Overlaps, vaddr, range] at overlap
      exact overlap

/-- In every run in which the new IO virtual ranges end below 2^64 the live
items are apart in both spaces, failed calls change nothing, and removed ranges
can be added again. -/
theorem user_map_sound (calls : List MapCall)
    (fits : Admitted mapStep (fun mgr call => call.Fits mgr) MtMapMgr.empty calls) :
    MapSound (run mapStep MtMapMgr.empty calls) := by
  have apart : MapApart (run mapStep MtMapMgr.empty calls).live :=
    run_invariant mapStep _ (fun mgr => MapApart mgr.live) mapStep_apart map_empty_apart fits
  generalize run mapStep MtMapMgr.empty calls = mgr at apart
  refine ⟨?_, apart.device.imp (fun {_ _} clear => clear.disjoint), apart.inside,
    fun _ _ _ failed => mtMapAdd_failed failed, ?_, fun item member => apart.again member⟩
  · refine apart.virtual.imp_of_mem (fun {first second} here there clear => ?_)
    exact MtMapItem.disjoint_virtual (apart.straight first here) (apart.straight second there) clear
  · intro item memory added
    rcases mtMapAdd_cases mgr item memory with ⟨failed, -⟩ | ⟨-, -, -, top, entered⟩
    · exact absurd added failed
    · exact entered.undone

instance (item : MtMapItem) : Decidable item.Straight := inferInstanceAs (Decidable (_ < _))

instance (mgr : MtMapMgr) : forall call : MapCall, Decidable (call.Fits mgr)
  | .add item memory =>
    inferInstanceAs (Decidable (memory = true -> none ∈ mgr.items -> item.Straight ->
      (∀ other ∈ mgr.live, ¬ item.Overlaps other) ->
        _ ∧ ∀ other ∈ mgr.live, _ < _))
  | .remove _ => inferInstanceAs (Decidable True)

/-- A range of user memory; its IO virtual address is found by the map. -/
def userRange (vaddr size : BitVec 64) : MtMapItem := { vaddr := vaddr, size := size, iova := 0 }

/-- Two pages are added, the first is removed, and it is added again behind the other. -/
theorem pages_stay_apart :
    MapSound (run mapStep MtMapMgr.empty
      [.add (userRange 0x200000 0x1000) true, .add (userRange 0x201000 0x1000) true,
        .remove { vaddr := 0x200000, size := 0x1000, iova := 0x10000 },
        .add (userRange 0x200000 0x1000) true]) :=
  user_map_sound _ (by decide +kernel)

/-- Two ranges of 2^62 bytes are removed and added again in turn, until the
second one ends at 2^64 + 64K and a third range is added. -/
def leapingCalls : List MapCall :=
  let size : BitVec 64 := 0x4000000000000000
  [.add (userRange size size) true, .add (userRange (2 * size) size) true,
    .remove { vaddr := size, size := size, iova := 0x10000 },
    .add (userRange size size) true,
    .remove { vaddr := 2 * size, size := size, iova := 0x10000 + size },
    .add (userRange (2 * size) size) true,
    .add (userRange (3 * size) 0x1000) true]

/-- The end of the second range comes around to 64K, so the third range gets
the addresses of the second one. -/
theorem iova_comes_around :
    (run mapStep MtMapMgr.empty leapingCalls).live =
      [{ vaddr := 0x4000000000000000, size := 0x4000000000000000, iova := 0x8000000000010000 },
        { vaddr := 0x8000000000000000, size := 0x4000000000000000, iova := 0xC000000000010000 },
        { vaddr := 0xC000000000000000, size := 0x1000, iova := 0xC000000000010000 }] ∧
    ¬ (run mapStep MtMapMgr.empty leapingCalls).live.Pairwise
      (fun item other => Disjoint item.device other.device) := by
  have live : (run mapStep MtMapMgr.empty leapingCalls).live =
      [{ vaddr := 0x4000000000000000, size := 0x4000000000000000, iova := 0x8000000000010000 },
        { vaddr := 0x8000000000000000, size := 0x4000000000000000, iova := 0xC000000000010000 },
        { vaddr := 0xC000000000000000, size := 0x1000, iova := 0xC000000000010000 }] := by
    decide +kernel
  refine ⟨live, fun apart => ?_⟩
  rw [live] at apart
  have both := (List.pairwise_cons.mp (List.pairwise_cons.mp apart).2).1 _ List.mem_cons_self
  have shared := Set.disjoint_left.mp both
  exact shared (show 0xC000000000010000 ∈ _ from ⟨by decide, by decide⟩) ⟨by decide, by decide⟩

end MediaTransport.Dma
