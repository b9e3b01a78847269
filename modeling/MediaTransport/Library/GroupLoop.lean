import Mathlib.Tactic

namespace MediaTransport.Library

/-!
# Loops over groups of values in planes

A loop reads the next group of values of each of its source planes, converts
them, and stores a group in each of its target planes.  What such a loop leaves
behind has a closed form, from which follows what becomes of a loop that is cut
in two, of loops one after the other, and of a loop that converts several groups
in each round.
-/

variable {Value : Type*}

/-- Values by plane and offset. -/
abbrev Planes (Value : Type*) := Nat -> Nat -> Value

/-- The planes from one place of each on. -/
def Planes.tail (planes : Planes Value) (start : Nat -> Nat) : Planes Value :=
  fun plane offset => planes plane (start plane + offset)

theorem Planes.tail_tail (planes : Planes Value) (start further : Nat -> Nat) :
    (planes.tail start).tail further = planes.tail fun plane => start plane + further plane := by
  funext plane offset
  unfold Planes.tail
  rw [Nat.add_assoc]

/-- The planes after a run of values was stored in each. -/
def Planes.put (planes : Planes Value) (start size : Nat -> Nat) (values : Planes Value) :
    Planes Value :=
  fun plane position =>
    if start plane ≤ position ∧ position < start plane + size plane then
      values plane (position - start plane)
    else
      planes plane position

theorem Planes.put_congr {planes : Planes Value} {start size : Nat -> Nat} {first second : Planes Value}
    (same : forall plane offset, offset < size plane -> first plane offset = second plane offset) :
    planes.put start size first = planes.put start size second := by
  funext plane position
  unfold Planes.put
  by_cases inside : start plane ≤ position ∧ position < start plane + size plane
  · rw [if_pos inside, if_pos inside]
    exact same plane _ (by omega)
  · rw [if_neg inside, if_neg inside]

/-- A conversion of one group: how many values it reads and stores in each plane, and what it stores;
this depends on nothing but the values it reads. -/
structure GroupMap (Value : Type*) where
  inSize : Nat -> Nat
  outSize : Nat -> Nat
  convert : Planes Value -> Planes Value
  reads : forall {first second : Planes Value},
    (forall plane offset, offset < inSize plane -> first plane offset = second plane offset) ->
    forall plane offset, offset < outSize plane ->
      convert first plane offset = convert second plane offset

namespace GroupMap

/-- A round of the loop. -/
def round (map : GroupMap Value) (src dst : Planes Value) (index : Nat) : Planes Value :=
  dst.put (fun plane => index * map.outSize plane) map.outSize
    (map.convert (src.tail fun plane => index * map.inSize plane))

/-- The rounds from the first one on. -/
def run (map : GroupMap Value) (src dst : Planes Value) (first count : Nat) : Planes Value :=
  (List.range' first count).foldl (map.round src) dst

variable (map : GroupMap Value) (src dst : Planes Value)

@[simp] theorem run_zero (first : Nat) : map.run src dst first 0 = dst := rfl

theorem run_succ (first count : Nat) :
    map.run src dst first (count + 1) = map.round src (map.run src dst first count) (first + count) := by
  unfold run
  rw [List.range'_1_concat, List.foldl_append, List.foldl_cons, List.foldl_nil]

theorem run_add (first count more : Nat) :
    map.run src dst first (count + more) =
      map.run src (map.run src dst first count) (first + count) more := by
  induction more with
  | zero => rfl
  | succ more ih =>
    rw [← Nat.add_assoc, run_succ, ih, run_succ, Nat.add_assoc]

/-- What a loop leaves behind. -/
theorem run_apply (first count plane position : Nat) :
    map.run src dst first count plane position =
      if first * map.outSize plane ≤ position ∧ position < (first + count) * map.outSize plane then
        map.convert (src.tail fun other => position / map.outSize plane * map.inSize other) plane
          (position % map.outSize plane)
      else
        dst plane position := by
  induction count with
  | zero =>
    rw [run_zero, if_neg (by rw [Nat.add_zero]; omega)]
  | succ count ih =>
    rw [run_succ, round, Planes.put]
    have upper : (first + (count + 1)) * map.outSize plane =
        (first + count) * map.outSize plane + map.outSize plane := by ring
    have lower : first * map.outSize plane ≤ (first + count) * map.outSize plane :=
      Nat.mul_le_mul_right _ (by omega)
    by_cases inside : (first + count) * map.outSize plane ≤ position ∧
        position < (first + count) * map.outSize plane + map.outSize plane
    · have quotient : position / map.outSize plane = first + count :=
        Nat.div_eq_of_lt_le inside.1 (by rw [Nat.add_mul, Nat.one_mul]; exact inside.2)
      have rest : position % map.outSize plane = position - (first + count) * map.outSize plane := by
        rw [Nat.mod_eq_sub_div_mul, quotient]
      rw [if_pos inside, if_pos (by omega), quotient, rest]
    · rw [if_neg inside, ih]
      by_cases before : first * map.outSize plane ≤ position ∧
          position < (first + count) * map.outSize plane
      · rw [if_pos before, if_pos (by omega)]
      · rw [if_neg before, if_neg (by omega)]

/-- Loops that read the same values and convert them alike leave the same behind. -/
theorem run_congr {map other : GroupMap Value} {src source : Planes Value} (dst : Planes Value)
    (first count : Nat) (sizes : map.outSize = other.outSize)
    (alike : forall index, first ≤ index -> index < first + count ->
      forall plane offset, offset < map.outSize plane ->
        map.convert (src.tail fun input => index * map.inSize input) plane offset =
          other.convert (source.tail fun input => index * other.inSize input) plane offset) :
    map.run src dst first count = other.run source dst first count := by
  funext plane position
  rw [run_apply, run_apply, ← sizes]
  by_cases inside : first * map.outSize plane ≤ position ∧
      position < (first + count) * map.outSize plane
  · have positive : 0 < map.outSize plane := by
      rcases Nat.eq_zero_or_pos (map.outSize plane) with zero | positive
      · rw [zero] at inside
        omega
      · exact positive
    rw [if_pos inside, if_pos inside]
    apply alike
    · exact (Nat.le_div_iff_mul_le positive).mpr inside.1
    · exact (Nat.div_lt_iff_lt_mul positive).mpr inside.2
    · exact Nat.mod_lt _ positive
  · rw [if_neg inside, if_neg inside]

/-- Loops over the same groups leave the same behind exactly when they convert each group alike. -/
theorem run_eq_iff {map other : GroupMap Value} (src dst : Planes Value) (count : Nat)
    (sizes : map.outSize = other.outSize) :
    map.run src dst 0 count = other.run src dst 0 count ↔
      ∀ index < count, forall plane offset, offset < map.outSize plane ->
        map.convert (src.tail fun input => index * map.inSize input) plane offset =
          other.convert (src.tail fun input => index * other.inSize input) plane offset := by
  constructor
  · intro same index below plane offset inside
    have here := congrFun (congrFun same plane) (index * map.outSize plane + offset)
    have whole : (index + 1) * map.outSize plane ≤ (0 + count) * map.outSize plane :=
      Nat.mul_le_mul_right _ (by omega)
    rw [Nat.add_mul, Nat.one_mul] at whole
    have quotient : (index * map.outSize plane + offset) / map.outSize plane = index := by
      rw [Nat.mul_comm, Nat.mul_add_div (by omega), Nat.div_eq_of_lt inside, Nat.add_zero]
    have rest : (index * map.outSize plane + offset) % map.outSize plane = offset := by
      rw [Nat.mul_comm, Nat.mul_add_mod, Nat.mod_eq_of_lt inside]
    rwa [run_apply, run_apply, ← sizes, if_pos (by omega), if_pos (by omega), quotient, rest] at here
  · intro alike
    apply run_congr dst 0 count sizes
    intro index _ below
    exact alike index (by omega)

/-- A loop that goes on after another leaves the same behind only if the other did. -/
theorem run_after_inj {map other : GroupMap Value} (src dst : Planes Value) (count more : Nat)
    (sizes : map.outSize = other.outSize)
    (same : other.run src (map.run src dst 0 count) count more =
      other.run src (other.run src dst 0 count) count more) :
    map.run src dst 0 count = other.run src dst 0 count := by
  funext plane position
  by_cases below : position < count * other.outSize plane
  · have here := congrFun (congrFun same plane) position
    rwa [run_apply other, run_apply other, if_neg (by omega), if_neg (by omega)] at here
  · rw [run_apply, run_apply, sizes, if_neg (by rw [Nat.zero_add]; omega),
      if_neg (by rw [Nat.zero_add]; omega)]

/-- Rounds that read groups at one place and store them at another. -/
def runAt (map : GroupMap Value) (src dst : Planes Value) (start place count : Nat) : Planes Value :=
  (List.range count).foldl
    (fun planes index =>
      planes.put (fun plane => (place + index) * map.outSize plane) map.outSize
        (map.convert (src.tail fun plane => (start + index) * map.inSize plane)))
    dst

/-- Rounds that read the same groups leave the same behind, wherever the groups are. -/
theorem runAt_congr {map : GroupMap Value} {src source : Planes Value} (dst : Planes Value)
    {start other place count : Nat}
    (same : ∀ index < count, forall plane offset, offset < map.inSize plane ->
      src plane ((start + index) * map.inSize plane + offset) =
        source plane ((other + index) * map.inSize plane + offset)) :
    map.runAt src dst start place count = map.runAt source dst other place count := by
  apply List.foldl_ext
  intro planes index member
  apply Planes.put_congr
  intro plane offset inside
  exact map.reads (fun input place read => same index (List.mem_range.mp member) input place read)
    plane offset inside

theorem runAt_self (place count : Nat) :
    map.runAt src dst place place count = map.run src dst place count := by
  induction count with
  | zero => rfl
  | succ count ih =>
    rw [run_succ, ← ih, runAt, List.range_succ, List.foldl_append, List.foldl_cons, List.foldl_nil]
    rfl

/-! ## Several groups in one round -/

/-- The conversion of several groups as one group. -/
def times [Inhabited Value] (map : GroupMap Value) (number : Nat) : GroupMap Value where
  inSize plane := number * map.inSize plane
  outSize plane := number * map.outSize plane
  convert group := map.run group (fun _ _ => default) 0 number
  reads := by
    intro first second same plane offset inside
    have alike : map.run first (fun _ _ => default) 0 number =
        map.run second (fun _ _ => default) 0 number := by
      apply run_congr _ _ _ rfl
      intro index _ below plane offset within
      apply map.reads _ plane offset within
      intro input place read
      apply same
      have whole : (index + 1) * map.inSize input ≤ number * map.inSize input :=
        Nat.mul_le_mul_right _ (by omega)
      rw [Nat.add_mul, Nat.one_mul] at whole
      show index * map.inSize input + place < number * map.inSize input
      omega
    rw [alike]

theorem times_convert [Inhabited Value] (map : GroupMap Value) (number : Nat) (group : Planes Value)
    {plane offset : Nat} (inside : offset < number * map.outSize plane) :
    (map.times number).convert group plane offset =
      map.convert (group.tail fun input => offset / map.outSize plane * map.inSize input) plane
        (offset % map.outSize plane) := by
  show map.run group _ 0 number plane offset = _
  rw [run_apply, if_pos (by simpa using inside)]

/-- A loop that converts several groups in each round. -/
theorem times_run [Inhabited Value] (map : GroupMap Value) (number : Nat) (src dst : Planes Value)
    (first count : Nat) :
    (map.times number).run src dst first count = map.run src dst (number * first) (number * count) := by
  funext plane position
  rw [run_apply, run_apply]
  have lower : first * (map.times number).outSize plane = number * first * map.outSize plane := by
    show first * (number * map.outSize plane) = _
    ring
  have upper : (first + count) * (map.times number).outSize plane =
      (number * first + number * count) * map.outSize plane := by
    show (first + count) * (number * map.outSize plane) = _
    ring
  rw [lower, upper]
  by_cases inside : number * first * map.outSize plane ≤ position ∧
      position < (number * first + number * count) * map.outSize plane
  · rw [if_pos inside, if_pos inside]
    have positive : 0 < number * map.outSize plane := by
      apply Nat.pos_of_ne_zero
      intro zero
      have none : (number * first + number * count) * map.outSize plane = 0 := by
        rw [← Nat.mul_add, Nat.mul_right_comm, zero, Nat.zero_mul]
      omega
    have within : position % (number * map.outSize plane) < number * map.outSize plane :=
      Nat.mod_lt _ positive
    show (map.times number).convert _ plane (position % (number * map.outSize plane)) = _
    have quotient : position / map.outSize plane =
        position / (number * map.outSize plane) * number +
          position % (number * map.outSize plane) / map.outSize plane := by
      rw [Nat.mul_comm number, ← Nat.div_div_eq_div_mul, Nat.mod_mul_right_div_self,
        Nat.div_add_mod']
    rw [times_convert _ _ _ within, Nat.mod_mul_left_mod, Planes.tail_tail, quotient]
    congr 2
    funext input
    show position / (number * map.outSize plane) * (number * map.inSize input) + _ = _
    ring
  · rw [if_neg inside, if_neg inside]

/-- A conversion that does several groups of another at once. -/
structure Batches (batch map : GroupMap Value) (number : Nat) : Prop where
  inSize : forall plane, batch.inSize plane = number * map.inSize plane
  outSize : forall plane, batch.outSize plane = number * map.outSize plane
  convert : forall group plane offset, offset < number * map.outSize plane ->
    batch.convert group plane offset =
      map.convert (group.tail fun input => offset / map.outSize plane * map.inSize input) plane
        (offset % map.outSize plane)

/-- A loop over batches is the one over their groups. -/
theorem Batches.run [Inhabited Value] {batch map : GroupMap Value} {number : Nat}
    (batches : Batches batch map number) (src dst : Planes Value) (first count : Nat) :
    batch.run src dst first count = map.run src dst (number * first) (number * count) := by
  rw [← times_run]
  have sizes : batch.inSize = (map.times number).inSize := funext batches.inSize
  have stored : batch.outSize = (map.times number).outSize := funext batches.outSize
  apply run_congr dst first count stored
  intro index _ _ plane offset inside
  rw [batches.outSize] at inside
  rw [sizes, batches.convert _ plane offset inside, times_convert map number _ inside]

/-! ## One loop after another -/

/-- The conversion of a group by one map after another. -/
def andThen (map next : GroupMap Value) (fits : map.outSize = next.inSize) : GroupMap Value where
  inSize := map.inSize
  outSize := next.outSize
  convert group := next.convert (map.convert group)
  reads := by
    intro first second same
    apply next.reads
    intro plane offset inside
    exact map.reads same plane offset (by rw [fits]; exact inside)

/-- A loop over what another loop left behind. -/
theorem run_run (map next : GroupMap Value) (fits : map.outSize = next.inSize)
    (src mid dst : Planes Value) (count : Nat) :
    next.run (map.run src mid 0 count) dst 0 count = (map.andThen next fits).run src dst 0 count := by
  apply run_congr dst 0 count (show next.outSize = (map.andThen next fits).outSize from rfl)
  intro index _ below plane offset inside
  apply next.reads _ plane offset inside
  intro input place read
  rw [← fits] at read ⊢
  show map.run src mid 0 count input (index * map.outSize input + place) = _
  have positive : 0 < map.outSize input := by omega
  have whole : (index + 1) * map.outSize input ≤ (0 + count) * map.outSize input :=
    Nat.mul_le_mul_right _ (by omega)
  rw [Nat.add_mul, Nat.one_mul] at whole
  rw [run_apply, if_pos (by constructor <;> omega)]
  have quotient : (index * map.outSize input + place) / map.outSize input = index := by
    rw [Nat.add_comm, Nat.add_mul_div_right _ _ positive, Nat.div_eq_of_lt read, Nat.zero_add]
  have rest : (index * map.outSize input + place) % map.outSize input = place := by
    rw [Nat.add_comm, Nat.add_mul_mod_self_right, Nat.mod_eq_of_lt read]
  rw [quotient, rest]
  rfl

/-- A loop that gives each group back as it is copies the groups. -/
theorem run_copies {map : GroupMap Value} {src : Planes Value} (dst : Planes Value) (count : Nat)
    (same : ∀ index < count, forall plane offset, offset < map.outSize plane ->
      map.convert (src.tail fun input => index * map.inSize input) plane offset =
        src plane (index * map.outSize plane + offset))
    (plane position : Nat) :
    map.run src dst 0 count plane position =
      if position < count * map.outSize plane then src plane position else dst plane position := by
  rw [run_apply]
  simp only [Nat.zero_mul, Nat.zero_le, true_and, Nat.zero_add]
  by_cases inside : position < count * map.outSize plane
  · rw [if_pos inside, if_pos inside]
    have positive : 0 < map.outSize plane := by
      rcases Nat.eq_zero_or_pos (map.outSize plane) with zero | positive
      · rw [zero] at inside
        omega
      · exact positive
    rw [same _ ((Nat.div_lt_iff_lt_mul positive).mpr inside) plane _ (Nat.mod_lt _ positive),
      Nat.div_add_mod']
  · rw [if_neg inside, if_neg inside]

/-- A loop that undoes another. -/
theorem run_back {there back : GroupMap Value} (fits : there.outSize = back.inSize)
    (whole : back.outSize = there.inSize) {src : Planes Value} (mid dst : Planes Value) {count : Nat}
    (undone : ∀ index < count, forall plane offset, offset < there.inSize plane ->
      back.convert (there.convert (src.tail fun input => index * there.inSize input)) plane offset =
        src plane (index * there.inSize plane + offset))
    {plane position : Nat} (inside : position < count * there.inSize plane) :
    back.run (there.run src mid 0 count) dst 0 count plane position = src plane position := by
  rw [run_run there back fits]
  have same : ∀ index < count, forall plane offset,
      offset < (there.andThen back fits).outSize plane ->
      (there.andThen back fits).convert
          (src.tail fun input => index * (there.andThen back fits).inSize input) plane offset =
        src plane (index * (there.andThen back fits).outSize plane + offset) := by
    intro index below plane offset within
    show back.convert (there.convert _) plane offset = src plane (index * back.outSize plane + offset)
    rw [whole]
    exact undone index below plane offset (by rw [← whole]; exact within)
  rw [run_copies dst count same plane position, if_pos]
  show position < count * back.outSize plane
  rw [whole]
  exact inside

end GroupMap

/-! ## Conversions between formats -/

/-- A format of groups: what a group in the planes is, and how it is stored there. -/
structure GroupFormat (Value Group : Type*) where
  size : Nat -> Nat
  load : Planes Value -> Group
  store : Group -> Planes Value
  reads : forall {first second : Planes Value},
    (forall plane offset, offset < size plane -> first plane offset = second plane offset) ->
    load first = load second
  load_store : forall group, load (store group) = group
  store_load : forall planes plane offset, offset < size plane ->
    store (load planes) plane offset = planes plane offset

namespace GroupFormat

variable {Group Other Third : Type*}

/-- Each group is read, converted and stored in the other format. -/
def map (source : GroupFormat Value Group) (convert : Group -> Other)
    (target : GroupFormat Value Other) : GroupMap Value where
  inSize := source.size
  outSize := target.size
  convert planes := target.store (convert (source.load planes))
  reads same plane offset _ := by rw [source.reads same]

theorem store_inj (target : GroupFormat Value Group) {first second : Group}
    (same : forall plane offset, offset < target.size plane ->
      target.store first plane offset = target.store second plane offset) :
    first = second := by
  rw [← target.load_store first, target.reads same, target.load_store]

theorem map_map (source : GroupFormat Value Group) (middle : GroupFormat Value Other)
    (target : GroupFormat Value Third) (convert : Group -> Other) (next : Other -> Third)
    (planes : Planes Value) :
    (middle.map next target).convert ((source.map convert middle).convert planes) =
      (source.map (next ∘ convert) target).convert planes := by
  show target.store (next (middle.load (middle.store _))) = _
  rw [middle.load_store]
  rfl

theorem map_back (source : GroupFormat Value Group) (middle : GroupFormat Value Other)
    {convert : Group -> Other} {back : Other -> Group} {planes : Planes Value}
    (undone : back (convert (source.load planes)) = source.load planes)
    {plane offset : Nat} (inside : offset < source.size plane) :
    (middle.map back source).convert ((source.map convert middle).convert planes) plane offset =
      planes plane offset := by
  rw [map_map]
  show source.store (back (convert (source.load planes))) plane offset = _
  rw [undone]
  exact source.store_load planes plane offset inside

end GroupFormat

end MediaTransport.Library
