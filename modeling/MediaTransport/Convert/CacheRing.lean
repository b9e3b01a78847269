import MediaTransport.Library.GroupLoop
import MediaTransport.Library.Word

namespace MediaTransport.Convert

open Library

/-!
# The ring of caches that a DMA engine fills

A conversion with DMA copies the source, batch by batch, into a ring of four
caches and converts each batch from its cache.  The engine completes copies in the
order in which it was given them.  Until then the cache of a copy may hold
anything.
-/

/-- `caches_num` -/
def cachesNum : Nat := 4

/-- A copy in flight: the cache it goes to, and the batch at which the source pointer stood. -/
structure CacheCopy where
  cache : Nat
  batch : Nat

/-- `struct mt_cvt_dma_ctx` for its only type of transfer, the number of batches that the source
pointer has passed, the copies in flight and the caches. -/
structure CvtDma where
  fifo : Nat
  tran : Nat
  done : Nat
  passed : Nat
  flight : List CacheCopy
  caches : Nat -> Nat -> Byte

namespace CvtDma

def init : CvtDma := ⟨0, 0, 0, 0, [], fun _ _ => 0⟩

/-- `mt_cvt_dma_ctx_push`, with a fifo of `2 * caches_num` places. -/
def ctxPush (s : CvtDma) : CvtDma :=
  if 2 * cachesNum ≤ s.fifo then s else { s with fifo := s.fifo + 1, tran := s.tran + 1 }

/-- `mt_cvt_dma_ctx_pop` -/
def ctxPop (s : CvtDma) : CvtDma :=
  if s.fifo = 0 then s else { s with fifo := s.fifo - 1, done := s.done + 1 }

def push (s : CvtDma) : CvtDma :=
  ctxPush
    { s with
      flight := s.flight ++ [⟨s.tran % cachesNum, s.passed⟩]
      passed := s.passed + 1 }

def Keeps (s : CvtDma) (caches : Nat -> Nat -> Byte) : Prop :=
  forall cache, (∀ copy ∈ s.flight, copy.cache ≠ cache) -> caches cache = s.caches cache

end CvtDma

section Ring

variable (src : Nat -> Byte) (cacheSize cacheBatch : Nat)

/-- A round of the loop that waits: nothing has completed, or the first copy in flight has. -/
inductive CachePoll : CvtDma -> CvtDma -> Prop
  | idle {s : CvtDma} (caches : Nat -> Nat -> Byte) (keeps : s.Keeps caches) :
      CachePoll s { s with caches := caches }
  | completed {s : CvtDma} (copy : CacheCopy) (rest : List CacheCopy) (caches : Nat -> Nat -> Byte)
      (first : s.flight = copy :: rest) (keeps : s.Keeps caches)
      (copied : (∀ later ∈ rest, later.cache ≠ copy.cache) ->
        ∀ offset < cacheSize,
          caches copy.cache offset = src (copy.batch * cacheSize + offset)) :
      CachePoll s (CvtDma.ctxPop { s with flight := rest, caches := caches })

/-- The loop that gives copies to the engine. -/
inductive CachePush (maxTran : Nat) : CvtDma -> CvtDma -> Prop
  | enough {s : CvtDma} (reached : maxTran ≤ s.tran) : CachePush maxTran s s
  | push {s t : CvtDma} (more : s.tran < maxTran) (rest : CachePush maxTran s.push t) :
      CachePush maxTran s t

/-- The loop that waits for a number of completions. -/
inductive CacheWait (target : Nat) : CvtDma -> CvtDma -> Prop
  | enough {s : CvtDma} (reached : target ≤ s.done) : CacheWait target s s
  | poll {s t u : CvtDma} (short : s.done < target) (round : CachePoll src cacheSize s t)
      (rest : CacheWait target t u) : CacheWait target s u

/-- The loop over the cache batches from one on.  A cache that a copy in flight goes to is read with
any bytes. -/
inductive CacheLoop (convert : (Nat -> Byte) -> Nat -> Planes Byte -> Planes Byte) :
    Nat -> CvtDma -> Planes Byte -> CvtDma -> Planes Byte -> Prop
  | finish {i : Nat} {s : CvtDma} {dst : Planes Byte} (last : cacheBatch ≤ i) :
      CacheLoop convert i s dst s dst
  | round {i : Nat} {s pushed waited last : CvtDma} {dst result : Planes Byte} (view : Nat -> Byte)
      (more : i < cacheBatch) (push : CachePush (min (i + cachesNum) cacheBatch) s pushed)
      (wait : CacheWait src cacheSize (i + 1) pushed waited)
      (read : (∀ copy ∈ waited.flight, copy.cache ≠ i % cachesNum) ->
        view = waited.caches (i % cachesNum))
      (rest : CacheLoop convert (i + 1) waited (convert view i dst) last result) :
      CacheLoop convert i s dst last result

/-- What holds at the round of a batch: the copies in flight are the last ones given to the engine, and
the caches of the completed ones that are still to be converted have their bytes. -/
structure CvtDma.Rings (s : CvtDma) (i : Nat) : Prop where
  passed : s.passed = s.tran
  counted : s.tran = s.done + s.fifo
  flight : s.flight = (List.range' s.done s.fifo).map fun batch => ⟨batch % cachesNum, batch⟩
  converted : i ≤ s.done
  ahead : s.tran ≤ i + cachesNum
  within : s.tran ≤ cacheBatch
  cached : forall batch, i ≤ batch -> batch < s.done -> ∀ offset < cacheSize,
    s.caches (batch % cachesNum) offset = src (batch * cacheSize + offset)

variable {src cacheSize cacheBatch} {s t : CvtDma} {i : Nat}

theorem CvtDma.init_rings : CvtDma.init.Rings src cacheSize cacheBatch 0 where
  passed := rfl
  counted := rfl
  flight := rfl
  converted := Nat.le_refl 0
  ahead := Nat.zero_le _
  within := Nat.zero_le _
  cached batch _ completed := absurd completed (Nat.not_lt_zero batch)

theorem CvtDma.Rings.apart (rings : s.Rings src cacheSize cacheBatch i) {batch : Nat}
    (later : i ≤ batch) (completed : batch < s.done) :
    ∀ copy ∈ s.flight, copy.cache ≠ batch % cachesNum := by
  intro copy member
  rw [rings.flight] at member
  obtain ⟨other, inside, rfl⟩ := List.mem_map.mp member
  have bounds := List.mem_range'_1.mp inside
  have counted := rings.counted
  have ahead := rings.ahead
  unfold cachesNum at *
  show other % 4 ≠ batch % 4
  omega

theorem CvtDma.Rings.push (rings : s.Rings src cacheSize cacheBatch i)
    (more : s.tran < min (i + cachesNum) cacheBatch) : s.push.Rings src cacheSize cacheBatch i := by
  have counted := rings.counted
  have converted := rings.converted
  have room : ¬ 2 * cachesNum ≤ s.fifo := by
    unfold cachesNum at *
    omega
  unfold CvtDma.push CvtDma.ctxPush
  rw [if_neg room]
  constructor
  · show s.passed + 1 = s.tran + 1
    rw [rings.passed]
  · show s.tran + 1 = s.done + (s.fifo + 1)
    omega
  · show s.flight ++ [_] = (List.range' s.done (s.fifo + 1)).map _
    rw [List.range'_1_concat, List.map_append, rings.flight, rings.passed, counted]
    rfl
  · exact converted
  · show s.tran + 1 ≤ i + cachesNum
    omega
  · show s.tran + 1 ≤ cacheBatch
    omega
  · exact rings.cached

theorem CachePush.rings (pushed : CachePush (min (i + cachesNum) cacheBatch) s t)
    (rings : s.Rings src cacheSize cacheBatch i) : t.Rings src cacheSize cacheBatch i := by
  induction pushed with
  | enough reached => exact rings
  | push more rest ih => exact ih (rings.push more)

theorem CachePoll.rings (polled : CachePoll src cacheSize s t)
    (rings : s.Rings src cacheSize cacheBatch i) : t.Rings src cacheSize cacheBatch i := by
  cases polled with
  | idle caches keeps =>
    exact { rings with
      cached := by
        intro batch later completed offset inside
        show caches (batch % cachesNum) offset = _
        rw [keeps _ (rings.apart later completed)]
        exact rings.cached batch later completed offset inside }
  | completed copy rest caches first keeps copied =>
    have flight := rings.flight
    rw [first] at flight
    have busy : s.fifo ≠ 0 := by
      intro none
      rw [none] at flight
      cases flight
    obtain ⟨fewer, count⟩ := Nat.exists_eq_succ_of_ne_zero busy
    rw [count, List.range'_succ, List.map_cons] at flight
    obtain ⟨rfl, others⟩ := List.cons.inj flight
    have counted := rings.counted
    have ahead := rings.ahead
    have converted := rings.converted
    unfold CvtDma.ctxPop
    rw [if_neg busy]
    constructor
    · exact rings.passed
    · show s.tran = s.done + 1 + (s.fifo - 1)
      omega
    · show rest = (List.range' (s.done + 1) (s.fifo - 1)).map _
      rw [others, count]
      rfl
    · show i ≤ s.done + 1
      omega
    · exact ahead
    · exact rings.within
    · intro batch later completed offset inside
      have completed : batch < s.done + 1 := completed
      show caches (batch % cachesNum) offset = _
      by_cases newest : batch = s.done
      · subst newest
        apply copied _ offset inside
        intro other member
        rw [others] at member
        obtain ⟨place, within, rfl⟩ := List.mem_map.mp member
        have bounds := List.mem_range'_1.mp within
        unfold cachesNum at *
        show place % 4 ≠ s.done % 4
        omega
      · have before : batch < s.done := by omega
        rw [keeps _ (rings.apart later before)]
        exact rings.cached batch later before offset inside

theorem CacheWait.rings {target : Nat} (waited : CacheWait src cacheSize target s t)
    (rings : s.Rings src cacheSize cacheBatch i) :
    t.Rings src cacheSize cacheBatch i ∧ target ≤ t.done := by
  induction waited with
  | enough reached => exact ⟨rings, reached⟩
  | poll short round rest ih => exact ih (round.rings rings)

theorem CvtDma.Rings.advance (rings : s.Rings src cacheSize cacheBatch i) (reached : i + 1 ≤ s.done) :
    s.Rings src cacheSize cacheBatch (i + 1) :=
  { rings with
    converted := reached
    ahead := by
      have ahead := rings.ahead
      omega
    cached := fun batch later => rings.cached batch (by omega) }

def sourceBatch (src : Nat -> Byte) (cacheSize batch : Nat) : Nat -> Byte :=
  fun offset => src (batch * cacheSize + offset)

theorem CacheLoop.converts {convert : (Nat -> Byte) -> Nat -> Planes Byte -> Planes Byte}
    (reads : forall first second : Nat -> Byte,
      (∀ offset < cacheSize, first offset = second offset) -> convert first = convert second)
    {dst result : Planes Byte} (loop : CacheLoop src cacheSize cacheBatch convert i s dst t result)
    (rings : s.Rings src cacheSize cacheBatch i) (inside : i ≤ cacheBatch) :
    t.passed = cacheBatch ∧
    result = (List.range' i (cacheBatch - i)).foldl
      (fun planes batch => convert (sourceBatch src cacheSize batch) batch planes) dst := by
  induction loop with
  | finish last =>
    have converted := rings.converted
    have counted := rings.counted
    have within := rings.within
    constructor
    · rw [rings.passed]
      omega
    · rw [show cacheBatch - _ = 0 from Nat.sub_eq_zero_of_le last]
      rfl
  | @round i s pushed waited last dst result view more push wait read rest ih =>
    obtain ⟨ready, reached⟩ := wait.rings (push.rings rings)
    have seen : view = waited.caches (i % cachesNum) := read (ready.apart (Nat.le_refl i) reached)
    have batch : convert view = convert (sourceBatch src cacheSize i) := by
      apply reads
      intro offset below
      rw [seen]
      exact ready.cached i (Nat.le_refl i) reached offset below
    obtain ⟨passed, converted⟩ := ih (ready.advance reached) more
    refine ⟨passed, ?_⟩
    rw [converted, batch, show cacheBatch - i = cacheBatch - (i + 1) + 1 by omega, List.range'_succ]
    rfl

/-! ## There is such a run -/

theorem CvtDma.Rings.exists_push (rings : s.Rings src cacheSize cacheBatch i) :
    exists t, CachePush (min (i + cachesNum) cacheBatch) s t ∧
      min (i + cachesNum) cacheBatch ≤ t.tran := by
  obtain ⟨missing, count⟩ : exists missing, missing = min (i + cachesNum) cacheBatch - s.tran := ⟨_, rfl⟩
  induction missing generalizing s with
  | zero => exact ⟨s, .enough (by omega), by omega⟩
  | succ missing ih =>
    have more : s.tran < min (i + cachesNum) cacheBatch := by omega
    have advanced : s.push.tran = s.tran + 1 := by
      have counted := rings.counted
      have converted := rings.converted
      unfold CvtDma.push CvtDma.ctxPush
      rw [if_neg (by unfold cachesNum at *; omega : ¬ 2 * cachesNum ≤ s.fifo)]
    obtain ⟨t, rest, reached⟩ := ih (rings.push more) (by omega)
    exact ⟨t, .push more rest, reached⟩

theorem CvtDma.Rings.exists_completed (rings : s.Rings src cacheSize cacheBatch i)
    (busy : s.done < s.tran) :
    exists t, CachePoll src cacheSize s t ∧ t.done = s.done + 1 ∧ t.tran = s.tran := by
  obtain ⟨fewer, count⟩ := Nat.exists_eq_succ_of_ne_zero
    (by have counted := rings.counted; omega : s.fifo ≠ 0)
  have first : s.flight = ⟨s.done % cachesNum, s.done⟩ ::
      (List.range' (s.done + 1) fewer).map fun batch => ⟨batch % cachesNum, batch⟩ := by
    rw [rings.flight, count, List.range'_succ]
    rfl
  refine ⟨_, .completed _ _ (Function.update s.caches (s.done % cachesNum)
    (fun offset => src (s.done * cacheSize + offset))) first ?_ ?_, ?_, ?_⟩
  · intro cache free
    apply Function.update_of_ne
    intro same
    exact free ⟨s.done % cachesNum, s.done⟩ (by rw [first]; exact List.mem_cons_self) same.symm
  · intro _ offset _
    show Function.update s.caches (s.done % cachesNum) _ (s.done % cachesNum) offset = _
    rw [Function.update_self]
  · unfold CvtDma.ctxPop
    rw [if_neg (by show s.fifo ≠ 0; omega)]
  · unfold CvtDma.ctxPop
    rw [if_neg (by show s.fifo ≠ 0; omega)]

theorem CvtDma.Rings.exists_wait {target : Nat} (rings : s.Rings src cacheSize cacheBatch i)
    (enough : target ≤ s.tran) : exists t, CacheWait src cacheSize target s t := by
  obtain ⟨missing, count⟩ : exists missing, missing = target - s.done := ⟨_, rfl⟩
  induction missing generalizing s with
  | zero => exact ⟨s, .enough (by omega)⟩
  | succ missing ih =>
    obtain ⟨t, polled, done, tran⟩ := rings.exists_completed (by omega)
    obtain ⟨u, rest⟩ := ih (polled.rings rings) (by omega) (by omega)
    exact ⟨u, .poll (by omega) polled rest⟩

theorem CvtDma.Rings.exists_loop (convert : (Nat -> Byte) -> Nat -> Planes Byte -> Planes Byte)
    (rings : s.Rings src cacheSize cacheBatch i) (dst : Planes Byte) :
    exists t result, CacheLoop src cacheSize cacheBatch convert i s dst t result := by
  obtain ⟨missing, count⟩ : exists missing, missing = cacheBatch - i := ⟨_, rfl⟩
  induction missing generalizing s i dst with
  | zero => exact ⟨s, dst, .finish (by omega)⟩
  | succ missing ih =>
    obtain ⟨pushed, push, given⟩ := rings.exists_push
    have ready := push.rings rings
    obtain ⟨waited, wait⟩ : exists waited, CacheWait src cacheSize (i + 1) pushed waited :=
      ready.exists_wait (by unfold cachesNum at given; omega)
    obtain ⟨next, reached⟩ := wait.rings ready
    obtain ⟨t, result, rest⟩ := ih (next.advance reached)
      (convert (waited.caches (i % cachesNum)) i dst) (by omega)
    exact ⟨t, result, .round _ (by omega) push wait (fun _ => rfl) rest⟩

end Ring

end MediaTransport.Convert
