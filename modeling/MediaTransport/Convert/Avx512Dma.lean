import MediaTransport.Convert.Avx512Unpack
import MediaTransport.Convert.CacheRing

namespace MediaTransport.Convert

open Library

/-!
# The AVX-512 conversions with DMA

The batches that fill a cache go through the ring of caches.  The groups that are
left are converted from the source, where its pointer stands after the last copy.
-/

/-- `cache_pg_cnt`, the pixel groups of a cache. -/
def cachePgCnt (size align : Nat) : Nat := 256 * 1024 / size / align * align

/-- `batchLoops` with pointers that stand at some pixel group. -/
def batchLoopsAt (batch left : GroupMap Byte) (groups : Nat) (src dst : Planes Byte)
    (start place pgCnt : Nat) : Planes Byte :=
  left.runAt src (batch.runAt src dst (start / groups) (place / groups) (pgCnt / groups))
    (start + pgCnt / groups * groups) (place + pgCnt / groups * groups) (pgCnt % groups)

/-- `loops` with pointers that stand at some pixel group. -/
def PlanarKernel.loopsAt (kernel : PlanarKernel) (left : GroupMap Byte) (src dst : Planes Byte)
    (start place pgCnt : Nat) : Planes Byte :=
  let dst := kernel.batch32.runAt src dst (start / 32) (place / 32) (pgCnt / 32)
  let dst := kernel.batch8.runAt src dst (start / 8 + pgCnt / 32 * 4) (place / 8 + pgCnt / 32 * 4)
    (pgCnt % 32 / 8)
  left.runAt src dst (start + pgCnt / 8 * 8) (place + pgCnt / 8 * 8) (pgCnt % 8)

/-- A conversion with DMA: the pixel groups of a batch and their conversion, the size of a group in
bytes, the alignment of a cache, and the loops over the groups that fill no cache. -/
structure DmaConversion where
  batch : GroupMap Byte
  groups : Nat
  size : Nat
  align : Nat
  left : Planes Byte -> Planes Byte -> Nat -> Nat -> Nat -> Planes Byte

namespace DmaConversion

variable (conversion : DmaConversion)

def cachePgs : Nat := cachePgCnt conversion.size conversion.align

def convertCache (view : Nat -> Byte) (i : Nat) (dst : Planes Byte) : Planes Byte :=
  conversion.batch.runAt (fun _ => view) dst 0 (i * (conversion.cachePgs / conversion.groups))
    (conversion.cachePgs / conversion.groups)

/-- What a conversion may leave behind: `allocated` says that there was memory for the caches, and
`plain` is the conversion without DMA. -/
def Run (allocated : Bool) (src dst : Planes Byte) (pgCnt : Nat) (plain result : Converted) : Prop :=
  if allocated then
    exists last converted,
      CacheLoop (src 0) (conversion.cachePgs * conversion.size) (pgCnt / conversion.cachePgs)
        conversion.convertCache 0 CvtDma.init dst last converted ∧
      result = some (.ok (), conversion.left src converted (last.passed * conversion.cachePgs)
        (pgCnt / conversion.cachePgs * conversion.cachePgs) (pgCnt % conversion.cachePgs))
  else
    result = plain

end DmaConversion

/-! ## The conversions -/

def be10ToPleDma : DmaConversion where
  batch := be10ToPleKernel.batch32
  groups := 32
  size := 5
  align := cachesNum * 32
  left := be10ToPleKernel.loopsAt be10ToPlanar10

def be12ToPleDma : DmaConversion where
  batch := be12ToPleKernel.batch32
  groups := 32
  size := 6
  align := cachesNum * 32
  left := be12ToPleKernel.loopsAt be12ToPlanar12

def be10ToLe10Dma : DmaConversion where
  batch := be10ToLe10Batch
  groups := 3
  size := 5
  align := cachesNum * 3
  left := batchLoopsAt be10ToLe10Batch be10ToLe10 3

def be12ToLe12Dma : DmaConversion where
  batch := be12ToLe12Batch
  groups := 2
  size := 6
  align := cachesNum * 2
  left := batchLoopsAt be12ToLe12Batch be12ToLe12 2

section Conversions

variable (allocated : Bool) (src dst : Planes Byte) (w h : UInt32) (result : Converted)

def st20Rfc4175_422be10ToYuv422p10leAvx512Dma : Prop :=
  be10ToPleDma.Run allocated src dst (pgCount w h 2) (st20Rfc4175_422be10ToYuv422p10leAvx512 src dst w h)
    result

def st20Rfc4175_422be12ToYuv422p12leAvx512Dma : Prop :=
  be12ToPleDma.Run allocated src dst (pgCount w h 2) (st20Rfc4175_422be12ToYuv422p12leAvx512 src dst w h)
    result

def st20Rfc4175_422be10To422le10Avx512Dma : Prop :=
  be10ToLe10Dma.Run allocated src dst (pgCount w h 2) (st20Rfc4175_422be10To422le10Avx512 src dst w h)
    result

def st20Rfc4175_422be12To422le12Avx512Dma : Prop :=
  be12ToLe12Dma.Run allocated src dst (pgCount w h 2) (st20Rfc4175_422be12To422le12Avx512 src dst w h)
    result

end Conversions

/-! ## They do what the scalar ones do -/

/-- A conversion with DMA whose batches and loops are rounds of a scalar loop. -/
structure DmaConversion.Sound (conversion : DmaConversion) (map : GroupMap Byte) : Prop where
  inSize : map.inSize = sizesOf [conversion.size]
  batches : GroupMap.Batches conversion.batch map conversion.groups
  whole : conversion.groups ∣ conversion.cachePgs
  left : forall src dst place pgCnt, conversion.groups ∣ place ->
    conversion.left src dst place place pgCnt = map.run src dst place pgCnt

namespace DmaConversion

variable {conversion : DmaConversion} {map : GroupMap Byte}

section

variable (sound : conversion.Sound map)

include sound

theorem Sound.inside {index plane offset : Nat}
    (below : index < conversion.cachePgs / conversion.groups)
    (read : offset < conversion.batch.inSize plane) :
    plane = 0 ∧ index * conversion.batch.inSize 0 + offset < conversion.cachePgs * conversion.size := by
  rw [sound.batches.inSize, sound.inSize] at read ⊢
  cases plane with
  | succ plane => exact absurd read (Nat.not_lt_zero offset)
  | zero =>
    refine ⟨rfl, ?_⟩
    have read : offset < conversion.groups * conversion.size := read
    show index * (conversion.groups * conversion.size) + offset < _
    have rounds : (index + 1) * (conversion.groups * conversion.size) ≤
        conversion.cachePgs / conversion.groups * (conversion.groups * conversion.size) :=
      Nat.mul_le_mul_right _ below
    rw [← Nat.mul_assoc (conversion.cachePgs / conversion.groups), Nat.div_mul_cancel sound.whole,
      Nat.add_mul, Nat.one_mul] at rounds
    omega

theorem Sound.reads (first second : Nat -> Byte)
    (same : ∀ offset < conversion.cachePgs * conversion.size, first offset = second offset) :
    conversion.convertCache first = conversion.convertCache second := by
  funext i dst
  apply GroupMap.runAt_congr
  intro index below plane offset read
  obtain ⟨rfl, inside⟩ := sound.inside below read
  rw [Nat.zero_add]
  exact same _ inside

theorem Sound.convertCache_source (src dst : Planes Byte) (i : Nat) :
    conversion.convertCache (sourceBatch (src 0) (conversion.cachePgs * conversion.size) i) i dst =
      map.run src dst (i * conversion.cachePgs) conversion.cachePgs := by
  have moved : conversion.convertCache (sourceBatch (src 0) (conversion.cachePgs * conversion.size) i) i dst =
      conversion.batch.runAt src dst (i * (conversion.cachePgs / conversion.groups))
        (i * (conversion.cachePgs / conversion.groups)) (conversion.cachePgs / conversion.groups) := by
    apply GroupMap.runAt_congr
    intro index below plane offset read
    obtain ⟨rfl, inside⟩ := sound.inside below read
    show src 0 (i * (conversion.cachePgs * conversion.size) + ((0 + index) * conversion.batch.inSize 0 + offset)) = _
    congr 1
    rw [sound.batches.inSize, sound.inSize]
    show i * (conversion.cachePgs * conversion.size) +
      ((0 + index) * (conversion.groups * conversion.size) + offset) =
        (i * (conversion.cachePgs / conversion.groups) + index) * (conversion.groups * conversion.size) + offset
    have count : conversion.cachePgs = conversion.cachePgs / conversion.groups * conversion.groups :=
      (Nat.div_mul_cancel sound.whole).symm
    generalize conversion.cachePgs / conversion.groups = rounds at count
    rw [count]
    ring
  rw [moved, GroupMap.runAt_self, sound.batches.run]
  congr 1
  · rw [Nat.mul_left_comm, Nat.mul_div_cancel' sound.whole]
  · exact Nat.mul_div_cancel' sound.whole

theorem Sound.caches (src dst : Planes Byte) (count : Nat) :
    (List.range' 0 count).foldl
      (fun planes batch => conversion.convertCache
        (sourceBatch (src 0) (conversion.cachePgs * conversion.size) batch) batch planes) dst =
      map.run src dst 0 (count * conversion.cachePgs) := by
  induction count with
  | zero =>
    rw [Nat.zero_mul]
    rfl
  | succ count ih =>
    rw [List.range'_1_concat, List.foldl_append, ih, List.foldl_cons, List.foldl_nil,
      sound.convertCache_source, Nat.zero_add, Nat.succ_mul, GroupMap.run_add, Nat.zero_add]

theorem Sound.run_eq {allocated : Bool} {src dst : Planes Byte}
    {pgCnt : Nat} {plain result : Converted} (plainly : plain = convertGroups map src dst pgCnt)
    (run : conversion.Run allocated src dst pgCnt plain result) :
    result = convertGroups map src dst pgCnt := by
  unfold Run at run
  cases allocated with
  | false => exact run.trans plainly
  | true =>
    obtain ⟨last, converted, loop, rfl⟩ := run
    obtain ⟨passed, rfl⟩ := loop.converts sound.reads CvtDma.init_rings (Nat.zero_le _)
    rw [passed, Nat.sub_zero, sound.caches,
      sound.left _ _ _ _ (Dvd.dvd.mul_left sound.whole _)]
    have whole := map.run_add src dst 0 (pgCnt / conversion.cachePgs * conversion.cachePgs)
      (pgCnt % conversion.cachePgs)
    rw [Nat.div_add_mod', Nat.zero_add] at whole
    rw [← whole]
    rfl

end

theorem exists_run (conversion : DmaConversion) (allocated : Bool) (src dst : Planes Byte) (pgCnt : Nat)
    (plain : Converted) : exists result, conversion.Run allocated src dst pgCnt plain result := by
  cases allocated with
  | false => exact ⟨plain, rfl⟩
  | true =>
    obtain ⟨last, converted, loop⟩ :=
      CvtDma.init_rings.exists_loop conversion.convertCache dst
    exact ⟨_, last, converted, loop, rfl⟩

end DmaConversion

theorem batchLoopsAt_eq {batch left : GroupMap Byte} {groups : Nat}
    (batches : GroupMap.Batches batch left groups) (src dst : Planes Byte) {place : Nat} (pgCnt : Nat)
    (aligned : groups ∣ place) :
    batchLoopsAt batch left groups src dst place place pgCnt = left.run src dst place pgCnt := by
  rw [batchLoopsAt, GroupMap.runAt_self, GroupMap.runAt_self, batches.run, Nat.mul_div_cancel' aligned,
    Nat.mul_comm groups]
  conv_rhs => rw [← Nat.div_add_mod' pgCnt groups, GroupMap.run_add]

theorem PlanarKernel.Unpacks.loopsAt_eq {kernel : PlanarKernel} {map : GroupMap Byte}
    (unpacks : kernel.Unpacks map) (src dst : Planes Byte) {place : Nat} (pgCnt : Nat)
    (aligned : 32 ∣ place) :
    kernel.loopsAt map src dst place place pgCnt = map.run src dst place pgCnt := by
  obtain ⟨start, rfl⟩ := aligned
  have first : forall dst, kernel.batch32.run src dst (32 * start / 32) (pgCnt / 32) =
      map.run src dst (32 * start) (32 * (pgCnt / 32)) := by
    intro dst
    have rounds := (unpacks.batches 16 planarMoves32 planarMoves32_eq).run src dst start (pgCnt / 32)
    rw [Nat.mul_div_cancel_left start (by decide)]
    exact rounds
  have second : forall dst, kernel.batch8.run src dst (32 * start / 8 + pgCnt / 32 * 4) (pgCnt % 32 / 8) =
      map.run src dst (32 * start + 32 * (pgCnt / 32)) (8 * (pgCnt % 32 / 8)) := by
    intro dst
    have rounds := (unpacks.batches 4 planarMoves8 planarMoves8_eq).run src dst
      (32 * start / 8 + pgCnt / 32 * 4) (pgCnt % 32 / 8)
    have position : 2 * 4 * (32 * start / 8 + pgCnt / 32 * 4) = 32 * start + 32 * (pgCnt / 32) := by omega
    rw [position] at rounds
    exact rounds
  have third : 32 * start + pgCnt / 8 * 8 =
      32 * start + 32 * (pgCnt / 32) + 8 * (pgCnt % 32 / 8) := by omega
  have whole : pgCnt = 32 * (pgCnt / 32) + 8 * (pgCnt % 32 / 8) + pgCnt % 8 := by omega
  unfold loopsAt
  simp only [GroupMap.runAt_self]
  rw [first, second, third]
  conv_rhs => rw [whole, GroupMap.run_add, GroupMap.run_add, ← Nat.add_assoc]

theorem be10ToPleDma_sound : be10ToPleDma.Sound be10ToPlanar10 where
  inSize := rfl
  batches := be10ToPle_unpacks.batches 16 planarMoves32 planarMoves32_eq
  whole := by decide
  left src dst _ pgCnt := be10ToPle_unpacks.loopsAt_eq src dst pgCnt

theorem be12ToPleDma_sound : be12ToPleDma.Sound be12ToPlanar12 where
  inSize := rfl
  batches := be12ToPle_unpacks.batches 16 planarMoves32 planarMoves32_eq
  whole := by decide
  left src dst _ pgCnt := be12ToPle_unpacks.loopsAt_eq src dst pgCnt

theorem be10ToLe10Dma_sound : be10ToLe10Dma.Sound be10ToLe10 where
  inSize := rfl
  batches := be10ToLe10Batch_batches
  whole := by decide
  left src dst _ pgCnt := batchLoopsAt_eq be10ToLe10Batch_batches src dst pgCnt

theorem be12ToLe12Dma_sound : be12ToLe12Dma.Sound be12ToLe12 where
  inSize := rfl
  batches := be12ToLe12Batch_batches
  whole := by decide
  left src dst _ pgCnt := batchLoopsAt_eq be12ToLe12Batch_batches src dst pgCnt

/-! ## All of them -/

def avx512Unpackers : List (Conversion × Conversion) := [
  (st20Rfc4175_422be10ToYuv422p10leAvx512, st20Rfc4175_422be10ToYuv422p10leScalar),
  (st20Rfc4175_422be10ToYuv422p16leAvx512, st20Rfc4175_422be10ToYuv422p16leScalar),
  (st20Rfc4175_422be12ToYuv422p12leAvx512, st20Rfc4175_422be12ToYuv422p12leScalar),
  (st20Rfc4175_422be10To422le10Avx512, st20Rfc4175_422be10To422le10Scalar),
  (st20Rfc4175_422be12To422le12Avx512, st20Rfc4175_422be12To422le12Scalar)]

/-- What a conversion with DMA may leave behind, with or without memory for its caches. -/
abbrev DmaRuns := Bool -> Planes Byte -> Planes Byte -> UInt32 -> UInt32 -> Converted -> Prop

def avx512DmaUnpackers : List (DmaRuns × Conversion) := [
  (st20Rfc4175_422be10ToYuv422p10leAvx512Dma, st20Rfc4175_422be10ToYuv422p10leScalar),
  (st20Rfc4175_422be12ToYuv422p12leAvx512Dma, st20Rfc4175_422be12ToYuv422p12leScalar),
  (st20Rfc4175_422be10To422le10Avx512Dma, st20Rfc4175_422be10To422le10Scalar),
  (st20Rfc4175_422be12To422le12Avx512Dma, st20Rfc4175_422be12To422le12Scalar)]

/-- With and without DMA, the vector conversions leave behind what the scalar ones do. -/
theorem avx512_unpackers_eq_scalar :
    (∀ pair ∈ avx512Unpackers, forall src dst w h, pair.1 src dst w h = pair.2 src dst w h) ∧
    ∀ pair ∈ avx512DmaUnpackers, forall allocated src dst w h,
      (exists result, pair.1 allocated src dst w h result) ∧
      forall result, pair.1 allocated src dst w h result -> result = pair.2 src dst w h := by
  constructor
  · unfold avx512Unpackers
    simp only [List.forall_mem_cons, List.not_mem_nil, false_implies, implies_true, and_true]
    exact ⟨be10ToYuv422p10leAvx512_eq, be10ToYuv422p16leAvx512_eq, be12ToYuv422p12leAvx512_eq,
      be10To422le10Avx512_eq, be12To422le12Avx512_eq⟩
  · unfold avx512DmaUnpackers
    simp only [List.forall_mem_cons, List.not_mem_nil, false_implies, implies_true, and_true]
    refine ⟨?_, ?_, ?_, ?_⟩
    · intro allocated src dst w h
      exact ⟨be10ToPleDma.exists_run allocated src dst _ _,
        fun result => be10ToPleDma_sound.run_eq (be10ToYuv422p10leAvx512_eq src dst w h)⟩
    · intro allocated src dst w h
      exact ⟨be12ToPleDma.exists_run allocated src dst _ _,
        fun result => be12ToPleDma_sound.run_eq (be12ToYuv422p12leAvx512_eq src dst w h)⟩
    · intro allocated src dst w h
      exact ⟨be10ToLe10Dma.exists_run allocated src dst _ _,
        fun result => be10ToLe10Dma_sound.run_eq (be10To422le10Avx512_eq src dst w h)⟩
    · intro allocated src dst w h
      exact ⟨be12ToLe12Dma.exists_run allocated src dst _ _,
        fun result => be12ToLe12Dma_sound.run_eq (be12To422le12Avx512_eq src dst w h)⟩

/-- A frame of 1920 by 1080 pixels, whose groups make up some twenty batches of caches. -/
theorem avx512_unpackers_full_hd :
    (exists result, st20Rfc4175_422be10ToYuv422p10leAvx512Dma true (fun _ _ => 0x5a) (fun _ _ => 0)
      1920 1080 result) ∧
    forall result, st20Rfc4175_422be10ToYuv422p10leAvx512Dma true (fun _ _ => 0x5a) (fun _ _ => 0)
        1920 1080 result ->
      result = st20Rfc4175_422be10ToYuv422p10leScalar (fun _ _ => 0x5a) (fun _ _ => 0) 1920 1080 :=
  avx512_unpackers_eq_scalar.2
    (st20Rfc4175_422be10ToYuv422p10leAvx512Dma, st20Rfc4175_422be10ToYuv422p10leScalar)
    (by simp [avx512DmaUnpackers]) true (fun _ _ => 0x5a) (fun _ _ => 0) 1920 1080

end MediaTransport.Convert
