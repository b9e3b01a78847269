import MediaTransport.Convert.Avx512

namespace MediaTransport.Convert

open Library

/-!
# The AVX-512 conversions do what the scalar ones do

Each batch is some rounds of the scalar loop.  The loops of a conversion then make
up the scalar loop, whatever number of pixel groups is left for each of them.
-/

/-- The loop over batches and the loop over the rest are one loop over pixel groups. -/
theorem batchLoops_eq {batch left : GroupMap Byte} {groups : Nat}
    (batches : GroupMap.Batches batch left groups) (src dst : Planes Byte) (pgCnt : Nat) :
    batchLoops batch left groups src dst pgCnt = left.run src dst 0 pgCnt := by
  rw [batchLoops, batches.run, Nat.mul_zero, Nat.mul_comm groups]
  have whole := left.run_add src dst 0 (pgCnt / groups * groups) (pgCnt % groups)
  rw [Nat.div_add_mod', Nat.zero_add] at whole
  exact whole.symm

namespace PlanarKernel

/-- A stage has the samples that a conversion of one pixel group stores. -/
structure Unpacks (kernel : PlanarKernel) (map : GroupMap Byte) : Prop where
  inSize : map.inSize = sizesOf [kernel.size]
  outSize : map.outSize = planar422.size
  stage : forall (group : Planes Byte) (half : Nat), half < 2 ->
    forall plane offset, offset < planar422.size plane ->
    kernel.stage (maskzLoaduEpi8 kernel.k (group 0)) (planarPlace plane half offset) =
      map.convert (group.tail fun _ => half * kernel.size) plane offset

variable {kernel : PlanarKernel} {map : GroupMap Byte}

/-- The place of a byte in the registers' stores tells its pixel group and its sample. -/
theorem planarPlaces_getD {groups plane place : Nat} (stage : Nat -> Register)
    (inside : place < groups * planar422.size plane) :
    planesOf (planarPlaces groups stage) plane place =
      stage (place / planar422.size plane / 2)
        (planarPlace plane (place / planar422.size plane % 2) (place % planar422.size plane)) := by
  have few : plane < 3 := by
    match plane, inside with
    | 0, _ => decide
    | 1, _ => decide
    | 2, _ => decide
    | plane + 3, inside => exact absurd inside (Nat.not_lt_zero place)
  unfold planesOf planarPlaces
  rw [getD_map_range _ _ few, getD_map_range _ _ inside]

/-- A register's stages make a batch of pixel groups out of what one stage does. -/
theorem Unpacks.batches (unpacks : kernel.Unpacks map) (registers : Nat)
    (moves : (Nat -> Nat -> Byte) -> List (List Byte))
    (places : forall stage, moves stage = planarPlaces (2 * registers) stage) :
    GroupMap.Batches (kernel.batch registers moves places) map (2 * registers) where
  inSize plane := by
    rw [unpacks.inSize]
    cases plane <;> rfl
  outSize plane := by
    rw [unpacks.outSize]
    rfl
  convert group plane place inside := by
    rw [unpacks.outSize] at inside ⊢
    show planesOf (moves (kernel.stages (group 0))) plane place = _
    rw [places, planarPlaces_getD _ inside]
    have few : place / planar422.size plane / 2 * 2 + place / planar422.size plane % 2 =
        place / planar422.size plane := by omega
    have positive : 0 < planar422.size plane := by
      apply Nat.pos_of_ne_zero
      intro zero
      rw [zero, Nat.mul_zero] at inside
      exact absurd inside (Nat.not_lt_zero place)
    -- the two groups of a stage start where its register was loaded
    have staged := unpacks.stage
      (group.tail fun _ => 2 * kernel.size * (place / planar422.size plane / 2))
      (place / planar422.size plane % 2) (Nat.mod_lt _ (by decide)) plane
      (place % planar422.size plane) (Nat.mod_lt _ positive)
    refine staged.trans ?_
    apply map.reads
    · intro input offset read
      rw [unpacks.inSize] at read ⊢
      cases input with
      | zero =>
        have start : 2 * kernel.size * (place / planar422.size plane / 2) +
            place / planar422.size plane % 2 * kernel.size =
              place / planar422.size plane * kernel.size := by
          nth_rewrite 3 [← few]
          ring
        show group 0 (_ + (_ + offset)) = group 0 (_ + offset)
        rw [← Nat.add_assoc, start]
        rfl
      | succ input => exact absurd read (Nat.not_lt_zero offset)
    · rw [unpacks.outSize]
      exact Nat.mod_lt _ positive

/-- A conversion whose stages unpack a group is the scalar one, for every number of groups. -/
theorem Unpacks.loops_eq (unpacks : kernel.Unpacks map) (src dst : Planes Byte) (pgCnt : Nat) :
    kernel.loops map src dst pgCnt = map.run src dst 0 pgCnt := by
  have first : kernel.batch32.run src dst 0 (pgCnt / 32) = map.run src dst 0 (32 * (pgCnt / 32)) :=
    (unpacks.batches 16 planarMoves32 planarMoves32_eq).run src dst 0 (pgCnt / 32)
  have second : forall dst, kernel.batch8.run src dst (pgCnt / 32 * 4) (pgCnt % 32 / 8) =
      map.run src dst (32 * (pgCnt / 32)) (8 * (pgCnt % 32 / 8)) := by
    intro dst
    have eight := (unpacks.batches 4 planarMoves8 planarMoves8_eq).run src dst (pgCnt / 32 * 4)
      (pgCnt % 32 / 8)
    rw [show 2 * 4 * (pgCnt / 32 * 4) = 32 * (pgCnt / 32) by ring] at eight
    exact eight
  have third : pgCnt / 8 * 8 = 32 * (pgCnt / 32) + 8 * (pgCnt % 32 / 8) := by omega
  have whole : pgCnt = 32 * (pgCnt / 32) + 8 * (pgCnt % 32 / 8) + pgCnt % 8 := by omega
  show map.run src (kernel.batch8.run src (kernel.batch32.run src dst 0 (pgCnt / 32)) _ _) _ _ = _
  rw [first, second, third]
  conv_rhs => rw [whole, GroupMap.run_add, GroupMap.run_add, Nat.zero_add, Nat.zero_add]

end PlanarKernel

section Stages

theorem lane_byte {left right : BitVec 16} (start : Nat) (same : left = right) :
    left.extractLsb' start 8 = right.extractLsb' start 8 := by rw [same]

/-- The shuffles, shifts and masks of the stages, bit by bit. -/
theorem be10ToPle_unpacks : be10ToPleKernel.Unpacks be10ToPlanar10 where
  inSize := rfl
  outSize := rfl
  stage group half below plane offset inside := by
    show be10ToPleStage _ _ = _
    rw [be10ToPleStage, srlvEpi16, wordsOf, andSi128_ofLanes16]
    match plane, inside with
    | 0, inside =>
      have inside : offset < 4 := inside
      interval_cases half <;> interval_cases offset <;> apply lane_byte
      · exact masked_shift_joined _ _ 0x3ff (by decide) (by decide) (by decide)
      · exact masked_shift_joined _ _ 0x3ff (by decide) (by decide) (by decide)
      · exact masked_joined_second _ _ 0x3ff (by decide) (by decide)
      · exact masked_joined_second _ _ 0x3ff (by decide) (by decide)
      · exact masked_shift_joined _ _ 0x3ff (by decide) (by decide) (by decide)
      · exact masked_shift_joined _ _ 0x3ff (by decide) (by decide) (by decide)
      · exact masked_joined_second _ _ 0x3ff (by decide) (by decide)
      · exact masked_joined_second _ _ 0x3ff (by decide) (by decide)
    | 1, inside =>
      have inside : offset < 2 := inside
      interval_cases half <;> interval_cases offset <;> apply lane_byte
      all_goals exact masked_shift_joined_first _ _ 0x3ff (by decide) (by decide)
    | 2, inside =>
      have inside : offset < 2 := inside
      interval_cases half <;> interval_cases offset <;> apply lane_byte
      all_goals exact masked_shift_joined _ _ 0x3ff (by decide) (by decide) (by decide)
    | plane + 3, inside => exact absurd inside (Nat.not_lt_zero offset)

theorem be12ToPle_unpacks : be12ToPleKernel.Unpacks be12ToPlanar12 where
  inSize := rfl
  outSize := rfl
  stage group half below plane offset inside := by
    show be12ToPleStage _ _ = _
    rw [be12ToPleStage, srlvEpi16, wordsOf, andSi128_ofLanes16]
    match plane, inside with
    | 0, inside =>
      have inside : offset < 4 := inside
      interval_cases half <;> interval_cases offset <;> apply lane_byte
      all_goals exact masked_joined_second _ _ 0xfff (by decide) (by decide)
    | 1, inside =>
      have inside : offset < 2 := inside
      interval_cases half <;> interval_cases offset <;> apply lane_byte
      all_goals exact masked_shift_joined_first _ _ 0xfff (by decide) (by decide)
    | 2, inside =>
      have inside : offset < 2 := inside
      interval_cases half <;> interval_cases offset <;> apply lane_byte
      all_goals exact masked_shift_joined_first _ _ 0xfff (by decide) (by decide)
    | plane + 3, inside => exact absurd inside (Nat.not_lt_zero offset)

theorem be10ToP16le_unpacks : be10ToP16leKernel.Unpacks be10ToPlanar16 where
  inSize := rfl
  outSize := rfl
  stage group half below plane offset inside := by
    show be10ToP16leStage _ _ = _
    rw [be10ToP16leStage, sllvEpi16, wordsOf, andSi128_ofLanes16]
    match plane, inside with
    | 0, inside =>
      have inside : offset < 4 := inside
      interval_cases half <;> interval_cases offset <;> apply lane_byte
      · exact masked_left_joined _ _ (by decide) (by decide) (by decide) (by decide) (by decide)
      · exact masked_left_joined _ _ (by decide) (by decide) (by decide) (by decide) (by decide)
      · exact masked_left_joined_second _ _
      · exact masked_left_joined_second _ _
      · exact masked_left_joined _ _ (by decide) (by decide) (by decide) (by decide) (by decide)
      · exact masked_left_joined _ _ (by decide) (by decide) (by decide) (by decide) (by decide)
      · exact masked_left_joined_second _ _
      · exact masked_left_joined_second _ _
    | 1, inside =>
      have inside : offset < 2 := inside
      interval_cases half <;> interval_cases offset <;> apply lane_byte
      all_goals exact masked_left_joined_first _ _
    | 2, inside =>
      have inside : offset < 2 := inside
      interval_cases half <;> interval_cases offset <;> apply lane_byte
      all_goals exact masked_left_joined _ _ (by decide) (by decide) (by decide) (by decide) (by decide)
    | plane + 3, inside => exact absurd inside (Nat.not_lt_zero offset)

end Stages

/-! ## The little-endian formats -/

/-- Three groups in 15 bytes are shuffled in one lane. -/
theorem be10ToLe10Batch_batches : GroupMap.Batches be10ToLe10Batch be10ToLe10 3 where
  inSize plane := by cases plane <;> rfl
  outSize plane := by cases plane <;> rfl
  convert group plane offset inside := by
    cases plane with
    | succ plane => exact absurd inside (Nat.not_lt_zero offset)
    | zero =>
      have inside : offset < 15 := inside
      have stored : be10ToLe10Batch.convert group 0 offset =
          be10ToLeResult (maskzLoaduEpi8 0x7FFF (group 0)) offset :=
        getD_map_range _ 0 inside
      have left : forall register index, rolEpi32 register 2 index =
          register index <<< 2 ||| register (4 * (index / 4) + (index % 4 + 3) % 4) >>> 6 :=
        fun register index => rolEpi32_apply register index (by decide)
      have right : forall register index, rorEpi32 register 2 index =
          register index >>> 2 ||| register (4 * (index / 4) + (index % 4 + 1) % 4) <<< 6 :=
        fun register index => rorEpi32_apply register index (by decide)
      have loaded : ∀ index < 15,
          maskzLoaduEpi8 0x7FFF (group 0) index = group 0 index := by
        intro index below
        interval_cases index <;> rfl
      have tail : forall start offset,
          group.tail (fun input => start * be10ToLe10.inSize input) 0 offset =
            group 0 (start * 5 + offset) := fun start offset => rfl
      have size : be10ToLe10.outSize 0 = 5 := rfl
      rw [stored, be10ToLe10_convert, size]
      interval_cases offset <;>
        simp [↓planesOf_zero, be10ToLeResult, orSi128, andSi128, shuffleEpi8, bytesOf, left, right,
          be10ToLeShuffleL0Tbl128, be10ToLeShuffleR0Tbl128, be10ToLeShuffleL1Tbl128,
          be10ToLeShuffleR1Tbl128, be10ToAndL0Tbl128, be10ToLeAndR0Tbl128, ↓tail, loaded]
      all_goals
        apply byte_eq
        intro bit below
        interval_cases bit <;> simp

theorem be12ToLe12Batch_batches : GroupMap.Batches be12ToLe12Batch be12ToLe12 2 where
  inSize plane := by cases plane <;> rfl
  outSize plane := by cases plane <;> rfl
  convert group plane offset inside := by
    cases plane with
    | succ plane => exact absurd inside (Nat.not_lt_zero offset)
    | zero =>
      have inside : offset < 12 := inside
      have stored : be12ToLe12Batch.convert group 0 offset =
          be12ToLe12Result (maskzLoaduEpi8 0xFFF (group 0)) offset :=
        getD_map_range _ 0 inside
      have shifted : forall register index, index % 4 < 3 -> srliEpi32 register 4 index =
          register index >>> 4 ||| register (4 * (index / 4) + (index % 4 + 1)) <<< 4 :=
        fun register index => srliEpi32_apply register index (by decide)
      have loaded : ∀ index < 12,
          maskzLoaduEpi8 0xFFF (group 0) index = group 0 index := by
        intro index below
        interval_cases index <;> rfl
      have tail : forall start offset,
          group.tail (fun input => start * be12ToLe12.inSize input) 0 offset =
            group 0 (start * 6 + offset) := fun start offset => rfl
      have size : be12ToLe12.outSize 0 = 6 := rfl
      rw [stored, be12ToLe12_convert, size]
      interval_cases offset <;>
        simp [↓planesOf_zero, be12ToLe12Result, shuffleEpi8, bytesOf, shifted, be12ToLe12Shuffle0Tbl128,
          be12ToLe12Shuffle1Tbl128, ↓tail, loaded]

/-! ## The conversions -/

section Conversions

variable (src dst : Planes Byte) (w h : UInt32)

theorem be10ToYuv422p10leAvx512_eq :
    st20Rfc4175_422be10ToYuv422p10leAvx512 src dst w h =
      st20Rfc4175_422be10ToYuv422p10leScalar src dst w h := by
  rw [st20Rfc4175_422be10ToYuv422p10leAvx512, be10ToPle_unpacks.loops_eq]
  rfl

theorem be10ToYuv422p16leAvx512_eq :
    st20Rfc4175_422be10ToYuv422p16leAvx512 src dst w h =
      st20Rfc4175_422be10ToYuv422p16leScalar src dst w h := by
  rw [st20Rfc4175_422be10ToYuv422p16leAvx512, be10ToP16le_unpacks.loops_eq]
  rfl

theorem be12ToYuv422p12leAvx512_eq :
    st20Rfc4175_422be12ToYuv422p12leAvx512 src dst w h =
      st20Rfc4175_422be12ToYuv422p12leScalar src dst w h := by
  rw [st20Rfc4175_422be12ToYuv422p12leAvx512, be12ToPle_unpacks.loops_eq]
  rfl

theorem be10To422le10Avx512_eq :
    st20Rfc4175_422be10To422le10Avx512 src dst w h = st20Rfc4175_422be10To422le10Scalar src dst w h := by
  rw [st20Rfc4175_422be10To422le10Avx512, batchLoops_eq be10ToLe10Batch_batches]
  rfl

theorem be12To422le12Avx512_eq :
    st20Rfc4175_422be12To422le12Avx512 src dst w h = st20Rfc4175_422be12To422le12Scalar src dst w h := by
  rw [st20Rfc4175_422be12To422le12Avx512, batchLoops_eq be12ToLe12Batch_batches]
  rfl

end Conversions

end MediaTransport.Convert
