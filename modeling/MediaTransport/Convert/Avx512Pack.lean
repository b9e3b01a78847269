import MediaTransport.Convert.Avx512Unpack

namespace MediaTransport.Convert

open Library

/-!
# Packing with AVX-512

The vector conversions put the parts of a pixel group together with a bitwise or.
The one from 16-bit samples clears what is below the ten bits of a sample first.
The one from 10-bit samples clears nothing: bits above the tenth one go into the
field before.
-/

variable (pixels : Pixels422)

def packBytes (cb cr y0 y1 : BitVec 16) : List Byte :=
  [cb.extractLsb' 8 8,
    cb.extractLsb' 0 8 ||| y0.extractLsb' 8 8,
    y0.extractLsb' 0 8 ||| cr.extractLsb' 8 8,
    cr.extractLsb' 0 8 ||| y1.extractLsb' 8 8,
    y1.extractLsb' 0 8]

theorem packResult_ofLanes16 (lanes : Nat -> BitVec 16) :
    packResult (ofLanes16 lanes) =
      packBytes (lanes 0) (lanes 1) (lanes 2) (lanes 3) ++
        packBytes (lanes 4) (lanes 5) (lanes 6) (lanes 7) := by
  have bytes : packResult (ofLanes16 lanes) =
      [(lanes 0).extractLsb' 8 8 ||| 0, (lanes 0).extractLsb' 0 8 ||| (lanes 2).extractLsb' 8 8,
        (lanes 2).extractLsb' 0 8 ||| (lanes 1).extractLsb' 8 8,
        (lanes 1).extractLsb' 0 8 ||| (lanes 3).extractLsb' 8 8, (lanes 3).extractLsb' 0 8 ||| 0,
        (lanes 4).extractLsb' 8 8 ||| 0, (lanes 4).extractLsb' 0 8 ||| (lanes 6).extractLsb' 8 8,
        (lanes 6).extractLsb' 0 8 ||| (lanes 5).extractLsb' 8 8,
        (lanes 5).extractLsb' 0 8 ||| (lanes 7).extractLsb' 8 8, (lanes 7).extractLsb' 0 8 ||| 0] := rfl
  simp [bytes, packBytes]

/-- The fields of a pixel group with the bits that stray into them. -/
def Pixels422.packStrayBe10 (pixels : Pixels422) : St20Rfc4175_422_10_Pg2Be where
  cb00 := (pixels.cb >>> 2).setWidth 8
  cb00_ := pixels.cb.setWidth 2 ||| pixels.y0.extractLsb' 10 2
  y00 := (pixels.y0 >>> 4).setWidth 6
  y00_ := pixels.y0.setWidth 4 ||| pixels.cr.extractLsb' 10 4
  cr00 := (pixels.cr >>> 6).setWidth 4
  cr00_ := pixels.cr.setWidth 6 ||| pixels.y1.extractLsb' 10 6
  y01 := (pixels.y1 >>> 8).setWidth 2
  y01_ := pixels.y1.setWidth 8

theorem packBytes_shifted :
    packBytes (pixels.cb <<< 6) (pixels.cr <<< 2) (pixels.y0 <<< 4) (pixels.y1 <<< 0) =
      pixels.packStrayBe10.bytes := by
  simp only [packBytes, Pixels422.packStrayBe10, St20Rfc4175_422_10_Pg2Be.bytes]
  simp only [List.cons.injEq, and_true]
  refine ⟨?_, ?_, ?_, ?_, ?_⟩
  all_goals
    apply byte_eq
    intro bit below
    interval_cases bit <;> simp [getElem_joined]

theorem packBytes_masked :
    packBytes ((pixels.cb &&& 0xffc0#16) >>> 0) ((pixels.cr &&& 0xffc0#16) >>> 4)
        ((pixels.y0 &&& 0xffc0#16) >>> 2) ((pixels.y1 &&& 0xffc0#16) >>> 6) =
      pixels.packHighBe10.bytes := by
  simp only [packBytes, Pixels422.packHighBe10, St20Rfc4175_422_10_Pg2Be.bytes]
  simp only [List.cons.injEq, and_true]
  refine ⟨?_, ?_, ?_, ?_, ?_⟩
  all_goals
    apply byte_eq
    intro bit below
    interval_cases bit <;> simp [getElem_joined]

/-! ## The registers of a batch -/

theorem lane16_ofLanes16 (lanes : Nat -> BitVec 16) (lane : Nat) :
    lane16 (ofLanes16 lanes) lane = lanes lane := by
  rw [lane16, ofLanes16_low, ofLanes16_high]
  simp

theorem lane16_andSi128 (first second : Register) (lane : Nat) :
    lane16 (andSi128 first second) lane = lane16 first lane &&& lane16 second lane := by
  apply BitVec.eq_of_getLsbD_eq
  intro bit below
  simp only [BitVec.getLsbD_and, getLsbD_lane16, andSi128]
  grind

def pixelsAt (group : Planes Byte) (index : Nat) : Pixels422 :=
  planar422.load (group.tail fun plane => index * planar422.size plane)

section Batches

variable {masked : Register -> Register} (mask : BitVec 16 -> BitVec 16)
  (lanes : forall src lane, lane < 8 -> lane16 (masked src) lane = mask (lane16 src lane))
  (group : Planes Byte)

def batchRegisters (masked : Register -> Register) (group : Planes Byte) : List Register :=
  packMoves (masked (loaduSi128 (group 0))) (masked (loaduSi128 fun index => group 0 (16 + index)))
    (masked (loaduSi128 (group 1))) (masked (loaduSi128 (group 2)))

include lanes

theorem batchRegisters_lane16 {j half : Nat} (few : j < 4) (two : half < 2) :
    let src := (batchRegisters masked group).getD j fun _ => 0
    let pixels := pixelsAt group (2 * j + half)
    lane16 src (4 * half) = mask pixels.cb ∧ lane16 src (4 * half + 1) = mask pixels.cr ∧
      lane16 src (4 * half + 2) = mask pixels.y0 ∧ lane16 src (4 * half + 3) = mask pixels.y1 := by
  have blue := lanes (loaduSi128 (group 1)) (2 * j + half) (by omega)
  have red := lanes (loaduSi128 (group 2)) (2 * j + half) (by omega)
  have low := lanes (loaduSi128 (group 0))
  have high := lanes (loaduSi128 fun index => group 0 (16 + index))
  interval_cases j <;> interval_cases half
  · exact ⟨blue, red, low 0 (by decide), low 1 (by decide)⟩
  · exact ⟨blue, red, low 2 (by decide), low 3 (by decide)⟩
  · exact ⟨blue, red, low 4 (by decide), low 5 (by decide)⟩
  · exact ⟨blue, red, low 6 (by decide), low 7 (by decide)⟩
  · exact ⟨blue, red, high 0 (by decide), high 1 (by decide)⟩
  · exact ⟨blue, red, high 2 (by decide), high 3 (by decide)⟩
  · exact ⟨blue, red, high 4 (by decide), high 5 (by decide)⟩
  · exact ⟨blue, red, high 6 (by decide), high 7 (by decide)⟩

theorem packBatch_batches (move : Nat -> BitVec 16 -> BitVec 16)
    {pack : Pixels422 -> St20Rfc4175_422_10_Pg2Be}
    (packed : forall (pixels : Pixels422) half, half < 2 ->
      packBytes (move (4 * half) (mask pixels.cb)) (move (4 * half + 1) (mask pixels.cr))
        (move (4 * half + 2) (mask pixels.y0)) (move (4 * half + 3) (mask pixels.y1)) =
        (pack pixels).bytes) :
    GroupMap.Batches (packBatch masked fun src => ofLanes16 fun lane => move lane (lane16 src lane))
      (planar422.map pack St20Rfc4175_422_10_Pg2Be.format) 8 where
  inSize plane := by
    match plane with
    | 0 | 1 | 2 | _ + 3 => rfl
  outSize plane := by cases plane <;> rfl
  convert planes plane offset inside := by
    cases plane with
    | succ plane => exact absurd inside (Nat.not_lt_zero offset)
    | zero =>
      have inside : offset < 40 := inside
      let register (j : Nat) : List Byte :=
        packResult (ofLanes16 fun lane =>
          move lane (lane16 ((batchRegisters masked planes).getD j fun _ => 0) lane))
      have two : ∀ j < 4, register j =
          (pack (pixelsAt planes (2 * j))).bytes ++ (pack (pixelsAt planes (2 * j + 1))).bytes := by
        intro j few
        obtain ⟨cb, cr, y0, y1⟩ := batchRegisters_lane16 mask lanes planes few (by decide : 0 < 2)
        obtain ⟨cb', cr', y0', y1'⟩ := batchRegisters_lane16 mask lanes planes few (by decide : 1 < 2)
        have first := packed (pixelsAt planes (2 * j)) 0 (by decide)
        have second := packed (pixelsAt planes (2 * j + 1)) 1 (by decide)
        simp only [Nat.mul_zero, Nat.mul_one, Nat.zero_add, Nat.add_zero, Nat.reduceAdd]
          at cb cr y0 y1 cb' cr' y0' y1' first second
        show packResult _ = _
        rw [packResult_ofLanes16, cb, cr, y0, y1, cb', cr', y0', y1', first, second]
      have stored :
          (packBatch masked fun src => ofLanes16 fun lane => move lane (lane16 src lane)).convert
              planes 0 offset =
            ([0, 1, 2, 3].flatMap register).getD offset 0 := rfl
      have bytes : [0, 1, 2, 3].flatMap register =
          [0, 1, 2, 3].flatMap fun j =>
            (pack (pixelsAt planes (2 * j))).bytes ++ (pack (pixelsAt planes (2 * j + 1))).bytes := by
        simp only [List.flatMap_cons, List.flatMap_nil]
        rw [two 0 (by decide), two 1 (by decide), two 2 (by decide), two 3 (by decide)]
      have converted : forall index place,
          (planar422.map pack St20Rfc4175_422_10_Pg2Be.format).convert
              (planes.tail fun input => index * planar422.size input) 0 place =
            (pack (pixelsAt planes index)).bytes.getD place 0 := fun _ _ => rfl
      rw [stored, bytes]
      show _ = GroupMap.convert _ (planes.tail fun input => offset / 5 * planar422.size input) 0
        (offset % 5)
      rw [converted]
      interval_cases offset <;> rfl

end Batches

theorem p16ToBe10Batch_batches : GroupMap.Batches p16ToBe10Batch planar16ToBe10 8 := by
  have lanes : forall src lane, lane < 8 ->
      lane16 (andSi128 src (wordsOf highMask)) lane = lane16 src lane &&& 0xffc0#16 := by
    intro src lane below
    rw [lane16_andSi128, wordsOf, lane16_ofLanes16]
    interval_cases lane <;> rfl
  apply packBatch_batches (fun word => word &&& 0xffc0#16) lanes
    fun lane word => word >>> lanesOf p16leToBe10SrlvTbl128 lane
  intro pixels half two
  rw [← packBytes_masked]
  interval_cases half <;> rfl

def p10Stray : GroupMap Byte :=
  planar422.map Pixels422.packStrayBe10 St20Rfc4175_422_10_Pg2Be.format

theorem p10ToBe10Batch_batches : GroupMap.Batches p10ToBe10Batch p10Stray 8 := by
  apply packBatch_batches id (fun _ _ _ => rfl) fun lane word => word <<< lanesOf pleToBe10SllvTbl128 lane
  intro pixels half two
  rw [← packBytes_shifted]
  interval_cases half <;> rfl

/-! ## Stray bits -/

/-- Each bit of a sample above its ten bits falls on a bit that is set anyway. -/
structure Pixels422.Covered (pixels : Pixels422) : Prop where
  y0 : ∀ bit < 2, pixels.y0.getLsbD (10 + bit) -> pixels.cb.getLsbD bit
  cr : ∀ bit < 4, pixels.cr.getLsbD (10 + bit) -> pixels.y0.getLsbD bit
  y1 : ∀ bit < 6, pixels.y1.getLsbD (10 + bit) -> pixels.cr.getLsbD bit

theorem setWidth_or_stray {width : Nat} (field stray : Sample) :
    field.setWidth width ||| stray.extractLsb' 10 width = field.setWidth width ↔
      ∀ bit < width, stray.getLsbD (10 + bit) -> field.getLsbD bit := by
  constructor
  · intro same bit below set
    have here := congrArg (fun bits => bits.getLsbD bit) same
    simpa [below, set] using here
  · intro covered
    apply BitVec.eq_of_getLsbD_eq
    intro bit below
    have bound := covered bit below
    simp only [BitVec.getLsbD_or, BitVec.getLsbD_setWidth, BitVec.getLsbD_extractLsb', below, decide_true,
      Bool.true_and]
    cases set : stray.getLsbD (10 + bit) with
    | false => rw [Bool.or_false]
    | true => rw [bound set, Bool.or_true]

theorem packStrayBe10_eq_iff : pixels.packStrayBe10 = pixels.packBe10 ↔ pixels.Covered := by
  simp only [Pixels422.packStrayBe10, Pixels422.packBe10, St20Rfc4175_422_10_Pg2Be.mk.injEq, true_and,
    and_true, setWidth_or_stray]
  constructor
  · rintro ⟨y0, cr, y1⟩
    exact ⟨y0, cr, y1⟩
  · rintro ⟨y0, cr, y1⟩
    exact ⟨y0, cr, y1⟩

theorem stray_run_eq_iff (src dst : Planes Byte) (count : Nat) :
    p10Stray.run src dst 0 count = planar10ToBe10.run src dst 0 count ↔
      ∀ index < count, (pixelsAt src index).Covered := by
  rw [GroupMap.run_eq_iff src dst count (show p10Stray.outSize = planar10ToBe10.outSize from rfl)]
  constructor
  · intro alike index below
    rw [← packStrayBe10_eq_iff]
    exact St20Rfc4175_422_10_Pg2Be.format.store_inj (alike index below)
  · intro covered index below plane offset _
    have same := (packStrayBe10_eq_iff (pixelsAt src index)).mpr (covered index below)
    exact congrArg (fun pg => St20Rfc4175_422_10_Pg2Be.format.store pg plane offset) same

section Conversions

variable (src dst : Planes Byte) (w h : UInt32)

theorem p16leToBe10Avx512_eq :
    st20Yuv422p16leToRfc4175_422be10Avx512 src dst w h =
      st20Yuv422p16leToRfc4175_422be10Scalar src dst w h := by
  rw [st20Yuv422p16leToRfc4175_422be10Avx512, batchLoops_eq p16ToBe10Batch_batches]
  rfl

theorem p10leToBe10Avx512_loops (pgCnt : Nat) :
    batchLoops p10ToBe10Batch planar10ToBe10 8 src dst pgCnt =
      planar10ToBe10.run src (p10Stray.run src dst 0 (pgCnt / 8 * 8)) (pgCnt / 8 * 8) (pgCnt % 8) := by
  rw [batchLoops, p10ToBe10Batch_batches.run, Nat.mul_zero, Nat.mul_comm 8]

theorem p10leToBe10Avx512_eq_iff :
    st20Yuv422p10leToRfc4175_422be10Avx512 src dst w h =
        st20Yuv422p10leToRfc4175_422be10Scalar src dst w h ↔
      ∀ index < pgCount w h 2 / 8 * 8, (pixelsAt src index).Covered := by
  have whole := planar10ToBe10.run_add src dst 0 (pgCount w h 2 / 8 * 8) (pgCount w h 2 % 8)
  rw [Nat.div_add_mod', Nat.zero_add] at whole
  rw [st20Yuv422p10leToRfc4175_422be10Avx512, st20Yuv422p10leToRfc4175_422be10Scalar, convertGroups,
    p10leToBe10Avx512_loops, whole, ← stray_run_eq_iff src dst]
  constructor
  · intro same
    have planes := congrArg Prod.snd (Option.some.inj same)
    exact GroupMap.run_after_inj src dst _ _ rfl planes
  · intro same
    rw [same]

/-- The vector conversion of 16-bit samples stores what the scalar one does; that of 10-bit samples does
exactly when the stray bits in its batches are covered. -/
theorem avx512_packers_eq_scalar :
    (st20Yuv422p10leToRfc4175_422be10Avx512 src dst w h =
        st20Yuv422p10leToRfc4175_422be10Scalar src dst w h ↔
      ∀ index < pgCount w h 2 / 8 * 8, (pixelsAt src index).Covered) ∧
    st20Yuv422p16leToRfc4175_422be10Avx512 src dst w h =
      st20Yuv422p16leToRfc4175_422be10Scalar src dst w h :=
  ⟨p10leToBe10Avx512_eq_iff src dst w h, p16leToBe10Avx512_eq src dst w h⟩

end Conversions

def strayLuma : Planes Byte := fun plane offset => if plane = 0 ∧ offset = 1 then 0x04 else 0

/-- The stray bit of a luma sample is stored in the field of the sample before. -/
theorem stray_luma_stored : ¬ forall (src dst : Planes Byte) (w h : UInt32),
    st20Yuv422p10leToRfc4175_422be10Avx512 src dst w h =
        st20Yuv422p10leToRfc4175_422be10Scalar src dst w h ∧
      st20Yuv422p16leToRfc4175_422be10Avx512 src dst w h =
        st20Yuv422p16leToRfc4175_422be10Scalar src dst w h := by
  intro equal
  have same := (equal strayLuma (fun _ _ => 0) 16 1).1
  have stored := congrArg (Option.map fun result => result.2 0 1) same
  exact absurd stored (by decide +kernel)

end MediaTransport.Convert
