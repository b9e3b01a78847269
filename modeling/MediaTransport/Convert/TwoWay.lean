import MediaTransport.Convert.V210
import MediaTransport.Library.BlockPick

namespace MediaTransport.Convert

open Library
open Library.GroupMap

/-!
# Conversions that also give a smaller picture

The 2-way conversions fill a full target as the ordinary ones do, and a second
one with one group out of every block of `decimator` lines and `decimator` groups.
Their checks are about pixels, while the loops count groups.  The conversion
into planes takes the last group of a block, the one into v210 the first group
of its last line.
-/

/-! ## The loops -/

/-- `line % decimator == stride` -/
def lastOf (decimator : Int32) (index : Nat) : Bool :=
  UInt32.ofNat index % decimator.toUInt32 == (decimator - 1).toUInt32

section Conversions

variable (src full : Planes Byte) (w h : UInt32) (decimated : Planes Byte) (decimator : Int32)

/-- What a conversion into two targets returns and leaves in them; nothing where it divides by zero
or a number of 32 bits overflows. -/
abbrev ConvertedTwice := Option (Except Errno Unit × Planes Byte × Planes Byte)

def st20Rfc4175_422be10ToYuv422p10leScalar2way : ConvertedTwice :=
  let pgPerLine := w / 2
  let done := be10ToPlanar10.pickLines src (fun group _ _ => group)
    (fun line p => lastOf decimator line && lastOf decimator p) pgPerLine.toNat h.toNat
    ⟨0, full, 0, decimated⟩
  some (.ok (), done.full, done.picked)

/-- The group that is kept starts `decimator * 16` bytes before the end of the full target; the product
is a signed number, which is computed wherever there is a block. -/
def st20Rfc4175_422be10ToV210Scalar2way : ConvertedTwice :=
  let linePgCount := w / 2
  let lineBatch := linePgCount / 3
  let size := decimator.toUInt32.toNat
  if 2 ^ 31 ≤ size * 16 ∧ size ≤ lineBatch.toNat ∧ size ≤ h.toNat then
    none
  else
    let done := be10ToV210.pickLines src (fun _ full batch => full.tail fun _ => batch * 16 - size * 16)
      (fun line i => lastOf decimator line && lastOf decimator i) lineBatch.toNat h.toNat
      ⟨0, full, 0, decimated⟩
    some (.ok (), done.full, done.picked)

/-! ## The checks -/

def st20Rfc4175_422be10ToYuv422p10leSimd2way : ConvertedTwice :=
  -- `w % decimator` is undefined for zero, and comes before the check of the decimator
  if decimator = 0 then
    none
  else if w % decimator.toUInt32 ≠ 0 then
    some (.error .inval, full, decimated)
  else if h % decimator.toUInt32 ≠ 0 then
    some (.error .inval, full, decimated)
  else if decimator < 1 then
    some (.error .inval, full, decimated)
  else
    st20Rfc4175_422be10ToYuv422p10leScalar2way src full w h decimated decimator

/-- `RTE_IS_POWER_OF_2` -/
def rteIsPowerOf2 (n : Int32) : Bool := n != 0 && (n - 1) &&& n == 0

def st20Rfc4175_422be10ToV210Simd2way : ConvertedTwice :=
  let linePgCount := w / 2
  if linePgCount % 3 ≠ 0 then
    some (.error .inval, full, decimated)
  else if decimator = 0 then
    none
  else if w % decimator.toUInt32 ≠ 0 then
    some (.error .inval, full, decimated)
  else if h % decimator.toUInt32 ≠ 0 then
    some (.error .inval, full, decimated)
  else if decimator < 1 ∨ !rteIsPowerOf2 decimator then
    some (.error .inval, full, decimated)
  else
    st20Rfc4175_422be10ToV210Scalar2way src full w h decimated decimator

end Conversions

/-! ## What is asked of the two targets -/

/-- A picture of groups that come from one group of each block. -/
def BlockPicture (map : GroupMap Byte) (pixels w h size : Nat) (src picture : Planes Byte) : Prop :=
  ∀ line < h / size, ∀ group < w / size / pixels,
    exists srcLine srcGroup,
      (line * size ≤ srcLine ∧ srcLine < (line + 1) * size) ∧
      (group * size ≤ srcGroup ∧ srcGroup < (group + 1) * size) ∧
      forall plane offset, offset < map.inSize plane ->
        picture plane ((line * (w / size / pixels) + group) * map.inSize plane + offset) =
          src plane ((srcLine * (w / pixels) + srcGroup) * map.inSize plane + offset)

variable {map : GroupMap Byte}

/-- The target has the conversion of a picture of `w / size` by `h / size` pixels, and nothing else. -/
def PictureIs (map : GroupMap Byte) (pixels w h size : Nat) (picture before after : Planes Byte) : Prop :=
  h / size * (w / size / pixels) * pixels = w / size * (h / size) ∧
    after = map.run picture before 0 (h / size * (w / size / pixels))

/-- A conversion into two targets returns, with the ordinary conversion and a smaller picture or with
an error and untouched targets. -/
def GivesBoth (map : GroupMap Byte) (pixels : Nat) (w h : UInt32) (decimator : Int32) (ordinary : Conversion)
    (twoWay : Planes Byte -> Planes Byte -> UInt32 -> UInt32 -> Planes Byte -> Int32 -> ConvertedTwice) :
    Prop :=
  forall src full decimated, exists status fullResult decimatedResult,
    twoWay src full w h decimated decimator = some (status, fullResult, decimatedResult) ∧
    (status = .ok () ->
      ordinary src full w h = some (.ok (), fullResult) ∧
      exists picture,
        BlockPicture map pixels w.toNat h.toNat decimator.toUInt32.toNat src picture ∧
        PictureIs map pixels w.toNat h.toNat decimator.toUInt32.toNat picture decimated decimatedResult) ∧
    (status ≠ .ok () -> fullResult = full ∧ decimatedResult = decimated)

/-- What is asked of both conversions; the smaller targets of both are conversions of one picture. -/
structure TwoWaySound (w h : UInt32) (decimator : Int32) : Prop where
  planar : GivesBoth be10ToPlanar10 2 w h decimator st20Rfc4175_422be10ToYuv422p10leScalar
    st20Rfc4175_422be10ToYuv422p10leSimd2way
  v210 : GivesBoth be10ToV210 6 w h decimator st20Rfc4175_422be10ToV210Scalar
    st20Rfc4175_422be10ToV210Simd2way
  same : forall src planarFull planar v210Full v210 planarFullResult planarResult v210FullResult v210Result,
    st20Rfc4175_422be10ToYuv422p10leSimd2way src planarFull w h planar decimator =
      some (.ok (), planarFullResult, planarResult) ->
    st20Rfc4175_422be10ToV210Simd2way src v210Full w h v210 decimator =
      some (.ok (), v210FullResult, v210Result) ->
    exists picture,
      PictureIs be10ToPlanar10 2 w.toNat h.toNat decimator.toUInt32.toNat picture planar planarResult ∧
      PictureIs be10ToV210 6 w.toNat h.toNat decimator.toUInt32.toNat picture v210 v210Result

/-! ## What the checks accept -/

/-- The checks that both conversions make. -/
structure Accepted (w h : UInt32) (decimator : Int32) : Prop where
  positive : 1 ≤ decimator
  width : w.toNat % decimator.toUInt32.toNat = 0
  height : h.toNat % decimator.toUInt32.toNat = 0

/-- Those of the conversion into v210. -/
structure AcceptedV210 (w h : UInt32) (decimator : Int32) : Prop extends Accepted w h decimator where
  groups : w.toNat / 2 % 3 = 0
  power : rteIsPowerOf2 decimator = true

/-- The decimator is not zero.  Where there are lines, the pixels of a frame that is accepted are less
than 2 ^ 32, and for v210 its batches fit the signed index; a line of the smaller picture has whole
groups.  Only a decimator of one is accepted for both, unless there are no pixels. -/
structure TwoWayFits (w h : UInt32) (decimator : Int32) : Prop where
  nonzero : decimator ≠ 0
  planar : Accepted w h decimator -> 0 < h.toNat ->
    w.toNat * h.toNat < 2 ^ 32 ∧ w.toNat / decimator.toUInt32.toNat % 2 = 0
  v210 : AcceptedV210 w h decimator -> 0 < h.toNat ->
    h.toNat * (w.toNat / 6) ≤ 2 ^ 27 ∧ w.toNat / decimator.toUInt32.toNat % 6 = 0
  same : AcceptedV210 w h decimator -> 0 < w.toNat -> 0 < h.toNat -> decimator = 1

/-! ## The decimator -/

section Decimator

variable {w h : UInt32} {decimator : Int32}

theorem toNat_positive (positive : 1 ≤ decimator) : 1 ≤ decimator.toUInt32.toNat := by
  have least : (1 : Int32).toInt ≤ decimator.toInt := Int32.le_iff_toInt_le.mp positive
  have zero : (0 : Int32) ≤ decimator := Int32.le_iff_toInt_le.mpr (Int.le_trans (by decide) least)
  have value : decimator.toUInt32.toNat = decimator.toInt.toNat := Int32.toNat_toUInt32_of_le zero
  have one : (1 : Int32).toInt = 1 := by decide
  omega

theorem ne_zero_of_positive (positive : 1 ≤ decimator) : decimator ≠ 0 := by
  rintro rfl
  exact absurd positive (by decide)

theorem lastOf_iff (positive : 1 ≤ decimator) {index : Nat} (short : index < 2 ^ 32) :
    lastOf decimator index = true ↔
      index % decimator.toUInt32.toNat = decimator.toUInt32.toNat - 1 := by
  have least := toNat_positive positive
  have stride : (decimator - 1).toUInt32.toNat = decimator.toUInt32.toNat - 1 := by
    rw [Int32.toUInt32_sub, UInt32.toNat_sub_of_le]
    · rfl
    · exact UInt32.le_iff_toNat_le.mpr least
  unfold lastOf
  rw [beq_iff_eq, ← UInt32.toNat_inj, UInt32.toNat_mod, stride, UInt32.toNat_ofNat',
    Nat.mod_eq_of_lt short]

theorem both_last_iff (positive : 1 ≤ decimator) {line index : Nat} (shortLine : line < 2 ^ 32)
    (short : index < 2 ^ 32) :
    (lastOf decimator line && lastOf decimator index) = true ↔
      line % decimator.toUInt32.toNat = decimator.toUInt32.toNat - 1 ∧
        index % decimator.toUInt32.toNat = decimator.toUInt32.toNat - 1 := by
  rw [Bool.and_eq_true, lastOf_iff positive shortLine, lastOf_iff positive short]

theorem toNat_mod_eq_zero (size : UInt32) : w % size = 0 ↔ w.toNat % size.toNat = 0 := by
  rw [← UInt32.toNat_inj, UInt32.toNat_mod]
  rfl

end Decimator

/-! ## What the conversions do -/

section Spec

variable (src full decimated : Planes Byte) {w h : UInt32} {decimator : Int32}

theorem planar_accepted (accepted : Accepted w h decimator) :
    st20Rfc4175_422be10ToYuv422p10leSimd2way src full w h decimated decimator =
      st20Rfc4175_422be10ToYuv422p10leScalar2way src full w h decimated decimator := by
  unfold st20Rfc4175_422be10ToYuv422p10leSimd2way
  rw [if_neg (ne_zero_of_positive accepted.positive),
    if_neg (not_not.mpr ((toNat_mod_eq_zero _).mpr accepted.width)),
    if_neg (not_not.mpr ((toNat_mod_eq_zero _).mpr accepted.height)),
    if_neg (Int32.not_lt.mpr accepted.positive)]

theorem planar_refused (nonzero : decimator ≠ 0) (refused : ¬ Accepted w h decimator) :
    st20Rfc4175_422be10ToYuv422p10leSimd2way src full w h decimated decimator =
      some (.error .inval, full, decimated) := by
  unfold st20Rfc4175_422be10ToYuv422p10leSimd2way
  rw [if_neg nonzero]
  by_cases width : w % decimator.toUInt32 = 0
  · by_cases height : h % decimator.toUInt32 = 0
    · have small : decimator < 1 := by
        by_contra positive
        exact refused ⟨Int32.not_lt.mp positive, (toNat_mod_eq_zero _).mp width,
          (toNat_mod_eq_zero _).mp height⟩
      rw [if_neg (not_not.mpr width), if_neg (not_not.mpr height), if_pos small]
    · rw [if_neg (not_not.mpr width), if_pos height]
  · rw [if_pos width]

theorem v210_accepted (accepted : AcceptedV210 w h decimator) :
    st20Rfc4175_422be10ToV210Simd2way src full w h decimated decimator =
      st20Rfc4175_422be10ToV210Scalar2way src full w h decimated decimator := by
  have groups : w / 2 % 3 = 0 := by
    apply UInt32.toNat_inj.mp
    rw [UInt32.toNat_mod, UInt32.toNat_div]
    exact accepted.groups
  unfold st20Rfc4175_422be10ToV210Simd2way
  rw [if_neg (not_not.mpr groups), if_neg (ne_zero_of_positive accepted.positive),
    if_neg (not_not.mpr ((toNat_mod_eq_zero _).mpr accepted.width)),
    if_neg (not_not.mpr ((toNat_mod_eq_zero _).mpr accepted.height)), if_neg]
  rintro (small | other)
  · exact Int32.not_lt.mpr accepted.positive small
  · rw [accepted.power] at other
    exact absurd other (by decide)

theorem v210_refused (nonzero : decimator ≠ 0) (refused : ¬ AcceptedV210 w h decimator) :
    st20Rfc4175_422be10ToV210Simd2way src full w h decimated decimator =
      some (.error .inval, full, decimated) := by
  unfold st20Rfc4175_422be10ToV210Simd2way
  by_cases groups : w / 2 % 3 = 0
  · rw [if_neg (not_not.mpr groups), if_neg nonzero]
    by_cases width : w % decimator.toUInt32 = 0
    · by_cases height : h % decimator.toUInt32 = 0
      · have last : decimator < 1 ∨ !rteIsPowerOf2 decimator := by
          by_contra both
          rw [not_or, Int32.not_lt, Bool.not_eq_true', Bool.not_eq_false] at both
          refine refused ⟨⟨both.1, (toNat_mod_eq_zero _).mp width, (toNat_mod_eq_zero _).mp height⟩, ?_,
            both.2⟩
          have value := congrArg UInt32.toNat groups
          rwa [UInt32.toNat_mod, UInt32.toNat_div] at value
        rw [if_neg (not_not.mpr width), if_neg (not_not.mpr height), if_pos last]
      · rw [if_neg (not_not.mpr width), if_pos height]
    · rw [if_pos width]
  · rw [if_pos groups]

theorem planar_chooses (size : Nat) :
    Chooses be10ToPlanar10 src full (fun group _ _ => group) size 0 := by
  intro group _ plane offset _
  rfl

theorem v210_chooses {size : Nat} (positive : 1 ≤ size) :
    Chooses be10ToV210 src full (fun _ full batch => full.tail fun _ => batch * 16 - size * 16) size
      (size - 1) := by
  intro batch behind plane offset inside
  have one : plane = 0 := by
    rcases plane with _ | plane
    · rfl
    · exact absurd inside (Nat.not_lt_zero offset)
  subst one
  have inside : offset < 16 := inside
  have place : (batch + 1) * 16 - size * 16 + offset = (batch - (size - 1)) * 16 + offset := by omega
  have quotient : ((batch - (size - 1)) * 16 + offset) / 16 = batch - (size - 1) := by omega
  have rest : ((batch - (size - 1)) * 16 + offset) % 16 = offset := by omega
  have within : 0 * 16 ≤ (batch - (size - 1)) * 16 + offset ∧
      (batch - (size - 1)) * 16 + offset < (0 + (batch + 1)) * 16 := by omega
  have kept : be10ToV210.outSize 0 = 16 := rfl
  show be10ToV210.run src full 0 (batch + 1) 0 ((batch + 1) * 16 - size * 16 + offset) = _
  rw [place, run_apply, kept, if_pos within, quotient, rest]

theorem planar_scalar (positive : 1 ≤ decimator) :
    st20Rfc4175_422be10ToYuv422p10leScalar2way src full w h decimated decimator =
      some (.ok (), be10ToPlanar10.run src full 0 (h.toNat * (w.toNat / 2)),
        be10ToPlanar10.run
          (be10ToPlanar10.gathered src (blockOrigin decimator.toUInt32.toNat (w.toNat / 2) 0)) decimated 0
          (h.toNat / decimator.toUInt32.toNat * (w.toNat / 2 / decimator.toUInt32.toNat))) := by
  have lines := h.toNat_lt
  have pixels := w.toNat_lt
  have groups : (w / 2).toNat = w.toNat / 2 := UInt32.toNat_div w 2
  have after := @pickLines_picked _ be10ToPlanar10 src full decimated (fun group _ _ => group)
    (fun line p => lastOf decimator line && lastOf decimator p) decimator.toUInt32.toNat (w.toNat / 2) 0
    (toNat_positive positive) (planar_chooses src full _) h.toNat
    (fun line below index within => both_last_iff positive (by omega) (by omega))
  unfold st20Rfc4175_422be10ToYuv422p10leScalar2way
  dsimp only
  rw [groups, after.full, after.picked, after.count, Nat.zero_div, ite_self, Nat.add_zero, Nat.add_zero]

theorem v210_scalar (positive : 1 ≤ decimator)
    (fits : ¬ (2 ^ 31 ≤ decimator.toUInt32.toNat * 16 ∧
      decimator.toUInt32.toNat ≤ w.toNat / 6 ∧ decimator.toUInt32.toNat ≤ h.toNat)) :
    st20Rfc4175_422be10ToV210Scalar2way src full w h decimated decimator =
      some (.ok (), be10ToV210.run src full 0 (h.toNat * (w.toNat / 6)),
        be10ToV210.run
          (be10ToV210.gathered src
            (blockOrigin decimator.toUInt32.toNat (w.toNat / 6) (decimator.toUInt32.toNat - 1))) decimated 0
          (h.toNat / decimator.toUInt32.toNat * (w.toNat / 6 / decimator.toUInt32.toNat))) := by
  have lines := h.toNat_lt
  have pixels := w.toNat_lt
  have batches : (w / 2 / 3).toNat = w.toNat / 6 := by
    rw [UInt32.toNat_div, UInt32.toNat_div]
    exact Nat.div_div_eq_div_mul w.toNat 2 3
  have after := @pickLines_picked _ be10ToV210 src full decimated
    (fun _ full batch => full.tail fun _ => batch * 16 - decimator.toUInt32.toNat * 16)
    (fun line i => lastOf decimator line && lastOf decimator i) decimator.toUInt32.toNat (w.toNat / 6)
    (decimator.toUInt32.toNat - 1) (toNat_positive positive)
    (v210_chooses src full (toNat_positive positive)) h.toNat
    (fun line below index within => both_last_iff positive (by omega) (by omega))
  unfold st20Rfc4175_422be10ToV210Scalar2way
  dsimp only
  rw [batches, if_neg fits, after.full, after.picked, after.count, Nat.zero_div, ite_self, Nat.add_zero,
    Nat.add_zero]

end Spec

/-! ## The picture -/

section Picture

variable {map : GroupMap Byte} {src : Planes Byte} {pixels w h size back : Nat}

theorem div_groups (w size pixels : Nat) : w / pixels / size = w / size / pixels := by
  rw [Nat.div_div_eq_div_mul, Nat.div_div_eq_div_mul, Nat.mul_comm]

theorem blockPicture_gathered (positive : 1 ≤ size) (early : back ≤ size - 1) :
    BlockPicture map pixels w h size src
      (map.gathered src (blockOrigin size (w / pixels) back)) := by
  intro line _ group within
  have below : group < w / pixels / size := by
    rw [div_groups]
    exact within
  refine ⟨line * size + (size - 1), group * size + (size - 1) - back, ⟨?_, ?_⟩, ⟨?_, ?_⟩, ?_⟩
  · omega
  · rw [Nat.succ_mul]
    omega
  · omega
  · rw [Nat.succ_mul]
    omega
  · intro plane offset inside
    have origin : blockOrigin size (w / pixels) back (line * (w / pixels / size) + group) =
        (line * size + (size - 1)) * (w / pixels) + (group * size + (size - 1) - back) := by
      rw [blockOrigin_block back line below]
      omega
    have here := map.gathered_tail src (blockOrigin size (w / pixels) back)
      (line * (w / pixels / size) + group) inside
    rw [origin] at here
    rw [← div_groups]
    exact here

theorem picture_pixels (whole : w / size % pixels = 0) :
    h / size * (w / size / pixels) * pixels = w / size * (h / size) := by
  rw [Nat.mul_assoc, Nat.div_mul_cancel (Nat.dvd_of_mod_eq_zero whole), Nat.mul_comm]

theorem whole_of_pixels (lines : 0 < h / size)
    (count : h / size * (w / size / pixels) * pixels = w / size * (h / size)) :
    w / size % pixels = 0 := by
  rw [Nat.mul_assoc, Nat.mul_comm (w / size)] at count
  have line := Nat.eq_of_mul_eq_mul_left lines count
  exact Nat.mod_eq_zero_of_dvd ⟨w / size / pixels, by rw [Nat.mul_comm]; exact line.symm⟩

theorem whole_of_picture (width : w % size = 0) (whole : w / size % pixels = 0) : w % pixels = 0 := by
  apply Nat.mod_eq_zero_of_dvd
  have divides := Nat.dvd_mul_right_of_dvd (Nat.dvd_of_mod_eq_zero whole) size
  rwa [Nat.div_mul_cancel (Nat.dvd_of_mod_eq_zero width)] at divides

theorem blockOrigin_one (perLine index : Nat) : blockOrigin 1 perLine 0 index = index := by
  have parts := Nat.div_add_mod' index perLine
  simpa [blockOrigin] using parts

theorem run_gathered_one (perLine count : Nat) (dst : Planes Byte) :
    map.run (map.gathered src (blockOrigin 1 perLine 0)) dst 0 count = map.run src dst 0 count := by
  apply run_congr dst 0 count rfl
  intro index _ _ plane offset inside
  rw [gathered_convert _ _ _ _ inside, blockOrigin_one]

end Picture

/-! ## The count of groups -/

section

variable {map : GroupMap Byte} {plane first second : Nat} (positive : 0 < map.outSize plane)
    (zero : map.convert (fun _ _ => 0) plane 0 = 0)
    (same : map.run (fun _ _ => 0) (fun _ _ => 255) 0 first = map.run (fun _ _ => 0) (fun _ _ => 255) 0 second)

include positive zero same

theorem count_le_of_run_eq :
    second ≤ first := by
  by_contra more
  have less : first * map.outSize plane < (0 + second) * map.outSize plane := by
    rw [Nat.zero_add]
    exact Nat.mul_lt_mul_of_pos_right (Nat.not_le.mp more) positive
  have here := congrFun (congrFun same plane) (first * map.outSize plane)
  have start : 0 * map.outSize plane ≤ first * map.outSize plane :=
    Nat.mul_le_mul_right _ (Nat.zero_le first)
  rw [run_apply, run_apply, if_neg (by rw [Nat.zero_add]; omega), if_pos ⟨start, less⟩,
    Nat.mul_mod_left] at here
  have zeros : (Planes.tail (fun _ _ => (0 : Byte)) fun other =>
      first * map.outSize plane / map.outSize plane * map.inSize other) = fun _ _ => 0 := rfl
  rw [zeros, zero] at here
  exact absurd here (by decide)

theorem count_eq_of_run_eq :
    first = second :=
  Nat.le_antisymm (count_le_of_run_eq positive zero same.symm) (count_le_of_run_eq positive zero same)

end

section Count

variable {w h : UInt32}

theorem pgCount_toNat : pgCount w h 2 = w.toNat * h.toNat % 2 ^ 32 / 2 := by
  rw [pgCount, UInt32.toNat_mul]

theorem pgCount_eq_iff (whole : w.toNat % 2 = 0) :
    pgCount w h 2 = h.toNat * (w.toNat / 2) ↔ w.toNat * h.toNat < 2 ^ 32 := by
  have twice : w.toNat * h.toNat = h.toNat * (w.toNat / 2) * 2 := by
    rw [Nat.mul_assoc, Nat.div_mul_cancel (Nat.dvd_of_mod_eq_zero whole), Nat.mul_comm]
  rw [pgCount_toNat]
  omega

theorem pgCount_zero (none : h.toNat = 0) : pgCount w h 2 = 0 := by
  rw [pgCount_toNat, none, Nat.mul_zero, Nat.zero_mod, Nat.zero_div]

end Count

/-! ## Into planes -/

section Planar

variable {w h : UInt32} {decimator : Int32}

theorem planar_nonzero
    (gives : GivesBoth be10ToPlanar10 2 w h decimator st20Rfc4175_422be10ToYuv422p10leScalar
      st20Rfc4175_422be10ToYuv422p10leSimd2way) :
    decimator ≠ 0 := by
  rintro rfl
  obtain ⟨status, fullResult, decimatedResult, returned, -, -⟩ :=
    gives (fun _ _ => 0) (fun _ _ => 0) (fun _ _ => 0)
  rw [st20Rfc4175_422be10ToYuv422p10leSimd2way, if_pos rfl] at returned
  cases returned

theorem planar_gives (nonzero : decimator ≠ 0)
    (fits : Accepted w h decimator -> 0 < h.toNat ->
      w.toNat * h.toNat < 2 ^ 32 ∧ w.toNat / decimator.toUInt32.toNat % 2 = 0) :
    GivesBoth be10ToPlanar10 2 w h decimator st20Rfc4175_422be10ToYuv422p10leScalar
      st20Rfc4175_422be10ToYuv422p10leSimd2way := by
  intro src full decimated
  by_cases accepted : Accepted w h decimator
  · have positive := toNat_positive accepted.positive
    have count : pgCount w h 2 = h.toNat * (w.toNat / 2) := by
      rcases Nat.eq_zero_or_pos h.toNat with none | some
      · rw [pgCount_zero none, none, Nat.zero_mul]
      · obtain ⟨below, whole⟩ := fits accepted some
        exact (pgCount_eq_iff (whole_of_picture accepted.width whole)).mpr below
    have pixels : h.toNat / decimator.toUInt32.toNat * (w.toNat / decimator.toUInt32.toNat / 2) * 2 =
        w.toNat / decimator.toUInt32.toNat * (h.toNat / decimator.toUInt32.toNat) := by
      rcases Nat.eq_zero_or_pos h.toNat with none | some
      · rw [none, Nat.zero_div, Nat.zero_mul, Nat.zero_mul, Nat.mul_zero]
      · exact picture_pixels (fits accepted some).2
    rw [planar_accepted src full decimated accepted, planar_scalar src full decimated accepted.positive]
    refine ⟨.ok (), _, _, rfl, fun _ => ⟨?_, _, blockPicture_gathered positive (Nat.zero_le _), pixels, ?_⟩,
      fun other => absurd rfl other⟩
    · rw [st20Rfc4175_422be10ToYuv422p10leScalar, convertGroups, count]
    · rw [div_groups]
  · rw [planar_refused src full decimated nonzero accepted]
    exact ⟨.error .inval, full, decimated, rfl, (fun ok => nomatch ok), fun _ => ⟨rfl, rfl⟩⟩

theorem planar_fits
    (gives : GivesBoth be10ToPlanar10 2 w h decimator st20Rfc4175_422be10ToYuv422p10leScalar
      st20Rfc4175_422be10ToYuv422p10leSimd2way)
    (accepted : Accepted w h decimator) (lines : 0 < h.toNat) :
    w.toNat * h.toNat < 2 ^ 32 ∧ w.toNat / decimator.toUInt32.toNat % 2 = 0 := by
  obtain ⟨status, fullResult, decimatedResult, returned, good, -⟩ :=
    gives (fun _ _ => 0) (fun _ _ => 255) (fun _ _ => 0)
  rw [planar_accepted _ _ _ accepted, planar_scalar _ _ _ accepted.positive] at returned
  cases returned
  obtain ⟨ordinary, picture, -, pixels, -⟩ := good rfl
  have blocks : 0 < h.toNat / decimator.toUInt32.toNat :=
    Nat.div_pos (Nat.le_of_dvd lines (Nat.dvd_of_mod_eq_zero accepted.height))
      (toNat_positive accepted.positive)
  have whole := whole_of_pixels blocks pixels
  have same := congrArg Prod.snd (Option.some.inj ordinary)
  have count : pgCount w h 2 = h.toNat * (w.toNat / 2) :=
    @count_eq_of_run_eq be10ToPlanar10 1 _ _ (by decide) (by decide) same
  exact ⟨(pgCount_eq_iff (whole_of_picture accepted.width whole)).mp count, whole⟩

end Planar

/-! ## Into v210 -/

section V210

variable {w h : UInt32} {decimator : Int32}

theorem small_of_batches {size batches lines : Nat} (fits : lines * batches ≤ 2 ^ 27) (within : size ≤ batches)
    (high : size ≤ lines) : ¬ 2 ^ 31 ≤ size * 16 := by
  intro large
  have square : 2 ^ 27 * 2 ^ 27 ≤ lines * batches := Nat.mul_le_mul (by omega) (by omega)
  omega

theorem ordinary_v210 (src full : Planes Byte) (whole : w.toNat % 6 = 0)
    (fits : h.toNat * (w.toNat / 6) ≤ 2 ^ 27) :
    st20Rfc4175_422be10ToV210Scalar src full w h =
      some (.ok (), be10ToV210.run src full 0 (h.toNat * (w.toNat / 6))) := by
  have groups : h.toNat * (w.toNat / 2) = 3 * (h.toNat * (w.toNat / 6)) := by
    have line : w.toNat / 2 = 3 * (w.toNat / 6) := by omega
    rw [line, Nat.mul_left_comm]
  have pixels : w.toNat * h.toNat = 2 * (h.toNat * (w.toNat / 2)) := by
    have line : w.toNat = 2 * (w.toNat / 2) := by omega
    rw [← Nat.mul_left_comm, ← line, Nat.mul_comm]
  have count : pgCount w h 2 = 3 * (h.toNat * (w.toNat / 6)) := by
    rw [← groups]
    exact (pgCount_eq_iff (by omega)).mpr (by omega)
  have batches : pgCount w h 2 / 3 = h.toNat * (w.toNat / 6) := by
    rw [count, Nat.mul_div_cancel_left _ (by decide)]
  rw [st20Rfc4175_422be10ToV210Scalar, convertBatches, batches, count,
    if_neg (not_not.mpr (Nat.mul_mod_right 3 _)), if_pos (by omega)]
  rfl

theorem ordinary_v210_ok {src full result : Planes Byte}
    (ordinary : st20Rfc4175_422be10ToV210Scalar src full w h = some (.ok (), result)) :
    pgCount w h 2 / 3 ≤ 2 ^ 27 ∧ be10ToV210.run src full 0 (pgCount w h 2 / 3) = result := by
  rw [st20Rfc4175_422be10ToV210Scalar, convertBatches] at ordinary
  by_cases groups : pgCount w h 2 % 3 ≠ 0
  · rw [if_pos groups] at ordinary
    cases ordinary
  · by_cases fits : (pgCount w h 2 / 3 - 1) * 16 < 2 ^ 31
    · rw [if_neg groups, if_pos fits] at ordinary
      cases ordinary
      exact ⟨by omega, rfl⟩
    · rw [if_neg groups, if_neg fits] at ordinary
      cases ordinary

theorem v210_gives (nonzero : decimator ≠ 0)
    (fits : AcceptedV210 w h decimator -> 0 < h.toNat ->
      h.toNat * (w.toNat / 6) ≤ 2 ^ 27 ∧ w.toNat / decimator.toUInt32.toNat % 6 = 0) :
    GivesBoth be10ToV210 6 w h decimator st20Rfc4175_422be10ToV210Scalar
      st20Rfc4175_422be10ToV210Simd2way := by
  intro src full decimated
  by_cases accepted : AcceptedV210 w h decimator
  · have positive := toNat_positive accepted.positive
    have ordinary : st20Rfc4175_422be10ToV210Scalar src full w h =
        some (.ok (), be10ToV210.run src full 0 (h.toNat * (w.toNat / 6))) := by
      rcases Nat.eq_zero_or_pos h.toNat with none | some
      · rw [st20Rfc4175_422be10ToV210Scalar, convertBatches, pgCount_zero none, none,
          Nat.zero_mul (w.toNat / 6), if_neg (by decide), if_pos (by decide)]
        rfl
      · obtain ⟨below, whole⟩ := fits accepted some
        exact ordinary_v210 src full (whole_of_picture accepted.width whole) below
    have room : ¬ (2 ^ 31 ≤ decimator.toUInt32.toNat * 16 ∧
        decimator.toUInt32.toNat ≤ w.toNat / 6 ∧ decimator.toUInt32.toNat ≤ h.toNat) := by
      rintro ⟨large, within, high⟩
      exact small_of_batches (fits accepted (by omega)).1 within high large
    have pixels : h.toNat / decimator.toUInt32.toNat * (w.toNat / decimator.toUInt32.toNat / 6) * 6 =
        w.toNat / decimator.toUInt32.toNat * (h.toNat / decimator.toUInt32.toNat) := by
      rcases Nat.eq_zero_or_pos h.toNat with none | some
      · rw [none, Nat.zero_div, Nat.zero_mul, Nat.zero_mul, Nat.mul_zero]
      · exact picture_pixels (fits accepted some).2
    rw [v210_accepted src full decimated accepted, v210_scalar src full decimated accepted.positive room]
    refine ⟨.ok (), _, _, rfl, fun _ => ⟨ordinary, _, blockPicture_gathered positive (Nat.le_refl _), pixels, ?_⟩,
      fun other => absurd rfl other⟩
    rw [div_groups]
  · rw [v210_refused src full decimated nonzero accepted]
    exact ⟨.error .inval, full, decimated, rfl, (fun ok => nomatch ok), fun _ => ⟨rfl, rfl⟩⟩

theorem v210_room (accepted : AcceptedV210 w h decimator) {src full decimated : Planes Byte}
    {result : Except Errno Unit × Planes Byte × Planes Byte}
    (returned : st20Rfc4175_422be10ToV210Simd2way src full w h decimated decimator = some result) :
    ¬ (2 ^ 31 ≤ decimator.toUInt32.toNat * 16 ∧
      decimator.toUInt32.toNat ≤ w.toNat / 6 ∧ decimator.toUInt32.toNat ≤ h.toNat) := by
  intro large
  have batches : (w / 2 / 3).toNat = w.toNat / 6 := by
    rw [UInt32.toNat_div, UInt32.toNat_div]
    exact Nat.div_div_eq_div_mul w.toNat 2 3
  rw [v210_accepted _ _ _ accepted, st20Rfc4175_422be10ToV210Scalar2way] at returned
  dsimp only at returned
  rw [batches, if_pos large] at returned
  cases returned

theorem v210_fits
    (gives : GivesBoth be10ToV210 6 w h decimator st20Rfc4175_422be10ToV210Scalar
      st20Rfc4175_422be10ToV210Simd2way)
    (accepted : AcceptedV210 w h decimator) (lines : 0 < h.toNat) :
    h.toNat * (w.toNat / 6) ≤ 2 ^ 27 ∧ w.toNat / decimator.toUInt32.toNat % 6 = 0 := by
  obtain ⟨status, fullResult, decimatedResult, returned, good, -⟩ :=
    gives (fun _ _ => 0) (fun _ _ => 255) (fun _ _ => 0)
  have room := v210_room accepted returned
  rw [v210_accepted _ _ _ accepted, v210_scalar _ _ _ accepted.positive room] at returned
  cases returned
  obtain ⟨ordinary, picture, -, pixels, -⟩ := good rfl
  have blocks : 0 < h.toNat / decimator.toUInt32.toNat :=
    Nat.div_pos (Nat.le_of_dvd lines (Nat.dvd_of_mod_eq_zero accepted.height))
      (toNat_positive accepted.positive)
  obtain ⟨below, same⟩ := ordinary_v210_ok ordinary
  have count : pgCount w h 2 / 3 = h.toNat * (w.toNat / 6) :=
    @count_eq_of_run_eq be10ToV210 0 _ _ (by decide) (by decide) same
  exact ⟨count ▸ below, whole_of_pixels blocks pixels⟩

end V210

/-! ## The same picture -/

section Same

variable {w h : UInt32} {decimator : Int32}

theorem planar_blue (group : Planes Byte) :
    be10ToPlanar10.convert group 1 0 = be10ToV210.convert group 0 0 := by
  have whole := packBe10_samples (St20Rfc4175_422_10_Pg2Be.load group)
  have high : ((St20Rfc4175_422_10_Pg2Be.load group).samples.cb >>> 2).setWidth 8 = group 0 0 :=
    congrArg St20Rfc4175_422_10_Pg2Be.cb00 whole
  have low : (St20Rfc4175_422_10_Pg2Be.load group).samples.cb.setWidth 2 =
      (group 0 1).extractLsb' 6 2 :=
    congrArg St20Rfc4175_422_10_Pg2Be.cb00_ whole
  show (St20Rfc4175_422_10_Pg2Be.load group).samples.cb.extractLsb' 0 8 =
    (group 0 0 <<< 2) ||| (group 0 1 >>> 6)
  generalize (St20Rfc4175_422_10_Pg2Be.load group).samples.cb = cb at high low
  have zero : cb[0] = (group 0 1)[6] := by simpa using congrArg (fun bits => bits.getLsbD 0) low
  have one : cb[1] = (group 0 1)[7] := by simpa using congrArg (fun bits => bits.getLsbD 1) low
  rw [← high]
  apply byte_eq
  intro bit below
  interval_cases bit <;> simp [zero, one]

theorem run_first {plane count : Nat} (positive : 0 < map.outSize plane) (some : 0 < count)
    (src dst : Planes Byte) :
    map.run src dst 0 count plane 0 = map.convert src plane 0 := by
  have within : 0 * map.outSize plane ≤ 0 ∧ 0 < (0 + count) * map.outSize plane :=
    ⟨by omega, by rw [Nat.zero_add]; exact Nat.mul_pos some positive⟩
  have same : (src.tail fun input => 0 * map.inSize input) = src := by
    funext input offset
    rw [Planes.tail, Nat.zero_mul, Nat.zero_add]
  rw [run_apply, if_pos within, Nat.zero_div, Nat.zero_mod, same]

theorem gathered_first {plane count size perLine back : Nat} (positive : 0 < map.outSize plane)
    (some : 0 < count) (groups : 0 < perLine / size) (src dst : Planes Byte) :
    map.run (map.gathered src (blockOrigin size perLine back)) dst 0 count plane 0 =
      map.convert (src.tail fun input =>
        ((size - 1) * perLine + (size - 1) - back) * map.inSize input) plane 0 := by
  have origin : blockOrigin size perLine back 0 = (size - 1) * perLine + (size - 1) - back := by
    have here := blockOrigin_block back 0 groups
    simpa using here
  have here := map.gathered_convert src (blockOrigin size perLine back) 0 positive
  have same : ((map.gathered src (blockOrigin size perLine back)).tail fun input => 0 * map.inSize input) =
      map.gathered src (blockOrigin size perLine back) := by
    funext input offset
    rw [Planes.tail, Nat.zero_mul, Nat.zero_add]
  rw [same, origin] at here
  rw [run_first positive some, here]

/-- From blocks with more than one group the two conversions keep different groups. -/
theorem TwoWaySound.one (sound : TwoWaySound w h decimator) (accepted : AcceptedV210 w h decimator)
    (columns : 0 < w.toNat) (lines : 0 < h.toNat) : decimator = 1 := by
  obtain ⟨-, whole⟩ := v210_fits sound.v210 accepted lines
  have positive := toNat_positive accepted.positive
  obtain ⟨size, named⟩ : Exists fun size => size = decimator.toUInt32.toNat := ⟨_, rfl⟩
  rw [← named] at positive whole
  by_contra other
  have more : 2 ≤ size := by
    have apart : size ≠ 1 := by
      intro one
      apply other
      have same : decimator.toUInt32 = (1 : Int32).toUInt32 := UInt32.toNat_inj.mp (named.symm.trans one)
      exact Int32.toBitVec.inj (congrArg UInt32.toBitVec same)
    omega
  have shape : w.toNat % 6 = 0 := whole_of_picture (named ▸ accepted.width) whole
  have column : 0 < w.toNat / size :=
    Nat.div_pos (Nat.le_of_dvd columns (Nat.dvd_of_mod_eq_zero (named ▸ accepted.width))) positive
  have blocks : 0 < h.toNat / size :=
    Nat.div_pos (Nat.le_of_dvd lines (Nat.dvd_of_mod_eq_zero (named ▸ accepted.height))) positive
  have groups : 0 < w.toNat / 2 / size := by
    rw [div_groups]
    omega
  have batches : 0 < w.toNat / 6 / size := by
    rw [div_groups]
    omega
  -- one byte tells the last group of the block from the first one of its last line
  obtain ⟨last, lastIs⟩ : Exists fun last => last = (size - 1) * (w.toNat / 2) + (size - 1) := ⟨_, rfl⟩
  obtain ⟨src, marked⟩ : Exists fun src : Planes Byte =>
      src = fun _ position => if position = last * 5 then 255 else 0 := ⟨_, rfl⟩
  obtain ⟨_, _, _, returned, -, -⟩ := sound.v210 src (fun _ _ => 0) (fun _ _ => 0)
  have room := v210_room accepted returned
  obtain ⟨picture, planar, v210⟩ := sound.same src (fun _ _ => 0) (fun _ _ => 0) (fun _ _ => 0)
    (fun _ _ => 0) _ _ _ _
    ((planar_accepted _ _ _ accepted.toAccepted).trans (planar_scalar _ _ _ accepted.positive))
    ((v210_accepted _ _ _ accepted).trans (v210_scalar _ _ _ accepted.positive room))
  have left := congrFun (congrFun planar.2 1) 0
  have right := congrFun (congrFun v210.2 0) 0
  rw [← named] at left right
  rw [gathered_first (by decide) (Nat.mul_pos blocks groups) groups,
    run_first (by decide) (Nat.mul_pos blocks (div_groups _ _ _ ▸ groups)), planar_blue, planar_blue,
    ← lastIs, Nat.sub_zero] at left
  rw [gathered_first (by decide) (Nat.mul_pos blocks batches) batches,
    run_first (by decide) (Nat.mul_pos blocks (div_groups _ _ _ ▸ batches)), ← left,
    Nat.add_sub_cancel] at right
  obtain ⟨first, firstIs⟩ : Exists fun first => first = (size - 1) * (w.toNat / 6) := ⟨_, rfl⟩
  have apart : last = 3 * first + (size - 1) := by
    have line : w.toNat / 2 = 3 * (w.toNat / 6) := by omega
    rw [lastIs, firstIs, line, Nat.mul_left_comm]
  rw [← firstIs] at right
  have bytes : (src 0 (first * 15 + 0) <<< 2) ||| (src 0 (first * 15 + 1) >>> 6) =
      (src 0 (last * 5 + 0) <<< 2) ||| (src 0 (last * 5 + 1) >>> 6) := right
  rw [marked] at bytes
  dsimp only at bytes
  rw [if_neg (by omega), if_neg (by omega), if_pos (by omega), if_neg (by omega)] at bytes
  exact absurd bytes (by decide)

theorem run_gathered_all {pixels size back columns lines : Nat}
    (alone : size = 1 ∨ columns = 0 ∨ lines = 0) (early : back ≤ size - 1) (src dst : Planes Byte) :
    map.run (map.gathered src (blockOrigin size (columns / pixels) back)) dst 0
        (lines / size * (columns / pixels / size)) =
      map.run src dst 0 (lines / size * (columns / size / pixels)) := by
  rcases alone with rfl | rfl | rfl
  · have none : back = 0 := Nat.le_zero.mp early
    rw [none, run_gathered_one, div_groups]
  · rw [Nat.zero_div, Nat.zero_div, Nat.zero_div, Nat.mul_zero]
    rfl
  · rw [Nat.zero_div, Nat.zero_mul, Nat.zero_mul]
    rfl

theorem TwoWayFits.same_picture (fits : TwoWayFits w h decimator)
    {src planarFull planar v210Full v210 planarFullResult planarResult v210FullResult v210Result :
      Planes Byte}
    (planarReturned : st20Rfc4175_422be10ToYuv422p10leSimd2way src planarFull w h planar decimator =
      some (.ok (), planarFullResult, planarResult))
    (v210Returned : st20Rfc4175_422be10ToV210Simd2way src v210Full w h v210 decimator =
      some (.ok (), v210FullResult, v210Result)) :
    exists picture,
      PictureIs be10ToPlanar10 2 w.toNat h.toNat decimator.toUInt32.toNat picture planar planarResult ∧
      PictureIs be10ToV210 6 w.toNat h.toNat decimator.toUInt32.toNat picture v210 v210Result := by
  by_cases accepted : AcceptedV210 w h decimator
  · have positive := toNat_positive accepted.positive
    have room := v210_room accepted v210Returned
    have alone : decimator.toUInt32.toNat = 1 ∨ w.toNat = 0 ∨ h.toNat = 0 := by
      by_cases columns : w.toNat = 0
      · exact Or.inr (Or.inl columns)
      · by_cases lines : h.toNat = 0
        · exact Or.inr (Or.inr lines)
        · left
          rw [fits.same accepted (Nat.pos_of_ne_zero columns) (Nat.pos_of_ne_zero lines)]
          rfl
    obtain ⟨_, _, _, given, planarGood, -⟩ := planar_gives fits.nonzero fits.planar src planarFull planar
    rw [planarReturned] at given
    cases given
    obtain ⟨_, _, _, given, v210Good, -⟩ := v210_gives fits.nonzero fits.v210 src v210Full v210
    rw [v210Returned] at given
    cases given
    obtain ⟨-, _, -, planarPixels, -⟩ := planarGood rfl
    obtain ⟨-, _, -, v210Pixels, -⟩ := v210Good rfl
    rw [planar_accepted _ _ _ accepted.toAccepted, planar_scalar _ _ _ accepted.positive] at planarReturned
    rw [v210_accepted _ _ _ accepted, v210_scalar _ _ _ accepted.positive room] at v210Returned
    cases planarReturned
    cases v210Returned
    exact ⟨src, ⟨planarPixels, run_gathered_all alone (Nat.zero_le _) src planar⟩, v210Pixels,
      run_gathered_all alone (Nat.le_refl _) src v210⟩
  · rw [v210_refused _ _ _ fits.nonzero accepted] at v210Returned
    cases v210Returned

end Same

/-! ## When both conversions are sound -/

/-- The 2-way conversions give what is asked of them exactly for a decimator that is not zero, sizes
whose smaller picture has whole groups in its lines and whose ordinary conversion counts all groups,
and, where both accept a size, a decimator of one. -/
theorem two_way_sound_iff (w h : UInt32) (decimator : Int32) :
    TwoWaySound w h decimator ↔ TwoWayFits w h decimator := by
  constructor
  · intro sound
    exact {
      nonzero := planar_nonzero sound.planar
      planar := planar_fits sound.planar
      v210 := v210_fits sound.v210
      same := fun accepted columns lines => sound.one accepted columns lines }
  · intro fits
    exact {
      planar := planar_gives fits.nonzero fits.planar
      v210 := v210_gives fits.nonzero fits.v210
      same := fun _ _ _ _ _ _ _ _ _ planar v210 => fits.same_picture planar v210 }

/-- A decimator of zero is divided by, and of blocks of two by two the two conversions keep different
groups. -/
theorem two_way_not_sound :
    st20Rfc4175_422be10ToYuv422p10leSimd2way (fun _ _ => 0) (fun _ _ => 0) 12 2 (fun _ _ => 0) 0 = none ∧
      ¬ TwoWaySound 12 2 0 ∧ ¬ TwoWaySound 12 2 2 := by
  refine ⟨rfl, fun sound => planar_nonzero sound.planar rfl, fun sound => ?_⟩
  exact absurd (sound.one ⟨⟨by decide, by decide, by decide⟩, by decide, by decide⟩ (by decide) (by decide))
    (by decide)

end MediaTransport.Convert
