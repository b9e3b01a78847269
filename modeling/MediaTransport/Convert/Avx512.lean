import MediaTransport.Convert.Scalar422
import MediaTransport.Library.Simd

namespace MediaTransport.Convert

open Library

/-!
# Conversions with AVX-512

The loops take several pixel groups in each round while they last, and the groups
that are left one by one.  A batch is the body of such a loop.
-/

/-! ## Unpacking into planes -/

variable (input : Register)

/-- `be10_to_ple_shuffle_tbl_128` -/
def be10ToPleShuffleTbl128 : List Nat :=
  [0x01, 0x00, 0x06, 0x05, 0x03, 0x02, 0x08, 0x07,
    0x02, 0x01, 0x04, 0x03, 0x07, 0x06, 0x09, 0x08]

/-- `be10_to_ple_srlv_tbl_128` -/
def be10ToPleSrlvTbl128 : List Nat :=
  [0x0006, 0x0006, 0x0002, 0x0002, 0x0004, 0x0000, 0x0004, 0x0000]

/-- `be10_to_ple_and_mask_tbl_128` -/
def be10ToPleAndMaskTbl128 : List Nat :=
  [0x03ff, 0x03ff, 0x03ff, 0x03ff, 0x03ff, 0x03ff, 0x03ff, 0x03ff]

/-- `be10_to_p16le_sllv_tbl_128` -/
def be10ToP16leSllvTbl128 : List Nat :=
  [0x0000, 0x0000, 0x0004, 0x0004, 0x0002, 0x0006, 0x0002, 0x0006]

/-- `be12_to_ple_shuffle_tbl_128` -/
def be12ToPleShuffleTbl128 : List Nat :=
  [1, 0, 1 + 6, 0 + 6, 4, 3, 4 + 6, 3 + 6,
    2, 1, 5, 4, 2 + 6, 1 + 6, 5 + 6, 4 + 6]

/-- `be12_to_ple_srlv_tbl_128` -/
def be12ToPleSrlvTbl128 : List Nat := [4, 4, 4, 4, 0, 0, 0, 0]

/-- `be12_to_ple_and_mask_tbl_128` -/
def be12ToPleAndMaskTbl128 : List Nat :=
  [0x0fff, 0x0fff, 0x0fff, 0x0fff, 0x0fff, 0x0fff, 0x0fff, 0x0fff]

def highMask : List Nat := [0xffc0, 0xffc0, 0xffc0, 0xffc0, 0xffc0, 0xffc0, 0xffc0, 0xffc0]

/-- `be10_to_ple_permute_tbl_512` -/
def be10ToPlePermuteTbl512 : List Nat := [0, 4, 8, 12, 1, 5, 9, 13, 2, 3, 6, 7, 10, 11, 14, 15]

/-- The samples of two pixel groups: b0, b1, r0, r1, y0, y1, y2, y3. -/
def be10ToPleStage : Register :=
  andSi128 (srlvEpi16 (shuffleEpi8 input (bytesOf be10ToPleShuffleTbl128)) (lanesOf be10ToPleSrlvTbl128))
    (wordsOf be10ToPleAndMaskTbl128)

def be10ToP16leStage : Register :=
  andSi128 (sllvEpi16 (shuffleEpi8 input (bytesOf be10ToPleShuffleTbl128)) (lanesOf be10ToP16leSllvTbl128))
    (wordsOf highMask)

def be12ToPleStage : Register :=
  andSi128 (srlvEpi16 (shuffleEpi8 input (bytesOf be12ToPleShuffleTbl128)) (lanesOf be12ToPleSrlvTbl128))
    (wordsOf be12ToPleAndMaskTbl128)

section Moves

variable {Value : Type}

/-- What a batch of 32 pixel groups stores in the planes y, b and r, from its 16 stages. -/
def planarMoves32 (stageM128i : Nat -> Nat -> Value) : List (List Value) :=
  let stageM512i := fun j =>
    permutexvarEpi32 (lanesOf be10ToPlePermuteTbl512) (loaduSi512 stageM128i (4 * j))
  let result0 := shuffleI32x4 (stageM512i 0) (stageM512i 1) 0b01000100
  let result1 := shuffleI32x4 (stageM512i 0) (stageM512i 1) 0b11101110
  let result2 := shuffleI32x4 (stageM512i 2) (stageM512i 3) 0b01000100
  let result3 := shuffleI32x4 (stageM512i 2) (stageM512i 3) 0b11101110
  [storeuSi512 result1 ++ storeuSi512 result3,
    storeuSi512 (shuffleI32x4 result0 result2 0b10001000),
    storeuSi512 (shuffleI32x4 result0 result2 0b11011101)]

/-- What a batch of eight pixel groups stores, from its four stages. -/
def planarMoves8 (stageM128i : Nat -> Nat -> Value) : List (List Value) :=
  let permute := permutexvarEpi32 (lanesOf be10ToPlePermuteTbl512) (loaduSi512 stageM128i 0)
  [storeuSi128 (extracti32x4Epi32 permute 2) ++ storeuSi128 (extracti32x4Epi32 permute 3),
    storeuSi128 (extracti32x4Epi32 permute 0), storeuSi128 (extracti32x4Epi32 permute 1)]

/-- The byte of a stage that is the one at a place of a plane of one of its two pixel groups. -/
def planarPlace (plane half offset : Nat) : Nat :=
  match plane with
  | 0 => 8 + 4 * half + offset
  | 1 => 2 * half + offset
  | _ => 4 + 2 * half + offset

def planarPlaces (groups : Nat) (stageM128i : Nat -> Nat -> Value) : List (List Value) :=
  (List.range 3).map fun plane =>
    (List.range (groups * planar422.size plane)).map fun place =>
      stageM128i (place / planar422.size plane / 2)
        (planarPlace plane (place / planar422.size plane % 2) (place % planar422.size plane))

theorem planarMoves32_places :
    planarMoves32 (fun j index : Nat => (j, index)) = planarPlaces 32 fun j index => (j, index) := by
  decide +kernel

theorem planarMoves8_places :
    planarMoves8 (fun j index : Nat => (j, index)) = planarPlaces 8 fun j index => (j, index) := by
  decide +kernel

theorem planarPlaces_map {Place : Type} (groups : Nat) (value : Place -> Value)
    (stage : Nat -> Nat -> Place) :
    planarPlaces groups (fun j index => value (stage j index)) =
      (planarPlaces groups stage).map (List.map value) := by
  unfold planarPlaces
  simp only [List.map_map, Function.comp_def]

theorem planarMoves32_eq (stage : Nat -> Nat -> Value) : planarMoves32 stage = planarPlaces 32 stage := by
  have moved : planarMoves32 stage =
      (planarMoves32 fun j index : Nat => (j, index)).map (List.map fun place => stage place.1 place.2) := by
    have permuted : forall first,
        permutexvarEpi32 (lanesOf be10ToPlePermuteTbl512) (loaduSi512 stage first) =
          (fun place : Nat × Nat => stage place.1 place.2) ∘
            permutexvarEpi32 (lanesOf be10ToPlePermuteTbl512)
              (loaduSi512 (fun j index => (j, index)) first) := fun first => rfl
    simp only [planarMoves32, permuted, shuffleI32x4_comp, storeuSi512_comp, List.map_cons, List.map_nil,
      List.map_append]
  rw [moved, planarMoves32_places, ← planarPlaces_map]

theorem planarMoves8_eq (stage : Nat -> Nat -> Value) : planarMoves8 stage = planarPlaces 8 stage := by
  have moved : planarMoves8 stage =
      (planarMoves8 fun j index : Nat => (j, index)).map (List.map fun place => stage place.1 place.2) := by
    simp only [planarMoves8, List.map_cons, List.map_nil, List.map_append, storeuSi128, List.map_map]
    rfl
  rw [moved, planarMoves8_places, ← planarPlaces_map]

theorem planarPlaces_congr {groups : Nat} {first second : Nat -> Nat -> Value}
    (same : forall j, 2 * j < groups -> first j = second j) :
    planarPlaces groups first = planarPlaces groups second := by
  unfold planarPlaces
  apply List.map_congr_left
  intro plane _
  apply List.map_congr_left
  intro place member
  have below : place / planar422.size plane < groups :=
    Nat.div_lt_of_lt_mul (by rw [Nat.mul_comm]; exact List.mem_range.mp member)
  rw [same _ (by omega)]

end Moves

/-- How the register with two pixel groups of a packed format becomes a stage. -/
structure PlanarKernel where
  size : Nat
  k : Nat
  stage : Register -> Register
  narrow : k < 2 ^ (2 * size)

namespace PlanarKernel

variable (kernel : PlanarKernel)

def stages (pg : Nat -> Byte) (j : Nat) : Register :=
  kernel.stage (maskzLoaduEpi8 kernel.k fun offset => pg (2 * kernel.size * j + offset))

/-- A batch that moves the stages of some registers into the planes. -/
def batch (registers : Nat) (moves : (Nat -> Nat -> Byte) -> List (List Byte))
    (places : forall stage, moves stage = planarPlaces (2 * registers) stage) : GroupMap Byte where
  inSize := sizesOf [2 * registers * kernel.size]
  outSize plane := 2 * registers * planar422.size plane
  convert group := planesOf (moves (kernel.stages (group 0)))
  reads {first second} same plane offset _ := by
    have alike : moves (kernel.stages (first 0)) = moves (kernel.stages (second 0)) := by
      rw [places, places]
      apply planarPlaces_congr
      intro j below
      unfold stages
      rw [maskzLoaduEpi8_congr kernel.narrow]
      intro index inside
      apply same 0
      have whole : (j + 1) * (2 * kernel.size) ≤ registers * (2 * kernel.size) :=
        Nat.mul_le_mul_right _ (by omega)
      show 2 * kernel.size * j + index < 2 * registers * kernel.size
      calc 2 * kernel.size * j + index < 2 * kernel.size * j + 2 * kernel.size := by omega
        _ = (j + 1) * (2 * kernel.size) := by ring
        _ ≤ registers * (2 * kernel.size) := whole
        _ = 2 * registers * kernel.size := by ring
    rw [alike]

def batch32 : GroupMap Byte := kernel.batch 16 planarMoves32 planarMoves32_eq

def batch8 : GroupMap Byte := kernel.batch 4 planarMoves8 planarMoves8_eq

/-- The loops over 32 and over eight pixel groups, and the one over those that are left. -/
def loops (left : GroupMap Byte) (src dst : Planes Byte) (pgCnt : Nat) : Planes Byte :=
  let dst := kernel.batch32.run src dst 0 (pgCnt / 32)
  let dst := kernel.batch8.run src dst (pgCnt / 32 * 4) (pgCnt % 32 / 8)
  left.run src dst (pgCnt / 8 * 8) (pgCnt % 8)

end PlanarKernel

/-! ## The little-endian formats -/

/-- `be10_to_le_shuffle_l0_tbl_128` -/
def be10ToLeShuffleL0Tbl128 : List Nat :=
  [1, 0, 3, 2, 6, 5, 8, 7, 11, 10, 13, 12, 0, 5, 10, 0x80]

/-- `be10_to_and_l0_tbl_128` -/
def be10ToAndL0Tbl128 : List Nat :=
  [0x00, 0xFF, 0xF0, 0x3F, 0x00, 0xFF, 0xF0, 0x3F,
    0x00, 0xFF, 0xF0, 0x3F, 0x00, 0x03, 0x03, 0x03]

/-- `be10_to_le_shuffle_r0_tbl_128` -/
def be10ToLeShuffleR0Tbl128 : List Nat :=
  [2, 1, 4, 3, 7, 6, 9, 8, 12, 11, 14, 13, 0x80, 4, 9, 14]

/-- `be10_to_le_and_r0_tbl_128` -/
def be10ToLeAndR0Tbl128 : List Nat :=
  [0xFC, 0x0F, 0xFF, 0x00, 0xFC, 0x0F, 0xFF, 0x00,
    0xFC, 0x0F, 0xFF, 0x00, 0xC0, 0xC0, 0xC0, 0x00]

/-- `be10_to_le_shuffle_l1_tbl_128` -/
def be10ToLeShuffleL1Tbl128 : List Nat :=
  [1, 13, 2, 3, 0x80, 5, 14, 6, 7, 0x80, 9, 15, 10, 11, 0x80, 0x80]

/-- `be10_to_le_shuffle_r1_tbl_128` -/
def be10ToLeShuffleR1Tbl128 : List Nat :=
  [0x80, 0, 1, 12, 2, 0x80, 4, 5, 13, 6, 0x80, 8, 9, 14, 10, 0x80]

/-- Three pixel groups of ten bits. -/
def be10ToLeResult : Register :=
  let rlResult := andSi128 (rolEpi32 (shuffleEpi8 input (bytesOf be10ToLeShuffleL0Tbl128)) 2)
    (bytesOf be10ToAndL0Tbl128)
  let rrResult := andSi128 (rorEpi32 (shuffleEpi8 input (bytesOf be10ToLeShuffleR0Tbl128)) 2)
    (bytesOf be10ToLeAndR0Tbl128)
  orSi128 (shuffleEpi8 rlResult (bytesOf be10ToLeShuffleL1Tbl128))
    (shuffleEpi8 rrResult (bytesOf be10ToLeShuffleR1Tbl128))

/-- `be12_to_le12_shuffle0_tbl_128` -/
def be12ToLe12Shuffle0Tbl128 : List Nat :=
  [1, 0, 2, 1, 4, 3, 5, 4,
    1 + 6, 0 + 6, 2 + 6, 1 + 6, 4 + 6, 3 + 6, 5 + 6, 4 + 6]

/-- `be12_to_le12_shuffle1_tbl_128` -/
def be12ToLe12Shuffle1Tbl128 : List Nat :=
  [0, 1, 2, 4, 5, 6, 0 + 8, 1 + 8, 2 + 8, 4 + 8, 5 + 8, 6 + 8, 0x80, 0x80, 0x80, 0x80]

def be12ToLe12Result : Register :=
  shuffleEpi8 (srliEpi32 (shuffleEpi8 input (bytesOf be12ToLe12Shuffle0Tbl128)) 4)
    (bytesOf be12ToLe12Shuffle1Tbl128)

def be10ToLe10Batch : GroupMap Byte where
  inSize := sizesOf [15]
  outSize := sizesOf [15]
  convert group := planesOf [maskStoreuEpi8 0x7FFF (be10ToLeResult (maskzLoaduEpi8 0x7FFF (group 0)))]
  reads {first second} same plane offset _ := by
    rw [maskzLoaduEpi8_congr (by decide : 0x7FFF < 2 ^ 15) (same 0)]

def be12ToLe12Batch : GroupMap Byte where
  inSize := sizesOf [12]
  outSize := sizesOf [12]
  convert group := planesOf [maskStoreuEpi8 0xFFF (be12ToLe12Result (maskzLoaduEpi8 0xFFF (group 0)))]
  reads {first second} same plane offset _ := by
    rw [maskzLoaduEpi8_congr (by decide : 0xFFF < 2 ^ 12) (same 0)]

/-- The loop over batches of some pixel groups, and the one over those that are left. -/
def batchLoops (batch left : GroupMap Byte) (groups : Nat) (src dst : Planes Byte) (pgCnt : Nat) :
    Planes Byte :=
  left.run src (batch.run src dst 0 (pgCnt / groups)) (pgCnt / groups * groups) (pgCnt % groups)

/-! ## Packing planes -/

/-- `ple_to_be10_sllv_tbl_128` -/
def pleToBe10SllvTbl128 : List Nat :=
  [0x0006, 0x0002, 0x0004, 0x0000, 0x0006, 0x0002, 0x0004, 0x0000]

/-- `p16le_to_be10_srlv_tbl_128` -/
def p16leToBe10SrlvTbl128 : List Nat :=
  [0x0000, 0x0004, 0x0002, 0x0006, 0x0000, 0x0004, 0x0002, 0x0006]

/-- `ple_to_be10_shuffle_hi_tbl_128` -/
def pleToBe10ShuffleHiTbl128 : List Nat :=
  [1, 0, 4, 2, 6, 9, 8, 12, 10, 14, 0x80, 0x80, 0x80, 0x80, 0x80, 0x80]

/-- `ple_to_be10_shuffle_lo_tbl_128` -/
def pleToBe10ShuffleLoTbl128 : List Nat :=
  [0x80, 5, 3, 7, 0x80, 0x80, 13, 11, 15, 0x80, 0x80, 0x80, 0x80, 0x80, 0x80, 0x80]

/-- The four registers with the samples of two pixel groups each: b0, r0, y0, y1, b1, r1, y2, y3. -/
def packMoves {Value : Type} (srcY0 srcY8 srcB srcR : Nat -> Value) : List (Nat -> Value) :=
  let srcBrLo := unpackloEpi16 srcB srcR
  let srcBrHi := unpackhiEpi16 srcB srcR
  [unpackloEpi32 srcBrLo srcY0, unpackhiEpi32 srcBrLo srcY0,
    unpackloEpi32 srcBrHi srcY8, unpackhiEpi32 srcBrHi srcY8]

/-- The bytes of two pixel groups from the register with their shifted samples. -/
def packResult (shifted : Register) : List Byte :=
  maskStoreuEpi8 0x3FF (orSi128 (shuffleEpi8 shifted (bytesOf pleToBe10ShuffleHiTbl128))
    (shuffleEpi8 shifted (bytesOf pleToBe10ShuffleLoTbl128)))

/-- A batch of eight pixel groups; `masked` is what is done to the registers that were loaded. -/
def packBatch (masked shift : Register -> Register) : GroupMap Byte where
  inSize := sizesOf [32, 16, 16]
  outSize := sizesOf [40]
  convert group :=
    let srcY0 := masked (loaduSi128 (group 0))
    let srcY8 := masked (loaduSi128 fun index => group 0 (16 + index))
    let srcB := masked (loaduSi128 (group 1))
    let srcR := masked (loaduSi128 (group 2))
    planesOf [(packMoves srcY0 srcY8 srcB srcR).flatMap fun src => packResult (shift src)]
  reads {first second} same plane offset _ := by
    have luma : ∀ index < 32, first 0 index = second 0 index := same 0
    rw [loaduSi128_congr (fun index below => luma index (by omega)),
      loaduSi128_congr (fun index below => luma (16 + index) (by omega)), loaduSi128_congr (same 1),
      loaduSi128_congr (same 2)]

def p10ToBe10Batch : GroupMap Byte :=
  packBatch id fun src => sllvEpi16 src (lanesOf pleToBe10SllvTbl128)

def p16ToBe10Batch : GroupMap Byte :=
  packBatch (fun src => andSi128 src (wordsOf highMask)) fun src =>
    srlvEpi16 src (lanesOf p16leToBe10SrlvTbl128)

/-! ## The conversions -/

def be10ToPleKernel : PlanarKernel := ⟨5, 0x3FF, be10ToPleStage, by decide⟩

def be10ToP16leKernel : PlanarKernel := ⟨5, 0x3FF, be10ToP16leStage, by decide⟩

def be12ToPleKernel : PlanarKernel := ⟨6, 0xFFF, be12ToPleStage, by decide⟩

section Conversions

variable (src dst : Planes Byte) (w h : UInt32)

def st20Rfc4175_422be10ToYuv422p10leAvx512 : Converted :=
  some (.ok (), be10ToPleKernel.loops be10ToPlanar10 src dst (pgCount w h 2))

def st20Rfc4175_422be10ToYuv422p16leAvx512 : Converted :=
  some (.ok (), be10ToP16leKernel.loops be10ToPlanar16 src dst (pgCount w h 2))

def st20Rfc4175_422be12ToYuv422p12leAvx512 : Converted :=
  some (.ok (), be12ToPleKernel.loops be12ToPlanar12 src dst (pgCount w h 2))

def st20Rfc4175_422be10To422le10Avx512 : Converted :=
  some (.ok (), batchLoops be10ToLe10Batch be10ToLe10 3 src dst (pgCount w h 2))

def st20Rfc4175_422be12To422le12Avx512 : Converted :=
  some (.ok (), batchLoops be12ToLe12Batch be12ToLe12 2 src dst (pgCount w h 2))

def st20Yuv422p10leToRfc4175_422be10Avx512 : Converted :=
  some (.ok (), batchLoops p10ToBe10Batch planar10ToBe10 8 src dst (pgCount w h 2))

def st20Yuv422p16leToRfc4175_422be10Avx512 : Converted :=
  some (.ok (), batchLoops p16ToBe10Batch planar16ToBe10 8 src dst (pgCount w h 2))

end Conversions

end MediaTransport.Convert
