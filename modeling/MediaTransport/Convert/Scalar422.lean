import MediaTransport.Convert.PixelGroups
import MediaTransport.Util.Errno

namespace MediaTransport.Convert

open Library

/-!
# Scalar conversions of the 4:2:2 formats

Each function loops over the pixel groups of a frame.  It reads the four samples
of a group from one format and stores them in another.  A group map is the body
of such a loop.
-/

variable (group : Planes Byte)

variable (pg : St20Rfc4175_422_10_Pg2Be)

/-- What a conversion returns and leaves in the planes of its target; nothing where an index left
the planes. -/
abbrev Converted := Option (Except Errno Unit × Planes Byte)

/-- A conversion from source planes into target planes, for a width and a height. -/
abbrev Conversion := Planes Byte -> Planes Byte -> UInt32 -> UInt32 -> Converted

/-- The number of pixel groups; the product of width and height is one of 32 bits. -/
def pgCount (w h : UInt32) (pixels : Nat) : Nat := (w * h).toNat / pixels

def convertGroups (map : GroupMap Byte) (src dst : Planes Byte) (count : Nat) : Converted :=
  some (.ok (), map.run src dst 0 count)

/-! ## Sample formats -/

def sampleAt (plane index : Nat) : Sample :=
  joined 16 (group plane (2 * index + 1)) (group plane (2 * index))

def sampleBytes (sample : Sample) : List Byte :=
  [sample.extractLsb' 0 8, sample.extractLsb' 8 8]

/-- The samples of two pixels. -/
@[ext] structure Pixels422 where
  cb : Sample
  y0 : Sample
  cr : Sample
  y1 : Sample

/-- The planes y, b and r of 16-bit samples. -/
def planar422 : GroupFormat Byte Pixels422 where
  size := sizesOf [4, 2, 2]
  load group :=
    { cb := sampleAt group 1 0
      y0 := sampleAt group 0 0
      cr := sampleAt group 2 0
      y1 := sampleAt group 0 1 }
  store pixels :=
    planesOf [[pixels.y0, pixels.y1].flatMap sampleBytes, sampleBytes pixels.cb, sampleBytes pixels.cr]
  reads {first second} same := by
    have luma : ∀ offset < 4, first 0 offset = second 0 offset := same 0
    have blue : ∀ offset < 2, first 1 offset = second 1 offset := same 1
    have red : ∀ offset < 2, first 2 offset = second 2 offset := same 2
    simp [sampleAt, luma, blue, red]
  load_store pixels := by simp [sampleAt, sampleBytes]
  store_load group plane offset inside := by
    match plane, inside with
    | 0, inside =>
      have inside : offset < 4 := inside
      interval_cases offset <;> simp [sampleAt, sampleBytes]
    | 1, inside =>
      have inside : offset < 2 := inside
      interval_cases offset <;> simp [sampleAt, sampleBytes]
    | 2, inside =>
      have inside : offset < 2 := inside
      interval_cases offset <;> simp [sampleAt, sampleBytes]
    | plane + 3, inside => exact absurd inside (Nat.not_lt_zero offset)

/-- One plane of 16-bit samples in the order of y210. -/
def y210 : GroupFormat Byte Pixels422 where
  size := sizesOf [8]
  load group :=
    { cb := sampleAt group 0 1
      y0 := sampleAt group 0 0
      cr := sampleAt group 0 3
      y1 := sampleAt group 0 2 }
  store pixels :=
    planesOf [[pixels.y0, pixels.cb, pixels.y1, pixels.cr].flatMap sampleBytes]
  reads {first second} same := by
    have here : ∀ offset < 8, first 0 offset = second 0 offset := same 0
    simp [sampleAt, here]
  load_store pixels := by simp [sampleAt, sampleBytes]
  store_load group plane offset inside := by
    apply stored_list rfl inside
    intro offset inside
    interval_cases offset <;> simp [sampleAt, sampleBytes]

/-! ## Samples from and into bit fields -/

def St20Rfc4175_422_10_Pg2Be.samples (pg : St20Rfc4175_422_10_Pg2Be) : Pixels422 where
  cb := pg.cb00.setWidth 16 <<< 2 + pg.cb00_.setWidth 16
  y0 := pg.y00.setWidth 16 <<< 4 + pg.y00_.setWidth 16
  cr := pg.cr00.setWidth 16 <<< 6 + pg.cr00_.setWidth 16
  y1 := pg.y01.setWidth 16 <<< 8 + pg.y01_.setWidth 16

def Pixels422.packBe10 (pixels : Pixels422) : St20Rfc4175_422_10_Pg2Be where
  cb00 := (pixels.cb >>> 2).setWidth 8
  cb00_ := pixels.cb.setWidth 2
  y00 := (pixels.y0 >>> 4).setWidth 6
  y00_ := pixels.y0.setWidth 4
  cr00 := (pixels.cr >>> 6).setWidth 4
  cr00_ := pixels.cr.setWidth 6
  y01 := (pixels.y1 >>> 8).setWidth 2
  y01_ := pixels.y1.setWidth 8

def St20Rfc4175_422_10_Pg2Le.samples (pg : St20Rfc4175_422_10_Pg2Le) : Pixels422 where
  cb := pg.cb00.setWidth 16 + pg.cb00_.setWidth 16 <<< 8
  y0 := pg.y00.setWidth 16 + pg.y00_.setWidth 16 <<< 6
  cr := pg.cr00.setWidth 16 + pg.cr00_.setWidth 16 <<< 4
  y1 := pg.y01.setWidth 16 + pg.y01_.setWidth 16 <<< 2

def Pixels422.packLe10 (pixels : Pixels422) : St20Rfc4175_422_10_Pg2Le where
  cb00 := pixels.cb.setWidth 8
  cb00_ := (pixels.cb >>> 8).setWidth 2
  y00 := pixels.y0.setWidth 6
  y00_ := (pixels.y0 >>> 6).setWidth 4
  cr00 := pixels.cr.setWidth 4
  cr00_ := (pixels.cr >>> 4).setWidth 6
  y01 := pixels.y1.setWidth 2
  y01_ := (pixels.y1 >>> 2).setWidth 8

def St20Rfc4175_422_12_Pg2Be.samples (pg : St20Rfc4175_422_12_Pg2Be) : Pixels422 where
  cb := pg.cb00.setWidth 16 <<< 4 + pg.cb00_.setWidth 16
  y0 := pg.y00.setWidth 16 <<< 8 + pg.y00_.setWidth 16
  cr := pg.cr00.setWidth 16 <<< 4 + pg.cr00_.setWidth 16
  y1 := pg.y01.setWidth 16 <<< 8 + pg.y01_.setWidth 16

def Pixels422.packBe12 (pixels : Pixels422) : St20Rfc4175_422_12_Pg2Be where
  cb00 := (pixels.cb >>> 4).setWidth 8
  cb00_ := pixels.cb.setWidth 4
  y00 := (pixels.y0 >>> 8).setWidth 4
  y00_ := pixels.y0.setWidth 8
  cr00 := (pixels.cr >>> 4).setWidth 8
  cr00_ := pixels.cr.setWidth 4
  y01 := (pixels.y1 >>> 8).setWidth 4
  y01_ := pixels.y1.setWidth 8

def St20Rfc4175_422_12_Pg2Le.samples (pg : St20Rfc4175_422_12_Pg2Le) : Pixels422 where
  cb := pg.cb00.setWidth 16 + pg.cb00_.setWidth 16 <<< 8
  y0 := pg.y00.setWidth 16 + pg.y00_.setWidth 16 <<< 4
  cr := pg.cr00.setWidth 16 + pg.cr00_.setWidth 16 <<< 8
  y1 := pg.y01.setWidth 16 + pg.y01_.setWidth 16 <<< 4

def Pixels422.packLe12 (pixels : Pixels422) : St20Rfc4175_422_12_Pg2Le where
  cb00 := pixels.cb.setWidth 8
  cb00_ := (pixels.cb >>> 8).setWidth 4
  y00 := pixels.y0.setWidth 4
  y00_ := (pixels.y0 >>> 4).setWidth 8
  cr00 := pixels.cr.setWidth 8
  cr00_ := (pixels.cr >>> 8).setWidth 4
  y01 := pixels.y1.setWidth 4
  y01_ := (pixels.y1 >>> 4).setWidth 8

def st20UnpackPg2be422le16 (pg : St20Rfc4175_422_10_Pg2Be) : Pixels422 where
  cb := pg.cb00.setWidth 16 <<< 8 + pg.cb00_.setWidth 16 <<< 6
  y0 := pg.y00.setWidth 16 <<< 10 + pg.y00_.setWidth 16 <<< 6
  cr := pg.cr00.setWidth 16 <<< 12 + pg.cr00_.setWidth 16 <<< 6
  y1 := pg.y01.setWidth 16 <<< 14 + pg.y01_.setWidth 16 <<< 6

def Pixels422.packHighBe10 (pixels : Pixels422) : St20Rfc4175_422_10_Pg2Be where
  cb00 := (pixels.cb >>> 8).setWidth 8
  cb00_ := (pixels.cb >>> 6).setWidth 2
  y00 := (pixels.y0 >>> 10).setWidth 6
  y00_ := (pixels.y0 >>> 6).setWidth 4
  cr00 := (pixels.cr >>> 12).setWidth 4
  cr00_ := (pixels.cr >>> 6).setWidth 6
  y01 := (pixels.y1 >>> 14).setWidth 2
  y01_ := (pixels.y1 >>> 6).setWidth 8

/-- The same with the masks that the conversion of y210 has. -/
def Pixels422.packY210Be10 (pixels : Pixels422) : St20Rfc4175_422_10_Pg2Be where
  cb00 := (pixels.cb >>> 8).setWidth 8
  cb00_ := ((pixels.cb >>> 6) &&& 0x3).setWidth 2
  y00 := (pixels.y0 >>> 10).setWidth 6
  y00_ := ((pixels.y0 >>> 6) &&& 0xF).setWidth 4
  cr00 := (pixels.cr >>> 12).setWidth 4
  cr00_ := ((pixels.cr >>> 6) &&& 0x3F).setWidth 6
  y01 := (pixels.y1 >>> 14).setWidth 2
  y01_ := ((pixels.y1 >>> 6) &&& 0xFF).setWidth 8

/-! ## Fields and samples -/

/-- Samples that need no more bits than a depth. -/
structure Pixels422.Within (pixels : Pixels422) (depth : Nat) : Prop where
  cb : pixels.cb.toNat < 2 ^ depth
  y0 : pixels.y0.toNat < 2 ^ depth
  cr : pixels.cr.toNat < 2 ^ depth
  y1 : pixels.y1.toNat < 2 ^ depth

/-- Samples with zeros below their high bits. -/
structure Pixels422.Padded (pixels : Pixels422) (padding : Nat) : Prop where
  cb : pixels.cb.toNat % 2 ^ padding = 0
  y0 : pixels.y0.toNat % 2 ^ padding = 0
  cr : pixels.cr.toNat % 2 ^ padding = 0
  y1 : pixels.y1.toNat % 2 ^ padding = 0

section Fields

variable {pixels : Pixels422}

@[simp] theorem packBe10_samples : pg.samples.packBe10 = pg := by
  simp [Pixels422.packBe10, St20Rfc4175_422_10_Pg2Be.samples]

theorem samples_packBe10 (within : pixels.Within 10) : pixels.packBe10.samples = pixels := by
  apply Pixels422.ext
  · exact parts_of_value pixels.cb (by decide) within.cb
  · exact parts_of_value pixels.y0 (by decide) within.y0
  · exact parts_of_value pixels.cr (by decide) within.cr
  · exact parts_of_value pixels.y1 (by decide) within.y1

theorem within_be10 : pg.samples.Within 10 := by
  constructor <;> exact toNat_parts_lt _ _ (by decide)

@[simp] theorem packLe10_samples (pg : St20Rfc4175_422_10_Pg2Le) : pg.samples.packLe10 = pg := by
  simp [Pixels422.packLe10, St20Rfc4175_422_10_Pg2Le.samples]

theorem samples_packLe10 (within : pixels.Within 10) : pixels.packLe10.samples = pixels := by
  apply Pixels422.ext
  · exact parts_of_value_low_first pixels.cb (by decide) within.cb
  · exact parts_of_value_low_first pixels.y0 (by decide) within.y0
  · exact parts_of_value_low_first pixels.cr (by decide) within.cr
  · exact parts_of_value_low_first pixels.y1 (by decide) within.y1

theorem within_le10 (pg : St20Rfc4175_422_10_Pg2Le) : pg.samples.Within 10 := by
  constructor <;> exact toNat_parts_lt_low_first _ _ (by decide)

@[simp] theorem packBe12_samples (pg : St20Rfc4175_422_12_Pg2Be) : pg.samples.packBe12 = pg := by
  simp [Pixels422.packBe12, St20Rfc4175_422_12_Pg2Be.samples]

theorem samples_packBe12 (within : pixels.Within 12) : pixels.packBe12.samples = pixels := by
  apply Pixels422.ext
  · exact parts_of_value pixels.cb (by decide) within.cb
  · exact parts_of_value pixels.y0 (by decide) within.y0
  · exact parts_of_value pixels.cr (by decide) within.cr
  · exact parts_of_value pixels.y1 (by decide) within.y1

theorem within_be12 (pg : St20Rfc4175_422_12_Pg2Be) : pg.samples.Within 12 := by
  constructor <;> exact toNat_parts_lt _ _ (by decide)

@[simp] theorem packLe12_samples (pg : St20Rfc4175_422_12_Pg2Le) : pg.samples.packLe12 = pg := by
  simp [Pixels422.packLe12, St20Rfc4175_422_12_Pg2Le.samples]

theorem samples_packLe12 (within : pixels.Within 12) : pixels.packLe12.samples = pixels := by
  apply Pixels422.ext
  · exact parts_of_value_low_first pixels.cb (by decide) within.cb
  · exact parts_of_value_low_first pixels.y0 (by decide) within.y0
  · exact parts_of_value_low_first pixels.cr (by decide) within.cr
  · exact parts_of_value_low_first pixels.y1 (by decide) within.y1

theorem within_le12 (pg : St20Rfc4175_422_12_Pg2Le) : pg.samples.Within 12 := by
  constructor <;> exact toNat_parts_lt_low_first _ _ (by decide)

@[simp] theorem packHighBe10_unpack : (st20UnpackPg2be422le16 pg).packHighBe10 = pg := by
  simp [Pixels422.packHighBe10, st20UnpackPg2be422le16]

theorem unpack_packHighBe10 (padded : pixels.Padded 6) :
    st20UnpackPg2be422le16 pixels.packHighBe10 = pixels := by
  apply Pixels422.ext
  · exact padded_of_value pixels.cb (by decide) (by decide) padded.cb
  · exact padded_of_value pixels.y0 (by decide) (by decide) padded.y0
  · exact padded_of_value pixels.cr (by decide) (by decide) padded.cr
  · exact padded_of_value pixels.y1 (by decide) (by decide) padded.y1

theorem packY210Be10_eq (pixels : Pixels422) : pixels.packY210Be10 = pixels.packHighBe10 := by
  simp only [Pixels422.packY210Be10, Pixels422.packHighBe10]
  congr 1 <;> exact setWidth_masked _ _ (by decide)

end Fields

/-! ## Loop bodies -/

def be10ToPlanar10 : GroupMap Byte :=
  St20Rfc4175_422_10_Pg2Be.format.map St20Rfc4175_422_10_Pg2Be.samples planar422

def planar10ToBe10 : GroupMap Byte :=
  planar422.map Pixels422.packBe10 St20Rfc4175_422_10_Pg2Be.format

def le10ToPlanar10 : GroupMap Byte :=
  St20Rfc4175_422_10_Pg2Le.format.map St20Rfc4175_422_10_Pg2Le.samples planar422

def planar10ToLe10 : GroupMap Byte :=
  planar422.map Pixels422.packLe10 St20Rfc4175_422_10_Pg2Le.format

def be10ToLe10 : GroupMap Byte :=
  St20Rfc4175_422_10_Pg2Be.format.map (Pixels422.packLe10 ∘ St20Rfc4175_422_10_Pg2Be.samples)
    St20Rfc4175_422_10_Pg2Le.format

def le10ToBe10 : GroupMap Byte :=
  St20Rfc4175_422_10_Pg2Le.format.map (Pixels422.packBe10 ∘ St20Rfc4175_422_10_Pg2Le.samples)
    St20Rfc4175_422_10_Pg2Be.format

def be10ToPlanar16 : GroupMap Byte :=
  St20Rfc4175_422_10_Pg2Be.format.map st20UnpackPg2be422le16 planar422

def planar16ToBe10 : GroupMap Byte :=
  planar422.map Pixels422.packHighBe10 St20Rfc4175_422_10_Pg2Be.format

def be10ToY210 : GroupMap Byte :=
  St20Rfc4175_422_10_Pg2Be.format.map st20UnpackPg2be422le16 y210

def y210ToBe10 : GroupMap Byte :=
  y210.map Pixels422.packY210Be10 St20Rfc4175_422_10_Pg2Be.format

def be12ToPlanar12 : GroupMap Byte :=
  St20Rfc4175_422_12_Pg2Be.format.map St20Rfc4175_422_12_Pg2Be.samples planar422

def planar12ToBe12 : GroupMap Byte :=
  planar422.map Pixels422.packBe12 St20Rfc4175_422_12_Pg2Be.format

def le12ToPlanar12 : GroupMap Byte :=
  St20Rfc4175_422_12_Pg2Le.format.map St20Rfc4175_422_12_Pg2Le.samples planar422

def planar12ToLe12 : GroupMap Byte :=
  planar422.map Pixels422.packLe12 St20Rfc4175_422_12_Pg2Le.format

def be12ToLe12 : GroupMap Byte :=
  St20Rfc4175_422_12_Pg2Be.format.map (Pixels422.packLe12 ∘ St20Rfc4175_422_12_Pg2Be.samples)
    St20Rfc4175_422_12_Pg2Le.format

def le12ToBe12 : GroupMap Byte :=
  St20Rfc4175_422_12_Pg2Le.format.map (Pixels422.packBe12 ∘ St20Rfc4175_422_12_Pg2Le.samples)
    St20Rfc4175_422_12_Pg2Be.format

theorem be10ToLe10_convert :
    be10ToLe10.convert group = planesOf [[
      (group 0 0 <<< 2) ||| (group 0 1 >>> 6),
      (group 0 0 >>> 6) ||| (group 0 1 <<< 6) ||| ((group 0 2 >>> 2) &&& 0x3C),
      ((group 0 1 >>> 2) &&& 0x0F) ||| ((group 0 3 <<< 2) &&& 0xF0),
      (((group 0 2 <<< 2) ||| (group 0 3 >>> 6)) &&& 0x3F) ||| (group 0 4 <<< 6),
      (group 0 4 >>> 2) ||| (group 0 3 <<< 6)]] := by
  show planesOf [(St20Rfc4175_422_10_Pg2Be.load group).samples.packLe10.bytes] = _
  simp only [St20Rfc4175_422_10_Pg2Be.load, St20Rfc4175_422_10_Pg2Be.samples, Pixels422.packLe10,
    St20Rfc4175_422_10_Pg2Le.bytes, parts_eq_joined _ _ (by decide : 8 + 2 ≤ 16),
    parts_eq_joined _ _ (by decide : 6 + 4 ≤ 16), parts_eq_joined _ _ (by decide : 4 + 6 ≤ 16),
    parts_eq_joined _ _ (by decide : 2 + 8 ≤ 16)]
  congr <;>
    · apply byte_eq
      intro bit below
      interval_cases bit <;> simp [getElem_joined]

theorem be12ToLe12_convert :
    be12ToLe12.convert group = planesOf [[
      (group 0 1 >>> 4) ||| (group 0 0 <<< 4),
      (group 0 0 >>> 4) ||| (group 0 2 <<< 4),
      (group 0 2 >>> 4) ||| (group 0 1 <<< 4),
      (group 0 4 >>> 4) ||| (group 0 3 <<< 4),
      (group 0 3 >>> 4) ||| (group 0 5 <<< 4),
      (group 0 5 >>> 4) ||| (group 0 4 <<< 4)]] := by
  show planesOf [(St20Rfc4175_422_12_Pg2Be.load group).samples.packLe12.bytes] = _
  simp only [St20Rfc4175_422_12_Pg2Be.load, St20Rfc4175_422_12_Pg2Be.samples, Pixels422.packLe12,
    St20Rfc4175_422_12_Pg2Le.bytes, parts_eq_joined _ _ (by decide : 8 + 4 ≤ 16),
    parts_eq_joined _ _ (by decide : 4 + 8 ≤ 16)]
  congr <;>
    · apply byte_eq
      intro bit below
      interval_cases bit <;> simp [getElem_joined]

/-! ## The conversions -/

section Conversions

variable (src dst : Planes Byte) (w h : UInt32)

def st20Rfc4175_422be10ToYuv422p10leScalar : Converted :=
  convertGroups be10ToPlanar10 src dst (pgCount w h 2)

def st20Yuv422p10leToRfc4175_422be10Scalar : Converted :=
  convertGroups planar10ToBe10 src dst (pgCount w h 2)

def st20Rfc4175_422le10ToYuv422p10le : Converted :=
  convertGroups le10ToPlanar10 src dst (pgCount w h 2)

def st20Yuv422p10leToRfc4175_422le10 : Converted :=
  convertGroups planar10ToLe10 src dst (pgCount w h 2)

def st20Rfc4175_422be10To422le10Scalar : Converted :=
  convertGroups be10ToLe10 src dst (pgCount w h 2)

def st20Rfc4175_422le10To422be10Scalar : Converted :=
  convertGroups le10ToBe10 src dst (pgCount w h 2)

def st20Rfc4175_422be10ToYuv422p16leScalar : Converted :=
  convertGroups be10ToPlanar16 src dst (pgCount w h 2)

def st20Yuv422p16leToRfc4175_422be10Scalar : Converted :=
  convertGroups planar16ToBe10 src dst (pgCount w h 2)

def st20Rfc4175_422be12ToYuv422p12leScalar : Converted :=
  convertGroups be12ToPlanar12 src dst (pgCount w h 2)

def st20Yuv422p12leToRfc4175_422be12Scalar : Converted :=
  convertGroups planar12ToBe12 src dst (pgCount w h 2)

def st20Rfc4175_422le12ToYuv422p12le : Converted :=
  convertGroups le12ToPlanar12 src dst (pgCount w h 2)

def st20Yuv422p12leToRfc4175_422le12 : Converted :=
  convertGroups planar12ToLe12 src dst (pgCount w h 2)

def st20Rfc4175_422be12To422le12Scalar : Converted :=
  convertGroups be12ToLe12 src dst (pgCount w h 2)

def st20Rfc4175_422le12To422be12Scalar : Converted :=
  convertGroups le12ToBe12 src dst (pgCount w h 2)

/-- The groups go to y210 at the place that a product of 32 bits gives. -/
def st20Rfc4175_422be10ToY210Scalar : Converted :=
  some (.ok (), (List.range (pgCount w h 2)).foldl
    (fun planes i =>
      planes.put (fun _ => i * 4 % 2 ^ 32 * 2) be10ToY210.outSize
        (be10ToY210.convert (src.tail fun plane => i * be10ToY210.inSize plane)))
    dst)

/-- The place of a group in y210 is a signed number of 32 bits, which is negative from 2 ^ 31 on. -/
def st20Y210ToRfc4175_422be10Scalar : Converted :=
  if (pgCount w h 2 - 1) * 4 < 2 ^ 31 then
    convertGroups y210ToBe10 src dst (pgCount w h 2)
  else
    none

end Conversions

end MediaTransport.Convert
