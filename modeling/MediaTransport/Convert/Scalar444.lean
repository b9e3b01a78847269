import MediaTransport.Convert.Scalar422

namespace MediaTransport.Convert

open Library

/-!
# Scalar conversions of the 4:4:4 formats

A group has four pixels at ten bits and two at twelve.  The planes are those of
y, cb and cr or of g, r and b.
-/

/-- The samples of four pixels. -/
@[ext] structure Pixels444x4 where
  cbR0 : Sample
  yG0 : Sample
  crB0 : Sample
  cbR1 : Sample
  yG1 : Sample
  crB1 : Sample
  cbR2 : Sample
  yG2 : Sample
  crB2 : Sample
  cbR3 : Sample
  yG3 : Sample
  crB3 : Sample

/-- The planes of 16-bit samples, four pixels a group. -/
def planar444x4 : GroupFormat Byte Pixels444x4 where
  size := sizesOf [8, 8, 8]
  load group :=
    { cbR0 := sampleAt group 1 0
      yG0 := sampleAt group 0 0
      crB0 := sampleAt group 2 0
      cbR1 := sampleAt group 1 1
      yG1 := sampleAt group 0 1
      crB1 := sampleAt group 2 1
      cbR2 := sampleAt group 1 2
      yG2 := sampleAt group 0 2
      crB2 := sampleAt group 2 2
      cbR3 := sampleAt group 1 3
      yG3 := sampleAt group 0 3
      crB3 := sampleAt group 2 3 }
  store pixels :=
    planesOf [[pixels.yG0, pixels.yG1, pixels.yG2, pixels.yG3].flatMap sampleBytes,
      [pixels.cbR0, pixels.cbR1, pixels.cbR2, pixels.cbR3].flatMap sampleBytes,
      [pixels.crB0, pixels.crB1, pixels.crB2, pixels.crB3].flatMap sampleBytes]
  reads {first second} same := by
    have luma : ∀ offset < 8, first 0 offset = second 0 offset := same 0
    have blue : ∀ offset < 8, first 1 offset = second 1 offset := same 1
    have red : ∀ offset < 8, first 2 offset = second 2 offset := same 2
    simp [sampleAt, luma, blue, red]
  load_store pixels := by simp [sampleAt, sampleBytes]
  store_load group plane offset inside := by
    match plane, inside with
    | 0, inside =>
      have inside : offset < 8 := inside
      interval_cases offset <;> simp [sampleAt, sampleBytes]
    | 1, inside =>
      have inside : offset < 8 := inside
      interval_cases offset <;> simp [sampleAt, sampleBytes]
    | 2, inside =>
      have inside : offset < 8 := inside
      interval_cases offset <;> simp [sampleAt, sampleBytes]
    | plane + 3, inside => exact absurd inside (Nat.not_lt_zero offset)

/-- Samples that need no more bits than a depth. -/
structure Pixels444x4.Within (pixels : Pixels444x4) (depth : Nat) : Prop where
  cbR0 : pixels.cbR0.toNat < 2 ^ depth
  yG0 : pixels.yG0.toNat < 2 ^ depth
  crB0 : pixels.crB0.toNat < 2 ^ depth
  cbR1 : pixels.cbR1.toNat < 2 ^ depth
  yG1 : pixels.yG1.toNat < 2 ^ depth
  crB1 : pixels.crB1.toNat < 2 ^ depth
  cbR2 : pixels.cbR2.toNat < 2 ^ depth
  yG2 : pixels.yG2.toNat < 2 ^ depth
  crB2 : pixels.crB2.toNat < 2 ^ depth
  cbR3 : pixels.cbR3.toNat < 2 ^ depth
  yG3 : pixels.yG3.toNat < 2 ^ depth
  crB3 : pixels.crB3.toNat < 2 ^ depth

/-- The samples of two pixels. -/
@[ext] structure Pixels444x2 where
  cbR0 : Sample
  yG0 : Sample
  crB0 : Sample
  cbR1 : Sample
  yG1 : Sample
  crB1 : Sample

/-- The planes of 16-bit samples, two pixels a group. -/
def planar444x2 : GroupFormat Byte Pixels444x2 where
  size := sizesOf [4, 4, 4]
  load group :=
    { cbR0 := sampleAt group 1 0
      yG0 := sampleAt group 0 0
      crB0 := sampleAt group 2 0
      cbR1 := sampleAt group 1 1
      yG1 := sampleAt group 0 1
      crB1 := sampleAt group 2 1 }
  store pixels :=
    planesOf [[pixels.yG0, pixels.yG1].flatMap sampleBytes,
      [pixels.cbR0, pixels.cbR1].flatMap sampleBytes,
      [pixels.crB0, pixels.crB1].flatMap sampleBytes]
  reads {first second} same := by
    have luma : ∀ offset < 4, first 0 offset = second 0 offset := same 0
    have blue : ∀ offset < 4, first 1 offset = second 1 offset := same 1
    have red : ∀ offset < 4, first 2 offset = second 2 offset := same 2
    simp [sampleAt, luma, blue, red]
  load_store pixels := by simp [sampleAt, sampleBytes]
  store_load group plane offset inside := by
    match plane, inside with
    | 0, inside =>
      have inside : offset < 4 := inside
      interval_cases offset <;> simp [sampleAt, sampleBytes]
    | 1, inside =>
      have inside : offset < 4 := inside
      interval_cases offset <;> simp [sampleAt, sampleBytes]
    | 2, inside =>
      have inside : offset < 4 := inside
      interval_cases offset <;> simp [sampleAt, sampleBytes]
    | plane + 3, inside => exact absurd inside (Nat.not_lt_zero offset)

/-- Samples that need no more bits than a depth. -/
structure Pixels444x2.Within (pixels : Pixels444x2) (depth : Nat) : Prop where
  cbR0 : pixels.cbR0.toNat < 2 ^ depth
  yG0 : pixels.yG0.toNat < 2 ^ depth
  crB0 : pixels.crB0.toNat < 2 ^ depth
  cbR1 : pixels.cbR1.toNat < 2 ^ depth
  yG1 : pixels.yG1.toNat < 2 ^ depth
  crB1 : pixels.crB1.toNat < 2 ^ depth

/-! ## Samples from and into bit fields -/

def St20Rfc4175_444_10_Pg4Be.samples (pg : St20Rfc4175_444_10_Pg4Be) : Pixels444x4 where
  cbR0 := pg.cbR00.setWidth 16 <<< 2 + pg.cbR00_.setWidth 16
  yG0 := pg.yG00.setWidth 16 <<< 4 + pg.yG00_.setWidth 16
  crB0 := pg.crB00.setWidth 16 <<< 6 + pg.crB00_.setWidth 16
  cbR1 := pg.cbR01.setWidth 16 <<< 8 + pg.cbR01_.setWidth 16
  yG1 := pg.yG01.setWidth 16 <<< 2 + pg.yG01_.setWidth 16
  crB1 := pg.crB01.setWidth 16 <<< 4 + pg.crB01_.setWidth 16
  cbR2 := pg.cbR02.setWidth 16 <<< 6 + pg.cbR02_.setWidth 16
  yG2 := pg.yG02.setWidth 16 <<< 8 + pg.yG02_.setWidth 16
  crB2 := pg.crB02.setWidth 16 <<< 2 + pg.crB02_.setWidth 16
  cbR3 := pg.cbR03.setWidth 16 <<< 4 + pg.cbR03_.setWidth 16
  yG3 := pg.yG03.setWidth 16 <<< 6 + pg.yG03_.setWidth 16
  crB3 := pg.crB03.setWidth 16 <<< 8 + pg.crB03_.setWidth 16

def Pixels444x4.packBe10 (pixels : Pixels444x4) : St20Rfc4175_444_10_Pg4Be where
  cbR00 := (pixels.cbR0 >>> 2).setWidth 8
  cbR00_ := pixels.cbR0.setWidth 2
  yG00 := (pixels.yG0 >>> 4).setWidth 6
  yG00_ := pixels.yG0.setWidth 4
  crB00 := (pixels.crB0 >>> 6).setWidth 4
  crB00_ := pixels.crB0.setWidth 6
  cbR01 := (pixels.cbR1 >>> 8).setWidth 2
  cbR01_ := pixels.cbR1.setWidth 8
  yG01 := (pixels.yG1 >>> 2).setWidth 8
  yG01_ := pixels.yG1.setWidth 2
  crB01 := (pixels.crB1 >>> 4).setWidth 6
  crB01_ := pixels.crB1.setWidth 4
  cbR02 := (pixels.cbR2 >>> 6).setWidth 4
  cbR02_ := pixels.cbR2.setWidth 6
  yG02 := (pixels.yG2 >>> 8).setWidth 2
  yG02_ := pixels.yG2.setWidth 8
  crB02 := (pixels.crB2 >>> 2).setWidth 8
  crB02_ := pixels.crB2.setWidth 2
  cbR03 := (pixels.cbR3 >>> 4).setWidth 6
  cbR03_ := pixels.cbR3.setWidth 4
  yG03 := (pixels.yG3 >>> 6).setWidth 4
  yG03_ := pixels.yG3.setWidth 6
  crB03 := (pixels.crB3 >>> 8).setWidth 2
  crB03_ := pixels.crB3.setWidth 8

def St20Rfc4175_444_10_Pg4Le.samples (pg : St20Rfc4175_444_10_Pg4Le) : Pixels444x4 where
  cbR0 := pg.cbR00.setWidth 16 + pg.cbR00_.setWidth 16 <<< 8
  yG0 := pg.yG00.setWidth 16 + pg.yG00_.setWidth 16 <<< 6
  crB0 := pg.crB00.setWidth 16 + pg.crB00_.setWidth 16 <<< 4
  cbR1 := pg.cbR01.setWidth 16 + pg.cbR01_.setWidth 16 <<< 2
  yG1 := pg.yG01.setWidth 16 + pg.yG01_.setWidth 16 <<< 8
  crB1 := pg.crB01.setWidth 16 + pg.crB01_.setWidth 16 <<< 6
  cbR2 := pg.cbR02.setWidth 16 + pg.cbR02_.setWidth 16 <<< 4
  yG2 := pg.yG02.setWidth 16 + pg.yG02_.setWidth 16 <<< 2
  crB2 := pg.crB02.setWidth 16 + pg.crB02_.setWidth 16 <<< 8
  cbR3 := pg.cbR03.setWidth 16 + pg.cbR03_.setWidth 16 <<< 6
  yG3 := pg.yG03.setWidth 16 + pg.yG03_.setWidth 16 <<< 4
  crB3 := pg.crB03.setWidth 16 + pg.crB03_.setWidth 16 <<< 2

def Pixels444x4.packLe10 (pixels : Pixels444x4) : St20Rfc4175_444_10_Pg4Le where
  cbR00 := pixels.cbR0.setWidth 8
  cbR00_ := (pixels.cbR0 >>> 8).setWidth 2
  yG00 := pixels.yG0.setWidth 6
  yG00_ := (pixels.yG0 >>> 6).setWidth 4
  crB00 := pixels.crB0.setWidth 4
  crB00_ := (pixels.crB0 >>> 4).setWidth 6
  cbR01 := pixels.cbR1.setWidth 2
  cbR01_ := (pixels.cbR1 >>> 2).setWidth 8
  yG01 := pixels.yG1.setWidth 8
  yG01_ := (pixels.yG1 >>> 8).setWidth 2
  crB01 := pixels.crB1.setWidth 6
  crB01_ := (pixels.crB1 >>> 6).setWidth 4
  cbR02 := pixels.cbR2.setWidth 4
  cbR02_ := (pixels.cbR2 >>> 4).setWidth 6
  yG02 := pixels.yG2.setWidth 2
  yG02_ := (pixels.yG2 >>> 2).setWidth 8
  crB02 := pixels.crB2.setWidth 8
  crB02_ := (pixels.crB2 >>> 8).setWidth 2
  cbR03 := pixels.cbR3.setWidth 6
  cbR03_ := (pixels.cbR3 >>> 6).setWidth 4
  yG03 := pixels.yG3.setWidth 4
  yG03_ := (pixels.yG3 >>> 4).setWidth 6
  crB03 := pixels.crB3.setWidth 2
  crB03_ := (pixels.crB3 >>> 2).setWidth 8

def St20Rfc4175_444_12_Pg2Be.samples (pg : St20Rfc4175_444_12_Pg2Be) : Pixels444x2 where
  cbR0 := pg.cbR00.setWidth 16 <<< 4 + pg.cbR00_.setWidth 16
  yG0 := pg.yG00.setWidth 16 <<< 8 + pg.yG00_.setWidth 16
  crB0 := pg.crB00.setWidth 16 <<< 4 + pg.crB00_.setWidth 16
  cbR1 := pg.cbR01.setWidth 16 <<< 8 + pg.cbR01_.setWidth 16
  yG1 := pg.yG01.setWidth 16 <<< 4 + pg.yG01_.setWidth 16
  crB1 := pg.crB01.setWidth 16 <<< 8 + pg.crB01_.setWidth 16

def Pixels444x2.packBe12 (pixels : Pixels444x2) : St20Rfc4175_444_12_Pg2Be where
  cbR00 := (pixels.cbR0 >>> 4).setWidth 8
  cbR00_ := pixels.cbR0.setWidth 4
  yG00 := (pixels.yG0 >>> 8).setWidth 4
  yG00_ := pixels.yG0.setWidth 8
  crB00 := (pixels.crB0 >>> 4).setWidth 8
  crB00_ := pixels.crB0.setWidth 4
  cbR01 := (pixels.cbR1 >>> 8).setWidth 4
  cbR01_ := pixels.cbR1.setWidth 8
  yG01 := (pixels.yG1 >>> 4).setWidth 8
  yG01_ := pixels.yG1.setWidth 4
  crB01 := (pixels.crB1 >>> 8).setWidth 4
  crB01_ := pixels.crB1.setWidth 8

def St20Rfc4175_444_12_Pg2Le.samples (pg : St20Rfc4175_444_12_Pg2Le) : Pixels444x2 where
  cbR0 := pg.cbR00.setWidth 16 + pg.cbR00_.setWidth 16 <<< 8
  yG0 := pg.yG00.setWidth 16 + pg.yG00_.setWidth 16 <<< 4
  crB0 := pg.crB00.setWidth 16 + pg.crB00_.setWidth 16 <<< 8
  cbR1 := pg.cbR01.setWidth 16 + pg.cbR01_.setWidth 16 <<< 4
  yG1 := pg.yG01.setWidth 16 + pg.yG01_.setWidth 16 <<< 8
  crB1 := pg.crB01.setWidth 16 + pg.crB01_.setWidth 16 <<< 4

def Pixels444x2.packLe12 (pixels : Pixels444x2) : St20Rfc4175_444_12_Pg2Le where
  cbR00 := pixels.cbR0.setWidth 8
  cbR00_ := (pixels.cbR0 >>> 8).setWidth 4
  yG00 := pixels.yG0.setWidth 4
  yG00_ := (pixels.yG0 >>> 4).setWidth 8
  crB00 := pixels.crB0.setWidth 8
  crB00_ := (pixels.crB0 >>> 8).setWidth 4
  cbR01 := pixels.cbR1.setWidth 4
  cbR01_ := (pixels.cbR1 >>> 4).setWidth 8
  yG01 := pixels.yG1.setWidth 8
  yG01_ := (pixels.yG1 >>> 8).setWidth 4
  crB01 := pixels.crB1.setWidth 4
  crB01_ := (pixels.crB1 >>> 4).setWidth 8

/-! ## Fields and samples -/

@[simp] theorem Pixels444x4.packBe10_samples (pg : St20Rfc4175_444_10_Pg4Be) : pg.samples.packBe10 = pg := by
  simp [Pixels444x4.packBe10, St20Rfc4175_444_10_Pg4Be.samples]

theorem Pixels444x4.samples_packBe10 {pixels : Pixels444x4} (within : pixels.Within 10) :
    pixels.packBe10.samples = pixels := by
  apply Pixels444x4.ext
  · exact parts_of_value pixels.cbR0 (by decide) within.cbR0
  · exact parts_of_value pixels.yG0 (by decide) within.yG0
  · exact parts_of_value pixels.crB0 (by decide) within.crB0
  · exact parts_of_value pixels.cbR1 (by decide) within.cbR1
  · exact parts_of_value pixels.yG1 (by decide) within.yG1
  · exact parts_of_value pixels.crB1 (by decide) within.crB1
  · exact parts_of_value pixels.cbR2 (by decide) within.cbR2
  · exact parts_of_value pixels.yG2 (by decide) within.yG2
  · exact parts_of_value pixels.crB2 (by decide) within.crB2
  · exact parts_of_value pixels.cbR3 (by decide) within.cbR3
  · exact parts_of_value pixels.yG3 (by decide) within.yG3
  · exact parts_of_value pixels.crB3 (by decide) within.crB3

theorem Pixels444x4.within_be10 (pg : St20Rfc4175_444_10_Pg4Be) : pg.samples.Within 10 := by
  constructor <;> exact toNat_parts_lt _ _ (by decide)

@[simp] theorem Pixels444x4.packLe10_samples (pg : St20Rfc4175_444_10_Pg4Le) : pg.samples.packLe10 = pg := by
  simp [Pixels444x4.packLe10, St20Rfc4175_444_10_Pg4Le.samples]

theorem Pixels444x4.samples_packLe10 {pixels : Pixels444x4} (within : pixels.Within 10) :
    pixels.packLe10.samples = pixels := by
  apply Pixels444x4.ext
  · exact parts_of_value_low_first pixels.cbR0 (by decide) within.cbR0
  · exact parts_of_value_low_first pixels.yG0 (by decide) within.yG0
  · exact parts_of_value_low_first pixels.crB0 (by decide) within.crB0
  · exact parts_of_value_low_first pixels.cbR1 (by decide) within.cbR1
  · exact parts_of_value_low_first pixels.yG1 (by decide) within.yG1
  · exact parts_of_value_low_first pixels.crB1 (by decide) within.crB1
  · exact parts_of_value_low_first pixels.cbR2 (by decide) within.cbR2
  · exact parts_of_value_low_first pixels.yG2 (by decide) within.yG2
  · exact parts_of_value_low_first pixels.crB2 (by decide) within.crB2
  · exact parts_of_value_low_first pixels.cbR3 (by decide) within.cbR3
  · exact parts_of_value_low_first pixels.yG3 (by decide) within.yG3
  · exact parts_of_value_low_first pixels.crB3 (by decide) within.crB3

theorem Pixels444x4.within_le10 (pg : St20Rfc4175_444_10_Pg4Le) : pg.samples.Within 10 := by
  constructor <;> exact toNat_parts_lt_low_first _ _ (by decide)

@[simp] theorem Pixels444x2.packBe12_samples (pg : St20Rfc4175_444_12_Pg2Be) : pg.samples.packBe12 = pg := by
  simp [Pixels444x2.packBe12, St20Rfc4175_444_12_Pg2Be.samples]

theorem Pixels444x2.samples_packBe12 {pixels : Pixels444x2} (within : pixels.Within 12) :
    pixels.packBe12.samples = pixels := by
  apply Pixels444x2.ext
  · exact parts_of_value pixels.cbR0 (by decide) within.cbR0
  · exact parts_of_value pixels.yG0 (by decide) within.yG0
  · exact parts_of_value pixels.crB0 (by decide) within.crB0
  · exact parts_of_value pixels.cbR1 (by decide) within.cbR1
  · exact parts_of_value pixels.yG1 (by decide) within.yG1
  · exact parts_of_value pixels.crB1 (by decide) within.crB1

theorem Pixels444x2.within_be12 (pg : St20Rfc4175_444_12_Pg2Be) : pg.samples.Within 12 := by
  constructor <;> exact toNat_parts_lt _ _ (by decide)

@[simp] theorem Pixels444x2.packLe12_samples (pg : St20Rfc4175_444_12_Pg2Le) : pg.samples.packLe12 = pg := by
  simp [Pixels444x2.packLe12, St20Rfc4175_444_12_Pg2Le.samples]

theorem Pixels444x2.samples_packLe12 {pixels : Pixels444x2} (within : pixels.Within 12) :
    pixels.packLe12.samples = pixels := by
  apply Pixels444x2.ext
  · exact parts_of_value_low_first pixels.cbR0 (by decide) within.cbR0
  · exact parts_of_value_low_first pixels.yG0 (by decide) within.yG0
  · exact parts_of_value_low_first pixels.crB0 (by decide) within.crB0
  · exact parts_of_value_low_first pixels.cbR1 (by decide) within.cbR1
  · exact parts_of_value_low_first pixels.yG1 (by decide) within.yG1
  · exact parts_of_value_low_first pixels.crB1 (by decide) within.crB1

theorem Pixels444x2.within_le12 (pg : St20Rfc4175_444_12_Pg2Le) : pg.samples.Within 12 := by
  constructor <;> exact toNat_parts_lt_low_first _ _ (by decide)

/-! ## Loop bodies -/

def be444_10ToPlanar : GroupMap Byte :=
  St20Rfc4175_444_10_Pg4Be.format.map St20Rfc4175_444_10_Pg4Be.samples planar444x4

def planarToBe444_10 : GroupMap Byte :=
  planar444x4.map Pixels444x4.packBe10 St20Rfc4175_444_10_Pg4Be.format

def le444_10ToPlanar : GroupMap Byte :=
  St20Rfc4175_444_10_Pg4Le.format.map St20Rfc4175_444_10_Pg4Le.samples planar444x4

def planarToLe444_10 : GroupMap Byte :=
  planar444x4.map Pixels444x4.packLe10 St20Rfc4175_444_10_Pg4Le.format

def be444_10ToLe : GroupMap Byte :=
  St20Rfc4175_444_10_Pg4Be.format.map (Pixels444x4.packLe10 ∘ St20Rfc4175_444_10_Pg4Be.samples)
    St20Rfc4175_444_10_Pg4Le.format

def le444_10ToBe : GroupMap Byte :=
  St20Rfc4175_444_10_Pg4Le.format.map (Pixels444x4.packBe10 ∘ St20Rfc4175_444_10_Pg4Le.samples)
    St20Rfc4175_444_10_Pg4Be.format

def be444_12ToPlanar : GroupMap Byte :=
  St20Rfc4175_444_12_Pg2Be.format.map St20Rfc4175_444_12_Pg2Be.samples planar444x2

def planarToBe444_12 : GroupMap Byte :=
  planar444x2.map Pixels444x2.packBe12 St20Rfc4175_444_12_Pg2Be.format

def le444_12ToPlanar : GroupMap Byte :=
  St20Rfc4175_444_12_Pg2Le.format.map St20Rfc4175_444_12_Pg2Le.samples planar444x2

def planarToLe444_12 : GroupMap Byte :=
  planar444x2.map Pixels444x2.packLe12 St20Rfc4175_444_12_Pg2Le.format

def be444_12ToLe : GroupMap Byte :=
  St20Rfc4175_444_12_Pg2Be.format.map (Pixels444x2.packLe12 ∘ St20Rfc4175_444_12_Pg2Be.samples)
    St20Rfc4175_444_12_Pg2Le.format

def le444_12ToBe : GroupMap Byte :=
  St20Rfc4175_444_12_Pg2Le.format.map (Pixels444x2.packBe12 ∘ St20Rfc4175_444_12_Pg2Le.samples)
    St20Rfc4175_444_12_Pg2Be.format

/-! ## The conversions -/

section Conversions

variable (src dst : Planes Byte) (w h : UInt32)

def st20_444p10leToRfc4175_444be10Scalar : Converted :=
  convertGroups planarToBe444_10 src dst (pgCount w h 4)

def st20Rfc4175_444be10To444p10leScalar : Converted :=
  convertGroups be444_10ToPlanar src dst (pgCount w h 4)

def st20_444p10leToRfc4175_444le10 : Converted :=
  convertGroups planarToLe444_10 src dst (pgCount w h 4)

def st20Rfc4175_444le10To444p10le : Converted :=
  convertGroups le444_10ToPlanar src dst (pgCount w h 4)

def st20Rfc4175_444be10To444le10Scalar : Converted :=
  convertGroups be444_10ToLe src dst (pgCount w h 4)

def st20Rfc4175_444le10To444be10Scalar : Converted :=
  convertGroups le444_10ToBe src dst (pgCount w h 4)

def st20_444p12leToRfc4175_444be12Scalar : Converted :=
  convertGroups planarToBe444_12 src dst (pgCount w h 2)

def st20Rfc4175_444be12To444p12leScalar : Converted :=
  convertGroups be444_12ToPlanar src dst (pgCount w h 2)

def st20_444p12leToRfc4175_444le12 : Converted :=
  convertGroups planarToLe444_12 src dst (pgCount w h 2)

def st20Rfc4175_444le12To444p12le : Converted :=
  convertGroups le444_12ToPlanar src dst (pgCount w h 2)

def st20Rfc4175_444be12To444le12Scalar : Converted :=
  convertGroups be444_12ToLe src dst (pgCount w h 2)

def st20Rfc4175_444le12To444be12Scalar : Converted :=
  convertGroups le444_12ToBe src dst (pgCount w h 2)

end Conversions

end MediaTransport.Convert
