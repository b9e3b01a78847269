import MediaTransport.Convert.Scalar444
import MediaTransport.Convert.V210

namespace MediaTransport.Convert

open Library

/-!
# Lossless conversions

A packed format and another one of the same depth are converted into each other
without a loss, group by group.  How many pixels a whole frame may have depends
on the products of 32 bits in the loops.
-/

variable (map : GroupMap Byte) {w h : UInt32}

/-- A conversion of a packed frame and the conversion back, with the pixels and bytes of a group. -/
structure PixelPair where
  there : Conversion
  back : Conversion
  pixels : Nat
  packed : Nat -> Nat
  other : Nat -> Nat
  /-- The samples of a group of the other format are within the bit depth. -/
  Within : Planes Byte -> Prop
  /-- The most pixels for which the loops count to the end. -/
  limit : Nat

def PixelPair.groups (pair : PixelPair) (w h : UInt32) : Nat := w.toNat * h.toNat / pair.pixels

/-- Both ways round, each byte of the frame is back. -/
structure PixelPair.Lossless (pair : PixelPair) (w h : UInt32) : Prop where
  packed : forall packed other dst, exists converted result,
    pair.there packed other w h = some (.ok (), converted) ∧
    pair.back converted dst w h = some (.ok (), result) ∧
    forall plane offset, offset < pair.groups w h * pair.packed plane ->
      result plane offset = packed plane offset
  other : forall other packed dst,
    (∀ index < pair.groups w h,
      pair.Within (other.tail fun plane => index * pair.other plane)) ->
    exists converted result,
      pair.back other packed w h = some (.ok (), converted) ∧
      pair.there converted dst w h = some (.ok (), result) ∧
      forall plane offset, offset < pair.groups w h * pair.other plane ->
        result plane offset = other plane offset

/-! ## Loops that count to the end -/

theorem toNat_product (small : w.toNat * h.toNat < 2 ^ 32) : (w * h).toNat = w.toNat * h.toNat := by
  rw [UInt32.toNat_mul, Nat.mod_eq_of_lt small]

theorem pgCount_whole {pixels : Nat} (small : w.toNat * h.toNat < 2 ^ 32) :
    pgCount w h pixels = w.toNat * h.toNat / pixels := by
  rw [pgCount, toNat_product small]

theorem pgCount_short {pixels : Nat} (large : 2 ^ 32 ≤ w.toNat * h.toNat)
    (whole : pixels ∣ w.toNat * h.toNat) : pgCount w h pixels < w.toNat * h.toNat / pixels := by
  have below : (w * h).toNat < w.toNat * h.toNat := lt_of_lt_of_le (w * h).toNat_lt large
  exact Nat.div_lt_div_of_lt_of_dvd whole below

def RunsWhole (convert : Conversion) (map : GroupMap Byte) (pixels limit : Nat) : Prop :=
  forall src dst w h, pixels ∣ w.toNat * h.toNat -> w.toNat * h.toNat ≤ limit ->
    convert src dst w h = some (.ok (), map.run src dst 0 (w.toNat * h.toNat / pixels))

theorem RunsWhole.mono {convert : Conversion} {map : GroupMap Byte} {pixels limit lower : Nat}
    (runs : RunsWhole convert map pixels limit) (below : lower ≤ limit) :
    RunsWhole convert map pixels lower :=
  fun src dst w h whole small => runs src dst w h whole (le_trans small below)

def RunsShort (convert : Conversion) (map : GroupMap Byte) (pixels limit : Nat) : Prop :=
  forall src dst w h result, pixels ∣ w.toNat * h.toNat -> limit < w.toNat * h.toNat ->
    convert src dst w h = some (.ok (), result) ->
    exists count, count < w.toNat * h.toNat / pixels ∧ result = map.run src dst 0 count

theorem convertGroups_whole (pixels : Nat) :
    RunsWhole (fun src dst w h => convertGroups map src dst (pgCount w h pixels)) map pixels
      (2 ^ 32 - 1) := by
  intro src dst w h _ small
  show some (Except.ok (), map.run src dst 0 (pgCount w h pixels)) = _
  rw [pgCount_whole (by omega)]

theorem convertGroups_short (pixels : Nat) :
    RunsShort (fun src dst w h => convertGroups map src dst (pgCount w h pixels)) map pixels
      (2 ^ 32 - 1) := by
  intro src dst w h result whole large returned
  refine ⟨pgCount w h pixels, pgCount_short (by omega) whole, ?_⟩
  exact (Prod.mk.inj (Option.some.inj returned)).2.symm

/-! ## Pairs that undo each other -/

/-- The loops of a pair, and that each undoes the other on a group. -/
structure PixelPair.Inverse (pair : PixelPair) (there back : GroupMap Byte) : Prop where
  thereWhole : RunsWhole pair.there there pair.pixels pair.limit
  backWhole : RunsWhole pair.back back pair.pixels pair.limit
  backShort : RunsShort pair.back back pair.pixels pair.limit
  packed : there.inSize = pair.packed
  fits : there.outSize = pair.other
  other : back.inSize = pair.other
  whole : back.outSize = pair.packed
  positive : 0 < pair.packed 0
  packedBack : forall group plane offset, offset < pair.packed plane ->
    back.convert (there.convert group) plane offset = group plane offset
  otherBack : forall group, pair.Within group -> forall plane offset, offset < pair.other plane ->
    there.convert (back.convert group) plane offset = group plane offset

theorem PixelPair.Inverse.lossless_iff {pair : PixelPair} {there back : GroupMap Byte}
    (inverse : pair.Inverse there back) {w h : UInt32} (whole : pair.pixels ∣ w.toNat * h.toNat) :
    pair.Lossless w h ↔ w.toNat * h.toNat ≤ pair.limit := by
  constructor
  · intro lossless
    by_contra above
    -- the last group that the loop leaves out keeps what the target had before
    obtain ⟨converted, result, _, returned, same⟩ :=
      lossless.packed (fun _ _ => 1) (fun _ _ => 0) (fun _ _ => 0)
    obtain ⟨count, short, rfl⟩ := inverse.backShort _ _ _ _ _ whole (Nat.lt_of_not_le above) returned
    have missing := same 0 (count * pair.packed 0) (Nat.mul_lt_mul_of_pos_right short inverse.positive)
    rw [GroupMap.run_apply, if_neg] at missing
    · exact absurd missing (by decide)
    · rw [inverse.whole, Nat.zero_add]
      omega
  · intro below
    constructor
    · intro packed other dst
      refine ⟨_, _, inverse.thereWhole packed other w h whole below,
        inverse.backWhole _ dst w h whole below, ?_⟩
      intro plane offset inside
      apply GroupMap.run_back (inverse.fits.trans inverse.other.symm)
        (inverse.whole.trans inverse.packed.symm)
      · intro index _ plane offset within
        exact inverse.packedBack _ plane offset (by rw [← inverse.packed]; exact within)
      · rw [inverse.packed]
        exact inside
    · intro other packed dst depth
      refine ⟨_, _, inverse.backWhole other packed w h whole below,
        inverse.thereWhole _ dst w h whole below, ?_⟩
      intro plane offset inside
      apply GroupMap.run_back (inverse.whole.trans inverse.packed.symm)
        (inverse.fits.trans inverse.other.symm)
      · intro index small plane offset within
        rw [inverse.other] at within ⊢
        exact inverse.otherBack _ (depth index small) plane offset within
      · rw [inverse.other]
        exact inside

/-! ## The pairs -/

section Frames

variable {Group Other : Type}

/-- A pair of loops that nothing but the product of width and height limits. -/
def framePair (there back : Conversion) (pixels : Nat) (source : GroupFormat Byte Group)
    (target : GroupFormat Byte Other) (Within : Other -> Prop) : PixelPair where
  there := there
  back := back
  pixels := pixels
  packed := source.size
  other := target.size
  Within group := Within (target.load group)
  limit := 2 ^ 32 - 1

theorem framePair_inverse {source : GroupFormat Byte Group} {target : GroupFormat Byte Other}
    {Within : Other -> Prop} (convert : Group -> Other) (restore : Other -> Group) (pixels : Nat)
    (positive : 0 < source.size 0) (packedBack : forall group, restore (convert group) = group)
    (otherBack : forall group, Within group -> convert (restore group) = group) :
    (framePair (fun src dst w h => convertGroups (source.map convert target) src dst (pgCount w h pixels))
      (fun src dst w h => convertGroups (target.map restore source) src dst (pgCount w h pixels))
      pixels source target Within).Inverse (source.map convert target) (target.map restore source) where
  thereWhole := convertGroups_whole _ pixels
  backWhole := convertGroups_whole _ pixels
  backShort := convertGroups_short _ pixels
  packed := rfl
  fits := rfl
  other := rfl
  whole := rfl
  positive := positive
  packedBack _ _ _ inside := source.map_back target (packedBack _) inside
  otherBack _ within _ _ inside := target.map_back source (otherBack _ within) inside

end Frames

/-- The pairs of loops over pixel groups. -/
def groupPairs : List PixelPair := [
  framePair st20Rfc4175_422be10To422le10Scalar st20Rfc4175_422le10To422be10Scalar 2
    St20Rfc4175_422_10_Pg2Be.format St20Rfc4175_422_10_Pg2Le.format (fun _ => True),
  framePair st20Rfc4175_422be10ToYuv422p10leScalar st20Yuv422p10leToRfc4175_422be10Scalar 2
    St20Rfc4175_422_10_Pg2Be.format planar422 (fun pixels => pixels.Within 10),
  framePair st20Rfc4175_422le10ToYuv422p10le st20Yuv422p10leToRfc4175_422le10 2
    St20Rfc4175_422_10_Pg2Le.format planar422 (fun pixels => pixels.Within 10),
  framePair st20Rfc4175_422be10ToYuv422p16leScalar st20Yuv422p16leToRfc4175_422be10Scalar 2
    St20Rfc4175_422_10_Pg2Be.format planar422 (fun pixels => pixels.Padded 6),
  framePair st20Rfc4175_422be12To422le12Scalar st20Rfc4175_422le12To422be12Scalar 2
    St20Rfc4175_422_12_Pg2Be.format St20Rfc4175_422_12_Pg2Le.format (fun _ => True),
  framePair st20Rfc4175_422be12ToYuv422p12leScalar st20Yuv422p12leToRfc4175_422be12Scalar 2
    St20Rfc4175_422_12_Pg2Be.format planar422 (fun pixels => pixels.Within 12),
  framePair st20Rfc4175_422le12ToYuv422p12le st20Yuv422p12leToRfc4175_422le12 2
    St20Rfc4175_422_12_Pg2Le.format planar422 (fun pixels => pixels.Within 12),
  framePair st20Rfc4175_444be10To444le10Scalar st20Rfc4175_444le10To444be10Scalar 4
    St20Rfc4175_444_10_Pg4Be.format St20Rfc4175_444_10_Pg4Le.format (fun _ => True),
  framePair st20Rfc4175_444be10To444p10leScalar st20_444p10leToRfc4175_444be10Scalar 4
    St20Rfc4175_444_10_Pg4Be.format planar444x4 (fun pixels => pixels.Within 10),
  framePair st20Rfc4175_444le10To444p10le st20_444p10leToRfc4175_444le10 4
    St20Rfc4175_444_10_Pg4Le.format planar444x4 (fun pixels => pixels.Within 10),
  framePair st20Rfc4175_444be12To444le12Scalar st20Rfc4175_444le12To444be12Scalar 2
    St20Rfc4175_444_12_Pg2Be.format St20Rfc4175_444_12_Pg2Le.format (fun _ => True),
  framePair st20Rfc4175_444be12To444p12leScalar st20_444p12leToRfc4175_444be12Scalar 2
    St20Rfc4175_444_12_Pg2Be.format planar444x2 (fun pixels => pixels.Within 12),
  framePair st20Rfc4175_444le12To444p12le st20_444p12leToRfc4175_444le12 2
    St20Rfc4175_444_12_Pg2Le.format planar444x2 (fun pixels => pixels.Within 12)]

def y210Pair : PixelPair :=
  { framePair st20Rfc4175_422be10ToY210Scalar st20Y210ToRfc4175_422be10Scalar 2
      St20Rfc4175_422_10_Pg2Be.format y210 (fun pixels => pixels.Padded 6) with
    limit := 2 ^ 30 }

/-- The conversions of v210, whose group is a batch of six pixels. -/
def v210Pair (there back : Conversion) : PixelPair where
  there := there
  back := back
  pixels := 6
  packed := sizesOf [15]
  other := sizesOf [16]
  Within := V210Within
  limit := 6 * 2 ^ 27

def losslessPairs : List PixelPair :=
  groupPairs ++ [y210Pair,
    v210Pair st20Rfc4175_422be10ToV210Scalar st20V210ToRfc4175_422be10Scalar,
    v210Pair st20Rfc4175_422le10ToV210Scalar st20V210ToRfc4175_422le10]

def PixelPair.Invertible (pair : PixelPair) : Prop :=
  exists there back, pair.Inverse there back

theorem groupPairs_invertible : ∀ pair ∈ groupPairs, pair.Invertible := by
  unfold groupPairs
  simp only [List.forall_mem_cons, List.not_mem_nil, false_implies, implies_true, and_true]
  refine ⟨?_, ?_, ?_, ?_, ?_, ?_, ?_, ?_, ?_, ?_, ?_, ?_, ?_⟩
  · exact ⟨_, _, framePair_inverse (Pixels422.packLe10 ∘ St20Rfc4175_422_10_Pg2Be.samples)
      (Pixels422.packBe10 ∘ St20Rfc4175_422_10_Pg2Le.samples) 2 (by decide)
      (fun pg => by simp [samples_packLe10 (within_be10 pg)])
      (fun pg _ => by simp [samples_packBe10 (within_le10 pg)])⟩
  · exact ⟨_, _, framePair_inverse St20Rfc4175_422_10_Pg2Be.samples Pixels422.packBe10 2 (by decide)
      packBe10_samples (fun _ => samples_packBe10)⟩
  · exact ⟨_, _, framePair_inverse St20Rfc4175_422_10_Pg2Le.samples Pixels422.packLe10 2 (by decide)
      packLe10_samples (fun _ => samples_packLe10)⟩
  · exact ⟨_, _, framePair_inverse st20UnpackPg2be422le16 Pixels422.packHighBe10 2 (by decide)
      packHighBe10_unpack (fun _ => unpack_packHighBe10)⟩
  · exact ⟨_, _, framePair_inverse (Pixels422.packLe12 ∘ St20Rfc4175_422_12_Pg2Be.samples)
      (Pixels422.packBe12 ∘ St20Rfc4175_422_12_Pg2Le.samples) 2 (by decide)
      (fun pg => by simp [samples_packLe12 (within_be12 pg)])
      (fun pg _ => by simp [samples_packBe12 (within_le12 pg)])⟩
  · exact ⟨_, _, framePair_inverse St20Rfc4175_422_12_Pg2Be.samples Pixels422.packBe12 2 (by decide)
      packBe12_samples (fun _ => samples_packBe12)⟩
  · exact ⟨_, _, framePair_inverse St20Rfc4175_422_12_Pg2Le.samples Pixels422.packLe12 2 (by decide)
      packLe12_samples (fun _ => samples_packLe12)⟩
  · exact ⟨_, _, framePair_inverse (Pixels444x4.packLe10 ∘ St20Rfc4175_444_10_Pg4Be.samples)
      (Pixels444x4.packBe10 ∘ St20Rfc4175_444_10_Pg4Le.samples) 4 (by decide)
      (fun pg => by simp [Pixels444x4.samples_packLe10 (Pixels444x4.within_be10 pg)])
      (fun pg _ => by simp [Pixels444x4.samples_packBe10 (Pixels444x4.within_le10 pg)])⟩
  · exact ⟨_, _, framePair_inverse St20Rfc4175_444_10_Pg4Be.samples Pixels444x4.packBe10 4 (by decide)
      Pixels444x4.packBe10_samples (fun _ => Pixels444x4.samples_packBe10)⟩
  · exact ⟨_, _, framePair_inverse St20Rfc4175_444_10_Pg4Le.samples Pixels444x4.packLe10 4 (by decide)
      Pixels444x4.packLe10_samples (fun _ => Pixels444x4.samples_packLe10)⟩
  · exact ⟨_, _, framePair_inverse (Pixels444x2.packLe12 ∘ St20Rfc4175_444_12_Pg2Be.samples)
      (Pixels444x2.packBe12 ∘ St20Rfc4175_444_12_Pg2Le.samples) 2 (by decide)
      (fun pg => by simp [Pixels444x2.samples_packLe12 (Pixels444x2.within_be12 pg)])
      (fun pg _ => by simp [Pixels444x2.samples_packBe12 (Pixels444x2.within_le12 pg)])⟩
  · exact ⟨_, _, framePair_inverse St20Rfc4175_444_12_Pg2Be.samples Pixels444x2.packBe12 2 (by decide)
      Pixels444x2.packBe12_samples (fun _ => Pixels444x2.samples_packBe12)⟩
  · exact ⟨_, _, framePair_inverse St20Rfc4175_444_12_Pg2Le.samples Pixels444x2.packLe12 2 (by decide)
      Pixels444x2.packLe12_samples (fun _ => Pixels444x2.samples_packLe12)⟩

theorem y210_place (src planes : Planes Byte) {i : Nat} (below : i < 2 ^ 30) :
    planes.put (fun _ => i * 4 % 2 ^ 32 * 2) be10ToY210.outSize
        (be10ToY210.convert (src.tail fun plane => i * be10ToY210.inSize plane)) =
      be10ToY210.round src planes i := by
  have place : i * 4 % 2 ^ 32 * 2 = i * 8 := by
    rw [Nat.mod_eq_of_lt (by omega)]
    omega
  rw [place]
  funext plane position
  cases plane with
  | zero => rfl
  | succ plane =>
    have outside : forall start, ¬ (start ≤ position ∧ position < start + be10ToY210.outSize (plane + 1)) := by
      intro start
      show ¬ (start ≤ position ∧ position < start + 0)
      omega
    rw [GroupMap.round, Planes.put, Planes.put, if_neg (outside _), if_neg (outside _)]

theorem st20Rfc4175_422be10ToY210Scalar_whole :
    RunsWhole st20Rfc4175_422be10ToY210Scalar be10ToY210 2 (2 ^ 31) := by
  intro src dst w h _ small
  rw [st20Rfc4175_422be10ToY210Scalar, pgCount_whole (by omega), GroupMap.run, List.range_eq_range']
  congr 2
  apply List.foldl_ext
  intro planes i member
  have below : i < 0 + w.toNat * h.toNat / 2 := (List.mem_range'_1.mp member).2
  exact y210_place src planes (by omega)

theorem st20Y210ToRfc4175_422be10Scalar_whole :
    RunsWhole st20Y210ToRfc4175_422be10Scalar y210ToBe10 2 (2 ^ 30) := by
  intro src dst w h _ small
  rw [st20Y210ToRfc4175_422be10Scalar, pgCount_whole (by omega), if_pos (by omega)]
  rfl

theorem st20Y210ToRfc4175_422be10Scalar_short :
    RunsShort st20Y210ToRfc4175_422be10Scalar y210ToBe10 2 (2 ^ 30) := by
  intro src dst w h result whole large returned
  unfold st20Y210ToRfc4175_422be10Scalar at returned
  by_cases inside : (pgCount w h 2 - 1) * 4 < 2 ^ 31
  · rw [if_pos inside] at returned
    exact ⟨pgCount w h 2, by omega, (Prod.mk.inj (Option.some.inj returned)).2.symm⟩
  · rw [if_neg inside] at returned
    cases returned

theorem y210Pair_invertible : y210Pair.Invertible :=
  ⟨be10ToY210, y210ToBe10,
    { thereWhole := st20Rfc4175_422be10ToY210Scalar_whole.mono (by decide)
      backWhole := st20Y210ToRfc4175_422be10Scalar_whole
      backShort := st20Y210ToRfc4175_422be10Scalar_short
      packed := rfl
      fits := rfl
      other := rfl
      whole := rfl
      positive := by decide
      packedBack := by
        intro group plane offset inside
        apply GroupFormat.map_back _ _ _ inside
        rw [packY210Be10_eq, packHighBe10_unpack]
      otherBack := by
        intro group within plane offset inside
        apply GroupFormat.map_back _ _ _ inside
        rw [packY210Be10_eq, unpack_packHighBe10 within] }⟩

theorem convertBatches_whole : RunsWhole (convertBatches map) map 6 (6 * 2 ^ 27) := by
  intro src dst w h whole small
  rw [convertBatches, pgCount_whole (by omega), if_neg (by omega), if_pos (by omega), convertGroups,
    Nat.div_div_eq_div_mul]

theorem convertBatches_short : RunsShort (convertBatches map) map 6 (6 * 2 ^ 27) := by
  intro src dst w h result whole large returned
  unfold convertBatches at returned
  by_cases batches : pgCount w h 2 % 3 ≠ 0
  · rw [if_pos batches] at returned
    cases (Prod.mk.inj (Option.some.inj returned)).1
  · rw [if_neg batches] at returned
    by_cases inside : (pgCount w h 2 / 3 - 1) * 16 < 2 ^ 31
    · rw [if_pos inside] at returned
      exact ⟨pgCount w h 2 / 3, by omega, (Prod.mk.inj (Option.some.inj returned)).2.symm⟩
    · rw [if_neg inside] at returned
      cases returned

theorem v210Pair_invertible {there back : GroupMap Byte} (inSize : there.inSize = sizesOf [15])
    (outSize : there.outSize = sizesOf [16]) (fits : back.inSize = sizesOf [16])
    (whole : back.outSize = sizesOf [15])
    (packedBack : forall group plane offset, offset < sizesOf [15] plane ->
      back.convert (there.convert group) plane offset = group plane offset)
    (otherBack : forall group, V210Within group -> forall plane offset, offset < sizesOf [16] plane ->
      there.convert (back.convert group) plane offset = group plane offset) :
    (v210Pair (convertBatches there) (convertBatches back)).Invertible :=
  ⟨there, back,
    { thereWhole := convertBatches_whole there
      backWhole := convertBatches_whole back
      backShort := convertBatches_short back
      packed := inSize
      fits := outSize
      other := fits
      whole := whole
      positive := Nat.succ_pos 14
      packedBack := packedBack
      otherBack := otherBack }⟩

theorem losslessPairs_invertible : ∀ pair ∈ losslessPairs, pair.Invertible := by
  intro pair member
  rcases List.mem_append.mp member with group | special
  · exact groupPairs_invertible pair group
  · simp only [List.mem_cons, List.not_mem_nil, or_false] at special
    rcases special with rfl | rfl | rfl
    · exact y210Pair_invertible
    · exact v210Pair_invertible rfl rfl rfl rfl (fun group _ _ => be10_v210_be10 group)
        (fun _ within _ _ => v210_be10_v210 within)
    · exact v210Pair_invertible rfl rfl rfl rfl (fun group _ _ => le10_v210_le10 group)
        (fun _ within _ _ => v210_le10_v210 within)

/-! ## Diagrams -/

/-- Two conversions one after the other, and one that goes there directly. -/
structure Diagram where
  first : Conversion
  second : Conversion
  direct : Conversion

def Diagram.Commutes (diagram : Diagram) : Prop :=
  forall be le dst w h, exists converted,
    diagram.first be le w h = some (.ok (), converted) ∧
    diagram.second converted dst w h = diagram.direct be dst w h

def losslessDiagrams : List Diagram := [
  ⟨st20Rfc4175_422be10To422le10Scalar, st20Rfc4175_422le10ToV210Scalar,
    st20Rfc4175_422be10ToV210Scalar⟩,
  ⟨st20Rfc4175_422be10To422le10Scalar, st20Rfc4175_422le10ToYuv422p10le,
    st20Rfc4175_422be10ToYuv422p10leScalar⟩,
  ⟨st20Rfc4175_422be12To422le12Scalar, st20Rfc4175_422le12ToYuv422p12le,
    st20Rfc4175_422be12ToYuv422p12leScalar⟩,
  ⟨st20Rfc4175_444be10To444le10Scalar, st20Rfc4175_444le10To444p10le,
    st20Rfc4175_444be10To444p10leScalar⟩,
  ⟨st20Rfc4175_444be12To444le12Scalar, st20Rfc4175_444le12To444p12le,
    st20Rfc4175_444be12To444p12leScalar⟩]

section Diagrams

variable {Group Middle Target : Type}

theorem convertGroups_commute {source : GroupFormat Byte Group} {middle : GroupFormat Byte Middle}
    {target : GroupFormat Byte Target} {convert : Group -> Middle} {next : Middle -> Target}
    {direct : Group -> Target} (commute : forall group, next (convert group) = direct group)
    (src mid dst : Planes Byte) (count : Nat) :
    convertGroups (middle.map next target) ((source.map convert middle).run src mid 0 count) dst count =
      convertGroups (source.map direct target) src dst count := by
  unfold convertGroups
  rw [GroupMap.run_run (source.map convert middle) (middle.map next target) rfl]
  have alike : (source.map convert middle).andThen (middle.map next target) rfl =
      source.map direct target := by
    have bodies : (fun planes => (middle.map next target).convert ((source.map convert middle).convert planes)) =
        (source.map direct target).convert := by
      funext planes
      rw [GroupFormat.map_map]
      show target.store (next (convert (source.load planes))) = target.store (direct (source.load planes))
      rw [commute]
    simp only [GroupMap.andThen, bodies]
    rfl
  rw [alike]

end Diagrams

theorem v210_commutes (src mid dst : Planes Byte) (batches : Nat) :
    le10ToV210.run (be10ToLe10.run src mid 0 (3 * batches)) dst 0 batches =
      be10ToV210.run src dst 0 batches := by
  rw [show be10ToLe10.run src mid 0 (3 * batches) = (be10ToLe10.times 3).run src mid 0 batches from
    (GroupMap.times_run be10ToLe10 3 src mid 0 batches).symm]
  have fits : (be10ToLe10.times 3).outSize = le10ToV210.inSize := by
    funext plane
    cases plane <;> rfl
  have sizes : (be10ToLe10.times 3).inSize = be10ToV210.inSize := by
    funext plane
    cases plane <;> rfl
  rw [GroupMap.run_run (be10ToLe10.times 3) le10ToV210 fits]
  have stored : ((be10ToLe10.times 3).andThen le10ToV210 fits).outSize = be10ToV210.outSize := rfl
  apply GroupMap.run_congr dst 0 batches stored
  intro index _ _ plane offset inside
  show le10ToV210.convert ((be10ToLe10.times 3).convert
    (src.tail fun input => index * (be10ToLe10.times 3).inSize input)) plane offset = _
  rw [sizes]
  exact be10_le10_v210 _ inside

theorem v210_diagram : Diagram.Commutes ⟨st20Rfc4175_422be10To422le10Scalar,
    st20Rfc4175_422le10ToV210Scalar, st20Rfc4175_422be10ToV210Scalar⟩ := by
  intro be le dst w h
  refine ⟨_, rfl, ?_⟩
  show convertBatches le10ToV210 _ dst w h = convertBatches be10ToV210 be dst w h
  unfold convertBatches
  by_cases batches : pgCount w h 2 % 3 ≠ 0
  · rw [if_pos batches, if_pos batches]
  · obtain ⟨count, groups⟩ : exists count, pgCount w h 2 = 3 * count :=
      ⟨pgCount w h 2 / 3, by omega⟩
    rw [if_neg batches, if_neg batches, convertGroups, convertGroups, groups,
      Nat.mul_div_cancel_left count (by decide), v210_commutes]

theorem losslessDiagrams_commute : ∀ diagram ∈ losslessDiagrams, diagram.Commutes := by
  unfold losslessDiagrams
  simp only [List.forall_mem_cons, List.not_mem_nil, false_implies, implies_true, and_true]
  refine ⟨v210_diagram, ?_, ?_, ?_, ?_⟩
  · intro be le dst w h
    exact ⟨_, rfl, convertGroups_commute (fun pg => samples_packLe10 (within_be10 pg)) be le dst _⟩
  · intro be le dst w h
    exact ⟨_, rfl, convertGroups_commute (fun pg => samples_packLe12 (within_be12 pg)) be le dst _⟩
  · intro be le dst w h
    exact ⟨_, rfl, convertGroups_commute
      (fun pg => Pixels444x4.samples_packLe10 (Pixels444x4.within_be10 pg)) be le dst _⟩
  · intro be le dst w h
    exact ⟨_, rfl, convertGroups_commute
      (fun pg => Pixels444x2.samples_packLe12 (Pixels444x2.within_be12 pg)) be le dst _⟩

/-- Each pair is lossless on the frames whose groups its loops all reach, and on no others; the ways
through the little-endian formats are the direct ones. -/
theorem lossless_up_to_limit (pair : PixelPair) (w h : UInt32) (diagram : Diagram) :
    (pair ∈ losslessPairs -> pair.pixels ∣ w.toNat * h.toNat ->
      (pair.Lossless w h ↔ w.toNat * h.toNat ≤ pair.limit)) ∧
    (diagram ∈ losslessDiagrams -> diagram.Commutes) := by
  refine ⟨?_, losslessDiagrams_commute diagram⟩
  intro member whole
  obtain ⟨there, back, inverse⟩ := losslessPairs_invertible pair member
  exact inverse.lossless_iff whole

/-- A frame of 1920 by 1080 pixels goes to v210 and back. -/
theorem v210_lossless_full_hd :
    (v210Pair st20Rfc4175_422be10ToV210Scalar st20V210ToRfc4175_422be10Scalar).Lossless 1920 1080 :=
  ((lossless_up_to_limit _ 1920 1080
    ⟨st20Rfc4175_422be10To422le10Scalar, st20Rfc4175_422le10ToV210Scalar, st20Rfc4175_422be10ToV210Scalar⟩).1
      (by simp [losslessPairs]) (by decide)).mpr (by decide)

/-- The place of a batch in a large v210 frame is negative in 32 bits. -/
theorem v210_index_overflows : ¬ ((∀ pair ∈ losslessPairs, forall w h : UInt32,
      pair.pixels ∣ w.toNat * h.toNat -> pair.Lossless w h) ∧
    ∀ diagram ∈ losslessDiagrams, diagram.Commutes) := by
  rintro ⟨lossless, _⟩
  have large := lossless (v210Pair st20Rfc4175_422be10ToV210Scalar st20V210ToRfc4175_422be10Scalar)
    (by simp [losslessPairs]) 32768 24582 (by decide)
  obtain ⟨_, _, returned, _⟩ := large.packed (fun _ _ => 0) (fun _ _ => 0) (fun _ _ => 0)
  have stray : (v210Pair st20Rfc4175_422be10ToV210Scalar st20V210ToRfc4175_422be10Scalar).there
      (fun _ _ => 0) (fun _ _ => 0) 32768 24582 = none := by
    show convertBatches be10ToV210 (fun _ _ => 0) (fun _ _ => 0) 32768 24582 = none
    rw [convertBatches, if_neg (by decide), if_neg (by decide)]
  rw [stray] at returned
  cases returned

end MediaTransport.Convert
