import MediaTransport.Convert.Scalar422
import MediaTransport.Library.LineLoop

namespace MediaTransport.Convert

open Library

/-!
# Frames

A frame has up to three planes, whose lines are a line size apart.  Where the
line sizes are the least ones the lines follow each other.  Where a line size is
larger the lines have padding.
-/

/-! ## Formats and sizes -/

/-- `enum st_frame_fmt` -/
inductive StFrameFmt where
  | yuv422planar10le
  | v210
  | y210
  | yuv422planar8
  | uyvy
  | yuv422rfc4175pg2be10
  | yuv422planar12le
  | yuv422rfc4175pg2be12
  | yuv444planar10le
  | yuv444rfc4175pg4be10
  | yuv444planar12le
  | yuv444rfc4175pg2be12
  | yuv420custom8
  | yuv422custom8
  | yuv420planar8
  | yuv422planar16le
  | argb
  | bgra
  | rgb8
  | gbrplanar10le
  | rgbrfc4175pg4be10
  | gbrplanar12le
  | rgbrfc4175pg2be12
  | jpegxsCodestream
  | h264CbrCodestream
  | h264Codestream
  | h265CbrCodestream
  | h265Codestream
  deriving DecidableEq, Repr

/-- `enum st_frame_sampling` -/
inductive StFrameSampling where
  | sampling422
  | sampling444
  | sampling420
  | max
  deriving DecidableEq, Repr

/-- `st_frame_fmt_planes` -/
def stFrameFmtPlanes : StFrameFmt -> Nat
  | .yuv422planar10le | .yuv422planar8 | .yuv422planar12le | .yuv422planar16le => 3
  | .yuv444planar10le | .yuv444planar12le | .gbrplanar10le | .gbrplanar12le => 3
  | .yuv420planar8 => 3
  | _ => 1

/-- `st_frame_fmt_get_sampling` -/
def stFrameFmtGetSampling : StFrameFmt -> StFrameSampling
  | .yuv422planar10le | .v210 | .y210 | .yuv422planar8 | .uyvy | .yuv422planar12le => .sampling422
  | .yuv422rfc4175pg2be10 | .yuv422rfc4175pg2be12 | .yuv422custom8 | .yuv422planar16le => .sampling422
  | .yuv420custom8 | .yuv420planar8 => .sampling420
  | .jpegxsCodestream | .h264CbrCodestream | .h264Codestream | .h265CbrCodestream | .h265Codestream =>
    .max
  | _ => .sampling444

/-- The size and the pixels of a group, of `struct st20_pgroup`. -/
structure St20Pgroup where
  size : Nat
  coverage : Nat

def st20FmtYuv422_10bit : St20Pgroup := ⟨5, 2⟩

def st20FmtYuv422_12bit : St20Pgroup := ⟨6, 2⟩

def st20FmtYuv422_16bit : St20Pgroup := ⟨8, 2⟩

def st20FmtYuv420_8bit : St20Pgroup := ⟨6, 4⟩

def st20FmtYuv444_10bit : St20Pgroup := ⟨15, 4⟩

def st20FmtYuv444_12bit : St20Pgroup := ⟨9, 2⟩

/-- `st20_frame_size`; the products are of 64 bits. -/
def st20FrameSize (pg : St20Pgroup) (width height : Nat) : Nat :=
  if width * height % pg.coverage ≠ 0 then 0 else width * height * pg.size % 2 ^ 64 / pg.coverage

/-- `st_frame_size` -/
def stFrameSize (fmt : StFrameFmt) (width height : Nat) (interlaced : Bool) : Nat :=
  let pixels := width * height
  let size :=
    match fmt with
    | .yuv422planar10le | .yuv422planar12le | .y210 => pixels * 2 * 2 % 2 ^ 64
    | .v210 => if pixels % 3 ≠ 0 then 0 else pixels * 8 % 2 ^ 64 / 3
    | .yuv422planar8 | .yuv422custom8 | .uyvy => pixels * 2 % 2 ^ 64
    | .yuv444planar10le | .yuv444planar12le | .gbrplanar10le | .gbrplanar12le =>
      pixels * 2 * 3 % 2 ^ 64
    | .yuv422rfc4175pg2be10 => st20FrameSize st20FmtYuv422_10bit width height
    | .yuv422rfc4175pg2be12 => st20FrameSize st20FmtYuv422_12bit width height
    | .yuv444rfc4175pg4be10 | .rgbrfc4175pg4be10 => st20FrameSize st20FmtYuv444_10bit width height
    | .yuv444rfc4175pg2be12 | .rgbrfc4175pg2be12 => st20FrameSize st20FmtYuv444_12bit width height
    | .argb | .bgra => pixels * 4 % 2 ^ 64
    | .rgb8 => pixels * 3 % 2 ^ 64
    | .yuv420custom8 | .yuv420planar8 => st20FrameSize st20FmtYuv420_8bit width height
    | .yuv422planar16le => st20FrameSize st20FmtYuv422_16bit width height
    | _ => 0
  if interlaced then size / 2 else size

/-- `st_frame_least_linesize` -/
def stFrameLeastLinesize (fmt : StFrameFmt) (width plane : Nat) : Nat :=
  let line := stFrameSize fmt width 1 false
  if stFrameFmtPlanes fmt = 1 then
    if plane > 0 then 0 else line
  else
    match stFrameFmtGetSampling fmt, plane with
    | .sampling422, 0 => line / 2
    | .sampling422, 1 | .sampling422, 2 => line / 4
    | .sampling444, 0 | .sampling444, 1 | .sampling444, 2 => line / 3
    | .sampling420, 0 => line * 4 / 6
    | .sampling420, 1 | .sampling420, 2 => line / 6
    | _, _ => 0

/-! ## Frames -/

/-- `struct st_frame`: what the conversions use of it, with the bytes at its addresses. -/
structure StFrame where
  fmt : StFrameFmt
  width : UInt32
  height : UInt32
  interlaced : Bool
  linesize : Nat -> Nat
  planes : Planes Byte

/-- `st_frame_data_height` -/
def StFrame.dataHeight (frame : StFrame) : UInt32 :=
  if frame.interlaced then frame.height / 2 else frame.height

end MediaTransport.Convert
