import MediaTransport.Util.Errno
import MediaTransport.Library.Word

namespace MediaTransport.Audio

/-!
# Audio formats

The samples of a packet follow from the packet time and the sampling rate, and
its bytes from the sample format and the channels.  A combination that the
standard does not define is refused.
-/

/-- `enum st30_type` -/
inductive St30Type where
  | frameLevel
  | rtpLevel
  deriving DecidableEq, Repr

inductive St30Fmt where
  | pcm8
  | pcm16
  | pcm24
  | am824
  deriving DecidableEq, Repr

inductive St30Sampling where
  | s48k
  | s96k
  | s44k
  deriving DecidableEq, Repr

inductive St30Ptime where
  | p1ms
  | p125us
  | p250us
  | p333us
  | p4ms
  | p80us
  | p1_09ms
  | p0_14ms
  | p0_09ms
  deriving DecidableEq, Repr

/-- `st30_get_sample_size`: the bytes of one sample. -/
def st30GetSampleSize : St30Fmt -> Nat
  | .pcm8 => 1
  | .pcm16 => 2
  | .pcm24 => 3
  | .am824 => 4

/-- `st30_get_sample_num`: the samples of one channel in a packet. -/
def st30GetSampleNum (ptime : St30Ptime) : St30Sampling -> Except Errno Nat
  | .s48k =>
    match ptime with
    | .p1ms => .ok 48
    | .p125us => .ok 6
    | .p250us => .ok 12
    | .p333us => .ok 16
    | .p4ms => .ok 192
    | .p80us => .ok 4
    | _ => .error .inval
  | .s96k =>
    match ptime with
    | .p1ms => .ok 96
    | .p125us => .ok 12
    | .p250us => .ok 24
    | .p333us => .ok 32
    | .p4ms => .ok 384
    | .p80us => .ok 8
    | _ => .error .inval
  | .s44k =>
    match ptime with
    | .p1_09ms => .ok 48
    | .p0_14ms => .ok 6
    | .p0_09ms => .ok 4
    | _ => .error .inval

/-- `st30_get_sample_rate` -/
def st30GetSampleRate : St30Sampling -> Nat
  | .s48k => 48000
  | .s96k => 96000
  | .s44k => 44100

/-- `st30_get_packet_size`: the payload bytes of a packet. -/
def st30GetPacketSize (fmt : St30Fmt) (ptime : St30Ptime) (sampling : St30Sampling)
    (channel : Nat) : Except Errno Nat :=
  match st30GetSampleNum ptime sampling with
  | .error code => .error code
  | .ok sampleNum =>
    if channel = 0 then .error .inval
    else .ok (st30GetSampleSize fmt * sampleNum * channel)

theorem st30GetSampleSize_pos (fmt : St30Fmt) : 0 < st30GetSampleSize fmt := by
  cases fmt <;> decide

theorem st30GetSampleNum_pos {ptime : St30Ptime} {sampling : St30Sampling} {num : Nat}
    (defined : st30GetSampleNum ptime sampling = .ok num) : 0 < num := by
  cases sampling <;> cases ptime <;> cases defined <;> decide

theorem st30GetPacketSize_ok {fmt : St30Fmt} {ptime : St30Ptime} {sampling : St30Sampling}
    {channel size : Nat} (defined : st30GetPacketSize fmt ptime sampling channel = .ok size) :
    Exists fun num => st30GetSampleNum ptime sampling = .ok num ∧ 0 < channel ∧
      size = st30GetSampleSize fmt * num * channel := by
  unfold st30GetPacketSize at defined
  cases samples : st30GetSampleNum ptime sampling with
  | error code =>
    rw [samples] at defined
    cases defined
  | ok num =>
    rw [samples] at defined
    by_cases none : channel = 0
    · simp [none] at defined
    · simp only [none, if_false, Except.ok.injEq] at defined
      exact ⟨num, rfl, Nat.pos_of_ne_zero none, defined.symm⟩

end MediaTransport.Audio
