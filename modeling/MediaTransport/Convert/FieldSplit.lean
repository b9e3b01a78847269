import MediaTransport.Convert.Frames

namespace MediaTransport.Convert

open Library

/-!
# Splitting a frame into fields, and merging them

`st_field_split` and `st_field_merge` go through the lines of the frame in
pairs: the first line of a pair belongs to the first field, the second one to
the second field.  One loop does this for all planes, so every plane is taken
to have a line for each line of the height, also those for the colours of
4:2:0, whose lines `st_frame_least_linesize` gives a quarter of the width.
The two are inverse to each other and stay inside the planes exactly when the
lines of a frame pair up and hold all of its bytes.
-/

variable {blank : Planes Byte} {line : UInt32} {lines stride : Nat} {linesize size : Nat -> Nat}
    {values : Nat -> Nat -> Nat -> Byte}

/-! ## Frames and fields -/

/-- `struct st_frame` with what tells the fields apart, and the size of a codestream. -/
structure StFieldFrame extends StFrame where
  secondField : Bool
  dataSize : Nat

def StFieldFrame.holding (frame : StFieldFrame) (linesize : Nat -> Nat) (planes : Planes Byte) :
    StFieldFrame :=
  { frame with linesize := linesize, planes := planes }

/-- `st_frame_fmt_is_codestream` -/
def stFrameFmtIsCodestream : StFrameFmt -> Bool
  | .jpegxsCodestream | .h264CbrCodestream | .h264Codestream | .h265CbrCodestream | .h265Codestream =>
    true
  | _ => false

/-- `st_frame_plane_size` -/
def stFramePlaneSize (frame : StFieldFrame) (plane : Nat) : Nat :=
  if stFrameFmtIsCodestream frame.fmt then
    frame.dataSize
  else
    let sz := frame.linesize plane * frame.height.toNat
    if frame.interlaced then sz / 2 else sz

/-- `field_frame_check` -/
def fieldFrameCheck (field frame : StFieldFrame) : Except Errno Unit :=
  if !field.interlaced then
    .error .inval
  else if field.width ≠ frame.width ∨ field.height ≠ frame.height then
    .error .inval
  else if field.fmt ≠ frame.fmt then
    .error .inval
  else
    .ok ()

/-- `fields_frame_match` -/
def fieldsFrameMatch (first second frame : StFieldFrame) : Except Errno Unit :=
  match fieldFrameCheck first frame with
  | .error _ => .error .inval
  | .ok () =>
    if first.secondField then
      .error .inval
    else
      match fieldFrameCheck second frame with
      | .error _ => .error .inval
      | .ok () => if second.secondField then .ok () else .error .inval

/-! ## The loop -/

/-- The values of `line` in `for (line = 0; line < height; line += 2)`, from
one of them on, if the loop ends within the given rounds. -/
def fieldLoop (height : UInt32) : Nat -> UInt32 -> Option (List UInt32)
  | 0, _ => none
  | rounds + 1, line =>
    if line < height then
      (fieldLoop height rounds (line + 2)).map (line :: ·)
    else
      some []

def fieldRounds : Nat := 2147483649

def StFieldFrame.lineSize (frame : StFieldFrame) (plane : Nat) : Nat :=
  if plane < stFrameFmtPlanes frame.fmt then
    stFrameLeastLinesize frame.fmt frame.width.toNat plane
  else
    0

def copyLine (size : Nat -> Nat) (src : StFieldFrame) (srcLine : UInt32) (linesize : Nat -> Nat)
    (dst : Planes Byte) (dstLine : UInt32) : Planes Byte :=
  dst.put (lineAt linesize dstLine.toNat) size (src.planes.tail (lineAt src.linesize srcLine.toNat))

/-- A round of `st_field_merge`. -/
def mergeRound (first second frame : StFieldFrame) (out : Planes Byte) (line : UInt32) :
    Planes Byte :=
  let fieldLine := line / 2
  let out := copyLine frame.lineSize first fieldLine frame.linesize out line
  copyLine frame.lineSize second fieldLine frame.linesize out (line + 1)

/-- `st_field_merge` -/
def stFieldMerge (first second frame : StFieldFrame) : Converted :=
  match fieldsFrameMatch first second frame with
  | .error errno => some (.error errno, frame.planes)
  | .ok () =>
    (fieldLoop frame.height fieldRounds 0).map fun lines =>
      (.ok (), lines.foldl (mergeRound first second frame) frame.planes)

/-- A round of `st_field_split`. -/
def splitRound (frame first second : StFieldFrame) (out : Planes Byte × Planes Byte)
    (line : UInt32) : Planes Byte × Planes Byte :=
  let fieldLine := line / 2
  (copyLine frame.lineSize frame line first.linesize out.1 fieldLine,
    copyLine frame.lineSize frame (line + 1) second.linesize out.2 fieldLine)

/-- `st_field_split` -/
def stFieldSplit (frame first second : StFieldFrame) :
    Option (Except Errno Unit × Planes Byte × Planes Byte) :=
  match fieldsFrameMatch first second frame with
  | .error errno => some (.error errno, first.planes, second.planes)
  | .ok () =>
    (fieldLoop frame.height fieldRounds 0).map fun lines =>
      (.ok (), lines.foldl (splitRound frame first second) (first.planes, second.planes))

/-! ## The rounds of the loop -/

def pairLines (pairs : Nat) : List UInt32 := (List.range pairs).map fun pair => UInt32.ofNat (2 * pair)

theorem pairLines_succ (pairs : Nat) :
    pairLines (pairs + 1) = pairLines pairs ++ [UInt32.ofNat (2 * pairs)] := by
  rw [pairLines, List.range_succ, List.map_append]
  rfl

section Line

variable {pair : Nat}

theorem toNat_first (short : 2 * pair + 1 < 2 ^ 32) : (UInt32.ofNat (2 * pair)).toNat = 2 * pair := by
  rw [UInt32.toNat_ofNat', Nat.mod_eq_of_lt (by omega)]

theorem toNat_second (short : 2 * pair + 1 < 2 ^ 32) :
    (UInt32.ofNat (2 * pair) + 1).toNat = 2 * pair + 1 := by
  rw [UInt32.toNat_add, toNat_first short]
  exact Nat.mod_eq_of_lt short

theorem toNat_fieldLine (short : 2 * pair + 1 < 2 ^ 32) : (UInt32.ofNat (2 * pair) / 2).toNat = pair := by
  rw [UInt32.toNat_div, toNat_first short]
  exact Nat.mul_div_cancel_left pair (by decide)

end Line

theorem fieldLoop_from {height : UInt32} (short : height.toNat < 4294967295) (rounds pair : Nat)
    (within : 2 * pair ≤ height.toNat + 1) (enough : (height.toNat + 1) / 2 < rounds + pair) :
    fieldLoop height rounds (UInt32.ofNat (2 * pair)) =
      some ((List.range' pair ((height.toNat + 1) / 2 - pair)).map fun pair => UInt32.ofNat (2 * pair)) := by
  induction rounds generalizing pair with
  | zero => omega
  | succ rounds ih =>
    have start : (UInt32.ofNat (2 * pair)).toNat = 2 * pair := by
      rw [UInt32.toNat_ofNat', Nat.mod_eq_of_lt (by omega)]
    rw [fieldLoop]
    by_cases below : UInt32.ofNat (2 * pair) < height
    · have less : 2 * pair < height.toNat := by
        rw [← start]
        exact UInt32.lt_iff_toNat_lt.mp below
      have next : UInt32.ofNat (2 * pair) + 2 = UInt32.ofNat (2 * (pair + 1)) := by
        apply UInt32.toNat_inj.mp
        rw [UInt32.toNat_add, start, UInt32.toNat_ofNat']
        rfl
      have left : (height.toNat + 1) / 2 - pair = (height.toNat + 1) / 2 - (pair + 1) + 1 := by omega
      rw [if_pos below, next, ih (pair + 1) (by omega) (by omega), left, List.range'_succ]
      rfl
    · have beyond : height.toNat ≤ 2 * pair := by
        rw [← start]
        exact Nat.not_lt.mp fun less => below (UInt32.lt_iff_toNat_lt.mpr less)
      have done : (height.toNat + 1) / 2 - pair = 0 := by omega
      rw [if_neg below, done]
      rfl

theorem fieldLoop_ends {height : UInt32} (short : height.toNat < 4294967295) :
    fieldLoop height fieldRounds 0 = some (pairLines ((height.toNat + 1) / 2)) := by
  have bound : (height.toNat + 1) / 2 < fieldRounds + 0 := by
    unfold fieldRounds
    omega
  have ended := fieldLoop_from short fieldRounds 0 (Nat.zero_le _) bound
  rw [Nat.sub_zero, ← List.range_eq_range'] at ended
  exact ended

theorem fieldLoop_endless (rounds : Nat) (even : line.toNat % 2 = 0) :
    fieldLoop 4294967295 rounds line = none := by
  induction rounds generalizing line with
  | zero => rfl
  | succ rounds ih =>
    have bound := line.toNat_lt
    have below : line < 4294967295 := by
      apply UInt32.lt_iff_toNat_lt.mpr
      have value : (4294967295 : UInt32).toNat = 4294967295 := rfl
      omega
    have next : (line + 2).toNat % 2 = 0 := by
      have two : (2 : UInt32).toNat = 2 := rfl
      rw [UInt32.toNat_add, two]
      omega
    rw [fieldLoop, if_pos below, ih next]
    rfl

theorem fieldLoop_isSome_iff (height : UInt32) :
    (fieldLoop height fieldRounds 0).isSome ↔ height ≠ 4294967295 := by
  constructor
  · rintro ended rfl
    rw [fieldLoop_endless fieldRounds rfl] at ended
    exact absurd ended (by decide)
  · intro other
    have short : height.toNat < 4294967295 := by
      have bound := height.toNat_lt
      have apart : height.toNat ≠ 4294967295 := fun same => other (UInt32.toNat_inj.mp same)
      omega
    rw [fieldLoop_ends short]
    rfl

/-! ## What the rounds leave -/

def lineOf (planes : Planes Byte) (linesize : Nat -> Nat) (line plane offset : Nat) : Byte :=
  planes plane (lineAt linesize line plane + offset)

def mergedLine (first second : StFieldFrame) (line plane offset : Nat) : Byte :=
  if line % 2 = 0 then
    lineOf first.planes first.linesize (line / 2) plane offset
  else
    lineOf second.planes second.linesize (line / 2) plane offset

/-- The lines of a field: the even ones of the frame, or the odd ones. -/
def splitLine (frame : StFieldFrame) (parity line plane offset : Nat) : Byte :=
  lineOf frame.planes frame.linesize (2 * line + parity) plane offset

/-- The lines of the planes are the given ones, and nothing else has changed. -/
def LinesAre (linesize size : Nat -> Nat) (lines : Nat) (values : Nat -> Nat -> Nat -> Byte)
    (blank result : Planes Byte) : Prop :=
  LinesFilled linesize size (fun line plane offset value => value = values line plane offset) blank lines
    result

theorem copyLine_filled {src : StFieldFrame} {srcLine dstLine : UInt32}
    {before : Planes Byte} {line : Nat}
    (fits : forall plane, size plane ≤ linesize plane)
    (filled : LinesAre linesize size line values blank before)
    (target : dstLine.toNat = line)
    (source : lineOf src.planes src.linesize srcLine.toNat = values line) :
    LinesAre linesize size (line + 1) values blank (copyLine size src srcLine linesize before dstLine) := by
  rw [copyLine, target]
  exact filled.put fits fun plane offset _ => congrFun (congrFun source plane) offset

theorem merge_filled (first second frame : StFieldFrame) (blank : Planes Byte)
    {pairs : Nat} (short : 2 * pairs < 2 ^ 32)
    (fits : 0 < pairs -> forall plane, frame.lineSize plane ≤ frame.linesize plane) :
    LinesAre frame.linesize frame.lineSize (2 * pairs) (mergedLine first second) blank
      ((pairLines pairs).foldl (mergeRound first second frame) blank) := by
  induction pairs with
  | zero => exact LinesFilled.zero blank
  | succ pairs ih =>
    have fits := fits (Nat.succ_pos pairs)
    have room : 2 * pairs + 1 < 2 ^ 32 := by omega
    have even : 2 * pairs % 2 = 0 := Nat.mul_mod_right 2 pairs
    have odd : (2 * pairs + 1) % 2 ≠ 0 := by omega
    have half : 2 * pairs / 2 = pairs := Nat.mul_div_cancel_left pairs (by decide)
    have upper : (2 * pairs + 1) / 2 = pairs := by omega
    rw [pairLines_succ, List.foldl_append, List.foldl_cons, List.foldl_nil]
    apply copyLine_filled fits _ (toNat_second room)
    · funext plane offset
      rw [toNat_fieldLine room, mergedLine, if_neg odd, upper]
    · apply copyLine_filled fits (ih (by omega) fun _ => fits) (toNat_first room)
      funext plane offset
      rw [toNat_fieldLine room, mergedLine, if_pos even, half]

theorem split_filled (frame first second : StFieldFrame)
    {pairs : Nat} (short : 2 * pairs < 2 ^ 32)
    (fits : 0 < pairs -> forall plane,
      frame.lineSize plane ≤ first.linesize plane ∧ frame.lineSize plane ≤ second.linesize plane) :
    LinesAre first.linesize frame.lineSize pairs (splitLine frame 0) first.planes
        ((pairLines pairs).foldl (splitRound frame first second) (first.planes, second.planes)).1 ∧
      LinesAre second.linesize frame.lineSize pairs (splitLine frame 1) second.planes
        ((pairLines pairs).foldl (splitRound frame first second) (first.planes, second.planes)).2 := by
  induction pairs with
  | zero => exact ⟨LinesFilled.zero first.planes, LinesFilled.zero second.planes⟩
  | succ pairs ih =>
    have room : 2 * pairs + 1 < 2 ^ 32 := by omega
    have fits := fits (Nat.succ_pos pairs)
    obtain ⟨one, two⟩ := ih (by omega) fun _ => fits
    rw [pairLines_succ, List.foldl_append, List.foldl_cons, List.foldl_nil]
    refine ⟨copyLine_filled (fun plane => (fits plane).1) one (toNat_fieldLine room) ?_,
      copyLine_filled (fun plane => (fits plane).2) two (toNat_fieldLine room) ?_⟩
    · rw [toNat_first room]
      rfl
    · rw [toNat_second room]
      rfl

/-! ## What is asked of the fields -/

def StFieldFrame.hasLine (frame : StFieldFrame) (plane line size : Nat) : Prop :=
  lineAt frame.linesize line plane + size ≤ stFramePlaneSize frame plane

/-- The bytes of a frame, as `st_frame_size` counts them. -/
def StFieldFrame.bytes (frame : StFieldFrame) : Nat :=
  if stFrameFmtIsCodestream frame.fmt then
    frame.dataSize
  else
    stFrameSize frame.fmt frame.width.toNat frame.height.toNat frame.interlaced

def StFieldFrame.lineBytes (frame : StFieldFrame) : Nat :=
  frame.dataHeight.toNat * ((List.range (stFrameFmtPlanes frame.fmt)).map frame.lineSize).sum

/-- Splitting and merging end, stay inside the planes, miss no byte, leave the padding alone and are
inverse to each other, also where the lines come back with other line sizes. -/
structure FieldsSound (first second frame : StFieldFrame) : Prop where
  ends : (fieldLoop frame.height fieldRounds 0).isSome
  inside : forall lines, fieldLoop frame.height fieldRounds 0 = some lines ->
    ∀ line ∈ lines, forall plane, 0 < frame.lineSize plane ->
      frame.hasLine plane line.toNat (frame.lineSize plane) ∧
        frame.hasLine plane (line + 1).toNat (frame.lineSize plane) ∧
        first.hasLine plane (line / 2).toNat (frame.lineSize plane) ∧
        second.hasLine plane (line / 2).toNat (frame.lineSize plane)
  whole : frame.lineBytes = frame.bytes
  split_merge : forall contents blank : Planes Byte, forall linesize : Nat -> Nat,
    (forall plane, frame.lineSize plane ≤ linesize plane) ->
    exists firstBytes secondBytes result,
      stFieldSplit (frame.holding frame.linesize contents) first second =
        some (.ok (), firstBytes, secondBytes) ∧
      LinesAre first.linesize frame.lineSize (frame.height.toNat / 2)
        (splitLine (frame.holding frame.linesize contents) 0) first.planes firstBytes ∧
      LinesAre second.linesize frame.lineSize (frame.height.toNat / 2)
        (splitLine (frame.holding frame.linesize contents) 1) second.planes secondBytes ∧
      stFieldMerge (first.holding first.linesize firstBytes) (second.holding second.linesize secondBytes)
        (frame.holding linesize blank) = some (.ok (), result) ∧
      LinesAre linesize frame.lineSize frame.height.toNat (lineOf contents frame.linesize) blank result
  merge_split : forall firstContents secondContents firstBlank secondBlank : Planes Byte,
    forall linesize : Nat -> Nat, (forall plane, frame.lineSize plane ≤ linesize plane) ->
    exists bytes firstResult secondResult,
      stFieldMerge (first.holding first.linesize firstContents)
        (second.holding second.linesize secondContents) frame = some (.ok (), bytes) ∧
      LinesAre frame.linesize frame.lineSize frame.height.toNat
        (mergedLine (first.holding first.linesize firstContents)
          (second.holding second.linesize secondContents)) frame.planes bytes ∧
      stFieldSplit (frame.holding frame.linesize bytes) (first.holding linesize firstBlank)
        (second.holding linesize secondBlank) = some (.ok (), firstResult, secondResult) ∧
      LinesAre linesize frame.lineSize (frame.height.toNat / 2)
        (lineOf firstContents first.linesize) firstBlank firstResult ∧
      LinesAre linesize frame.lineSize (frame.height.toNat / 2)
        (lineOf secondContents second.linesize) secondBlank secondResult

/-- The lines of the frame hold its bytes; where there are any, they come in pairs, the frame is none of
the fields, and no line size is too small. -/
structure FieldsFit (first second frame : StFieldFrame) : Prop where
  below : frame.height ≠ 4294967295
  whole : frame.lineBytes = frame.bytes
  paired : 0 < frame.height.toNat -> forall plane, 0 < frame.lineSize plane ->
    frame.height.toNat % 2 = 0 ∧ frame.interlaced = false ∧
      frame.lineSize plane ≤ frame.linesize plane ∧ frame.lineSize plane ≤ first.linesize plane ∧
      frame.lineSize plane ≤ second.linesize plane

/-! ## One function after the other -/

theorem LinesAre.congr
    {others : Nat -> Nat -> Nat -> Byte} {result : Planes Byte}
    (are : LinesAre linesize size lines values blank result)
    (same : ∀ line < lines, forall plane offset, offset < size plane ->
      values line plane offset = others line plane offset) :
    LinesAre linesize size lines others blank result where
  inside line below plane offset within :=
    (are.inside line below plane offset within).trans (same line below plane offset within)
  outside := are.outside

section Fit

variable {first second frame : StFieldFrame}

section

variable (fit : FieldsFit first second frame)

include fit

theorem FieldsFit.short : frame.height.toNat < 4294967295 := by
  have bound := frame.height.toNat_lt
  have apart : frame.height.toNat ≠ 4294967295 := fun same => fit.below (UInt32.toNat_inj.mp same)
  omega

theorem FieldsFit.even_or_empty :
    frame.height.toNat % 2 = 0 ∨ forall plane, frame.lineSize plane = 0 := by
  by_cases even : frame.height.toNat % 2 = 0
  · exact Or.inl even
  · refine Or.inr fun plane => ?_
    by_contra some
    exact even (fit.paired (by omega) plane (Nat.pos_of_ne_zero some)).1

theorem FieldsFit.even {plane : Nat}
    (some : 0 < frame.lineSize plane) : frame.height.toNat % 2 = 0 := by
  rcases fit.even_or_empty with pairs | empty
  · exact pairs
  · rw [empty plane] at some
    exact absurd some (Nat.lt_irrefl 0)

theorem FieldsFit.fields (some : 0 < frame.height.toNat)
    (plane : Nat) :
    frame.lineSize plane ≤ first.linesize plane ∧ frame.lineSize plane ≤ second.linesize plane := by
  by_cases nothing : frame.lineSize plane = 0
  · rw [nothing]
    exact ⟨Nat.zero_le _, Nat.zero_le _⟩
  · exact (fit.paired some plane (Nat.pos_of_ne_zero nothing)).2.2.2

theorem FieldsFit.strides (some : 0 < frame.height.toNat)
    (plane : Nat) : frame.lineSize plane ≤ frame.linesize plane := by
  by_cases nothing : frame.lineSize plane = 0
  · rw [nothing]
    exact Nat.zero_le _
  · exact (fit.paired some plane (Nat.pos_of_ne_zero nothing)).2.2.1

end

theorem LinesAre.count {count : Nat}
    {result : Planes Byte}
    (are : LinesAre linesize size lines values blank result)
    (same : lines = count ∨ forall plane, size plane = 0) :
    LinesAre linesize size count values blank result := by
  rcases same with rfl | empty
  · exact are
  · exact LinesFilled.of_empty are empty count

section

variable (matched : fieldsFrameMatch first second frame = .ok ())
    (short : frame.height.toNat < 4294967295)
    (even : frame.height.toNat % 2 = 0 ∨ forall plane, frame.lineSize plane = 0)

include matched short even

theorem stFieldMerge_are
    (fits : 0 < frame.height.toNat -> forall plane, frame.lineSize plane ≤ frame.linesize plane) :
    exists result, stFieldMerge first second frame = some (.ok (), result) ∧
      LinesAre frame.linesize frame.lineSize frame.height.toNat (mergedLine first second) frame.planes
        result := by
  refine ⟨_, ?_, LinesAre.count (merge_filled first second frame frame.planes
    (by omega : 2 * ((frame.height.toNat + 1) / 2) < 2 ^ 32) fun some => fits (by omega)) ?_⟩
  · rw [stFieldMerge, matched, fieldLoop_ends short]
    rfl
  · rcases even with pairs | empty
    · exact Or.inl (by omega)
    · exact Or.inr empty

theorem stFieldSplit_are (fits : 0 < frame.height.toNat -> forall plane,
      frame.lineSize plane ≤ first.linesize plane ∧ frame.lineSize plane ≤ second.linesize plane) :
    exists firstBytes secondBytes,
      stFieldSplit frame first second = some (.ok (), firstBytes, secondBytes) ∧
      LinesAre first.linesize frame.lineSize (frame.height.toNat / 2) (splitLine frame 0) first.planes
        firstBytes ∧
      LinesAre second.linesize frame.lineSize (frame.height.toNat / 2) (splitLine frame 1) second.planes
        secondBytes := by
  obtain ⟨one, two⟩ := split_filled frame first second
    (by omega : 2 * ((frame.height.toNat + 1) / 2) < 2 ^ 32) fun some => fits (by omega)
  have count : (frame.height.toNat + 1) / 2 = frame.height.toNat / 2 ∨
      forall plane, frame.lineSize plane = 0 := by
    rcases even with pairs | empty
    · exact Or.inl (by omega)
    · exact Or.inr empty
  refine ⟨_, _, ?_, one.count count, two.count count⟩
  rw [stFieldSplit, matched, fieldLoop_ends short]
  rfl

end

section

variable (fit : FieldsFit first second frame)
    (matched : fieldsFrameMatch first second frame = .ok ())

include fit matched

theorem FieldsFit.split_merge (contents blank : Planes Byte)
    (linesize : Nat -> Nat) (room : forall plane, frame.lineSize plane ≤ linesize plane) :
    exists firstBytes secondBytes result,
      stFieldSplit (frame.holding frame.linesize contents) first second =
        some (.ok (), firstBytes, secondBytes) ∧
      LinesAre first.linesize frame.lineSize (frame.height.toNat / 2)
        (splitLine (frame.holding frame.linesize contents) 0) first.planes firstBytes ∧
      LinesAre second.linesize frame.lineSize (frame.height.toNat / 2)
        (splitLine (frame.holding frame.linesize contents) 1) second.planes secondBytes ∧
      stFieldMerge (first.holding first.linesize firstBytes) (second.holding second.linesize secondBytes)
        (frame.holding linesize blank) = some (.ok (), result) ∧
      LinesAre linesize frame.lineSize frame.height.toNat (lineOf contents frame.linesize) blank
        result := by
  obtain ⟨firstBytes, secondBytes, split, one, two⟩ :=
    @stFieldSplit_are first second (frame.holding frame.linesize contents) matched fit.short
      fit.even_or_empty fit.fields
  obtain ⟨result, merge, are⟩ :=
    @stFieldMerge_are (first.holding first.linesize firstBytes)
      (second.holding second.linesize secondBytes) (frame.holding linesize blank) matched fit.short
      fit.even_or_empty fun _ => room
  refine ⟨firstBytes, secondBytes, result, split, one, two, merge, are.congr ?_⟩
  intro line below plane offset within
  have pairs := fit.even (Nat.zero_lt_of_lt within)
  have below : line < frame.height.toNat := below
  have half : line / 2 < frame.height.toNat / 2 := by omega
  unfold mergedLine
  by_cases even : line % 2 = 0
  · have back : 2 * (line / 2) + 0 = line := by omega
    rw [if_pos even]
    refine (one.inside (line / 2) half plane offset within).trans ?_
    rw [splitLine, back]
    rfl
  · have back : 2 * (line / 2) + 1 = line := by omega
    rw [if_neg even]
    refine (two.inside (line / 2) half plane offset within).trans ?_
    rw [splitLine, back]
    rfl

theorem FieldsFit.merge_split (firstContents secondContents firstBlank secondBlank : Planes Byte)
    (linesize : Nat -> Nat) (room : forall plane, frame.lineSize plane ≤ linesize plane) :
    exists bytes firstResult secondResult,
      stFieldMerge (first.holding first.linesize firstContents)
        (second.holding second.linesize secondContents) frame = some (.ok (), bytes) ∧
      LinesAre frame.linesize frame.lineSize frame.height.toNat
        (mergedLine (first.holding first.linesize firstContents)
          (second.holding second.linesize secondContents)) frame.planes bytes ∧
      stFieldSplit (frame.holding frame.linesize bytes) (first.holding linesize firstBlank)
        (second.holding linesize secondBlank) = some (.ok (), firstResult, secondResult) ∧
      LinesAre linesize frame.lineSize (frame.height.toNat / 2)
        (lineOf firstContents first.linesize) firstBlank firstResult ∧
      LinesAre linesize frame.lineSize (frame.height.toNat / 2)
        (lineOf secondContents second.linesize) secondBlank secondResult := by
  obtain ⟨bytes, merge, are⟩ :=
    @stFieldMerge_are (first.holding first.linesize firstContents)
      (second.holding second.linesize secondContents) frame matched fit.short fit.even_or_empty
      fit.strides
  obtain ⟨firstResult, secondResult, split, one, two⟩ :=
    @stFieldSplit_are (first.holding linesize firstBlank) (second.holding linesize secondBlank)
      (frame.holding frame.linesize bytes) matched fit.short fit.even_or_empty
      fun _ plane => ⟨room plane, room plane⟩
  refine ⟨bytes, firstResult, secondResult, merge, are, split, one.congr ?_, two.congr ?_⟩
  · intro line below plane offset within
    have below : line < frame.height.toNat / 2 := below
    have even : (2 * line + 0) % 2 = 0 := by omega
    have half : (2 * line + 0) / 2 = line := by omega
    refine (are.inside (2 * line + 0) (by omega) plane offset within).trans ?_
    rw [mergedLine, if_pos even, half]
    rfl
  · intro line below plane offset within
    have below : line < frame.height.toNat / 2 := below
    have odd : (2 * line + 1) % 2 ≠ 0 := by omega
    have half : (2 * line + 1) / 2 = line := by omega
    refine (are.inside (2 * line + 1) (by omega) plane offset within).trans ?_
    rw [mergedLine, if_neg odd, half]
    rfl

end

end Fit

/-! ## The planes -/

theorem mem_pairLines {height : UInt32} :
    line ∈ pairLines ((height.toNat + 1) / 2) ↔
      Exists fun pair => 2 * pair < height.toNat ∧ line = UInt32.ofNat (2 * pair) := by
  unfold pairLines
  constructor
  · intro member
    obtain ⟨pair, below, same⟩ := List.mem_map.mp member
    have below := List.mem_range.mp below
    exact ⟨pair, by omega, same.symm⟩
  · rintro ⟨pair, below, rfl⟩
    exact List.mem_map.mpr ⟨pair, List.mem_range.mpr (by omega), rfl⟩

section Planes

variable {first second frame : StFieldFrame}

theorem StFieldFrame.lineSize_le (frame : StFieldFrame) (plane : Nat) :
    frame.lineSize plane ≤ stFrameLeastLinesize frame.fmt frame.width.toNat plane := by
  unfold StFieldFrame.lineSize
  by_cases within : plane < stFrameFmtPlanes frame.fmt
  · rw [if_pos within]
  · rw [if_neg within]
    exact Nat.zero_le _

theorem StFieldFrame.lineSize_codestream (codestream : stFrameFmtIsCodestream frame.fmt = true)
    (plane : Nat) : frame.lineSize plane = 0 := by
  have bytes : stFrameSize frame.fmt frame.width.toNat 1 false = 0 := by
    cases format : frame.fmt <;> first | rfl | (rw [format] at codestream; cases codestream)
  unfold StFieldFrame.lineSize stFrameLeastLinesize
  rw [bytes]
  repeat' split
  all_goals rfl

theorem plain_of_lineSize {plane : Nat} (some : 0 < frame.lineSize plane) :
    stFrameFmtIsCodestream frame.fmt = false := by
  by_contra codestream
  rw [frame.lineSize_codestream (Bool.not_eq_false _ ▸ codestream)] at some
  exact absurd some (Nat.lt_irrefl 0)

theorem fieldFrameCheck_ok {field : StFieldFrame} (checked : fieldFrameCheck field frame = .ok ()) :
    field.interlaced = true ∧ field.height = frame.height ∧ field.fmt = frame.fmt := by
  unfold fieldFrameCheck at checked
  by_cases interlaced : field.interlaced = true
  · by_cases size : field.width ≠ frame.width ∨ field.height ≠ frame.height
    · simp [interlaced, size] at checked
    · by_cases format : field.fmt ≠ frame.fmt
      · simp [interlaced, size, format] at checked
      · push Not at size format
        exact ⟨interlaced, size.2, format⟩
  · simp [interlaced] at checked

theorem fieldsFrameMatch_ok (matched : fieldsFrameMatch first second frame = .ok ()) :
    fieldFrameCheck first frame = .ok () ∧ fieldFrameCheck second frame = .ok () := by
  unfold fieldsFrameMatch at matched
  split at matched
  · cases matched
  · next one =>
      split at matched
      · cases matched
      · split at matched
        · cases matched
        · next two => exact ⟨one, two⟩

theorem hasLine_frame (plain : stFrameFmtIsCodestream frame.fmt = false)
    (progressive : frame.interlaced = false) (plane line size : Nat) :
    frame.hasLine plane line size ↔
      frame.linesize plane * line + size ≤ frame.linesize plane * frame.height.toNat := by
  unfold StFieldFrame.hasLine stFramePlaneSize lineAt
  rw [plain, progressive]
  exact Iff.rfl

theorem hasLine_field {field : StFieldFrame} (checked : fieldFrameCheck field frame = .ok ())
    (plain : stFrameFmtIsCodestream frame.fmt = false) (even : frame.height.toNat % 2 = 0)
    (plane line size : Nat) :
    field.hasLine plane line size ↔
      field.linesize plane * line + size ≤ field.linesize plane * (frame.height.toNat / 2) := by
  obtain ⟨interlaced, height, format⟩ := fieldFrameCheck_ok checked
  have half := Nat.mul_div_assoc (field.linesize plane) (Nat.dvd_of_mod_eq_zero even)
  unfold StFieldFrame.hasLine stFramePlaneSize lineAt
  rw [format, plain, interlaced, height, ← half]
  exact Iff.rfl

theorem line_within {size line : Nat} (room : size ≤ stride) (below : line < lines) :
    stride * line + size ≤ stride * lines :=
  calc
    stride * line + size ≤ stride * line + stride := Nat.add_le_add_left room _
    _ = stride * (line + 1) := (Nat.mul_succ _ _).symm
    _ ≤ stride * lines := Nat.mul_le_mul_left _ below

theorem line_lt_of_within {size line : Nat} (some : 0 < size)
    (within : stride * line + size ≤ stride * lines) : line < lines := by
  by_contra beyond
  have longer : stride * lines ≤ stride * line := Nat.mul_le_mul_left _ (Nat.not_lt.mp beyond)
  omega

theorem size_le_of_within {size : Nat} (within : stride * lines + size ≤ stride * (lines + 1)) :
    size ≤ stride := by
  rw [Nat.mul_succ] at within
  exact Nat.le_of_add_le_add_left within

theorem FieldsFit.inside (fit : FieldsFit first second frame)
    (matched : fieldsFrameMatch first second frame = .ok ())
    (member : line ∈ pairLines ((frame.height.toNat + 1) / 2)) {plane : Nat}
    (some : 0 < frame.lineSize plane) :
    frame.hasLine plane line.toNat (frame.lineSize plane) ∧
      frame.hasLine plane (line + 1).toNat (frame.lineSize plane) ∧
      first.hasLine plane (line / 2).toNat (frame.lineSize plane) ∧
      second.hasLine plane (line / 2).toNat (frame.lineSize plane) := by
  obtain ⟨pair, below, rfl⟩ := mem_pairLines.mp member
  have bound := frame.height.toNat_lt
  obtain ⟨even, progressive, room, firstRoom, secondRoom⟩ := fit.paired (by omega) plane some
  have short : 2 * pair + 1 < 2 ^ 32 := by omega
  have plain := plain_of_lineSize some
  obtain ⟨one, two⟩ := fieldsFrameMatch_ok matched
  rw [toNat_first short, toNat_second short, toNat_fieldLine short, hasLine_frame plain progressive,
    hasLine_frame plain progressive, hasLine_field one plain even, hasLine_field two plain even]
  exact ⟨line_within room below, line_within room (by omega), line_within firstRoom (by omega),
    line_within secondRoom (by omega)⟩

theorem FieldsSound.paired (sound : FieldsSound first second frame)
    (matched : fieldsFrameMatch first second frame = .ok ()) (lines : 0 < frame.height.toNat)
    {plane : Nat} (some : 0 < frame.lineSize plane) :
    frame.height.toNat % 2 = 0 ∧ frame.interlaced = false ∧
      frame.lineSize plane ≤ frame.linesize plane ∧ frame.lineSize plane ≤ first.linesize plane ∧
      frame.lineSize plane ≤ second.linesize plane := by
  have bound := frame.height.toNat_lt
  have apart : frame.height.toNat ≠ 4294967295 := fun same =>
    (fieldLoop_isSome_iff frame.height).mp sound.ends (UInt32.toNat_inj.mp same)
  have below : frame.height.toNat < 4294967295 := by omega
  obtain ⟨pair, last⟩ : Exists fun pair => pair = (frame.height.toNat - 1) / 2 := ⟨_, rfl⟩
  have short : 2 * pair + 1 < 2 ^ 32 := by omega
  have plain := plain_of_lineSize some
  obtain ⟨one, two⟩ := fieldsFrameMatch_ok matched
  obtain ⟨-, behind, firstHas, secondHas⟩ := sound.inside _ (fieldLoop_ends below) _
    (mem_pairLines.mpr ⟨pair, by omega, rfl⟩) plane some
  rw [toNat_second short] at behind
  rw [toNat_fieldLine short] at firstHas secondHas
  have progressive : frame.interlaced = false := by
    -- half of the plane ends before the second line of the last pair
    by_contra interlaced
    unfold StFieldFrame.hasLine stFramePlaneSize lineAt at behind
    rw [plain, Bool.eq_true_of_not_eq_false interlaced] at behind
    have behind : frame.linesize plane * (2 * pair + 1) + frame.lineSize plane ≤
        frame.linesize plane * frame.height.toNat / 2 := behind
    have upper : frame.linesize plane * frame.height.toNat ≤ frame.linesize plane * (2 * (2 * pair + 1)) :=
      Nat.mul_le_mul_left _ (by omega)
    rw [Nat.mul_left_comm] at upper
    omega
  rw [hasLine_frame plain progressive] at behind
  have even : frame.height.toNat % 2 = 0 := by
    have within := line_lt_of_within some behind
    omega
  have full : frame.height.toNat = 2 * pair + 1 + 1 := by omega
  have half : frame.height.toNat / 2 = pair + 1 := by omega
  rw [hasLine_field one plain even, half] at firstHas
  rw [hasLine_field two plain even, half] at secondHas
  rw [full] at behind
  exact ⟨even, progressive, size_le_of_within behind, size_le_of_within firstHas,
    size_le_of_within secondHas⟩

end Planes

/-! ## When the fields are sound -/

/-- Fields that match a frame are split and merged soundly exactly when the lines of the frame hold its
bytes, come in pairs and have line sizes that are large enough. -/
theorem fields_sound_iff (first second frame : StFieldFrame)
    (matched : fieldsFrameMatch first second frame = .ok ()) :
    FieldsSound first second frame ↔ FieldsFit first second frame := by
  constructor
  · intro sound
    exact {
      below := (fieldLoop_isSome_iff frame.height).mp sound.ends
      whole := sound.whole
      paired := fun lines _ some => sound.paired matched lines some }
  · intro fit
    exact {
      ends := (fieldLoop_isSome_iff frame.height).mpr fit.below
      inside := by
        intro lines ended line member plane some
        rw [fieldLoop_ends fit.short] at ended
        cases ended
        exact fit.inside matched member some
      whole := fit.whole
      split_merge := fit.split_merge matched
      merge_split := fit.merge_split matched }

/-- A frame and its two fields, with planes whose lines follow each other. -/
def plainFrame (fmt : StFrameFmt) (width height : UInt32) (interlaced secondField : Bool) :
    StFieldFrame where
  fmt := fmt
  width := width
  height := height
  interlaced := interlaced
  linesize := stFrameLeastLinesize fmt width.toNat
  planes := fun _ _ => 0
  secondField := secondField
  dataSize := 0

theorem plain_frames_sound :
    fieldsFrameMatch (plainFrame .yuv420planar8 4 2 true false) (plainFrame .yuv420planar8 4 2 true true)
        (plainFrame .yuv420planar8 4 2 false false) = .ok () ∧
      FieldsSound (plainFrame .yuv420planar8 4 2 true false) (plainFrame .yuv420planar8 4 2 true true)
        (plainFrame .yuv420planar8 4 2 false false) := by
  have matched : fieldsFrameMatch (plainFrame .yuv420planar8 4 2 true false)
      (plainFrame .yuv420planar8 4 2 true true) (plainFrame .yuv420planar8 4 2 false false) = .ok () := by
    decide +kernel
  refine ⟨matched, (fields_sound_iff _ _ _ matched).mpr ⟨by decide, by decide +kernel, ?_⟩⟩
  intro _ plane _
  exact ⟨rfl, rfl, StFieldFrame.lineSize_le _ plane, StFieldFrame.lineSize_le _ plane,
    StFieldFrame.lineSize_le _ plane⟩

/-- The second line of the last pair of an odd height is behind the end of every plane: `st_field_split`
reads it from there, and puts it behind the end of the second field. -/
theorem odd_height_not_sound :
    fieldsFrameMatch (plainFrame .yuv422planar8 2 3 true false) (plainFrame .yuv422planar8 2 3 true true)
        (plainFrame .yuv422planar8 2 3 false false) = .ok () ∧
      ¬ FieldsSound (plainFrame .yuv422planar8 2 3 true false) (plainFrame .yuv422planar8 2 3 true true)
        (plainFrame .yuv422planar8 2 3 false false) := by
  refine ⟨by decide +kernel, fun sound => ?_⟩
  have member : (2 : UInt32) ∈ pairLines 2 := by decide
  obtain ⟨-, behind, -⟩ := sound.inside _ (fieldLoop_ends (by decide)) 2 member 0 (by decide +kernel)
  have outside : ¬ (plainFrame .yuv422planar8 2 3 false false).hasLine 0 3 2 := by
    unfold StFieldFrame.hasLine
    decide +kernel
  exact outside behind

end MediaTransport.Convert
