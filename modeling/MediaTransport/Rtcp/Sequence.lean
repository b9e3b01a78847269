import MediaTransport.Library.Word

namespace MediaTransport.Rtcp

open Library

/-!
# RTP sequence numbers

An RTP header carries sixteen bits of a counter that never stops, which is an
`extended` number here; the wire carries `u16` of it.  `rtp_seq_num_cmp` orders
wire numbers by the shorter way around the circle.  The laws below say what it
answers for extended numbers at most half a circle apart, which is all that its
callers rely on.
-/

variable (head : Int) {left right : Int}

/-- `rtp_seq_num_cmp`: negative when `seq1` is newer, positive when `seq0` is.
Two numbers exactly half a circle apart are each newer than the other. -/
def rtpSeqNumCmp (seq0 seq1 : Nat) : Int :=
  if seq0 = seq1 then
    0
  else if (seq0 < seq1 ∧ seq1 - seq0 < 32768) ∨ (seq1 < seq0 ∧ 32768 < seq0 - seq1) then
    -1
  else
    1

theorem rtpSeqNumCmp_self (seq : Nat) : rtpSeqNumCmp seq seq = 0 := if_pos rfl

theorem rtpSeqNumCmp_of_lt (older : left < right) (near : right < left + 32768)
    : rtpSeqNumCmp (u16 left) (u16 right) = -1 := by
  have different : u16 left ≠ u16 right := by simp only [u16_eq]; omega
  rw [rtpSeqNumCmp, if_neg different, if_pos]
  simp only [u16_eq]
  omega

theorem rtpSeqNumCmp_of_gt (newer : right < left) (near : left ≤ right + 32768)
    : rtpSeqNumCmp (u16 left) (u16 right) = 1 := by
  have different : u16 left ≠ u16 right := by simp only [u16_eq]; omega
  rw [rtpSeqNumCmp, if_neg different, if_neg]
  simp only [u16_eq]
  omega

theorem rtpSeqNumCmp_of_far (far : left + 32768 ≤ right) (near : right < left + 65536)
    : rtpSeqNumCmp (u16 left) (u16 right) = 1 := by
  have around : u16 left = u16 (left + 65536) := by simp only [u16_eq]; omega
  rw [around]
  exact rtpSeqNumCmp_of_gt near (by omega)

theorem rtpSeqNumCmp_shift (left right : Int) (shift : Nat) :
    rtpSeqNumCmp (u16 (left + shift)) (u16 (right + shift)) =
      rtpSeqNumCmp (u16 left) (u16 right) := by
  unfold rtpSeqNumCmp
  have same : u16 (left + shift) = u16 (right + shift) ↔ u16 left = u16 right := by
    simp only [u16_eq]
    omega
  by_cases equal : u16 left = u16 right
  · rw [if_pos equal, if_pos (same.mpr equal)]
  · rw [if_neg equal, if_neg (fun wire => equal (same.mp wire))]
    congr 1
    simp only [u16_eq, eq_iff_iff] at equal ⊢
    omega

/-- The extended number of a wire number, read relative to the newest extended
number: the representative in `(newest - 32768, newest + 32768]`. -/
def extend (newest : Int) (seq : Nat) : Int :=
  let ahead := u16 ((seq : Int) - newest)
  if ahead ≤ 32768 then newest + ahead else newest + ahead - 65536

theorem u16_extend (newest : Int) {seq : Nat} (bound : seq < 65536) :
    u16 (extend newest seq) = seq := by
  unfold extend
  by_cases near : u16 ((seq : Int) - newest) ≤ 32768
  · rw [if_pos near]
    simp only [u16_eq]
    omega
  · rw [if_neg near]
    simp only [u16_eq]
    omega

theorem extend_bounds (newest : Int) (seq : Nat) :
    newest - 32768 < extend newest seq ∧ extend newest seq ≤ newest + 32768 := by
  unfold extend
  have bound := u16_lt ((seq : Int) - newest)
  simp only
  split <;> omega

/-! ## Runs of consecutive numbers -/

/-- The wire numbers of `count` consecutive packets, starting at `head`. -/
def seqRun (head : Int) (count : Nat) : List Nat :=
  (List.range count).map (fun (index : Nat) => u16 (head + index))

@[simp] theorem length_seqRun (count : Nat) : (seqRun head count).length = count := by
  simp [seqRun]

theorem mem_seqRun {head : Int} {count seq : Nat} :
    seq ∈ seqRun head count ↔ exists index, index < count ∧ seq = u16 (head + index) := by
  unfold seqRun
  rw [List.mem_map]
  constructor
  · rintro ⟨index, inside, rfl⟩
    exact ⟨index, List.mem_range.mp inside, rfl⟩
  · rintro ⟨index, inside, rfl⟩
    exact ⟨index, List.mem_range.mpr inside, rfl⟩

theorem seqRun_congr (same : u16 left = u16 right) (count : Nat) :
    seqRun left count = seqRun right count := by
  apply List.map_congr_left
  intro index _
  rw [← u16_add_u16, same, u16_add_u16]

theorem seqRun_add (first second : Nat) :
    seqRun head (first + second) = seqRun head first ++ seqRun (head + first) second := by
  unfold seqRun
  rw [List.range_add, List.map_append, List.map_map]
  congr 1
  apply List.map_congr_left
  intro index _
  simp only [Function.comp_apply, Nat.cast_add, Int.add_assoc]

theorem head?_seqRun {count : Nat} (positive : 0 < count) :
    (seqRun head count).head? = some (u16 head) := by
  obtain ⟨rest, rfl⟩ := Nat.exists_eq_add_of_lt positive
  unfold seqRun
  rw [List.range_succ_eq_map, List.map_cons, List.head?_cons, Nat.cast_zero, Int.add_zero]

theorem seqRun_drop {count skip : Nat} (inside : skip ≤ count) :
    (seqRun head count).drop skip = seqRun (head + skip) (count - skip) := by
  obtain ⟨rest, rfl⟩ := Nat.exists_eq_add_of_le inside
  rw [seqRun_add, Nat.add_sub_cancel_left]
  exact List.drop_left' (length_seqRun _ _)

theorem seqRun_take {count kept : Nat} (inside : kept ≤ count) :
    (seqRun head count).take kept = seqRun head kept := by
  obtain ⟨rest, rfl⟩ := Nat.exists_eq_add_of_le inside
  rw [seqRun_add]
  exact List.take_left' (length_seqRun _ _)

end MediaTransport.Rtcp
