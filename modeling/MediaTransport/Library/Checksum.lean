import MediaTransport.Library.Wire

namespace MediaTransport.Library

/-!
# Sums with end-around carry

A list of bytes is summed by half words in network order, and the carries of the sum
are added back.  The result is zero only for a sum of zero, and is otherwise the residue
of the sum modulo 65535, with 65535 for zero.  Adding what the result lacks to 65535
makes it 65535.
-/

variable (bytes : List Byte) {value : Nat} {sum : Nat}

/-- The sum of the half words; a byte that is left over counts as it is. -/
def wordSum : List Byte -> Nat
  | high :: low :: rest => high.toNat * 256 + low.toNat + wordSum rest
  | [last] => last.toNat
  | [] => 0

/-- Sixteen bits of a sum with its carries added back twice. -/
def foldWord (sum : Nat) : Nat :=
  let once := sum / 65536 + sum % 65536
  (once + once / 65536) % 65536

theorem wordSum_cons (high low : Byte) (rest : List Byte) :
    wordSum (high :: low :: rest) = high.toNat * 256 + low.toNat + wordSum rest := rfl

theorem wordSum_append {front : List Byte} (whole : front.length % 2 = 0) (rest : List Byte) :
    wordSum (front ++ rest) = wordSum front + wordSum rest := by
  induction front using wordSum.induct with
  | case1 high low front ih =>
    have shorter : front.length % 2 = 0 := by
      simp only [List.length_cons] at whole
      omega
    rw [List.cons_append, List.cons_append, wordSum_cons, wordSum_cons, ih shorter]
    omega
  | case2 last => simp at whole
  | case3 => simp [wordSum]

theorem wordSum_be16 (fits : value < 65536) : wordSum (be16 value) = value := by
  simp only [be16, wordSum, BitVec.toNat_ofNat]
  omega

theorem wordSum_le : wordSum bytes ≤ (bytes.length + 1) / 2 * 65535 := by
  induction bytes using wordSum.induct with
  | case1 high low rest ih =>
    have upper := high.isLt
    rw [wordSum_cons]
    simp only [List.length_cons]
    have halves : (rest.length + 1 + 1 + 1) / 2 = (rest.length + 1) / 2 + 1 := by omega
    rw [halves, Nat.add_mul]
    omega
  | case2 last =>
    simp only [wordSum, List.length_cons, List.length_nil]
    omega
  | case3 => simp [wordSum]

theorem foldWord_le (sum : Nat) : foldWord sum ≤ 65535 :=
  Nat.le_of_lt_succ (Nat.mod_lt _ (by decide))

/-- What a positive sum folds to. -/
theorem foldWord_pos (positive : 0 < sum) (fits : sum < 4294967296) :
    foldWord sum % 65535 = sum % 65535 ∧ 0 < foldWord sum ∧ foldWord sum ≤ 65535 := by
  -- one carry changes the sum by a multiple of 65535
  obtain ⟨once, once_eq⟩ : exists once, once = sum / 65536 + sum % 65536 := ⟨_, rfl⟩
  have residue : once % 65535 = sum % 65535 := by omega
  have high : once < 131071 := by omega
  have fold : foldWord sum = (once + once / 65536) % 65536 := by rw [once_eq]; rfl
  rw [fold, <- residue]
  by_cases carry : once < 65536
  · rw [show once / 65536 = 0 by omega]
    omega
  · rw [show once / 65536 = 1 by omega]
    omega

theorem foldWord_eq_ones_iff (positive : 0 < sum) (fits : sum < 4294967296) :
    foldWord sum = 65535 ↔ sum % 65535 = 0 := by
  have spec := foldWord_pos positive fits
  omega

theorem foldWord_complement (positive : 0 < sum) (fits : sum < 4294901760) :
    foldWord (sum + (65535 - foldWord sum)) = 65535 := by
  have spec := foldWord_pos positive (by omega)
  rw [foldWord_eq_ones_iff (by omega) (by omega)]
  omega

/-! ## Ones' complement addition -/

def onesAdd (left right : Nat) : Nat := (left + right) % 65536 + (left + right) / 65536

/-- The half words of a message in network order; a zero byte is behind an odd one. -/
def halfWords : List Byte -> List Nat
  | high :: low :: rest => (high.toNat * 256 + low.toNat) :: halfWords rest
  | [last] => [last.toNat * 256]
  | [] => []

/-- The sum of the half words with end-around carry. -/
def onesSum : Nat := (halfWords bytes).foldl onesAdd 0

/-- A word with its two bytes exchanged. -/
def byteSwap (value : Nat) : Nat := value % 256 * 256 + value / 256

def swapPairs : List Byte -> List Byte
  | first :: second :: rest => second :: first :: swapPairs rest
  | rest => rest

theorem halfWord_lt {bytes : List Byte} {value : Nat} (member : value ∈ halfWords bytes) : value < 65536 := by
  induction bytes using halfWords.induct with
  | case1 high low rest ih =>
    rcases List.mem_cons.mp member with rfl | later
    · omega
    · exact ih later
  | case2 last =>
    rw [halfWords, List.mem_singleton] at member
    omega
  | case3 => cases member

theorem foldl_onesAdd {words : List Nat} (small : ∀ value ∈ words, value < 65536) {sum : Nat}
    (bound : sum < 65536) :
    words.foldl onesAdd sum < 65536 ∧ words.foldl onesAdd sum % 65535 = (sum + words.sum) % 65535 ∧
      (words.foldl onesAdd sum = 0 <-> sum + words.sum = 0) := by
  induction words generalizing sum with
  | nil => exact ⟨bound, rfl, Iff.rfl⟩
  | cons value rest ih =>
    have valueSmall := small value List.mem_cons_self
    have step : onesAdd sum value < 65536 ∧ onesAdd sum value % 65535 = (sum + value) % 65535 ∧
        (onesAdd sum value = 0 <-> sum + value = 0) := by
      unfold onesAdd
      omega
    rcases ih (fun other member => small other (List.mem_cons_of_mem _ member)) step.1
      with ⟨less, residue, zero⟩
    rw [List.foldl_cons, List.sum_cons]
    exact ⟨less, by omega, by omega⟩

theorem onesSum_spec :
    onesSum bytes < 65536 ∧ onesSum bytes % 65535 = (halfWords bytes).sum % 65535 ∧
      (onesSum bytes = 0 <-> (halfWords bytes).sum = 0) := by
  have ones := @foldl_onesAdd (halfWords bytes) (fun value member => halfWord_lt member) 0 (by decide)
  rw [Nat.zero_add] at ones
  exact ones

/-- What a sum folds to is known by its residue and whether it is zero. -/
theorem foldWord_eq {sum value : Nat} (fits : sum < 4294967296) (small : value < 65536)
    (residue : sum % 65535 = value % 65535) (zero : sum = 0 <-> value = 0) : foldWord sum = value := by
  by_cases positive : 0 < sum
  · have spec := foldWord_pos positive fits
    omega
  · have none : sum = 0 := by omega
    rw [none, zero.mp none]
    rfl

/-- Exchanging the bytes multiplies by 256 in the residues. -/
theorem byteSwap_spec (small : value < 65536) :
    byteSwap value < 65536 ∧ byteSwap value % 65535 = 256 * value % 65535 ∧
      (byteSwap value = 0 <-> value = 0) ∧ byteSwap (65535 - value) = 65535 - byteSwap value := by
  unfold byteSwap
  omega

theorem byteSwap_halves (small : value < 65536) :
    byteSwap value / 256 = value % 256 ∧ byteSwap value % 256 = value / 256 := by
  unfold byteSwap
  omega

theorem wordSum_swapPairs :
    wordSum (swapPairs bytes) % 65535 = 256 * (halfWords bytes).sum % 65535 ∧
      (wordSum (swapPairs bytes) = 0 <-> (halfWords bytes).sum = 0) := by
  induction bytes using halfWords.induct with
  | case1 high low rest ih =>
    rw [swapPairs, wordSum_cons, halfWords, List.sum_cons]
    omega
  | case2 last =>
    simp only [swapPairs, wordSum, halfWords, List.sum_cons, List.sum_nil]
    omega
  | case3 => decide

/-- The byte that is left over counts for less in the plain sum. -/
theorem halfWords_sum :
    (halfWords bytes).sum =
      wordSum bytes + if bytes.length % 2 = 1 then 255 * (bytes.getLastD 0).toNat else 0 := by
  induction bytes using halfWords.induct with
  | case1 high low rest ih =>
    rw [halfWords, List.sum_cons, wordSum_cons, ih]
    have parity : (high :: low :: rest).length % 2 = rest.length % 2 := by
      simp only [List.length_cons]
      omega
    rw [parity]
    cases rest with
    | nil => simp
    | cons next more =>
      simp only [List.getLastD_cons]
      omega
  | case2 last =>
    simp only [halfWords, wordSum, List.sum_cons, List.sum_nil, List.length_cons, List.length_nil,
      List.getLastD_cons, List.getLastD_nil, if_true]
    omega
  | case3 => rfl

theorem swapPairs_append {front : List Byte} (even : front.length % 2 = 0) (rest : List Byte) :
    swapPairs (front ++ rest) = swapPairs front ++ swapPairs rest := by
  induction front using wordSum.induct with
  | case1 first second front ih =>
    have shorter : front.length % 2 = 0 := by
      simp only [List.length_cons] at even
      omega
    rw [List.cons_append, List.cons_append, swapPairs, ih shorter]
    rfl
  | case2 last => simp at even
  | case3 => rfl

theorem length_swapPairs : (swapPairs bytes).length = bytes.length := by
  induction bytes using swapPairs.induct with
  | case1 first second rest ih => simp only [swapPairs, List.length_cons, ih]
  | case2 rest short => rw [swapPairs.eq_def]; split <;> simp_all

end MediaTransport.Library
