import MediaTransport.Library.Fields
import MediaTransport.Library.GroupLoop

namespace MediaTransport.Convert

open Library

/-!
# Pixel groups in memory

The packed formats keep the samples of a group of pixels in bit fields.  Each
sample has a field with its first bits and one with its second bits; in the
big-endian formats the first bits are the high ones, in the little-endian
formats the low ones.  The layouts are those of a little-endian machine, where
the first of two fields in a byte is its low part.
-/

variable (group : Planes Byte)

abbrev Sample := BitVec 16

def sizesOf (sizes : List Nat) : Nat -> Nat := fun plane => sizes.getD plane 0

def planesOf (lists : List (List Byte)) : Planes Byte :=
  fun plane offset => (lists.getD plane []).getD offset 0

@[simp] theorem sizesOf_zero (size : Nat) (sizes : List Nat) : sizesOf (size :: sizes) 0 = size := rfl

@[simp] theorem sizesOf_one (size other : Nat) (sizes : List Nat) :
    sizesOf (size :: other :: sizes) 1 = other := rfl

@[simp] theorem sizesOf_two (size other third : Nat) (sizes : List Nat) :
    sizesOf (size :: other :: third :: sizes) 2 = third := rfl

@[simp] theorem planesOf_zero (bytes : List Byte) (lists : List (List Byte)) (offset : Nat) :
    planesOf (bytes :: lists) 0 offset = bytes.getD offset 0 := rfl

@[simp] theorem planesOf_one (bytes other : List Byte) (lists : List (List Byte)) (offset : Nat) :
    planesOf (bytes :: other :: lists) 1 offset = other.getD offset 0 := rfl

@[simp] theorem planesOf_two (bytes other third : List Byte) (lists : List (List Byte)) (offset : Nat) :
    planesOf (bytes :: other :: third :: lists) 2 offset = third.getD offset 0 := rfl

theorem stored_list {bytes : List Byte} {group : Planes Byte} {size plane offset : Nat}
    {store : Planes Byte} (stored : store = planesOf [bytes]) (inside : offset < sizesOf [size] plane)
    (same : ∀ offset < size, bytes.getD offset 0 = group 0 offset) :
    store plane offset = group plane offset := by
  rw [stored]
  cases plane with
  | zero => exact same offset inside
  | succ plane => exact absurd inside (Nat.not_lt_zero offset)

/-- `struct st20_rfc4175_422_10_pg2_be` -/
structure St20Rfc4175_422_10_Pg2Be where
  cb00 : BitVec 8
  y00 : BitVec 6
  cb00_ : BitVec 2
  cr00 : BitVec 4
  y00_ : BitVec 4
  y01 : BitVec 2
  cr00_ : BitVec 6
  y01_ : BitVec 8

namespace St20Rfc4175_422_10_Pg2Be

def load : St20Rfc4175_422_10_Pg2Be where
  cb00 := group 0 0
  y00 := (group 0 1).extractLsb' 0 6
  cb00_ := (group 0 1).extractLsb' 6 2
  cr00 := (group 0 2).extractLsb' 0 4
  y00_ := (group 0 2).extractLsb' 4 4
  y01 := (group 0 3).extractLsb' 0 2
  cr00_ := (group 0 3).extractLsb' 2 6
  y01_ := group 0 4

def bytes (pg : St20Rfc4175_422_10_Pg2Be) : List Byte :=
  [pg.cb00, joined 8 pg.cb00_ pg.y00, joined 8 pg.y00_ pg.cr00, joined 8 pg.cr00_ pg.y01, pg.y01_]

def format : GroupFormat Byte St20Rfc4175_422_10_Pg2Be where
  size := sizesOf [5]
  load := load
  store pg := planesOf [pg.bytes]
  reads {first second} same := by
    have here : ∀ offset < 5, first 0 offset = second 0 offset := same 0
    simp [load, here]
  load_store pg := by simp [load, bytes]
  store_load group plane offset inside := by
    apply stored_list rfl inside
    intro offset inside
    interval_cases offset <;> simp [load, bytes]

end St20Rfc4175_422_10_Pg2Be

/-- `struct st20_rfc4175_422_10_pg2_le` -/
structure St20Rfc4175_422_10_Pg2Le where
  cb00 : BitVec 8
  cb00_ : BitVec 2
  y00 : BitVec 6
  y00_ : BitVec 4
  cr00 : BitVec 4
  cr00_ : BitVec 6
  y01 : BitVec 2
  y01_ : BitVec 8

namespace St20Rfc4175_422_10_Pg2Le

def load : St20Rfc4175_422_10_Pg2Le where
  cb00 := group 0 0
  cb00_ := (group 0 1).extractLsb' 0 2
  y00 := (group 0 1).extractLsb' 2 6
  y00_ := (group 0 2).extractLsb' 0 4
  cr00 := (group 0 2).extractLsb' 4 4
  cr00_ := (group 0 3).extractLsb' 0 6
  y01 := (group 0 3).extractLsb' 6 2
  y01_ := group 0 4

def bytes (pg : St20Rfc4175_422_10_Pg2Le) : List Byte :=
  [pg.cb00, joined 8 pg.y00 pg.cb00_, joined 8 pg.cr00 pg.y00_, joined 8 pg.y01 pg.cr00_, pg.y01_]

def format : GroupFormat Byte St20Rfc4175_422_10_Pg2Le where
  size := sizesOf [5]
  load := load
  store pg := planesOf [pg.bytes]
  reads {first second} same := by
    have here : ∀ offset < 5, first 0 offset = second 0 offset := same 0
    simp [load, here]
  load_store pg := by simp [load, bytes]
  store_load group plane offset inside := by
    apply stored_list rfl inside
    intro offset inside
    interval_cases offset <;> simp [load, bytes]

end St20Rfc4175_422_10_Pg2Le

/-- `struct st20_rfc4175_422_12_pg2_be` -/
structure St20Rfc4175_422_12_Pg2Be where
  cb00 : BitVec 8
  y00 : BitVec 4
  cb00_ : BitVec 4
  y00_ : BitVec 8
  cr00 : BitVec 8
  y01 : BitVec 4
  cr00_ : BitVec 4
  y01_ : BitVec 8

namespace St20Rfc4175_422_12_Pg2Be

def load : St20Rfc4175_422_12_Pg2Be where
  cb00 := group 0 0
  y00 := (group 0 1).extractLsb' 0 4
  cb00_ := (group 0 1).extractLsb' 4 4
  y00_ := group 0 2
  cr00 := group 0 3
  y01 := (group 0 4).extractLsb' 0 4
  cr00_ := (group 0 4).extractLsb' 4 4
  y01_ := group 0 5

def bytes (pg : St20Rfc4175_422_12_Pg2Be) : List Byte :=
  [pg.cb00, joined 8 pg.cb00_ pg.y00, pg.y00_, pg.cr00, joined 8 pg.cr00_ pg.y01, pg.y01_]

def format : GroupFormat Byte St20Rfc4175_422_12_Pg2Be where
  size := sizesOf [6]
  load := load
  store pg := planesOf [pg.bytes]
  reads {first second} same := by
    have here : ∀ offset < 6, first 0 offset = second 0 offset := same 0
    simp [load, here]
  load_store pg := by simp [load, bytes]
  store_load group plane offset inside := by
    apply stored_list rfl inside
    intro offset inside
    interval_cases offset <;> simp [load, bytes]

end St20Rfc4175_422_12_Pg2Be

/-- `struct st20_rfc4175_422_12_pg2_le` -/
structure St20Rfc4175_422_12_Pg2Le where
  cb00 : BitVec 8
  cb00_ : BitVec 4
  y00 : BitVec 4
  y00_ : BitVec 8
  cr00 : BitVec 8
  cr00_ : BitVec 4
  y01 : BitVec 4
  y01_ : BitVec 8

namespace St20Rfc4175_422_12_Pg2Le

def load : St20Rfc4175_422_12_Pg2Le where
  cb00 := group 0 0
  cb00_ := (group 0 1).extractLsb' 0 4
  y00 := (group 0 1).extractLsb' 4 4
  y00_ := group 0 2
  cr00 := group 0 3
  cr00_ := (group 0 4).extractLsb' 0 4
  y01 := (group 0 4).extractLsb' 4 4
  y01_ := group 0 5

def bytes (pg : St20Rfc4175_422_12_Pg2Le) : List Byte :=
  [pg.cb00, joined 8 pg.y00 pg.cb00_, pg.y00_, pg.cr00, joined 8 pg.y01 pg.cr00_, pg.y01_]

def format : GroupFormat Byte St20Rfc4175_422_12_Pg2Le where
  size := sizesOf [6]
  load := load
  store pg := planesOf [pg.bytes]
  reads {first second} same := by
    have here : ∀ offset < 6, first 0 offset = second 0 offset := same 0
    simp [load, here]
  load_store pg := by simp [load, bytes]
  store_load group plane offset inside := by
    apply stored_list rfl inside
    intro offset inside
    interval_cases offset <;> simp [load, bytes]

end St20Rfc4175_422_12_Pg2Le

/-- `struct st20_rfc4175_444_10_pg4_be` -/
structure St20Rfc4175_444_10_Pg4Be where
  cbR00 : BitVec 8
  yG00 : BitVec 6
  cbR00_ : BitVec 2
  crB00 : BitVec 4
  yG00_ : BitVec 4
  cbR01 : BitVec 2
  crB00_ : BitVec 6
  cbR01_ : BitVec 8
  yG01 : BitVec 8
  crB01 : BitVec 6
  yG01_ : BitVec 2
  cbR02 : BitVec 4
  crB01_ : BitVec 4
  yG02 : BitVec 2
  cbR02_ : BitVec 6
  yG02_ : BitVec 8
  crB02 : BitVec 8
  cbR03 : BitVec 6
  crB02_ : BitVec 2
  yG03 : BitVec 4
  cbR03_ : BitVec 4
  crB03 : BitVec 2
  yG03_ : BitVec 6
  crB03_ : BitVec 8

namespace St20Rfc4175_444_10_Pg4Be

def load : St20Rfc4175_444_10_Pg4Be where
  cbR00 := group 0 0
  yG00 := (group 0 1).extractLsb' 0 6
  cbR00_ := (group 0 1).extractLsb' 6 2
  crB00 := (group 0 2).extractLsb' 0 4
  yG00_ := (group 0 2).extractLsb' 4 4
  cbR01 := (group 0 3).extractLsb' 0 2
  crB00_ := (group 0 3).extractLsb' 2 6
  cbR01_ := group 0 4
  yG01 := group 0 5
  crB01 := (group 0 6).extractLsb' 0 6
  yG01_ := (group 0 6).extractLsb' 6 2
  cbR02 := (group 0 7).extractLsb' 0 4
  crB01_ := (group 0 7).extractLsb' 4 4
  yG02 := (group 0 8).extractLsb' 0 2
  cbR02_ := (group 0 8).extractLsb' 2 6
  yG02_ := group 0 9
  crB02 := group 0 10
  cbR03 := (group 0 11).extractLsb' 0 6
  crB02_ := (group 0 11).extractLsb' 6 2
  yG03 := (group 0 12).extractLsb' 0 4
  cbR03_ := (group 0 12).extractLsb' 4 4
  crB03 := (group 0 13).extractLsb' 0 2
  yG03_ := (group 0 13).extractLsb' 2 6
  crB03_ := group 0 14

def bytes (pg : St20Rfc4175_444_10_Pg4Be) : List Byte :=
  [pg.cbR00, joined 8 pg.cbR00_ pg.yG00, joined 8 pg.yG00_ pg.crB00, joined 8 pg.crB00_ pg.cbR01,
    pg.cbR01_, pg.yG01, joined 8 pg.yG01_ pg.crB01, joined 8 pg.crB01_ pg.cbR02,
    joined 8 pg.cbR02_ pg.yG02, pg.yG02_, pg.crB02, joined 8 pg.crB02_ pg.cbR03,
    joined 8 pg.cbR03_ pg.yG03, joined 8 pg.yG03_ pg.crB03, pg.crB03_]

def format : GroupFormat Byte St20Rfc4175_444_10_Pg4Be where
  size := sizesOf [15]
  load := load
  store pg := planesOf [pg.bytes]
  reads {first second} same := by
    have here : ∀ offset < 15, first 0 offset = second 0 offset := same 0
    simp [load, here]
  load_store pg := by simp [load, bytes]
  store_load group plane offset inside := by
    apply stored_list rfl inside
    intro offset inside
    interval_cases offset <;> simp [load, bytes]

end St20Rfc4175_444_10_Pg4Be

/-- `struct st20_rfc4175_444_10_pg4_le` -/
structure St20Rfc4175_444_10_Pg4Le where
  cbR00 : BitVec 8
  cbR00_ : BitVec 2
  yG00 : BitVec 6
  yG00_ : BitVec 4
  crB00 : BitVec 4
  crB00_ : BitVec 6
  cbR01 : BitVec 2
  cbR01_ : BitVec 8
  yG01 : BitVec 8
  yG01_ : BitVec 2
  crB01 : BitVec 6
  crB01_ : BitVec 4
  cbR02 : BitVec 4
  cbR02_ : BitVec 6
  yG02 : BitVec 2
  yG02_ : BitVec 8
  crB02 : BitVec 8
  crB02_ : BitVec 2
  cbR03 : BitVec 6
  cbR03_ : BitVec 4
  yG03 : BitVec 4
  yG03_ : BitVec 6
  crB03 : BitVec 2
  crB03_ : BitVec 8

namespace St20Rfc4175_444_10_Pg4Le

def load : St20Rfc4175_444_10_Pg4Le where
  cbR00 := group 0 0
  cbR00_ := (group 0 1).extractLsb' 0 2
  yG00 := (group 0 1).extractLsb' 2 6
  yG00_ := (group 0 2).extractLsb' 0 4
  crB00 := (group 0 2).extractLsb' 4 4
  crB00_ := (group 0 3).extractLsb' 0 6
  cbR01 := (group 0 3).extractLsb' 6 2
  cbR01_ := group 0 4
  yG01 := group 0 5
  yG01_ := (group 0 6).extractLsb' 0 2
  crB01 := (group 0 6).extractLsb' 2 6
  crB01_ := (group 0 7).extractLsb' 0 4
  cbR02 := (group 0 7).extractLsb' 4 4
  cbR02_ := (group 0 8).extractLsb' 0 6
  yG02 := (group 0 8).extractLsb' 6 2
  yG02_ := group 0 9
  crB02 := group 0 10
  crB02_ := (group 0 11).extractLsb' 0 2
  cbR03 := (group 0 11).extractLsb' 2 6
  cbR03_ := (group 0 12).extractLsb' 0 4
  yG03 := (group 0 12).extractLsb' 4 4
  yG03_ := (group 0 13).extractLsb' 0 6
  crB03 := (group 0 13).extractLsb' 6 2
  crB03_ := group 0 14

def bytes (pg : St20Rfc4175_444_10_Pg4Le) : List Byte :=
  [pg.cbR00, joined 8 pg.yG00 pg.cbR00_, joined 8 pg.crB00 pg.yG00_, joined 8 pg.cbR01 pg.crB00_,
    pg.cbR01_, pg.yG01, joined 8 pg.crB01 pg.yG01_, joined 8 pg.cbR02 pg.crB01_,
    joined 8 pg.yG02 pg.cbR02_, pg.yG02_, pg.crB02, joined 8 pg.cbR03 pg.crB02_,
    joined 8 pg.yG03 pg.cbR03_, joined 8 pg.crB03 pg.yG03_, pg.crB03_]

def format : GroupFormat Byte St20Rfc4175_444_10_Pg4Le where
  size := sizesOf [15]
  load := load
  store pg := planesOf [pg.bytes]
  reads {first second} same := by
    have here : ∀ offset < 15, first 0 offset = second 0 offset := same 0
    simp [load, here]
  load_store pg := by simp [load, bytes]
  store_load group plane offset inside := by
    apply stored_list rfl inside
    intro offset inside
    interval_cases offset <;> simp [load, bytes]

end St20Rfc4175_444_10_Pg4Le

/-- `struct st20_rfc4175_444_12_pg2_be` -/
structure St20Rfc4175_444_12_Pg2Be where
  cbR00 : BitVec 8
  yG00 : BitVec 4
  cbR00_ : BitVec 4
  yG00_ : BitVec 8
  crB00 : BitVec 8
  cbR01 : BitVec 4
  crB00_ : BitVec 4
  cbR01_ : BitVec 8
  yG01 : BitVec 8
  crB01 : BitVec 4
  yG01_ : BitVec 4
  crB01_ : BitVec 8

namespace St20Rfc4175_444_12_Pg2Be

def load : St20Rfc4175_444_12_Pg2Be where
  cbR00 := group 0 0
  yG00 := (group 0 1).extractLsb' 0 4
  cbR00_ := (group 0 1).extractLsb' 4 4
  yG00_ := group 0 2
  crB00 := group 0 3
  cbR01 := (group 0 4).extractLsb' 0 4
  crB00_ := (group 0 4).extractLsb' 4 4
  cbR01_ := group 0 5
  yG01 := group 0 6
  crB01 := (group 0 7).extractLsb' 0 4
  yG01_ := (group 0 7).extractLsb' 4 4
  crB01_ := group 0 8

def bytes (pg : St20Rfc4175_444_12_Pg2Be) : List Byte :=
  [pg.cbR00, joined 8 pg.cbR00_ pg.yG00, pg.yG00_, pg.crB00, joined 8 pg.crB00_ pg.cbR01, pg.cbR01_,
    pg.yG01, joined 8 pg.yG01_ pg.crB01, pg.crB01_]

def format : GroupFormat Byte St20Rfc4175_444_12_Pg2Be where
  size := sizesOf [9]
  load := load
  store pg := planesOf [pg.bytes]
  reads {first second} same := by
    have here : ∀ offset < 9, first 0 offset = second 0 offset := same 0
    simp [load, here]
  load_store pg := by simp [load, bytes]
  store_load group plane offset inside := by
    apply stored_list rfl inside
    intro offset inside
    interval_cases offset <;> simp [load, bytes]

end St20Rfc4175_444_12_Pg2Be

/-- `struct st20_rfc4175_444_12_pg2_le` -/
structure St20Rfc4175_444_12_Pg2Le where
  cbR00 : BitVec 8
  cbR00_ : BitVec 4
  yG00 : BitVec 4
  yG00_ : BitVec 8
  crB00 : BitVec 8
  crB00_ : BitVec 4
  cbR01 : BitVec 4
  cbR01_ : BitVec 8
  yG01 : BitVec 8
  yG01_ : BitVec 4
  crB01 : BitVec 4
  crB01_ : BitVec 8

namespace St20Rfc4175_444_12_Pg2Le

def load : St20Rfc4175_444_12_Pg2Le where
  cbR00 := group 0 0
  cbR00_ := (group 0 1).extractLsb' 0 4
  yG00 := (group 0 1).extractLsb' 4 4
  yG00_ := group 0 2
  crB00 := group 0 3
  crB00_ := (group 0 4).extractLsb' 0 4
  cbR01 := (group 0 4).extractLsb' 4 4
  cbR01_ := group 0 5
  yG01 := group 0 6
  yG01_ := (group 0 7).extractLsb' 0 4
  crB01 := (group 0 7).extractLsb' 4 4
  crB01_ := group 0 8

def bytes (pg : St20Rfc4175_444_12_Pg2Le) : List Byte :=
  [pg.cbR00, joined 8 pg.yG00 pg.cbR00_, pg.yG00_, pg.crB00, joined 8 pg.cbR01 pg.crB00_, pg.cbR01_,
    pg.yG01, joined 8 pg.crB01 pg.yG01_, pg.crB01_]

def format : GroupFormat Byte St20Rfc4175_444_12_Pg2Le where
  size := sizesOf [9]
  load := load
  store pg := planesOf [pg.bytes]
  reads {first second} same := by
    have here : ∀ offset < 9, first 0 offset = second 0 offset := same 0
    simp [load, here]
  load_store pg := by simp [load, bytes]
  store_load group plane offset inside := by
    apply stored_list rfl inside
    intro offset inside
    interval_cases offset <;> simp [load, bytes]

end St20Rfc4175_444_12_Pg2Le

end MediaTransport.Convert
