import Mathlib.Data.List.GetD
import MediaTransport.Net.Dhcp

namespace MediaTransport.Net

open Library

/-!
# The options of a DHCP message

The client is given no length with a message.  It follows the length bytes from one
option to the next until it comes to the end marker, and takes a pad for an option with
a length.  A read outside the message is modelled as a loop that has no result.
-/

/-! ## Reads -/

variable (dhcp : MtDhcpImpl)

def dhcpHdrOf (msg : List Byte) : MtDhcpHdr where
  op := (msg.getD 0 0).toNat
  xid := dhcpNtohl (msg.drop 4)
  yiaddr := (msg.drop 16).take 4
  magicCookie := dhcpNtohl (msg.drop 236)
  options := msg.drop 240

/-- The loop of `dhcp_recv_offer` and of `dhcp_recv_ack` over the bytes of the message from an option on;
`copies` says of which options four bytes of data are copied.  The options that it comes to, and the bytes
from the end marker on; there is no result when a read is outside the message or the fuel is used up. -/
def dhcpLoop (copies : Nat -> Bool) : Nat -> List Byte -> Option (List (Nat × List Byte) × List Byte)
  | 0, _ => none
  | fuel + 1, bytes =>
    match bytes with
    | [] => none
    | code :: rest =>
      if code.toNat = 255 then
        some ([], bytes)
      else if copies code.toNat && decide (rest.length < 5) then
        none
      else
        match rest with
        | [] => none
        | len :: data =>
          (dhcpLoop copies fuel (data.drop len.toNat)).map fun later =>
            ((code.toNat, data) :: later.1, later.2)

/-- The options that are copied for an OFFER and for an ACK: mask, router, lease time and server. -/
def dhcpCopies (messageType code : Nat) : Bool :=
  decide (code = 54) ||
    (decide (messageType = 5) && (decide (code = 1) || decide (code = 3) || decide (code = 51)))

/-- The checks of `mt_dhcp_parse` on the fixed part of a message. -/
def MtDhcpImpl.identifies (hdr : MtDhcpHdr) : Bool :=
  decide (hdr.magicCookie = 0x63825363) && decide (hdr.op = 2) && decide (hdr.xid = dhcp.xid)

/-- The options of a message are looped over: it is an ACK, or an OFFER that is waited for. -/
def MtDhcpImpl.walks (hdr : MtDhcpHdr) : Bool :=
  dhcp.accepts hdr &&
    (decide (hdr.messageType = 5) || (decide (hdr.messageType = 2) && decide (dhcp.status = .discovering)))

/-- `mt_dhcp_parse` comes to its end, and all that it reads on the way is in the message. -/
def MtDhcpImpl.parsesInside (fuel : Nat) (msg : List Byte) : Bool :=
  let hdr := dhcpHdrOf msg
  if msg.length < 240 then false
  else if !dhcp.identifies hdr then true
  else if msg.length < 241 then false
  else if !dhcp.accepts hdr then true
  else if msg.length < 243 then false
  else if dhcp.walks hdr then (dhcpLoop (dhcpCopies hdr.messageType) fuel hdr.options).isSome
  else true

/-! ## Lists of options -/

/-- An item of an option list. -/
inductive DhcpOption where
  | pad
  | option (code : Nat) (data : List Byte)
  deriving DecidableEq

def DhcpOption.bytes : DhcpOption -> List Byte
  | .pad => [0]
  | .option code data => BitVec.ofNat 8 code :: BitVec.ofNat 8 data.length :: data

def DhcpOption.dataOf (code : Nat) : DhcpOption -> Option (List Byte)
  | .pad => none
  | .option other data => if other = code then some data else none

def DhcpOption.Valid : DhcpOption -> Prop
  | .pad => True
  | .option code data => 0 < code ∧ code < 255 ∧ data.length < 256

/-- An option list that begins with the message type, in which mask, router, lease time and server come at
most once and have the lengths that belong to them. -/
structure RfcOptions (opts : List DhcpOption) : Prop where
  valid : ∀ item ∈ opts, item.Valid
  type : exists type rest, opts = .option 53 [type] :: rest
  lengths : forall code data, .option code data ∈ opts -> code = 1 ∨ code = 51 ∨ code = 54 -> data.length = 4
  routers : forall data, .option 3 data ∈ opts -> 4 ≤ data.length ∧ data.length % 4 = 0
  once : forall code, code = 1 ∨ code = 3 ∨ code = 51 ∨ code = 54 ->
    (opts.filterMap (DhcpOption.dataOf code)).length ≤ 1

def optionBytes (opts : List DhcpOption) : List Byte := opts.flatMap DhcpOption.bytes

def presentOptions : List DhcpOption -> List Byte -> List (Nat × List Byte)
  | [], _ => []
  | .pad :: opts, rest => presentOptions opts rest
  | .option code data :: opts, rest => (code, data ++ optionBytes opts ++ rest) :: presentOptions opts rest

def addressIn (opts : List DhcpOption) (code : Nat) (kept : List Byte) : List Byte :=
  match opts.filterMap (DhcpOption.dataOf code) with
  | [] => kept
  | data :: _ => data.take 4

def leaseTimeIn (opts : List DhcpOption) : Nat :=
  match opts.filterMap (DhcpOption.dataOf 51) with
  | [] => 0
  | data :: _ => dhcpNtohl data

/-! ## What is promised -/

/-- The client has stored what the message and the list of its options say. -/
structure DhcpStored (dhcp after : MtDhcpImpl) (hdr : MtDhcpHdr) (opts : List DhcpOption) : Prop where
  ip : after.ip = hdr.yiaddr
  serverIp : after.serverIp = addressIn opts 54 dhcp.serverIp
  netmask : hdr.messageType = 5 -> after.netmask = addressIn opts 1 dhcp.netmask
  gateway : hdr.messageType = 5 -> after.gateway = addressIn opts 3 dhcp.gateway
  lease : hdr.messageType = 5 -> after.leaseEndUs = dhcp.nowUs + leaseTimeIn opts * 1000000

/-- The loop takes just the options of the list, each at its place, and stops at the end of the list. -/
def LoopTakes (messageType : Nat) (opts : List DhcpOption) (trailing : List Byte) : Prop :=
  forall fuel taken stop,
    dhcpLoop (dhcpCopies messageType) fuel (optionBytes opts ++ 255 :: trailing) = some (taken, stop) ->
      taken.filter (fun option => decide (option.1 ≠ 0)) = presentOptions opts (255 :: trailing) ∧
        stop = 255 :: trailing

/-- The message is parsed within its bytes, and what is taken and stored from a list of options is what the
list has. -/
structure DhcpOptionsRight (dhcp : MtDhcpImpl) (msg : List Byte) (room : Nat) (sent : Bool) : Prop where
  inside : exists fuel, dhcp.parsesInside fuel msg = true
  listed : forall opts trailing, RfcOptions opts ->
    (dhcpHdrOf msg).options = optionBytes opts ++ 255 :: trailing -> dhcp.walks (dhcpHdrOf msg) = true ->
      LoopTakes (dhcpHdrOf msg).messageType opts trailing ∧
        DhcpStored dhcp (mtDhcpParse dhcp (dhcpHdrOf msg) room sent).1 (dhcpHdrOf msg) opts

/-- Read as codes, lengths and data, pads included, the bytes come to an end marker, and four bytes follow
the length of each option that is copied. -/
inductive Chained (copies : Nat -> Bool) : List Byte -> Prop where
  | stop (rest : List Byte) : Chained copies (255 :: rest)
  | next (code len : Byte) (data rest : List Byte) : code.toNat ≠ 255 -> data.length = len.toNat ->
      (copies code.toNat = true -> 4 ≤ data.length + rest.length) -> Chained copies rest ->
        Chained copies (code :: len :: (data ++ rest))

def PairedPads : List DhcpOption -> Prop
  | [] => True
  | .pad :: .pad :: opts => PairedPads opts
  | .pad :: _ => False
  | .option _ _ :: opts => PairedPads opts

/-- The message has its fixed part and, as far as it is looked at, its message type; where its options are
looped over they are chained to an end in the message; and a list of options has its pads in pairs. -/
structure DhcpOptionsSafe (dhcp : MtDhcpImpl) (msg : List Byte) : Prop where
  fixed : 240 ≤ msg.length
  first : dhcp.identifies (dhcpHdrOf msg) = true -> 241 ≤ msg.length
  type : dhcp.accepts (dhcpHdrOf msg) = true -> 243 ≤ msg.length
  chained : dhcp.walks (dhcpHdrOf msg) = true ->
    Chained (dhcpCopies (dhcpHdrOf msg).messageType) (dhcpHdrOf msg).options
  paired : forall opts trailing, RfcOptions opts ->
    (dhcpHdrOf msg).options = optionBytes opts ++ 255 :: trailing -> dhcp.walks (dhcpHdrOf msg) = true ->
      PairedPads opts

/-! ## The loop -/

section
variable {copies : Nat -> Bool}

theorem dhcpLoop_next (fuel : Nat) {code len : Byte} (data : List Byte) (goes : code.toNat ≠ 255)
    (copied : copies code.toNat = true -> 4 ≤ data.length) :
    dhcpLoop copies (fuel + 1) (code :: len :: data) =
      (dhcpLoop copies fuel (data.drop len.toNat)).map fun later =>
        ((code.toNat, data) :: later.1, later.2) := by
  have inside : ¬ ((copies code.toNat && decide ((len :: data).length < 5)) = true) := by
    simp only [Bool.and_eq_true, decide_eq_true_eq, List.length_cons, not_and]
    intro copy
    have four := copied copy
    omega
  rw [dhcpLoop, if_neg goes, if_neg inside]

section

variable {fuel : Nat} {bytes stop : List Byte} {taken : List (Nat × List Byte)}
    (result : dhcpLoop copies fuel bytes = some (taken, stop))

include result

theorem dhcpLoop_cases :
    (exists rest, bytes = 255 :: rest ∧ taken = [] ∧ stop = bytes) ∨
      exists (before : Nat) (code len : Byte) (data : List Byte) (later : List (Nat × List Byte)),
        fuel = before + 1 ∧ bytes = code :: len :: data ∧ code.toNat ≠ 255 ∧
          (copies code.toNat = true -> 4 ≤ data.length) ∧ taken = (code.toNat, data) :: later ∧
          dhcpLoop copies before (data.drop len.toNat) = some (later, stop) := by
  cases fuel with
  | zero => cases result
  | succ fuel =>
    match bytes with
    | [] => cases result
    | code :: rest =>
      unfold dhcpLoop at result
      dsimp only at result
      by_cases ends : code.toNat = 255
      · rw [if_pos ends] at result
        have marker : code = 255 := BitVec.eq_of_toNat_eq ends
        cases result
        exact .inl ⟨rest, by rw [marker], rfl, rfl⟩
      · rw [if_neg ends] at result
        by_cases short : (copies code.toNat && decide (rest.length < 5)) = true
        · rw [if_pos short] at result
          cases result
        · rw [if_neg short] at result
          match rest with
          | [] => cases result
          | len :: data =>
            simp only [Option.map_eq_some_iff, Prod.mk.injEq] at result
            rcases result with ⟨later, found, rfl, rfl⟩
            refine .inr ⟨fuel, code, len, data, later.1, rfl, rfl, ends, ?_, rfl, found⟩
            intro copy
            simp only [copy, Bool.true_and, decide_eq_true_eq, List.length_cons] at short
            omega

theorem dhcpLoop_bounds :
    stop.length ≤ bytes.length ∧ taken.length < bytes.length ∧
      ∀ option ∈ taken, option.2.length + 2 ≤ bytes.length := by
  induction fuel generalizing bytes taken with
  | zero => cases result
  | succ fuel ih =>
    rcases dhcpLoop_cases result with
      ⟨rest, rfl, rfl, rfl⟩ | ⟨before, code, len, data, later, same, rfl, -, -, rfl, found⟩
    · exact ⟨Nat.le_refl _, by simp, by simp⟩
    · obtain rfl : fuel = before := by omega
      rcases ih found with ⟨ends, fewer, inside⟩
      rw [List.length_drop] at ends fewer
      simp only [List.length_cons]
      refine ⟨by omega, by omega, ?_⟩
      intro option member
      rcases List.mem_cons.mp member with rfl | old
      · exact Nat.le_refl _
      · have bound := inside option old
        rw [List.length_drop] at bound
        omega

end

theorem dhcpLoop_isSome_iff (bytes : List Byte) :
    (exists fuel, (dhcpLoop copies fuel bytes).isSome = true) ↔ Chained copies bytes := by
  constructor
  · rintro ⟨fuel, ended⟩
    rcases Option.isSome_iff_exists.mp ended with ⟨⟨taken, stop⟩, result⟩
    clear ended
    induction fuel generalizing bytes taken with
    | zero => cases result
    | succ fuel ih =>
      rcases dhcpLoop_cases result with
        ⟨rest, rfl, -, -⟩ | ⟨before, code, len, data, later, same, rfl, goes, copied, -, found⟩
      · exact Chained.stop rest
      · obtain rfl : fuel = before := by omega
        have inside := (dhcpLoop_bounds found).2.1
        rw [List.length_drop] at inside
        have whole := List.take_append_drop len.toNat data
        rw [<- whole]
        refine Chained.next code len _ _ goes (by rw [List.length_take]; omega) ?_ (ih _ later found)
        intro copy
        have four := copied copy
        rw [List.length_take, List.length_drop]
        omega
  · intro chained
    induction chained with
    | stop rest => exact ⟨1, rfl⟩
    | next code len data rest goes length copied _ ih =>
      rcases ih with ⟨fuel, ended⟩
      refine ⟨fuel + 1, ?_⟩
      rw [dhcpLoop_next fuel (data ++ rest) goes (by simpa using copied), <- length, List.drop_left,
        Option.isSome_map]
      exact ended

theorem dhcpOptionsFrom_eq {fuel : Nat} {bytes stop : List Byte} {taken : List (Nat × List Byte)}
    (result : dhcpLoop copies fuel bytes = some (taken, stop)) (enough : Nat) (fits : taken.length < enough) :
    dhcpOptionsFrom enough bytes = taken := by
  induction fuel generalizing bytes taken enough with
  | zero => cases result
  | succ fuel ih =>
    cases enough with
    | zero => omega
    | succ enough =>
      rcases dhcpLoop_cases result with
        ⟨rest, rfl, rfl, -⟩ | ⟨before, code, len, data, later, same, rfl, goes, -, rfl, found⟩
      · rfl
      · obtain rfl : fuel = before := by omega
        have rest := ih found enough (by simpa using fits)
        rw [dhcpOptionsFrom, if_neg (show ¬ dhcpOptionCode (code :: len :: data) = 255 from goes)]
        rw [<- rest]
        rfl

/-! ## Lists of options and their pads -/

theorem optionBytes_cons (item : DhcpOption) (opts : List DhcpOption) :
    optionBytes (item :: opts) = item.bytes ++ optionBytes opts := rfl

theorem optionBytes_pad (opts : List DhcpOption) (rest : List Byte) :
    optionBytes (.pad :: opts) ++ rest = 0 :: (optionBytes opts ++ rest) := rfl

variable {opts : List DhcpOption}

theorem optionBytes_option (code : Nat) (data : List Byte) (opts : List DhcpOption) (rest : List Byte) :
    optionBytes (.option code data :: opts) ++ rest =
      BitVec.ofNat 8 code :: BitVec.ofNat 8 data.length :: (data ++ (optionBytes opts ++ rest)) := by
  rw [optionBytes_cons, List.append_assoc]
  rfl

theorem toNat_length {code : Nat} {data : List Byte} (valid : (DhcpOption.option code data).Valid) :
    (BitVec.ofNat 8 code).toNat = code ∧ (BitVec.ofNat 8 data.length).toNat = data.length := by
  rcases valid with ⟨positive, small, short⟩
  rw [BitVec.toNat_ofNat, BitVec.toNat_ofNat]
  omega

theorem not_pairedPads_pad (apart : forall later, opts = .pad :: later -> False) :
    ¬ PairedPads (.pad :: opts) := by
  cases opts with
  | nil => exact id
  | cons item opts =>
    cases item with
    | pad => exact absurd rfl (apart opts)
    | option code data => exact id

theorem dhcpLoop_option (fuel : Nat) {code : Nat} {data : List Byte} (valid : (DhcpOption.option code data).Valid)
    (opts : List DhcpOption) (rest : List Byte) (copied : copies code = true -> 4 ≤ data.length) :
    dhcpLoop copies (fuel + 1) (optionBytes (.option code data :: opts) ++ rest) =
      (dhcpLoop copies fuel (optionBytes opts ++ rest)).map fun later =>
        ((code, data ++ (optionBytes opts ++ rest)) :: later.1, later.2) := by
  rcases toNat_length valid with ⟨codeBack, lengthBack⟩
  have goes : (BitVec.ofNat 8 code).toNat ≠ 255 := by
    have small := valid.2.1
    omega
  have inside : copies (BitVec.ofNat 8 code).toNat = true ->
      4 ≤ (data ++ (optionBytes opts ++ rest)).length := by
    rw [codeBack, List.length_append]
    intro copy
    have four := copied copy
    omega
  rw [optionBytes_option, dhcpLoop_next fuel _ goes inside, codeBack, lengthBack, List.drop_left]

theorem dhcpLoop_pads (fuel : Nat) (rest : List Byte) (unread : copies 0 = false) :
    dhcpLoop copies (fuel + 1) (0 :: 0 :: rest) =
      (dhcpLoop copies fuel rest).map fun later => ((0, rest) :: later.1, later.2) := by
  have inside : copies (0 : Byte).toNat = true -> 4 ≤ rest.length := by
    intro copy
    rw [show (0 : Byte).toNat = 0 from rfl, unread] at copy
    cases copy
  rw [dhcpLoop_next fuel rest (by decide) inside]
  rfl

theorem dhcpLoop_paired (valid : ∀ item ∈ opts, item.Valid) (unread : copies 0 = false)
    (copied : forall code data, .option code data ∈ opts -> copies code = true -> 4 ≤ data.length)
    (paired : PairedPads opts) (trailing : List Byte) :
    exists fuel taken, dhcpLoop copies fuel (optionBytes opts ++ 255 :: trailing) = some (taken, 255 :: trailing) ∧
      taken.filter (fun option => decide (option.1 ≠ 0)) = presentOptions opts (255 :: trailing) := by
  induction opts using PairedPads.induct with
  | case1 => exact ⟨1, [], rfl, rfl⟩
  | case2 opts ih =>
    rcases ih (fun item member => valid item (by simp [member]))
      (fun code data member => copied code data (by simp [member])) paired with ⟨fuel, taken, result, same⟩
    refine ⟨fuel + 1, (0, optionBytes opts ++ 255 :: trailing) :: taken, ?_, ?_⟩
    · have step := @dhcpLoop_pads copies fuel (optionBytes opts ++ 255 :: trailing) unread
      rw [result] at step
      exact step
    · exact same
  | case3 opts apart => exact absurd paired (not_pairedPads_pad apart)
  | case4 code data opts ih =>
    rcases ih (fun item member => valid item (by simp [member]))
      (fun code data member => copied code data (by simp [member])) paired with ⟨fuel, taken, result, same⟩
    have here := valid (.option code data) (by simp)
    refine ⟨fuel + 1, (code, data ++ (optionBytes opts ++ 255 :: trailing)) :: taken, ?_, ?_⟩
    · rw [dhcpLoop_option fuel here opts _ (copied code data (by simp)), result]
      rfl
    · have nonzero : code ≠ 0 := by
        have positive := here.1
        omega
      rw [List.filter_cons_of_pos (by simpa using nonzero), same, presentOptions, List.append_assoc]

/-- A loop that takes what is there and stops where the list ends has found the pads in pairs. -/
theorem pairedPads_of_taken (valid : ∀ item ∈ opts, item.Valid) {trailing : List Byte}
    {fuel : Nat} {taken : List (Nat × List Byte)}
    (result : dhcpLoop copies fuel (optionBytes opts ++ 255 :: trailing) = some (taken, 255 :: trailing))
    (same : taken.filter (fun option => decide (option.1 ≠ 0)) = presentOptions opts (255 :: trailing))
    :
    PairedPads opts := by
  induction opts using PairedPads.induct generalizing fuel taken with
  | case1 => trivial
  | case2 opts ih =>
    rw [optionBytes_pad, optionBytes_pad] at result
    rcases dhcpLoop_cases result with
      ⟨rest, starts, -, -⟩ | ⟨before, code, len, data, later, -, starts, -, -, rfl, found⟩
    · exact absurd (List.cons.inj starts).1 (by decide)
    · obtain ⟨rfl, tail⟩ := List.cons.inj starts
      obtain ⟨rfl, rfl⟩ := List.cons.inj tail
      exact ih (fun item member => valid item (by simp [member])) found same
  | case3 opts apart =>
    exfalso
    rw [optionBytes_pad] at result
    rcases dhcpLoop_cases result with
      ⟨rest, starts, -, -⟩ | ⟨before, code, len, data, later, -, starts, -, -, rfl, found⟩
    · exact absurd (List.cons.inj starts).1 (by decide)
    · obtain ⟨rfl, tail⟩ := List.cons.inj starts
      rcases dhcpLoop_bounds found with ⟨ends, -, inside⟩
      rw [List.length_drop] at ends
      cases opts with
      | nil =>
        -- the end marker is taken for the length of the pad
        obtain ⟨rfl, rfl⟩ := List.cons.inj tail
        simp only [List.length_cons] at ends
        rw [show (255 : Byte).toNat = 255 from rfl] at ends
        omega
      | cons item opts =>
        cases item with
        | pad => exact apart opts rfl
        | option first own =>
          -- the code of the next option is taken for the length of the pad
          rw [optionBytes_option] at tail
          have here := valid (.option first own) (by simp)
          have length := congrArg List.length tail
          obtain ⟨rfl, -⟩ := List.cons.inj tail
          have head : (first, own ++ optionBytes opts ++ 255 :: trailing) ∈
              (((0 : Byte).toNat, data) :: later).filter (fun option => decide (option.1 ≠ 0)) := by
            rw [same]
            exact List.mem_cons_self
          rw [(toNat_length here).1] at inside
          have positive := here.1
          rcases List.mem_cons.mp (List.mem_of_mem_filter head) with zero | older
          · have code_eq : first = 0 := (Prod.ext_iff.mp zero).1
            omega
          · have bound := inside _ older
            simp only [List.length_drop, List.length_append, List.length_cons] at bound length
            omega
  | case4 code data opts ih =>
    have here := valid (.option code data) (by simp)
    rcases toNat_length here with ⟨codeBack, lengthBack⟩
    rw [optionBytes_option] at result
    rcases dhcpLoop_cases result with
      ⟨rest, starts, -, -⟩ | ⟨before, first, len, own, later, -, starts, -, -, rfl, found⟩
    · have marker := congrArg BitVec.toNat (List.cons.inj starts).1
      rw [codeBack, show (255 : Byte).toNat = 255 from rfl] at marker
      have small := here.2.1
      omega
    · obtain ⟨rfl, tail⟩ := List.cons.inj starts
      obtain ⟨rfl, rfl⟩ := List.cons.inj tail
      rw [lengthBack, List.drop_left] at found
      have nonzero : (BitVec.ofNat 8 code).toNat ≠ 0 := by
        have positive := here.1
        omega
      rw [List.filter_cons_of_pos (by simpa using nonzero), presentOptions] at same
      exact ih (fun item member => valid item (by simp [member])) found (List.cons.inj same).2

end

/-! ## What is stored -/

theorem presentOptions_filter (opts : List DhcpOption) (rest : List Byte) (code : Nat) :
    List.Forall₂ (fun (option : Nat × List Byte) data => exists tail, option.2 = data ++ tail)
      ((presentOptions opts rest).filter (fun option => decide (option.1 = code)))
      (opts.filterMap (DhcpOption.dataOf code)) := by
  induction opts with
  | nil => exact List.Forall₂.nil
  | cons item opts ih =>
    cases item with
    | pad => exact ih
    | option other data =>
      rw [presentOptions, List.filterMap_cons]
      by_cases same : other = code
      · rw [List.filter_cons_of_pos (by simpa using same)]
        simp only [DhcpOption.dataOf, if_pos same]
        exact List.Forall₂.cons ⟨optionBytes opts ++ rest, List.append_assoc _ _ _⟩ ih
      · rw [List.filter_cons_of_neg (by simpa using same)]
        simp only [DhcpOption.dataOf, if_neg same]
        exact ih

section
variable {hdr : MtDhcpHdr} {opts : List DhcpOption} {trailing : List Byte}

theorem lastOption_cases (rfc : RfcOptions opts)
    (same : hdr.optionList.filter (fun option => decide (option.1 ≠ 0)) = presentOptions opts (255 :: trailing))
    {code : Nat} (known : code = 1 ∨ code = 3 ∨ code = 51 ∨ code = 54) :
    (hdr.lastOption code = none ∧ opts.filterMap (DhcpOption.dataOf code) = []) ∨
      exists data tail, hdr.lastOption code = some (data ++ tail) ∧
        opts.filterMap (DhcpOption.dataOf code) = [data] := by
  have nonzero : code ≠ 0 := by omega
  have looked : hdr.optionList.filter (fun option => decide (option.1 = code)) =
      (presentOptions opts (255 :: trailing)).filter (fun option => decide (option.1 = code)) := by
    rw [<- same, List.filter_filter]
    apply List.filter_congr
    intro option _
    by_cases here : option.1 = code
    · simp [here, nonzero]
    · simp [here]
  have pairs := presentOptions_filter opts (255 :: trailing) code
  have once := rfc.once code known
  unfold MtDhcpHdr.lastOption
  rw [looked]
  rcases found : opts.filterMap (DhcpOption.dataOf code) with _ | ⟨data, _ | ⟨other, more⟩⟩
  · rw [found] at pairs
    rw [List.forall₂_nil_right_iff.mp pairs]
    exact .inl ⟨rfl, rfl⟩
  · rw [found] at pairs
    rcases List.forall₂_cons_right_iff.mp pairs with ⟨option, others, ⟨tail, split⟩, none, only⟩
    rw [List.forall₂_nil_right_iff.mp none] at only
    rw [only]
    exact .inr ⟨data, tail, by rw [<- split]; rfl, rfl⟩
  · rw [found] at once
    simp only [List.length_cons] at once
    omega

section

variable (rfc : RfcOptions opts) {code : Nat} {data : List Byte}
    (known : code = 1 ∨ code = 3 ∨ code = 51 ∨ code = 54)

include rfc known

theorem RfcOptions.four (member : .option code data ∈ opts) :
    4 ≤ data.length := by
  rcases known with rfl | rfl | rfl | rfl
  · exact Nat.le_of_eq (rfc.lengths 1 data member (.inl rfl)).symm
  · exact (rfc.routers data member).1
  · exact Nat.le_of_eq (rfc.lengths 51 data member (.inr (.inl rfl))).symm
  · exact Nat.le_of_eq (rfc.lengths 54 data member (.inr (.inr rfl))).symm

theorem RfcOptions.four_of_found
    (found : opts.filterMap (DhcpOption.dataOf code) = [data]) : 4 ≤ data.length := by
  have listed : data ∈ opts.filterMap (DhcpOption.dataOf code) := by
    rw [found]
    exact List.mem_singleton.mpr rfl
  rcases List.mem_filterMap.mp listed with ⟨item, member, own⟩
  cases item with
  | pad => simp [DhcpOption.dataOf] at own
  | option other bytes =>
    by_cases same : other = code
    · simp only [DhcpOption.dataOf, if_pos same, Option.some.injEq] at own
      rw [same, own] at member
      exact rfc.four known member
    · simp [DhcpOption.dataOf, same] at own

end

theorem address_eq (rfc : RfcOptions opts)
    (same : hdr.optionList.filter (fun option => decide (option.1 ≠ 0)) = presentOptions opts (255 :: trailing))
    {code : Nat} (known : code = 1 ∨ code = 3 ∨ code = 51 ∨ code = 54) (kept : List Byte) :
    hdr.address code kept = addressIn opts code kept := by
  unfold MtDhcpHdr.address addressIn
  rcases lastOption_cases rfc same known with ⟨none, empty⟩ | ⟨data, tail, last, found⟩
  · rw [none, empty]
  · rw [last, found]
    exact List.take_append_of_le_length (rfc.four_of_found known found)

theorem dhcpNtohl_append {data : List Byte} (four : 4 ≤ data.length) (tail : List Byte) :
    dhcpNtohl (data ++ tail) = dhcpNtohl data := by
  unfold dhcpNtohl
  rw [List.getD_append _ _ _ _ (by omega), List.getD_append _ _ _ _ (by omega),
    List.getD_append _ _ _ _ (by omega), List.getD_append _ _ _ _ (by omega)]

theorem leaseTime_eq (rfc : RfcOptions opts)
    (same : hdr.optionList.filter (fun option => decide (option.1 ≠ 0)) = presentOptions opts (255 :: trailing)) :
    hdr.leaseTime = leaseTimeIn opts := by
  unfold MtDhcpHdr.leaseTime leaseTimeIn
  rcases @lastOption_cases _ _ _ rfc same 51 (by omega) with ⟨none, empty⟩ | ⟨data, tail, last, found⟩
  · rw [none, empty]
  · rw [last, found]
    exact dhcpNtohl_append (rfc.four_of_found (by omega) found) tail

theorem mtDhcpParse_stores {dhcp : MtDhcpImpl} (room : Nat) (sent : Bool) (walks : dhcp.walks hdr = true)
    (rfc : RfcOptions opts)
    (same : hdr.optionList.filter (fun option => decide (option.1 ≠ 0)) = presentOptions opts (255 :: trailing)) :
    DhcpStored dhcp (mtDhcpParse dhcp hdr room sent).1 hdr opts := by
  unfold MtDhcpImpl.walks at walks
  simp only [Bool.and_eq_true, Bool.or_eq_true, decide_eq_true_eq] at walks
  rcases walks with ⟨accepts, ack | ⟨offer, waited⟩⟩
  · have parsed : (mtDhcpParse dhcp hdr room sent).1 = (dhcpRecvAck dhcp hdr room).1 := by
      simp [mtDhcpParse, accepts, ack]
    have stored : (dhcpRecvAck dhcp hdr room).1.ip = hdr.yiaddr ∧
        (dhcpRecvAck dhcp hdr room).1.serverIp = hdr.address 54 dhcp.serverIp ∧
        (dhcpRecvAck dhcp hdr room).1.netmask = hdr.address 1 dhcp.netmask ∧
        (dhcpRecvAck dhcp hdr room).1.gateway = hdr.address 3 dhcp.gateway ∧
        (dhcpRecvAck dhcp hdr room).1.leaseEndUs = dhcp.nowUs + hdr.leaseTime * 1000000 := by
      unfold dhcpRecvAck
      dsimp only
      split <;> exact ⟨rfl, rfl, rfl, rfl, rfl⟩
    rcases stored with ⟨ip, server, mask, router, lease⟩
    rw [parsed]
    exact
      { ip := ip
        serverIp := server.trans (address_eq rfc same (by omega) _)
        netmask := fun _ => mask.trans (address_eq rfc same (by omega) _)
        gateway := fun _ => router.trans (address_eq rfc same (by omega) _)
        lease := fun _ => by rw [lease, leaseTime_eq rfc same] }
  · have parsed : (mtDhcpParse dhcp hdr room sent).1 = (dhcpRecvOffer dhcp hdr).1 := by
      simp [mtDhcpParse, accepts, offer]
    have apart : hdr.messageType ≠ 5 := by omega
    rw [parsed, dhcpRecvOffer, if_neg (not_not_intro waited)]
    exact
      { ip := rfl
        serverIp := address_eq rfc same (by omega) _
        netmask := fun ack => absurd ack apart
        gateway := fun ack => absurd ack apart
        lease := fun ack => absurd ack apart }

end

/-! ## When the options are right -/

theorem dhcpCopies_cases {messageType code : Nat} (copies : dhcpCopies messageType code = true) :
    code = 1 ∨ code = 3 ∨ code = 51 ∨ code = 54 := by
  unfold dhcpCopies at copies
  simp only [Bool.or_eq_true, Bool.and_eq_true, decide_eq_true_eq] at copies
  omega

theorem dhcpCopies_zero (messageType : Nat) : dhcpCopies messageType 0 = false := by
  unfold dhcpCopies
  simp

theorem parsesInside_iff (fuel : Nat) (msg : List Byte) :
    dhcp.parsesInside fuel msg = true ↔
      240 ≤ msg.length ∧ (dhcp.identifies (dhcpHdrOf msg) = true -> 241 ≤ msg.length) ∧
        (dhcp.accepts (dhcpHdrOf msg) = true -> 243 ≤ msg.length) ∧
        (dhcp.walks (dhcpHdrOf msg) = true ->
          (dhcpLoop (dhcpCopies (dhcpHdrOf msg).messageType) fuel (dhcpHdrOf msg).options).isSome = true) := by
  have first : dhcp.accepts (dhcpHdrOf msg) = true -> dhcp.identifies (dhcpHdrOf msg) = true := by
    intro accepts
    simp only [MtDhcpImpl.accepts, Bool.and_eq_true] at accepts
    simpa [MtDhcpImpl.identifies] using accepts.1
  have second : dhcp.walks (dhcpHdrOf msg) = true -> dhcp.accepts (dhcpHdrOf msg) = true := by
    intro walks
    simp only [MtDhcpImpl.walks, Bool.and_eq_true] at walks
    exact walks.1
  unfold MtDhcpImpl.parsesInside
  dsimp only
  by_cases identifies : dhcp.identifies (dhcpHdrOf msg) = true
  · by_cases accepts : dhcp.accepts (dhcpHdrOf msg) = true
    · by_cases walks : dhcp.walks (dhcpHdrOf msg) = true
      · simp only [identifies, accepts, walks]
        split <;> simp <;> omega
      · simp only [identifies, accepts, walks]
        split <;> simp <;> omega
    · have still : ¬ dhcp.walks (dhcpHdrOf msg) = true := fun walks => accepts (second walks)
      simp only [identifies, accepts, still]
      split <;> simp <;> omega
  · have refused : ¬ dhcp.accepts (dhcpHdrOf msg) = true := fun accepts => identifies (first accepts)
    have still : ¬ dhcp.walks (dhcpHdrOf msg) = true := fun walks => refused (second walks)
    simp [identifies, refused, still]

theorem dhcpLoop_unique {copies : Nat -> Bool} {fuel other : Nat} {bytes : List Byte}
    {first second : List (Nat × List Byte) × List Byte} (one : dhcpLoop copies fuel bytes = some first)
    (two : dhcpLoop copies other bytes = some second) : first = second := by
  induction fuel generalizing other bytes first second with
  | zero => cases one
  | succ fuel ih =>
    rcases @dhcpLoop_cases _ _ _ first.2 first.1 one with
      ⟨rest, rfl, none, stop⟩ | ⟨before, code, len, data, later, same, rfl, goes, -, taken, found⟩
    · rcases @dhcpLoop_cases _ _ _ second.2 second.1 two with
        ⟨_, -, none', stop'⟩ | ⟨_, code, _, _, _, -, starts, goes, -⟩
      · exact Prod.ext (none.trans none'.symm) (stop.trans stop'.symm)
      · rw [<- (List.cons.inj starts).1] at goes
        exact absurd rfl goes
    · obtain rfl : fuel = before := by omega
      rcases @dhcpLoop_cases _ _ _ second.2 second.1 two with
        ⟨_, starts, -, -⟩ | ⟨_, _, _, _, later', -, starts, -, -, taken', found'⟩
      · rw [(List.cons.inj starts).1] at goes
        exact absurd rfl goes
      · obtain ⟨rfl, tail⟩ := List.cons.inj starts
        obtain ⟨rfl, rfl⟩ := List.cons.inj tail
        have both := ih found found'
        rw [Prod.mk.injEq] at both
        exact Prod.ext (by rw [taken, taken', both.1]) both.2

/-- For every state of the client and every message: it is parsed within its bytes, and what is taken and
stored from a list of options is what the list has, exactly when the message is as long as it is looked at,
its options are chained to an end and the pads of a list come in pairs. -/
theorem dhcp_options_right_iff (dhcp : MtDhcpImpl) (msg : List Byte) (room : Nat) (sent : Bool) :
    DhcpOptionsRight dhcp msg room sent ↔ DhcpOptionsSafe dhcp msg := by
  constructor
  · intro right
    have chained : dhcp.walks (dhcpHdrOf msg) = true ->
        Chained (dhcpCopies (dhcpHdrOf msg).messageType) (dhcpHdrOf msg).options :=
      fun walks => (dhcpLoop_isSome_iff _).mp
        (right.inside.imp fun fuel inside => ((parsesInside_iff dhcp fuel msg).mp inside).2.2.2 walks)
    rcases right.inside with ⟨fuel, inside⟩
    rcases (parsesInside_iff dhcp fuel msg).mp inside with ⟨fixed, first, type, -⟩
    refine { fixed := fixed, first := first, type := type, chained := chained, paired := ?_ }
    intro opts trailing rfc bytes walks
    rcases (dhcpLoop_isSome_iff _).mpr (chained walks) with ⟨enough, ended⟩
    rcases Option.isSome_iff_exists.mp ended with ⟨⟨taken, stop⟩, result⟩
    rw [bytes] at result
    rcases (right.listed opts trailing rfc bytes walks).1 enough taken stop result with ⟨same, rfl⟩
    exact pairedPads_of_taken rfc.valid result same
  · intro safe
    refine { inside := ?_, listed := ?_ }
    · by_cases walks : dhcp.walks (dhcpHdrOf msg) = true
      · exact ((dhcpLoop_isSome_iff _).mpr (safe.chained walks)).imp fun fuel ended =>
          (parsesInside_iff dhcp fuel msg).mpr ⟨safe.fixed, safe.first, safe.type, fun _ => ended⟩
      · exact ⟨0, (parsesInside_iff dhcp 0 msg).mpr
          ⟨safe.fixed, safe.first, safe.type, fun goes => absurd goes walks⟩⟩
    · intro opts trailing rfc bytes walks
      have copied : forall code data, .option code data ∈ opts ->
          dhcpCopies (dhcpHdrOf msg).messageType code = true -> 4 ≤ data.length :=
        fun code data member copies => rfc.four (dhcpCopies_cases copies) member
      rcases dhcpLoop_paired rfc.valid (dhcpCopies_zero _) copied (safe.paired opts trailing rfc bytes walks)
        trailing with ⟨enough, taken, result, same⟩
      constructor
      · intro fuel taken' stop result'
        have both := dhcpLoop_unique result' result
        rw [Prod.mk.injEq] at both
        exact ⟨by rw [both.1, same], both.2⟩
      · rw [<- bytes] at result
        have list : (dhcpHdrOf msg).optionList = taken :=
          dhcpOptionsFrom_eq result _ (dhcpLoop_bounds result).2.1
        exact mtDhcpParse_stores room sent walks rfc (by rw [list, same])

def requestingClient : MtDhcpImpl :=
  { status := .requesting, xid := 1, serverIp := [0, 0, 0, 0], ip := [0, 0, 0, 0], netmask := [0, 0, 0, 0]
    gateway := [0, 0, 0, 0], nowUs := 0, alarms := [], acks := 0, leaseEndUs := 0 }

/-- An ACK for it, with one pad between the message type and the mask. -/
def paddedAck : List Byte :=
  [2, 1, 6, 0, 0, 0, 0, 1] ++ List.replicate 228 0 ++ [0x63, 0x82, 0x53, 0x63] ++
    [53, 1, 5, 0, 1, 4, 255, 255, 255, 0, 255]

/-- The pad takes the code of the mask for its length, and the mask is not stored. -/
theorem padded_mask_lost : ¬ DhcpOptionsRight requestingClient paddedAck 3 true := by
  intro right
  have rfc : RfcOptions [.option 53 [5], .pad, .option 1 [255, 255, 255, 0]] :=
    { valid := by
        intro item member
        simp only [List.mem_cons, List.not_mem_nil, or_false] at member
        rcases member with rfl | rfl | rfl <;> simp [DhcpOption.Valid]
      type := ⟨5, _, rfl⟩
      lengths := by
        intro code data member known
        simp only [List.mem_cons, DhcpOption.option.injEq, reduceCtorEq, List.not_mem_nil, or_false,
          false_or] at member
        rcases member with ⟨rfl, -⟩ | ⟨-, rfl⟩
        · omega
        · rfl
      routers := by simp
      once := by
        rintro code (rfl | rfl | rfl | rfl) <;> decide }
  have stored := (right.listed _ [] rfc (by decide) (by decide)).2.netmask (by decide)
  revert stored
  decide

end MediaTransport.Net
