import MediaTransport.Library.Word
import MediaTransport.Util.Errno

namespace MediaTransport.Dma

open Library

/-!
# DMA devices and their lenders

Receive sessions share a DMA device.  A session has an entry of the device's
table of lenders, and a packet buffer that the device still reads waits in the
device's queue with the index of the entry that borrowed it.  Whoever asks the
device first takes finished buffers from the queue, for every lender.

The queue is a ring.  `Session` is what a session gives as `priv`.
-/

variable {Session : Type}

/-- `MTL_DMA_DEV_MAX` -/
abbrev mtlDmaDevMax : Nat := 32

/-- `MT_DMA_MAX_SESSIONS` -/
def mtDmaMaxSessions : Nat := 16

/-- `struct mtl_dma_lender_dev`; `cb` says that there is a callback. -/
structure MtlDmaLenderDev (Session : Type) where
  active : Bool
  priv : Option Session
  nbBorrowed : Nat
  cb : Bool
  deriving DecidableEq

/-- A round of the loop of `dma_drop_mbuf`, for an observer: the buffer whose reference was released,
the entry's count before, and the session whose callback was called. -/
structure DmaDrop (Session : Type) where
  mbuf : Nat
  nbBorrowed : Nat
  called : Option Session
  deriving DecidableEq

/-- A reference that was taken on a buffer, and the session that borrowed it. -/
structure DmaBorrow (Session : Type) where
  mbuf : Nat
  session : Option Session
  deriving DecidableEq

/-- `struct mt_dma_dev`.  The last two fields are what an observer knows. -/
structure MtDmaDev (Session : Type) where
  usable : Bool
  active : Bool
  schIdx : Int
  socId : Int
  nbDesc : Nat
  nbSession : Nat
  maxShared : Nat
  lenders : Nat -> MtlDmaLenderDev Session
  nbInflight : Nat
  borrowQueue : List Nat
  borrows : List (DmaBorrow Session)
  drops : List (DmaDrop Session)

/-- `struct mt_dma_mgr`, with the lender that every packet buffer stores in its private area. -/
structure MtDmaMgr (Session : Type) where
  devs : Fin mtlDmaDevMax -> MtDmaDev Session
  numDmaDev : Nat
  lender : Nat -> Nat

/-- `struct mt_dma_request_req` -/
structure MtDmaRequestReq (Session : Type) where
  nbDesc : Nat
  maxShared : Nat
  schIdx : Int
  socketId : Int
  priv : Session
  dropMbufCb : Bool

variable (mgr : MtDmaMgr Session) (dev : MtDmaDev Session)

variable (idx : Fin mtlDmaDevMax)

def MtDmaMgr.setDev (dev : MtDmaDev Session) : MtDmaMgr Session :=
  { mgr with devs := Function.update mgr.devs idx dev }

def MtDmaDev.setLender (render : Nat) (lender : MtlDmaLenderDev Session) : MtDmaDev Session :=
  { dev with lenders := Function.update dev.lenders render lender }

/-! ## The queue -/

/-- A round of the loop of `dma_drop_mbuf`. -/
def MtDmaDev.dropMbuf (render mbuf : Nat) (rest : List Nat) : MtDmaDev Session :=
  let mbufDev := dev.lenders render
  { dev.setLender render { mbufDev with nbBorrowed := u16 (mbufDev.nbBorrowed - 1) } with
    nbInflight := u16 (dev.nbInflight - 1)
    borrowQueue := rest
    drops := dev.drops ++
      [⟨mbuf, mbufDev.nbBorrowed, if mbufDev.cb then mbufDev.priv else none⟩] }

/-- `dma_drop_mbuf`, with the lenders that the buffers store. -/
def dmaDropMbuf (lender : Nat -> Nat) (dev : MtDmaDev Session) : Nat -> MtDmaDev Session
  | 0 => dev
  | nbMbuf + 1 =>
    match dev.borrowQueue with
    | [] => dev
    | mbuf :: rest => dmaDropMbuf lender (dev.dropMbuf (lender mbuf) mbuf rest) nbMbuf

/-- `mt_dma_full`: a ring of `nb_desc` places holds one buffer less. -/
def mtDmaFull : Bool :=
  decide (dev.nbDesc ≤ dev.borrowQueue.length + 1)

/-- `mt_dma_empty` -/
def mtDmaEmpty (lender : MtlDmaLenderDev Session) : Bool :=
  decide (lender.nbBorrowed = 0)

/-- What `mt_dma_borrow_mbuf` does to the device once the ring took the buffer. -/
def MtDmaDev.borrowMbuf (render mbuf : Nat) : MtDmaDev Session :=
  let lender := dev.lenders render
  { dev.setLender render { lender with nbBorrowed := u16 (lender.nbBorrowed + 1) } with
    nbInflight := u16 (dev.nbInflight + 1)
    borrowQueue := dev.borrowQueue ++ [mbuf]
    borrows := dev.borrows ++ [⟨mbuf, lender.priv⟩] }

/-- `mt_dma_borrow_mbuf` -/
def mtDmaBorrowMbuf (render mbuf : Nat) : MtDmaMgr Session × Except Errno Unit :=
  let dev := mgr.devs idx
  let mgr := { mgr with lender := Function.update mgr.lender mbuf render }
  if mtDmaFull dev then
    (mgr, .error .nospc)
  else
    (mgr.setDev idx (dev.borrowMbuf render mbuf), .ok ())

/-- `mt_dma_drop_mbuf` -/
def mtDmaDropMbuf (nbMbuf : Nat) : MtDmaMgr Session :=
  mgr.setDev idx (dmaDropMbuf mgr.lender (mgr.devs idx) nbMbuf)

/-! ## Attaching and detaching sessions -/

/-- `dma_sw_uinit` -/
def dmaSwUinit (lender : Nat -> Nat) (dev : MtDmaDev Session) : MtDmaDev Session :=
  { dmaDropMbuf lender dev dev.borrowQueue.length with borrowQueue := [] }

/-- `dma_free` -/
def dmaFree (lender : Nat -> Nat) (dev : MtDmaDev Session) : MtDmaDev Session :=
  if !dev.active then dev else { dmaSwUinit lender dev with active := false }

/-- What `mt_dma_free_dev` does to the entry and to the number of sessions. -/
def MtDmaDev.detach (render : Nat) : MtDmaDev Session :=
  { dev.setLender render { dev.lenders render with active := false, cb := false } with
    nbSession := u16 (dev.nbSession - 1) }

/-- `mt_dma_free_dev` -/
def mtDmaFreeDev (render : Nat) : MtDmaMgr Session × Except Errno Unit :=
  let dev := mgr.devs idx
  let lender := dev.lenders render
  if !lender.active then
    (mgr, .error .io)
  else
    let left := dev.detach render
    (mgr.setDev idx (if left.nbSession = 0 then dmaFree mgr.lender left else left), .ok ())

def lenderFor (req : MtDmaRequestReq Session) : MtlDmaLenderDev Session where
  active := true
  priv := some req.priv
  nbBorrowed := 0
  cb := req.dropMbufCb

/-- The device may be shared with the request, and has this entry free. -/
def MtDmaDev.sharable (req : MtDmaRequestReq Session) (render : Nat) : Bool :=
  dev.active && decide (dev.schIdx = req.schIdx) && decide (dev.socId = req.socketId) &&
    decide (dev.nbSession < dev.maxShared) && decide (render < dev.maxShared) &&
    !(dev.lenders render).active

/-- The loop "first try to find a shared dma" of `mt_dma_request_dev` -/
def MtDmaMgr.findShared (req : MtDmaRequestReq Session) : Option (Fin mtlDmaDevMax × Nat) :=
  ((List.finRange mtlDmaDevMax).flatMap fun idx =>
    (List.range mtDmaMaxSessions).map fun render => (idx, render)).find? fun place =>
      (mgr.devs place.1).sharable req place.2

def MtDmaDev.share (req : MtDmaRequestReq Session) (render : Nat) : MtDmaDev Session :=
  { dev.setLender render (lenderFor req) with nbSession := u16 (dev.nbSession + 1) }

/-- What a request does to the device it starts; `dma_sw_init` has an empty queue. -/
def MtDmaDev.start (req : MtDmaRequestReq Session) : MtDmaDev Session :=
  { dev.setLender 0 (lenderFor req) with
    active := true
    nbDesc := if req.nbDesc = 0 then 128 else req.nbDesc
    schIdx := req.schIdx
    maxShared := min req.maxShared mtDmaMaxSessions
    nbSession := u16 (dev.nbSession + 1)
    nbInflight := 0
    borrowQueue := [] }

/-- What `dma_hw_start` and `dma_sw_init` answer for a device. -/
inductive DmaStart where
  | started
  | hwFails
  | swFails
  deriving DecidableEq

/-- The loop "now try to create a new dma" of `mt_dma_request_dev` -/
def dmaCreate (mgr : MtDmaMgr Session) (req : MtDmaRequestReq Session)
    (answer : Fin mtlDmaDevMax -> DmaStart) :
    List (Fin mtlDmaDevMax) -> MtDmaMgr Session × Option (Fin mtlDmaDevMax × Nat)
  | [] => (mgr, none)
  | idx :: rest =>
    let dev := mgr.devs idx
    if dev.usable && !dev.active && decide (dev.socId = req.socketId) then
      match answer idx with
      | .hwFails => dmaCreate (mgr.setDev idx { dev with usable := false }) req answer rest
      | .swFails =>
        let dev := { dev with
          nbDesc := if req.nbDesc = 0 then 128 else req.nbDesc
          schIdx := req.schIdx
          maxShared := min req.maxShared mtDmaMaxSessions }
        dmaCreate (mgr.setDev idx dev) req answer rest
      | .started => (mgr.setDev idx (dev.start req), some (idx, 0))
    else
      dmaCreate mgr req answer rest

/-- `mt_dma_request_dev` -/
def mtDmaRequestDev (req : MtDmaRequestReq Session) (answer : Fin mtlDmaDevMax -> DmaStart)
    : MtDmaMgr Session × Option (Fin mtlDmaDevMax × Nat) :=
  if mgr.numDmaDev = 0 then
    (mgr, none)
  else
    match mgr.findShared req with
    | some (idx, render) =>
      (mgr.setDev idx ((mgr.devs idx).share req render), some (idx, render))
    | none => dmaCreate mgr req answer (List.finRange mtlDmaDevMax)

/-- `mt_dma_init` with the sockets of the devices it finds -/
def mtDmaInit (sockets : List Int) : MtDmaMgr Session where
  devs := fun idx =>
    { usable := decide (idx.val < sockets.length)
      active := false
      schIdx := 0
      socId := sockets.getD idx.val 0
      nbDesc := 0
      nbSession := 0
      maxShared := 0
      lenders := fun _ => ⟨false, none, 0, false⟩
      nbInflight := 0
      borrowQueue := []
      borrows := []
      drops := [] }
  numDmaDev := min sockets.length mtlDmaDevMax
  lender := fun _ => 0

end MediaTransport.Dma
