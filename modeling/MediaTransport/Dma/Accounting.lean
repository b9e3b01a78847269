import MediaTransport.Dma.Device
import MediaTransport.Library.Run

namespace MediaTransport.Dma

open Library

/-!
# Accounts of a shared DMA device

A device counts the buffers in its queue, and every lender those that it
borrowed.  The counts agree as long as no entry is given to a new session while
buffers of its former session are queued: a request clears the count of the
entry, and the buffers still name it.
-/

variable {Session : Type}

/-! ## Runs -/

/-- The calls of the sessions. -/
inductive DmaInput (Session : Type) where
  | request (req : MtDmaRequestReq Session) (answer : Fin mtlDmaDevMax -> DmaStart)
  | borrow (idx : Fin mtlDmaDevMax) (render mbuf : Nat)
  | drop (idx : Fin mtlDmaDevMax) (render nbMbuf : Nat)
  | free (idx : Fin mtlDmaDevMax) (render : Nat)

variable (mgr : MtDmaMgr Session)

def dmaStep : DmaInput Session -> MtDmaMgr Session
  | .request req answer => (mtDmaRequestDev mgr req answer).1
  | .borrow idx render mbuf => (mtDmaBorrowMbuf mgr idx render mbuf).1
  | .drop idx _ nbMbuf => mtDmaDropMbuf mgr idx nbMbuf
  | .free idx render => (mtDmaFreeDev mgr idx render).1

/-- A session uses an entry it has, and borrows buffers that it received, which no device has. -/
def DmaDisciplined : DmaInput Session -> Prop
  | .request req _ => req.nbDesc < 65536
  | .borrow idx render mbuf =>
    ((mgr.devs idx).lenders render).active = true ∧
      forall other, mbuf ∉ (mgr.devs other).borrowQueue
  | .drop idx render _ => ((mgr.devs idx).lenders render).active = true
  | .free _ _ => True

instance (mgr : MtDmaMgr Session) (input : DmaInput Session) :
    Decidable (DmaDisciplined mgr input) := by
  unfold DmaDisciplined
  split <;> infer_instance

def TakesSettled : DmaInput Session -> Prop
  | .request req _ =>
    (mgr.findShared req).all
      (fun place => mtDmaEmpty ((mgr.devs place.1).lenders place.2)) = true
  | _ => True

instance (mgr : MtDmaMgr Session) (input : DmaInput Session) :
    Decidable (TakesSettled mgr input) := by
  unfold TakesSettled
  split <;> infer_instance

/-! ## What the accounts say -/

/-- The released reference is the one that was taken, the lender had it, and a callback goes to the
session that borrowed the buffer. -/
structure DmaDrop.Settles (drop : DmaDrop Session) (borrow : DmaBorrow Session) : Prop where
  mbuf : drop.mbuf = borrow.mbuf
  positive : 0 < drop.nbBorrowed
  called : forall session, drop.called = some session -> borrow.session = some session

/-- The counts of a device are right, and every reference that was taken was released once or is
queued. -/
structure MtDmaDev.Accounted (lender : Nat -> Nat) (dev : MtDmaDev Session) : Prop where
  inflight : dev.nbInflight = dev.borrowQueue.length
  total : (Finset.range mtDmaMaxSessions).sum (fun render => (dev.lenders render).nbBorrowed) =
    dev.nbInflight
  borrowed : forall render, (dev.lenders render).nbBorrowed =
    dev.borrowQueue.countP (fun mbuf => decide (lender mbuf = render))
  settled : Exists fun returned : List (DmaBorrow Session) =>
    Exists fun pending : List (DmaBorrow Session) =>
      dev.borrows = returned ++ pending ∧ dev.borrowQueue = pending.map DmaBorrow.mbuf ∧
        List.Forall₂ DmaDrop.Settles dev.drops returned

/-! ## The invariant of a device -/

/-- The invariant, with the references that are not released yet. -/
structure MtDmaDev.Sound (lender : Nat -> Nat) (pending : List (DmaBorrow Session))
    (dev : MtDmaDev Session) : Prop where
  queued : dev.borrowQueue = pending.map DmaBorrow.mbuf
  history : Exists fun returned : List (DmaBorrow Session) =>
    dev.borrows = returned ++ pending ∧ List.Forall₂ DmaDrop.Settles dev.drops returned
  inflight : dev.nbInflight = pending.length
  borrowed : forall render, (dev.lenders render).nbBorrowed =
    pending.countP (fun borrow => decide (lender borrow.mbuf = render))
  known : ∀ borrow ∈ pending, lender borrow.mbuf < mtDmaMaxSessions ∧
    ((dev.lenders (lender borrow.mbuf)).cb = true ->
      (dev.lenders (lender borrow.mbuf)).priv = borrow.session)
  nbDesc_lt : dev.nbDesc < 65536
  short : pending.length < 65536
  attached : dev.nbSession =
    (List.range mtDmaMaxSessions).countP (fun render => (dev.lenders render).active)
  bounded : forall render, (dev.lenders render).active = true -> render < mtDmaMaxSessions
  idle : dev.active = false -> dev.nbSession = 0 ∧ pending = []

variable {lender : Nat -> Nat} {dev : MtDmaDev Session} {pending : List (DmaBorrow Session)}

variable {mgr : MtDmaMgr Session}

theorem sum_countP_lender (lender : Nat -> Nat) (pending : List (DmaBorrow Session))
    (known : ∀ borrow ∈ pending, lender borrow.mbuf < mtDmaMaxSessions) :
    (Finset.range mtDmaMaxSessions).sum
      (fun render => pending.countP (fun borrow => decide (lender borrow.mbuf = render))) =
        pending.length := by
  induction pending with
  | nil => simp
  | cons head rest ih =>
    have inside : lender head.mbuf ∈ Finset.range mtDmaMaxSessions :=
      Finset.mem_range.mpr (known head List.mem_cons_self)
    have later := ih (fun borrow member => known borrow (List.mem_cons_of_mem head member))
    simp only [List.countP_cons, Finset.sum_add_distrib, later, decide_eq_true_eq,
      Finset.sum_ite_eq, if_pos inside, List.length_cons]

theorem MtDmaDev.Sound.accounted (sound : dev.Sound lender pending) : dev.Accounted lender where
  inflight := by rw [sound.inflight, sound.queued, List.length_map]
  total := by
    simp only [sound.borrowed]
    rw [sum_countP_lender lender pending (fun borrow member => (sound.known borrow member).1)]
    exact sound.inflight.symm
  borrowed render := by
    rw [sound.borrowed, sound.queued, List.countP_map]
    rfl
  settled := by
    rcases sound.history with ⟨returned, split, settles⟩
    exact ⟨returned, pending, split, sound.queued, settles⟩

theorem MtDmaDev.Sound.congr {other : Nat -> Nat} (sound : dev.Sound lender pending)
    (same : ∀ borrow ∈ pending, other borrow.mbuf = lender borrow.mbuf) :
    dev.Sound other pending where
  queued := sound.queued
  history := sound.history
  inflight := sound.inflight
  borrowed render := by
    rw [sound.borrowed]
    apply List.countP_congr
    intro borrow member
    rw [same borrow member]
  known borrow member := by
    rw [same borrow member]
    exact sound.known borrow member
  nbDesc_lt := sound.nbDesc_lt
  short := sound.short
  attached := sound.attached
  bounded := sound.bounded
  idle := sound.idle

/-! ## The lenders of a device -/

@[simp] theorem MtDmaDev.setLender_lenders (dev : MtDmaDev Session) (render : Nat)
    (entry : MtlDmaLenderDev Session) :
    (dev.setLender render entry).lenders = Function.update dev.lenders render entry := rfl

theorem countP_update_active (lenders : Nat -> MtlDmaLenderDev Session) (render : Nat)
    (inside : render < mtDmaMaxSessions) (entry : MtlDmaLenderDev Session) :
    (List.range mtDmaMaxSessions).countP
        (fun other => (Function.update lenders render entry other).active) +
      (lenders render).active.toNat =
    (List.range mtDmaMaxSessions).countP (fun other => (lenders other).active) +
      entry.active.toNat := by
  have general : forall bound, render < bound ->
      (List.range bound).countP (fun other => (Function.update lenders render entry other).active) +
        (lenders render).active.toNat =
      (List.range bound).countP (fun other => (lenders other).active) + entry.active.toNat := by
    intro bound
    induction bound with
    | zero => exact fun absurd => by omega
    | succ bound ih =>
      intro below
      simp only [List.range_succ, List.countP_append, List.countP_singleton]
      by_cases last : bound = render
      · subst last
        have outside : (List.range bound).countP
            (fun other => (Function.update lenders bound entry other).active) =
            (List.range bound).countP (fun other => (lenders other).active) := by
          apply List.countP_congr
          intro other member
          have different : other ≠ bound := by
            have smaller := List.mem_range.mp member
            omega
          rw [Function.update_of_ne different]
        rw [outside, Function.update_self]
        cases entry.active <;> cases (lenders bound).active <;> simp
      · have shifted := ih (by omega)
        rw [Function.update_of_ne last]
        omega
  exact general mtDmaMaxSessions inside

theorem countP_update_same (lenders : Nat -> MtlDmaLenderDev Session) (render : Nat)
    (entry : MtlDmaLenderDev Session) (same : entry.active = (lenders render).active) :
    (List.range mtDmaMaxSessions).countP
        (fun other => (Function.update lenders render entry other).active) =
    (List.range mtDmaMaxSessions).countP (fun other => (lenders other).active) := by
  apply List.countP_congr
  intro other _
  by_cases equal : other = render
  · subst equal
    rw [Function.update_self, same]
  · rw [Function.update_of_ne equal]

/-! ## Taking buffers from the queue -/

/-- One round of the loop releases the oldest reference. -/
theorem MtDmaDev.Sound.dropMbuf {borrow : DmaBorrow Session} {rest : List (DmaBorrow Session)}
    (sound : dev.Sound lender (borrow :: rest)) :
    (dev.dropMbuf (lender borrow.mbuf) borrow.mbuf (rest.map DmaBorrow.mbuf)).Sound lender rest := by
  rcases sound.history with ⟨returned, split, settles⟩
  have mine : (dev.lenders (lender borrow.mbuf)).nbBorrowed =
      rest.countP (fun other => decide (lender other.mbuf = lender borrow.mbuf)) + 1 := by
    rw [sound.borrowed, List.countP_cons]
    simp
  have fewer : rest.countP (fun other => decide (lender other.mbuf = lender borrow.mbuf)) ≤
      rest.length := List.countP_le_length
  have short := sound.short
  rw [List.length_cons] at short
  refine ⟨rfl, ⟨returned ++ [borrow], by simp [MtDmaDev.dropMbuf, MtDmaDev.setLender, split], ?_⟩,
    ?_, ?_, ?_, sound.nbDesc_lt, by omega, ?_, ?_, ?_⟩
  · -- the entry still counts the buffer, and a callback can only be its own session's
    apply List.rel_append settles
    refine List.Forall₂.cons ⟨rfl, mine ▸ Nat.succ_pos _, ?_⟩ List.Forall₂.nil
    intro session called
    by_cases cb : (dev.lenders (lender borrow.mbuf)).cb = true
    · rw [if_pos cb] at called
      rw [← (sound.known borrow List.mem_cons_self).2 cb]
      exact called
    · rw [if_neg cb] at called
      cases called
  · show u16 (dev.nbInflight - 1) = rest.length
    rw [sound.inflight, List.length_cons, u16_eq]
    omega
  · intro render
    show (Function.update dev.lenders (lender borrow.mbuf) _ render).nbBorrowed = _
    by_cases same : render = lender borrow.mbuf
    · subst same
      rw [Function.update_self]
      show u16 ((dev.lenders (lender borrow.mbuf)).nbBorrowed - 1) = _
      rw [mine, u16_eq]
      omega
    · rw [Function.update_of_ne same, sound.borrowed, List.countP_cons]
      simp [Ne.symm same]
  · intro other member
    have before := sound.known other (List.mem_cons_of_mem borrow member)
    refine ⟨before.1, ?_⟩
    show (Function.update dev.lenders (lender borrow.mbuf) _ (lender other.mbuf)).cb = true -> _
    by_cases same : lender other.mbuf = lender borrow.mbuf
    · simpa [MtDmaDev.dropMbuf, same] using same ▸ before.2
    · simpa [MtDmaDev.dropMbuf, Function.update_of_ne same] using before.2
  · show dev.nbSession = _
    rw [sound.attached]
    refine (countP_update_same dev.lenders (lender borrow.mbuf) _ ?_).symm
    rfl
  · intro render active
    by_cases same : render = lender borrow.mbuf
    · rw [same]
      exact (sound.known borrow List.mem_cons_self).1
    · exact sound.bounded render
        (by simpa [MtDmaDev.dropMbuf, Function.update_of_ne same] using active)
  · intro inactive
    cases (sound.idle inactive).2

theorem MtDmaDev.Sound.dmaDropMbuf (sound : dev.Sound lender pending) (nbMbuf : Nat) :
    (dmaDropMbuf lender dev nbMbuf).Sound lender (pending.drop nbMbuf) := by
  induction nbMbuf generalizing dev pending with
  | zero => exact sound
  | succ nbMbuf ih =>
    cases pending with
    | nil =>
      have empty : dev.borrowQueue = [] := sound.queued
      simpa only [Dma.dmaDropMbuf, empty, List.drop_nil] using sound
    | cons borrow rest =>
      have queued : dev.borrowQueue = borrow.mbuf :: rest.map DmaBorrow.mbuf := sound.queued
      simpa only [Dma.dmaDropMbuf, queued, List.drop_succ_cons] using ih sound.dropMbuf

theorem dmaDropMbuf_frame (lender : Nat -> Nat) (dev : MtDmaDev Session) (nbMbuf : Nat) :
    (dmaDropMbuf lender dev nbMbuf).active = dev.active ∧
      (dmaDropMbuf lender dev nbMbuf).nbSession = dev.nbSession := by
  induction nbMbuf generalizing dev with
  | zero => exact ⟨rfl, rfl⟩
  | succ nbMbuf ih =>
    unfold dmaDropMbuf
    split
    · exact ⟨rfl, rfl⟩
    · exact ih _

/-! ## The calls on one device -/

theorem MtDmaDev.Sound.borrowMbuf (sound : dev.Sound lender pending) {render mbuf : Nat}
    (active : (dev.lenders render).active = true) (room : mtDmaFull dev = false)
    (named : lender mbuf = render) :
    (dev.borrowMbuf render mbuf).Sound lender
      (pending ++ [⟨mbuf, (dev.lenders render).priv⟩]) := by
  rcases sound.history with ⟨returned, split, settles⟩
  have length : dev.borrowQueue.length = pending.length := by rw [sound.queued, List.length_map]
  have below : pending.length + 1 < dev.nbDesc := by
    unfold mtDmaFull at room
    rw [decide_eq_false_iff_not] at room
    omega
  have nbDesc := sound.nbDesc_lt
  have fewer : pending.countP (fun other => decide (lender other.mbuf = render)) ≤ pending.length :=
    List.countP_le_length
  refine ⟨by simp [MtDmaDev.borrowMbuf, sound.queued],
    ⟨returned, by simp [MtDmaDev.borrowMbuf, MtDmaDev.setLender, split], settles⟩,
    ?_, ?_, ?_, sound.nbDesc_lt, by simp only [List.length_append, List.length_singleton]; omega,
    ?_, ?_, ?_⟩
  · show u16 (dev.nbInflight + 1) = _
    rw [sound.inflight, u16_eq, List.length_append, List.length_singleton]
    omega
  · intro other
    rw [List.countP_append, ← sound.borrowed other]
    show (Function.update dev.lenders render _ other).nbBorrowed = _
    by_cases same : other = render
    · subst same
      rw [Function.update_self]
      show u16 ((dev.lenders other).nbBorrowed + 1) = _
      rw [sound.borrowed, u16_eq]
      simp only [List.countP_singleton, named, decide_true, if_true]
      omega
    · have unnamed : lender mbuf ≠ other := fun equal => same (equal.symm.trans named)
      rw [Function.update_of_ne same]
      simp [unnamed]
  · intro borrow member
    rcases List.mem_append.mp member with old | new
    · have before := sound.known borrow old
      refine ⟨before.1, ?_⟩
      by_cases same : lender borrow.mbuf = render
      · simpa [MtDmaDev.borrowMbuf, same] using same ▸ before.2
      · simpa [MtDmaDev.borrowMbuf, Function.update_of_ne same] using before.2
    · obtain rfl := List.mem_singleton.mp new
      rw [named]
      exact ⟨sound.bounded render active, fun _ => by simp [MtDmaDev.borrowMbuf]⟩
  · show dev.nbSession = _
    rw [sound.attached]
    refine (countP_update_same dev.lenders render _ ?_).symm
    rfl
  · intro other entry
    by_cases same : other = render
    · exact same ▸ sound.bounded render active
    · exact sound.bounded other
        (by simpa [MtDmaDev.borrowMbuf, Function.update_of_ne same] using entry)
  · intro inactive
    -- a device with a session is active
    have none := (sound.idle inactive).1
    rw [sound.attached, List.countP_eq_zero] at none
    exact absurd active (none render (List.mem_range.mpr (sound.bounded render active)))

theorem MtDmaDev.Sound.share (sound : dev.Sound lender pending)
    {req : MtDmaRequestReq Session} {render : Nat} (free : dev.sharable req render = true)
    (inside : render < mtDmaMaxSessions) (settled : (dev.lenders render).nbBorrowed = 0) :
    (dev.share req render).Sound lender pending := by
  simp only [MtDmaDev.sharable, Bool.and_eq_true, Bool.not_eq_true', decide_eq_true_eq] at free
  have unnamed : ∀ borrow ∈ pending, lender borrow.mbuf ≠ render := by
    intro borrow member
    rw [sound.borrowed, List.countP_eq_zero] at settled
    simpa using settled borrow member
  refine ⟨sound.queued, sound.history, sound.inflight, ?_, ?_, sound.nbDesc_lt, sound.short, ?_,
    ?_, ?_⟩
  · intro other
    rw [← sound.borrowed other]
    by_cases same : other = render
    · subst same
      simp [MtDmaDev.share, lenderFor, settled]
    · simp [MtDmaDev.share, Function.update_of_ne same]
  · intro borrow member
    have before := sound.known borrow member
    simpa [MtDmaDev.share, Function.update_of_ne (unnamed borrow member)] using before
  · show u16 (dev.nbSession + 1) = _
    have counted := countP_update_active dev.lenders render inside (lenderFor req)
    have most : (List.range mtDmaMaxSessions).countP (fun other => (dev.lenders other).active) ≤
        mtDmaMaxSessions := by
      simpa using List.countP_le_length (p := fun other => (dev.lenders other).active)
        (l := List.range mtDmaMaxSessions)
    rw [free.2, ← sound.attached] at counted
    rw [← sound.attached] at most
    simp only [mtDmaMaxSessions] at most
    rw [u16_eq]
    simp only [lenderFor, Bool.toNat_false, Bool.toNat_true] at counted
    show _ = List.countP (fun other => (Function.update dev.lenders render (lenderFor req) other).active) _
    simp only [lenderFor]
    omega
  · intro other entry
    by_cases same : other = render
    · exact same ▸ inside
    · exact sound.bounded other (by simpa [MtDmaDev.share, Function.update_of_ne same] using entry)
  · intro inactive
    have active : dev.active = true := free.1.1.1.1.1
    rw [show dev.active = false from inactive] at active
    cases active

theorem MtDmaDev.Sound.start (sound : dev.Sound lender pending) (inactive : dev.active = false)
    {req : MtDmaRequestReq Session} (nbDesc : req.nbDesc < 65536) :
    (dev.start req).Sound lender [] := by
  obtain ⟨sessions, rfl⟩ := sound.idle inactive
  have none : forall render, (dev.lenders render).active = false := by
    intro render
    cases active : (dev.lenders render).active with
    | false => rfl
    | true =>
      rw [sound.attached, List.countP_eq_zero] at sessions
      exact absurd active (sessions render (List.mem_range.mpr (sound.bounded render active)))
  refine ⟨rfl, sound.history, rfl, ?_, by simp, ?_, by simp, ?_, ?_, by simp [MtDmaDev.start]⟩
  · intro render
    have zero := sound.borrowed render
    by_cases same : render = 0
    · simp [MtDmaDev.start, same, lenderFor]
    · simpa [MtDmaDev.start, Function.update_of_ne same] using zero
  · show (if req.nbDesc = 0 then 128 else req.nbDesc) < 65536
    split <;> omega
  · have counted := countP_update_active dev.lenders 0 (by decide) (lenderFor req)
    rw [none 0, ← sound.attached, sessions] at counted
    show u16 (dev.nbSession + 1) = _
    rw [sessions]
    simp only [lenderFor, Bool.toNat_false, Bool.toNat_true, Nat.add_zero] at counted
    exact counted.symm
  · intro render entry
    by_cases same : render = 0
    · rw [same]
      decide
    · rw [show ((dev.start req).lenders render).active = (dev.lenders render).active by
        simp [MtDmaDev.start, Function.update_of_ne same], none render] at entry
      cases entry

theorem MtDmaDev.Sound.detach (sound : dev.Sound lender pending) {render : Nat}
    (active : (dev.lenders render).active = true) :
    (dev.detach render).Sound lender pending ∧ dev.active = true := by
  have inside := sound.bounded render active
  have counted := countP_update_active dev.lenders render inside
    { dev.lenders render with active := false, cb := false }
  have most : (List.range mtDmaMaxSessions).countP (fun other => (dev.lenders other).active) ≤
      mtDmaMaxSessions := by
    simpa using List.countP_le_length (p := fun other => (dev.lenders other).active)
      (l := List.range mtDmaMaxSessions)
  rw [active, ← sound.attached] at counted
  rw [← sound.attached] at most
  simp only [Bool.toNat_false, Bool.toNat_true, Nat.add_zero] at counted
  simp only [mtDmaMaxSessions] at most
  have running : dev.active = true := by
    cases state : dev.active with
    | true => rfl
    | false =>
      have none := (sound.idle state).1
      omega
  refine ⟨⟨sound.queued, sound.history, sound.inflight, ?_, ?_, sound.nbDesc_lt, sound.short, ?_,
    ?_, ?_⟩, running⟩
  · intro other
    rw [← sound.borrowed other]
    by_cases same : other = render
    · subst same
      simp [MtDmaDev.detach]
    · simp [MtDmaDev.detach, Function.update_of_ne same]
  · intro borrow member
    have before := sound.known borrow member
    by_cases same : lender borrow.mbuf = render
    · exact ⟨before.1, by simp [MtDmaDev.detach, same]⟩
    · simpa [MtDmaDev.detach, Function.update_of_ne same] using before
  · refine Eq.trans ?_ (Nat.eq_sub_of_add_eq counted).symm
    show u16 (dev.nbSession - 1) = _
    rw [u16_eq]
    omega
  · intro other entry
    by_cases same : other = render
    · exact same ▸ inside
    · exact sound.bounded other (by simpa [MtDmaDev.detach, Function.update_of_ne same] using entry)
  · intro inactive
    rw [show dev.active = false from inactive] at running
    cases running

theorem MtDmaDev.Sound.dmaFree (sound : dev.Sound lender pending) (running : dev.active = true)
    (none : dev.nbSession = 0) : (dmaFree lender dev).Sound lender [] := by
  have emptied := sound.dmaDropMbuf dev.borrowQueue.length
  have all : pending.drop dev.borrowQueue.length = [] := by
    rw [sound.queued, List.length_map, List.drop_length]
  rw [all] at emptied
  have frame := dmaDropMbuf_frame lender dev dev.borrowQueue.length
  have freed : Dma.dmaFree lender dev =
      { Dma.dmaDropMbuf lender dev dev.borrowQueue.length with borrowQueue := [], active := false } := by
    simp [Dma.dmaFree, dmaSwUinit, running]
  rw [freed]
  exact ⟨rfl, emptied.history, emptied.inflight, emptied.borrowed, emptied.known,
    emptied.nbDesc_lt, emptied.short, emptied.attached, emptied.bounded,
    fun _ => ⟨frame.2.trans none, rfl⟩⟩

/-! ## The calls on all devices -/

def MtDmaMgr.Sound (mgr : MtDmaMgr Session) : Prop :=
  forall idx, Exists fun pending => (mgr.devs idx).Sound mgr.lender pending

theorem MtDmaMgr.Sound.setDev {mgr : MtDmaMgr Session} (sound : mgr.Sound) (idx : Fin mtlDmaDevMax)
    {dev : MtDmaDev Session} {pending : List (DmaBorrow Session)}
    (one : dev.Sound mgr.lender pending) : (mgr.setDev idx dev).Sound := by
  intro other
  by_cases same : other = idx
  · subst same
    exact ⟨pending, by simpa [MtDmaMgr.setDev] using one⟩
  · rcases sound other with ⟨rest, kept⟩
    exact ⟨rest, by simpa [MtDmaMgr.setDev, Function.update_of_ne same] using kept⟩

theorem MtDmaMgr.Sound.borrow {mgr : MtDmaMgr Session} (sound : mgr.Sound) {idx : Fin mtlDmaDevMax}
    {render mbuf : Nat}
    (active : ((mgr.devs idx).lenders render).active = true)
    (received : forall other, mbuf ∉ (mgr.devs other).borrowQueue) :
    (mtDmaBorrowMbuf mgr idx render mbuf).1.Sound := by
  have renamed : MtDmaMgr.Sound { mgr with lender := Function.update mgr.lender mbuf render } := by
    intro other
    rcases sound other with ⟨pending, one⟩
    refine ⟨pending, one.congr ?_⟩
    intro borrow member
    have queued : borrow.mbuf ∈ (mgr.devs other).borrowQueue := by
      rw [one.queued]
      exact List.mem_map_of_mem member
    apply Function.update_of_ne
    intro equal
    rw [equal] at queued
    exact received other queued
  rcases renamed idx with ⟨pending, one⟩
  unfold mtDmaBorrowMbuf
  cases room : mtDmaFull (mgr.devs idx) with
  | true => simpa [room] using renamed
  | false =>
    simpa [room] using
      renamed.setDev idx (one.borrowMbuf active room (Function.update_self _ _ _))

theorem MtDmaMgr.Sound.free (sound : mgr.Sound) (idx : Fin mtlDmaDevMax) (render : Nat) :
    (mtDmaFreeDev mgr idx render).1.Sound := by
  unfold mtDmaFreeDev
  cases active : ((mgr.devs idx).lenders render).active with
  | false => simpa [active] using sound
  | true =>
    rcases sound idx with ⟨pending, one⟩
    rcases one.detach active with ⟨left, running⟩
    by_cases last : ((mgr.devs idx).detach render).nbSession = 0
    · simpa [active, last] using sound.setDev idx (left.dmaFree running last)
    · simpa [active, last] using sound.setDev idx left

theorem MtDmaMgr.Sound.create (sound : mgr.Sound) {req : MtDmaRequestReq Session}
    (nbDesc : req.nbDesc < 65536) (answer : Fin mtlDmaDevMax -> DmaStart)
    (indices : List (Fin mtlDmaDevMax)) : (dmaCreate mgr req answer indices).1.Sound := by
  induction indices generalizing mgr with
  | nil => exact sound
  | cons idx rest ih =>
    rcases sound idx with ⟨pending, one⟩
    unfold dmaCreate
    by_cases fits : ((mgr.devs idx).usable && !(mgr.devs idx).active &&
        decide ((mgr.devs idx).socId = req.socketId)) = true
    · simp only [fits, if_true]
      have inactive : (mgr.devs idx).active = false := by
        simp only [Bool.and_eq_true, Bool.not_eq_true'] at fits
        exact fits.1.2
      cases answer idx with
      | hwFails =>
        apply ih
        exact sound.setDev idx (show MtDmaDev.Sound _ pending _ from ⟨one.queued, one.history, one.inflight,
          one.borrowed, one.known, one.nbDesc_lt, one.short, one.attached, one.bounded, one.idle⟩)
      | swFails =>
        apply ih
        refine sound.setDev idx (show MtDmaDev.Sound _ pending _ from ⟨one.queued, one.history, one.inflight,
          one.borrowed, one.known, ?_, one.short, one.attached, one.bounded, one.idle⟩)
        show (if req.nbDesc = 0 then 128 else req.nbDesc) < 65536
        split <;> omega
      | started => exact sound.setDev idx (one.start inactive nbDesc)
    · simp only [fits]
      exact ih sound

theorem MtDmaMgr.Sound.request {mgr : MtDmaMgr Session} (sound : mgr.Sound)
    {req : MtDmaRequestReq Session} (nbDesc : req.nbDesc < 65536)
    (answer : Fin mtlDmaDevMax -> DmaStart) (settled : TakesSettled mgr (.request req answer)) :
    (mtDmaRequestDev mgr req answer).1.Sound := by
  unfold mtDmaRequestDev
  by_cases empty : mgr.numDmaDev = 0
  · simpa only [empty, if_true] using sound
  · simp only [empty, if_false]
    cases found : mgr.findShared req with
    | none => exact sound.create nbDesc answer _
    | some place =>
      rcases place with ⟨idx, render⟩
      rcases sound idx with ⟨pending, one⟩
      have free := List.find?_some found
      have member := List.mem_of_find?_eq_some found
      have inside : render < mtDmaMaxSessions := by
        simp only [List.mem_flatMap, List.mem_map, List.mem_range] at member
        rcases member with ⟨_, _, other, below, equal⟩
        rw [← (Prod.mk.inj equal).2]
        exact below
      have empty : mtDmaEmpty ((mgr.devs idx).lenders render) = true := by
        simpa [TakesSettled, found] using settled
      exact sound.setDev idx (one.share free inside (of_decide_eq_true empty))

theorem MtDmaMgr.Sound.step (sound : mgr.Sound) (input : DmaInput Session)
    (disciplined : DmaDisciplined mgr input) (settled : TakesSettled mgr input)
    : (dmaStep mgr input).Sound := by
  cases input with
  | request req answer => exact sound.request disciplined answer settled
  | borrow idx render mbuf => exact sound.borrow disciplined.1 disciplined.2
  | drop idx render nbMbuf =>
    rcases sound idx with ⟨pending, one⟩
    exact sound.setDev idx (one.dmaDropMbuf nbMbuf)
  | free idx render => exact sound.free idx render

theorem mtDmaInit_sound (sockets : List Int) : (mtDmaInit sockets : MtDmaMgr Session).Sound := by
  intro idx
  refine ⟨[], rfl, ⟨[], rfl, List.Forall₂.nil⟩, rfl, fun _ => rfl, by simp, by simp [mtDmaInit],
    by simp, ?_, by simp [mtDmaInit], fun _ => ⟨rfl, rfl⟩⟩
  exact (List.countP_eq_zero.mpr (by simp [mtDmaInit])).symm

def dmaRun (sockets : List Int) (inputs : List (DmaInput Session)) : MtDmaMgr Session :=
  run dmaStep (mtDmaInit sockets) inputs

/-- In every run of the calls in which no request takes an entry with queued buffers, the accounts of
every device are right in every state. -/
theorem dma_accounts_right (sockets : List Int) (inputs : List (DmaInput Session))
    (admitted : Admitted dmaStep (fun mgr input => DmaDisciplined mgr input ∧ TakesSettled mgr input)
      (mtDmaInit sockets) inputs) (idx : Fin mtlDmaDevMax) :
    ((dmaRun sockets inputs).devs idx).Accounted (dmaRun sockets inputs).lender := by
  have sound : (dmaRun sockets inputs).Sound :=
    run_invariant dmaStep _ MtDmaMgr.Sound
      (fun _ input sound guard => sound.step input guard.1 guard.2) (mtDmaInit_sound sockets) admitted
  rcases sound idx with ⟨pending, one⟩
  exact one.accounted

def sliceRequest (session : Nat) : MtDmaRequestReq Nat where
  nbDesc := 128
  maxShared := mtDmaMaxSessions
  schIdx := 0
  socketId := 0
  priv := session
  dropMbufCb := true

/-- The second session takes a buffer of the first from the queue, the first leaves with another one in
flight, and both are released by the time its entry is given away. -/
theorem dma_accounts_right_shared :
    let inputs : List (DmaInput Nat) :=
      [.request (sliceRequest 1) (fun _ => .started), .request (sliceRequest 2) (fun _ => .started),
        .borrow 0 0 7, .borrow 0 1 8, .drop 0 1 1, .borrow 0 0 9, .free 0 0, .drop 0 1 2,
        .request (sliceRequest 3) (fun _ => .started), .borrow 0 0 7]
    ((dmaRun [0] inputs).devs 0).Accounted (dmaRun [0] inputs).lender ∧
      ((dmaRun [0] inputs).devs 0).nbInflight = 1 ∧
      ((dmaRun [0] inputs).devs 0).drops = [⟨7, 1, some 1⟩, ⟨8, 1, some 2⟩, ⟨9, 1, none⟩] := by
  intro inputs
  have admitted : Admitted dmaStep (fun mgr input => DmaDisciplined mgr input ∧ TakesSettled mgr input)
      (mtDmaInit [0]) inputs := by decide +kernel
  have accounted := dma_accounts_right [0] inputs admitted 0
  exact ⟨accounted, by decide +kernel, by decide +kernel⟩

/-- The first session leaves with a buffer in flight and a third one gets its entry: the count of the
entry passes below zero, and the third session is called for the buffer of the first. -/
theorem reused_entry_miscounts :
    let inputs : List (DmaInput Nat) :=
      [.request (sliceRequest 1) (fun _ => .started), .request (sliceRequest 2) (fun _ => .started),
        .borrow 0 0 7, .free 0 0, .request (sliceRequest 3) (fun _ => .started), .drop 0 1 1]
    Admitted dmaStep DmaDisciplined (mtDmaInit [0]) inputs ∧
      (((dmaRun [0] inputs).devs 0).lenders 0).nbBorrowed = 65535 ∧
      ((dmaRun [0] inputs).devs 0).nbInflight = 0 ∧
      ((dmaRun [0] inputs).devs 0).borrows = [⟨7, some 1⟩] ∧
      ((dmaRun [0] inputs).devs 0).drops = [⟨7, 0, some 3⟩] ∧
      ¬ ((dmaRun [0] inputs).devs 0).Accounted (dmaRun [0] inputs).lender := by
  intro inputs
  have wrapped : (((dmaRun [0] inputs).devs 0).lenders 0).nbBorrowed = 65535 := by decide +kernel
  have empty : ((dmaRun [0] inputs).devs 0).borrowQueue = [] := by decide +kernel
  refine ⟨by decide +kernel, wrapped, by decide +kernel, by decide +kernel, by decide +kernel, ?_⟩
  intro accounted
  have counted := accounted.borrowed 0
  rw [wrapped, empty] at counted
  cases counted

end MediaTransport.Dma
