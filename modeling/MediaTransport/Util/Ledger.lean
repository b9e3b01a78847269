import MediaTransport.Util.Session

namespace MediaTransport.Util

open Library

/-!
# The accounts of a receive session

The receive sessions that filter by sequence number and timestamp keep the
same counters.  A packet is counted on its port, where a jump of the port's
numbers is a loss; it is then filtered, or accepted, where a jump of the
session's numbers is a loss that redundancy did not recover.  The books are
kept here apart from the sessions, which are shown to keep them.
-/

structure Ledger where
  session : Int
  latest : MtlSessionPort -> Int
  packets : MtlSessionPort -> Nat
  portLost : MtlSessionPort -> Nat
  lost : Nat
  unrecovered : Nat
  received : Nat
  redundant : Nat
  dropped : Nat

variable (l : Ledger) (port : MtlSessionPort) (number : Nat)

/-- Where a packet ends that was counted on its port. -/
inductive Account where
  | received
  | redundant
  | dropped
  deriving DecidableEq, Repr

/-- The filter turns the packet away, or accepts it; a late packet had been counted as lost. -/
inductive Fate where
  | filtered
  | accepted (late : Bool) (account : Account)

theorem mtSeq16Greater_eq (left right : Int) : mtSeq16Greater left right = true <->
    0 < u16 (left - right) ∧ u16 (left - right) < 32768 := by
  unfold mtSeq16Greater
  simp only [Bool.and_eq_true, decide_eq_true_eq]
  omega

def numbersSkipped (before : Int) (number : Nat) : Nat :=
  if number ≠ u16 (before + 1) ∧ mtSeq16Greater number before then
    u16 ((number : Int) - before - 1)
  else
    0

namespace Ledger

/-! ## Entries -/

def seed : Ledger :=
  { l with
    latest :=
      if l.latest port = -1 then Function.update l.latest port ((number : Int) - 1) else l.latest
    session := if l.session = -1 then (number : Int) - 1 else l.session }

/-- The packet is counted on its port. -/
def count : Ledger :=
  let gap := numbersSkipped (l.latest port) number
  { l with
    packets := Function.update l.packets port (l.packets port + 1)
    portLost := Function.update l.portLost port (l.portLost port + gap)
    lost := l.lost + gap
    latest :=
      if mtSeq16Greater number (l.latest port) then Function.update l.latest port (number : Int)
      else l.latest }

def recover : Ledger := { l with unrecovered := l.unrecovered - 1 }

def advance : Ledger :=
  { l with
    unrecovered := l.unrecovered + numbersSkipped l.session number
    session := if mtSeq16Greater number l.session then (number : Int) else l.session }

def settle : Account -> Ledger
  | .received => { l with received := l.received + 1 }
  | .redundant => { l with redundant := l.redundant + 1 }
  | .dropped => { l with dropped := l.dropped + 1 }

def arrive : Ledger :=
  (l.seed port number).count port number

def enter : Fate -> Ledger
  | .filtered => (l.arrive port number).settle .redundant
  | .accepted true account => ((l.arrive port number).recover.advance number).settle account
  | .accepted false account => ((l.arrive port number).advance number).settle account

/-! ## Balances -/

/-- The accounts that every packet keeps level. -/
structure Balanced (l : Ledger) : Prop where
  lost : l.lost = l.portLost .p + l.portLost .r
  packets : l.packets .p + l.packets .r = l.received + l.redundant + l.dropped

/-- What `struct st_rx_user_stats` promises. -/
structure Documented (l : Ledger) : Prop where
  balanced : l.Balanced
  unrecovered : l.unrecovered ≤ l.lost

theorem sum_update (values : MtlSessionPort -> Nat) (port : MtlSessionPort) (more : Nat) :
    Function.update values port (values port + more) .p +
        Function.update values port (values port + more) .r =
      values .p + values .r + more := by
  cases port with
  | p => simp [Function.update]; omega
  | r => simp [Function.update]; omega

theorem arrive_lost (even : l.lost = l.portLost .p + l.portLost .r) :
    (l.arrive port number).lost =
      (l.arrive port number).portLost .p + (l.arrive port number).portLost .r := by
  have sum := sum_update l.portLost port (numbersSkipped ((l.seed port number).latest port) number)
  simp only [arrive, count]
  change l.lost + _ = Function.update l.portLost port (l.portLost port + _) .p +
    Function.update l.portLost port (l.portLost port + _) .r
  rw [sum, even]

theorem arrive_packets :
    (l.arrive port number).packets .p + (l.arrive port number).packets .r =
      l.packets .p + l.packets .r + 1 :=
  sum_update l.packets port 1

theorem Balanced.settled {l t : Ledger} (balanced : l.Balanced) (port : MtlSessionPort)
    (number : Nat) (account : Account) (lost : t.lost = (l.arrive port number).lost)
    (portLost : t.portLost = (l.arrive port number).portLost)
    (packets : t.packets = (l.arrive port number).packets) (received : t.received = l.received)
    (redundant : t.redundant = l.redundant) (dropped : t.dropped = l.dropped) :
    (t.settle account).Balanced := by
  have even := l.arrive_lost port number balanced.lost
  have one := l.arrive_packets port number
  have before := balanced.packets
  rw [← lost, ← portLost] at even
  rw [← packets] at one
  cases account with
  | received => exact ⟨even, by simp only [settle]; omega⟩
  | redundant => exact ⟨even, by simp only [settle]; omega⟩
  | dropped => exact ⟨even, by simp only [settle]; omega⟩

theorem Balanced.enter {l : Ledger} (balanced : l.Balanced) (port : MtlSessionPort)
    (number : Nat) (fate : Fate) : (l.enter port number fate).Balanced := by
  cases fate with
  | filtered => exact balanced.settled port number .redundant rfl rfl rfl rfl rfl rfl
  | accepted late account =>
    cases late with
    | true => exact balanced.settled port number account rfl rfl rfl rfl rfl rfl
    | false => exact balanced.settled port number account rfl rfl rfl rfl rfl rfl

/-! ## Losses of the session and of the port -/

/-- A packet that leaves out numbers of the session comes on a port that was heard before, and
whose latest number, the session's and the packet's lie in this order within half a circle. -/
def InOrder : Prop :=
  l.session ≠ -1 -> number ≠ u16 (l.session + 1) -> mtSeq16Greater number l.session = true ->
    l.latest port ≠ -1 ∧
      u16 (l.session - l.latest port) + u16 ((number : Int) - l.session) < 32768

instance (l : Ledger) (port : MtlSessionPort) (number : Nat) : Decidable (l.InOrder port number) :=
  inferInstanceAs (Decidable (_ -> _ -> _ -> _))

theorem numbersSkipped_pred : numbersSkipped ((number : Int) - 1) number = 0 := by
  have next : (number : Int) - (number - 1) - 1 = 0 := by omega
  unfold numbersSkipped
  rw [next]
  split <;> rfl

theorem InOrder.skipped_le {l : Ledger} {port : MtlSessionPort} {number : Nat}
    (inOrder : l.InOrder port number) :
    numbersSkipped (l.seed port number).session number ≤
      numbersSkipped ((l.seed port number).latest port) number := by
  by_cases unset : l.session = -1
  · have first : (l.seed port number).session = (number : Int) - 1 := if_pos unset
    rw [first, numbersSkipped_pred]
    exact Nat.zero_le _
  · have kept : (l.seed port number).session = l.session := if_neg unset
    rw [kept]
    by_cases jump : number ≠ u16 (l.session + 1) ∧ mtSeq16Greater number l.session = true
    · rcases inOrder unset jump.1 jump.2 with ⟨heard, order⟩
      have same : (l.seed port number).latest port = l.latest port := by
        simp only [seed, if_neg heard]
      have ahead := (mtSeq16Greater_eq _ _).mp jump.2
      have newer : mtSeq16Greater number (l.latest port) = true := by
        apply (mtSeq16Greater_eq _ _).mpr
        simp only [u16_eq] at order ahead ⊢
        omega
      rw [same]
      unfold numbersSkipped
      rw [if_pos jump]
      by_cases next : number = u16 (l.latest port + 1)
      · rw [if_neg (by simp [next])]
        simp only [u16_eq] at order ahead next ⊢
        omega
      · rw [if_pos ⟨next, newer⟩]
        simp only [u16_eq] at order ahead ⊢
        omega
    · unfold numbersSkipped
      rw [if_neg jump]
      exact Nat.zero_le _

theorem Documented.enter {l : Ledger} (documented : l.Documented) {port : MtlSessionPort}
    {number : Nat} {fate : Fate}
    (inOrder : fate ≠ .filtered -> l.InOrder port number) :
    (l.enter port number fate).Documented where
  balanced := documented.balanced.enter port number fate
  unrecovered := by
    have before := documented.unrecovered
    have more : (l.arrive port number).lost =
        l.lost + numbersSkipped ((l.seed port number).latest port) number := rfl
    have session : (l.arrive port number).session = (l.seed port number).session := rfl
    have settled : forall (t : Ledger) (account : Account),
        (t.settle account).unrecovered = t.unrecovered ∧ (t.settle account).lost = t.lost := by
      intro t account
      cases account <;> exact ⟨rfl, rfl⟩
    cases fate with
    | filtered =>
      change l.unrecovered ≤ (l.arrive port number).lost
      omega
    | accepted late account =>
      have skipped := (inOrder (by simp)).skipped_le
      rw [← session] at skipped
      cases late with
      | true =>
        rw [Ledger.enter, (settled _ account).1, (settled _ account).2]
        change l.unrecovered - 1 + numbersSkipped (l.arrive port number).session number ≤
          (l.arrive port number).lost
        omega
      | false =>
        rw [Ledger.enter, (settled _ account).1, (settled _ account).2]
        change l.unrecovered + numbersSkipped (l.arrive port number).session number ≤
          (l.arrive port number).lost
        omega

end Ledger

end MediaTransport.Util
