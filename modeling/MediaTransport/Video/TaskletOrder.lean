import Mathlib.Data.List.TakeWhile
import MediaTransport.Video.Tasklets
import MediaTransport.Library.Run

namespace MediaTransport.Video

open Library

/-!
# What the pacing tasklets send

What a tasklet took from the ring is sent, waits in one of the buffers or is a
freed dummy, always in the order of the ring.  A bulk is handled piece by piece,
so the invariant says besides which packets were taken and not handled yet.
-/

/-- What was handled was sent or waits, in order, without the dummies, which were freed; `rest` was
taken from the ring and is being handled. -/
structure TrsPort.Kept (s : TrsPort) (handled rest : List TrsMbuf) : Prop where
  ring : s.enqueued = handled ++ rest ++ s.ring
  order : s.sent ++ s.trsInflight2.unsent ++ s.trsInflight.unsent =
    handled.filter (fun pkt => !pkt.dummy)
  freed : s.freed = handled.filter (fun pkt => pkt.dummy)
  untouched : s.overwritten = false
  buffer : s.trsInflight.idx + s.trsInflight.num = s.trsInflight.pkts.length
  buffer2 : s.trsInflight2.idx + s.trsInflight2.num = s.trsInflight2.pkts.length

variable {s : TrsPort} {handled rest pkts : List TrsMbuf}

/-! ## Buffers -/

theorem TrsInflight.unsent_nil {inflight : TrsInflight} (empty : inflight.num = 0) :
    inflight.unsent = [] := by
  simp [TrsInflight.unsent, empty]

theorem TrsInflight.length_unsent {inflight : TrsInflight}
    (buffer : inflight.idx + inflight.num = inflight.pkts.length) :
    inflight.unsent.length = inflight.num := by
  simp only [TrsInflight.unsent, List.length_take, List.length_drop]
  omega

theorem TrsInflight.unsent_advance (inflight : TrsInflight) (tx : Nat) :
    ({ inflight with num := inflight.num - tx, idx := inflight.idx + tx } : TrsInflight).unsent =
      inflight.unsent.drop tx := by
  simp only [TrsInflight.unsent, List.drop_take, List.drop_drop]

theorem TrsPort.Kept.retryInflight2 (kept : s.Kept handled rest) (answer : Nat) :
    (s.retryInflight2 answer).1.Kept handled rest := by
  have length := TrsInflight.length_unsent kept.buffer2
  refine ⟨kept.ring, ?_, kept.freed, kept.untouched, kept.buffer, ?_⟩
  · unfold TrsPort.retryInflight2 videoTrsBurst
    dsimp only
    rw [TrsInflight.unsent_advance]
    have whole := List.take_append_drop (min answer s.trsInflight2.unsent.length) s.trsInflight2.unsent
    rw [← kept.order]
    simp only [List.append_assoc]
    rw [← List.append_assoc (List.take _ _), whole]
  · have bound : min answer s.trsInflight2.unsent.length ≤ s.trsInflight2.num := by
      rw [length]
      exact Nat.min_le_right _ _
    have buffer := kept.buffer2
    unfold TrsPort.retryInflight2 videoTrsBurst
    dsimp only
    omega

theorem TrsPort.Kept.retryInflight (kept : s.Kept handled rest) (none2 : s.trsInflight2.num = 0)
    (answer : Nat) : (s.retryInflight answer).1.Kept handled rest := by
  have length := TrsInflight.length_unsent kept.buffer
  refine ⟨kept.ring, ?_, kept.freed, kept.untouched, ?_, kept.buffer2⟩
  · unfold TrsPort.retryInflight videoTrsBurst
    dsimp only
    rw [TrsInflight.unsent_advance, TrsInflight.unsent_nil none2]
    have whole := List.take_append_drop (min answer s.trsInflight.unsent.length) s.trsInflight.unsent
    rw [← kept.order, TrsInflight.unsent_nil none2]
    simp only [List.append_assoc, List.nil_append]
    rw [whole]
  · have bound : min answer s.trsInflight.unsent.length ≤ s.trsInflight.num := by
      rw [length]
      exact Nat.min_le_right _ _
    have buffer := kept.buffer
    unfold TrsPort.retryInflight videoTrsBurst
    dsimp only
    omega

/-! ## Pieces of a bulk -/

def Genuine (pkts : List TrsMbuf) : Prop := ∀ pkt ∈ pkts, pkt.dummy = false

theorem Genuine.filter_dummy (genuine : Genuine pkts) : pkts.filter (fun pkt => pkt.dummy) = [] :=
  List.filter_eq_nil_iff.mpr (fun pkt member => by simp [genuine pkt member])

theorem Genuine.filter_genuine (genuine : Genuine pkts) :
    pkts.filter (fun pkt => !pkt.dummy) = pkts :=
  List.filter_eq_self.mpr (fun pkt member => by simp [genuine pkt member])

section

variable (kept : s.Kept handled (pkts ++ rest)) (genuine : Genuine pkts)
    (none : s.trsInflight.num = 0)

include kept genuine none

theorem TrsPort.Kept.saveInflight : (s.saveInflight pkts).Kept (handled ++ pkts) rest := by
  refine ⟨?_, ?_, ?_, ?_, ?_, kept.buffer2⟩
  · change s.enqueued = _ ++ s.ring
    rw [kept.ring]
    simp only [List.append_assoc]
  · have order := kept.order
    rw [TrsInflight.unsent_nil none, List.append_nil] at order
    rw [List.filter_append, genuine.filter_genuine, ← order]
    simp [TrsPort.saveInflight, TrsInflight.unsent]
  · rw [List.filter_append, genuine.filter_dummy, List.append_nil]
    exact kept.freed
  · simp [TrsPort.saveInflight, none, kept.untouched]
  · simp [TrsPort.saveInflight]

theorem TrsPort.Kept.burst (none2 : s.trsInflight2.num = 0) {answer : Nat} :
    (videoTrsBurst s pkts answer).1.Kept (handled ++ pkts.take (videoTrsBurst s pkts answer).2)
      (pkts.drop (videoTrsBurst s pkts answer).2 ++ rest) := by
  unfold videoTrsBurst
  dsimp only
  generalize min answer pkts.length = tx
  have accepted : Genuine (pkts.take tx) := fun pkt member => genuine pkt (List.mem_of_mem_take member)
  refine ⟨?_, ?_, ?_, kept.untouched, kept.buffer, kept.buffer2⟩
  · dsimp only
    rw [kept.ring]
    simp only [List.append_assoc]
    rw [← List.append_assoc (List.take tx pkts), List.take_append_drop]
  · have order := kept.order
    rw [TrsInflight.unsent_nil none, TrsInflight.unsent_nil none2] at order
    simp only [List.append_nil] at order
    rw [List.filter_append, accepted.filter_genuine, ← order, TrsInflight.unsent_nil none,
      TrsInflight.unsent_nil none2]
    simp only [List.append_nil]
  · rw [List.filter_append, accepted.filter_dummy, List.append_nil]
    exact kept.freed

theorem TrsPort.Kept.saveInflight2 (none2 : s.trsInflight2.num = 0) :
    (s.saveInflight2 pkts).Kept (handled ++ pkts) rest := by
  refine ⟨?_, ?_, ?_, ?_, kept.buffer, ?_⟩
  · change s.enqueued = _ ++ s.ring
    rw [kept.ring]
    simp only [List.append_assoc]
  · have order := kept.order
    rw [TrsInflight.unsent_nil none, TrsInflight.unsent_nil none2] at order
    simp only [List.append_nil] at order
    change s.sent ++ _ ++ s.trsInflight.unsent = _
    rw [List.filter_append, genuine.filter_genuine, ← order, TrsInflight.unsent_nil none]
    simp [TrsPort.saveInflight2, TrsInflight.unsent]
  · rw [List.filter_append, genuine.filter_dummy, List.append_nil]
    exact kept.freed
  · simp [TrsPort.saveInflight2, none2, kept.untouched]
  · simp [TrsPort.saveInflight2]

theorem TrsPort.Kept.burstOrSave (none2 : s.trsInflight2.num = 0) (answer : Nat) :
    (s.burstOrSave pkts answer).Kept (handled ++ pkts) rest := by
  have burst := @TrsPort.Kept.burst s handled rest pkts kept genuine none none2 answer
  have bound : (videoTrsBurst s pkts answer).2 ≤ pkts.length := Nat.min_le_right _ _
  unfold TrsPort.burstOrSave
  generalize result : videoTrsBurst s pkts answer = bursted at burst bound
  have same : bursted.1.trsInflight = s.trsInflight := by rw [← result]; rfl
  rcases bursted with ⟨after, tx⟩
  dsimp only at burst bound same ⊢
  by_cases partly : tx < pkts.length
  · rw [if_pos partly]
    have left : Genuine (pkts.drop tx) := fun pkt member => genuine pkt (List.mem_of_mem_drop member)
    have saved := burst.saveInflight left (by rw [same]; exact none)
    rw [List.append_assoc, List.take_append_drop] at saved
    exact saved
  · rw [if_neg partly]
    have all : tx = pkts.length := by omega
    subst all
    rw [List.take_length, List.drop_length] at burst
    exact burst

end

theorem TrsPort.Kept.clocked (kept : s.Kept handled rest) (targetTsc : Nat) (rlState : RlState)
    (pads : Nat) :
    ({ s with trsTargetTsc := targetTsc, rlState := rlState, trsPadInflightNum := pads } :
      TrsPort).Kept handled rest :=
  ⟨kept.ring, kept.order, kept.freed, kept.untouched, kept.buffer, kept.buffer2⟩

theorem TrsPort.Kept.insertPad (kept : s.Kept handled rest) (cfg : TrsConfig) (bulk : List TrsMbuf)
    (padAnswer : Nat) :
    (s.insertPad cfg bulk padAnswer).Kept handled rest ∧
      (s.insertPad cfg bulk padAnswer).trsInflight = s.trsInflight := by
  unfold TrsPort.insertPad
  split
  · exact ⟨kept, rfl⟩
  · split
    · exact ⟨kept.clocked _ _ _, rfl⟩
    · exact ⟨kept, rfl⟩

section

variable (kept : s.Kept handled (pkts ++ rest)) (genuine : Genuine pkts)
    (none : s.trsInflight.num = 0) (none2 : s.trsInflight2.num = 0) (cfg : TrsConfig)
    (answer padAnswer : Nat)

include kept genuine none none2

theorem TrsPort.Kept.burstPacket :
    (videoBurstPacket cfg s pkts false answer padAnswer).Kept (handled ++ pkts) rest :=
  ((kept.burstOrSave genuine none none2 answer).insertPad cfg pkts padAnswer).1

theorem TrsPort.Kept.burstPacket2 :
    (videoBurstPacket cfg s pkts true answer padAnswer).Kept (handled ++ pkts) rest ∧
      (videoBurstPacket cfg s pkts true answer padAnswer).trsInflight.num = 0 := by
  have burst := @TrsPort.Kept.burst s handled rest pkts kept genuine none none2 answer
  have bound : (videoTrsBurst s pkts answer).2 ≤ pkts.length := Nat.min_le_right _ _
  unfold videoBurstPacket
  generalize result : videoTrsBurst s pkts answer = bursted at burst bound
  have same : bursted.1.trsInflight = s.trsInflight := by rw [← result]; rfl
  have same2 : bursted.1.trsInflight2 = s.trsInflight2 := by rw [← result]; rfl
  rcases bursted with ⟨after, tx⟩
  dsimp only at burst bound same same2 ⊢
  rw [if_pos rfl]
  have empty : after.trsInflight.num = 0 := by
    rw [same]
    exact none
  by_cases partly : tx < pkts.length
  · rw [if_pos partly]
    have left : Genuine (pkts.drop tx) := fun pkt member => genuine pkt (List.mem_of_mem_drop member)
    have saved := burst.saveInflight2 left empty (by rw [same2]; exact none2)
    rw [List.append_assoc, List.take_append_drop] at saved
    have padded := saved.insertPad cfg pkts padAnswer
    exact ⟨padded.1, by rw [padded.2]; exact empty⟩
  · rw [if_neg partly]
    have all : tx = pkts.length := by omega
    subst all
    rw [List.take_length, List.drop_length] at burst
    have padded := burst.insertPad cfg pkts padAnswer
    exact ⟨padded.1, by rw [padded.2]; exact empty⟩

end

theorem TrsPort.Kept.free (kept : s.Kept handled (pkts ++ rest))
    (dummies : ∀ pkt ∈ pkts, pkt.dummy = true) : (s.free pkts).Kept (handled ++ pkts) rest := by
  refine ⟨?_, ?_, ?_, kept.untouched, kept.buffer, kept.buffer2⟩
  · change s.enqueued = _ ++ s.ring
    rw [kept.ring]
    simp only [List.append_assoc]
  · have nothing : pkts.filter (fun pkt => !pkt.dummy) = [] :=
      List.filter_eq_nil_iff.mpr (fun pkt member => by simp [dummies pkt member])
    rw [List.filter_append, nothing, List.append_nil]
    exact kept.order
  · have everything : pkts.filter (fun pkt => pkt.dummy) = pkts :=
      List.filter_eq_self.mpr dummies
    rw [List.filter_append, everything, ← kept.freed]
    rfl

theorem TrsPort.Kept.dequeue {bulk : Nat} {after : TrsPort} (kept : s.Kept handled [])
    (taken : s.dequeueBulk bulk = some (pkts, after)) :
    after.Kept handled pkts ∧ pkts = s.ring.take bulk ∧ after.ring = s.ring.drop bulk ∧
      after.trsInflight = s.trsInflight ∧ after.trsInflight2 = s.trsInflight2 := by
  unfold TrsPort.dequeueBulk at taken
  split at taken
  · cases taken
  · simp only [Option.some.injEq, Prod.mk.injEq] at taken
    rcases taken with ⟨rfl, rfl⟩
    refine ⟨⟨?_, kept.order, kept.freed, kept.untouched, kept.buffer, kept.buffer2⟩, rfl, rfl, rfl, rfl⟩
    have ring := kept.ring
    rw [List.append_nil] at ring
    dsimp only
    rw [List.append_assoc, List.take_append_drop]
    exact ring

/-! ## Passes -/

def Bulks (cfg : TrsConfig) (ring : List TrsMbuf) (good : List TrsMbuf -> Prop) : Prop :=
  Exists fun bulks : List (List TrsMbuf) => ring = bulks.flatten ∧
    ∀ bulk ∈ bulks, BuilderBulk cfg bulk ∧ good bulk

theorem Bulks.concat {cfg : TrsConfig} {ring bulk : List TrsMbuf} {good : List TrsMbuf -> Prop}
    (whole : Bulks cfg ring good) (built : BuilderBulk cfg bulk) (fine : good bulk) :
    Bulks cfg (ring ++ bulk) good := by
  rcases whole with ⟨bulks, flat, all⟩
  refine ⟨bulks ++ [bulk], by simp [flat], ?_⟩
  intro other member
  rcases List.mem_append.mp member with earlier | last
  · exact all other earlier
  · rw [List.mem_singleton.mp last]
    exact ⟨built, fine⟩

theorem Bulks.front {cfg : TrsConfig} {ring : List TrsMbuf} {good : List TrsMbuf -> Prop}
    (whole : Bulks cfg ring good) (enough : cfg.bulk ≤ ring.length) :
    (BuilderBulk cfg (ring.take cfg.bulk) ∧ good (ring.take cfg.bulk)) ∧
      Bulks cfg (ring.drop cfg.bulk) good := by
  rcases whole with ⟨bulks, rfl, all⟩
  cases bulks with
  | nil =>
    have positive := cfg.bulk_pos
    simp at enough
    omega
  | cons bulk later =>
    have mine := all bulk List.mem_cons_self
    have size : cfg.bulk = bulk.length := mine.1.1.symm
    rw [List.flatten_cons, size, List.take_left, List.drop_left]
    exact ⟨mine, later, rfl, fun other member => all other (List.mem_cons_of_mem bulk member)⟩

def StartsClean (pkts : List TrsMbuf) : Prop :=
  (pkts.dropWhile (fun pkt => !pkt.first)).any (fun pkt => pkt.dummy) = false

instance (pkts : List TrsMbuf) : Decidable (StartsClean pkts) :=
  inferInstanceAs (Decidable (_ = false))

theorem genuine_takeWhile (pkts : List TrsMbuf) :
    Genuine (pkts.takeWhile (fun pkt => !pkt.dummy)) := by
  intro pkt member
  have passed := List.mem_takeWhile_imp member
  simpa using passed

section

variable (kept : s.Kept handled pkts)
    (built : (pkts.dropWhile (fun pkt => !pkt.dummy)).all (fun pkt => pkt.dummy) = true)

include kept built

theorem TrsPort.Kept.clockBulk
    (none : s.trsInflight.num = 0) (none2 : s.trsInflight2.num = 0) (timeOf : TrsMbuf -> Nat)
    (anyTime : Bool) (a : TrsAnswers) :
    (videoTrsClockBulk timeOf anyTime s pkts a).Kept (handled ++ pkts) [] := by
  have genuine := genuine_takeWhile pkts
  have whole : pkts.takeWhile (fun pkt => !pkt.dummy) ++ pkts.dropWhile (fun pkt => !pkt.dummy) = pkts :=
    List.takeWhile_append_dropWhile
  have dummies : forall pkt, pkt ∈ pkts.dropWhile (fun pkt => !pkt.dummy) -> pkt.dummy = true :=
    List.all_eq_true.mp built
  unfold videoTrsClockBulk
  generalize pkts.takeWhile (fun pkt => !pkt.dummy) = valid at genuine whole
  generalize pkts.dropWhile (fun pkt => !pkt.dummy) = dummy at whole dummies
  have split : s.Kept handled (valid ++ (dummy ++ [])) := by
    rw [List.append_nil, whole]
    exact kept
  -- the dummies are freed first, which is the same as freeing them last
  have freed : forall after : TrsPort, after.Kept (handled ++ valid) (dummy ++ []) ->
      (after.free dummy).Kept (handled ++ pkts) [] := by
    intro after sent
    have done := sent.free dummies
    rw [List.append_assoc, whole] at done
    exact done
  have sent := freed _ (split.burstOrSave genuine none none2 a.bulkTx)
  have commuted : (s.burstOrSave valid a.bulkTx).free dummy = (s.free dummy).burstOrSave valid a.bulkTx := by
    unfold TrsPort.burstOrSave videoTrsBurst
    dsimp only [TrsPort.free]
    split <;> rfl
  rw [commuted] at sent
  cases pkts with
  | nil =>
    have nothing := List.append_eq_nil_iff.mp whole
    rw [nothing.2]
    have later := freed s
    rw [nothing.1, nothing.2] at later
    exact later (by simpa using kept)
  | cons pkt others =>
    dsimp only
    split
    · have saved := freed _ (split.saveInflight genuine none)
      exact ⟨saved.ring, saved.order, saved.freed, saved.untouched, saved.buffer, saved.buffer2⟩
    · exact sent

/-- The rate limit tasklet on a bulk of the builder that has no dummy behind the first packet of a
frame. -/
theorem TrsPort.Kept.rlBulk
    (clean : StartsClean pkts) (none : s.trsInflight.num = 0) (none2 : s.trsInflight2.num = 0)
    (cfg : TrsConfig) (a : RlAnswers) :
    (videoTrsRlBulk cfg s pkts a).1.Kept (handled ++ pkts) [] := by
  have whole : pkts.takeWhile (fun pkt => !(pkt.first || pkt.dummy)) ++
      pkts.dropWhile (fun pkt => !(pkt.first || pkt.dummy)) = pkts := List.takeWhile_append_dropWhile
  have ordinary : forall pkt, pkt ∈ pkts.takeWhile (fun pkt => !(pkt.first || pkt.dummy)) ->
      pkt.first = false ∧ pkt.dummy = false := by
    intro pkt member
    have passed := List.mem_takeWhile_imp member
    simpa using passed
  have stop := List.head?_dropWhile_not (fun pkt : TrsMbuf => !(pkt.first || pkt.dummy)) pkts
  unfold videoTrsRlBulk
  generalize pkts.takeWhile (fun pkt => !(pkt.first || pkt.dummy)) = before at whole ordinary
  generalize pkts.dropWhile (fun pkt => !(pkt.first || pkt.dummy)) = behind at whole stop
  have genuine : Genuine before := fun pkt member => (ordinary pkt member).2
  cases behind with
  | nil =>
    rw [List.append_nil] at whole
    subst whole
    exact TrsPort.Kept.burstPacket (by rw [List.append_nil]; exact kept) genuine none none2 cfg _ _
  | cons pkt others =>
    subst whole
    dsimp only
    by_cases dummy : pkt.dummy = true
    · -- the packets before the dummies continue the frame
      rw [if_pos dummy]
      have passed : (before ++ pkt :: others).dropWhile (fun pkt => !pkt.dummy) = pkt :: others := by
        rw [List.dropWhile_append_of_pos (fun other member => by simp [genuine other member])]
        exact List.dropWhile_cons_of_neg (by simp [dummy])
      rw [passed] at built
      have sent := kept.burstPacket genuine none none2 cfg a.beforeTx a.beforePadTx
      have freed := TrsPort.Kept.free (by rw [List.append_nil]; exact sent)
        (List.all_eq_true.mp built)
      rw [List.append_assoc] at freed
      exact freed
    · rw [if_neg dummy]
      have first : pkt.first = true := by
        simpa [dummy] using stop
      have passed : (before ++ pkt :: others).dropWhile (fun pkt => !pkt.first) = pkt :: others := by
        rw [List.dropWhile_append_of_pos (fun other member => by simp [(ordinary other member).1])]
        exact List.dropWhile_cons_of_neg (by simp [first])
      have frame : Genuine (pkt :: others) := by
        intro other member
        unfold StartsClean at clean
        rw [passed, List.any_eq_false] at clean
        exact eq_false_of_ne_true (clean other member)
      have sent : ((if before.length ≠ 0 then
          videoBurstPacket cfg s before true a.beforeTx a.beforePadTx else s).Kept
            (handled ++ before) (pkt :: others ++ [])) ∧
          (if before.length ≠ 0 then
            videoBurstPacket cfg s before true a.beforeTx a.beforePadTx else s).trsInflight.num = 0 := by
        rw [List.append_nil]
        by_cases empty : before.length ≠ 0
        · rw [if_pos empty]
          exact kept.burstPacket2 genuine none none2 cfg a.beforeTx a.beforePadTx
        · rw [if_neg empty]
          have nothing := List.eq_nil_of_length_eq_zero (not_not.mp empty)
          subst nothing
          rw [List.append_nil]
          exact ⟨kept, none⟩
      generalize (if before.length ≠ 0 then
        videoBurstPacket cfg s before true a.beforeTx a.beforePadTx else s) = after at sent
      rw [← List.append_assoc handled]
      by_cases waits : a.curTsc < pkt.tscTimeStamp ∨ 0 < after.trsInflight2.num
      · rw [if_pos waits]
        split
        · exact (sent.1.clocked _ _ _).saveInflight frame sent.2
        · rename_i far
          have empty2 : after.trsInflight2.num = 0 := by
            by_contra some
            exact far (Or.inr (Nat.pos_of_ne_zero some))
          exact sent.1.burstPacket frame sent.2 empty2 cfg _ _
      · rw [if_neg waits]
        have empty2 : after.trsInflight2.num = 0 := by
          by_contra some
          exact waits (Or.inr (Nat.pos_of_ne_zero some))
        have idle := sent.1.clocked 0 .idle (after.trsPadInflightNum + a.latePads)
        exact idle.burstPacket frame sent.2 empty2 cfg a.bulkTx a.bulkPadTx

end

/-- The ring as the builder leaves it to a tasklet; the best effort pacing takes single packets. -/
def RingRight (cfg : TrsConfig) (ring : List TrsMbuf) : Prop :=
  match cfg.tasklet with
  | .rl => Bulks cfg ring StartsClean
  | .tsc true => True
  | _ => Bulks cfg ring (fun _ => True)

/-- The invariant of a port. -/
structure TrsPort.Right (cfg : TrsConfig) (s : TrsPort) : Prop where
  kept : Exists fun handled => s.Kept handled []
  ring : RingRight cfg s.ring
  second : cfg.tasklet ≠ .rl -> s.trsInflight2.num = 0

variable {cfg : TrsConfig}

/-- Passes leave the ring alone but for the bulk they take. -/
structure SameRing (before after : TrsPort) : Prop where
  ring : after.ring = before.ring
  inflight2 : after.trsInflight2 = before.trsInflight2

theorem burstOrSave_sameRing (s : TrsPort) (pkts : List TrsMbuf) (answer : Nat) :
    SameRing s (s.burstOrSave pkts answer) := by
  unfold TrsPort.burstOrSave videoTrsBurst
  dsimp only
  split <;> exact ⟨rfl, rfl⟩

theorem videoTrsClockBulk_sameRing (timeOf : TrsMbuf -> Nat) (anyTime : Bool) (s : TrsPort)
    (pkts : List TrsMbuf) (a : TrsAnswers) : SameRing s (videoTrsClockBulk timeOf anyTime s pkts a) := by
  unfold videoTrsClockBulk
  cases pkts with
  | nil => exact ⟨rfl, rfl⟩
  | cons pkt others =>
    dsimp only
    split
    · exact ⟨rfl, rfl⟩
    · have sent := burstOrSave_sameRing (s.free ((pkt :: others).dropWhile (fun pkt => !pkt.dummy)))
        ((pkt :: others).takeWhile (fun pkt => !pkt.dummy)) a.bulkTx
      exact ⟨sent.ring, sent.inflight2⟩

section

variable (cfg : TrsConfig) (s : TrsPort) (pkts : List TrsMbuf)

theorem insertPad_ring (answer : Nat) :
    (s.insertPad cfg pkts answer).ring = s.ring := by
  unfold TrsPort.insertPad
  split
  · rfl
  · split <;> rfl

theorem videoBurstPacket_ring (useTwo : Bool)
    (answer padAnswer : Nat) :
    (videoBurstPacket cfg s pkts useTwo answer padAnswer).ring = s.ring := by
  unfold videoBurstPacket
  dsimp only
  rw [insertPad_ring]
  split
  · cases useTwo <;> rfl
  · rfl

theorem videoTrsRlBulk_ring (a : RlAnswers) :
    (videoTrsRlBulk cfg s pkts a).1.ring = s.ring := by
  unfold videoTrsRlBulk
  dsimp only
  split
  · exact videoBurstPacket_ring cfg s pkts _ _ _
  · split
    · exact videoBurstPacket_ring cfg s _ _ _ _
    · have before : (if (List.takeWhile (fun pkt => !(pkt.first || pkt.dummy)) pkts).length ≠ 0 then
          videoBurstPacket cfg s (List.takeWhile (fun pkt => !(pkt.first || pkt.dummy)) pkts) true
            a.beforeTx a.beforePadTx else s).ring = s.ring := by
        split
        · exact videoBurstPacket_ring cfg s _ _ _ _
        · rfl
      generalize (if (List.takeWhile (fun pkt => !(pkt.first || pkt.dummy)) pkts).length ≠ 0 then
          videoBurstPacket cfg s (List.takeWhile (fun pkt => !(pkt.first || pkt.dummy)) pkts) true
            a.beforeTx a.beforePadTx else s) = after at before
      split
      · split
        · exact before
        · exact (videoBurstPacket_ring cfg _ _ _ _ _).trans before
      · exact (videoBurstPacket_ring cfg _ _ _ _ _).trans before

end

/-- What a pass of the rate limit tasklet keeps. -/
structure RlKept (cfg : TrsConfig) (s : TrsPort) : Prop where
  kept : Exists fun handled => s.Kept handled []
  ring : Bulks cfg s.ring StartsClean

theorem RlKept.clocked (right : RlKept cfg s) (targetTsc : Nat) (rlState : RlState) (pads : Nat) :
    RlKept cfg { s with trsTargetTsc := targetTsc, rlState := rlState, trsPadInflightNum := pads } := by
  rcases right.kept with ⟨handled, kept⟩
  exact ⟨⟨handled, kept.clocked targetTsc rlState pads⟩, right.ring⟩

theorem TrsPort.dequeueBulk_enough {bulk : Nat} {after : TrsPort}
    (taken : s.dequeueBulk bulk = some (pkts, after)) : bulk ≤ s.ring.length := by
  unfold TrsPort.dequeueBulk at taken
  split at taken
  · cases taken
  · rename_i enough
    exact Nat.not_lt.mp enough

section

variable (right : RlKept cfg s)

include right

theorem videoTrsRlSend_kept (none2 : s.trsInflight2.num = 0) (a : RlAnswers) :
    RlKept cfg (videoTrsRlSend cfg s a).1 := by
  rcases right.kept with ⟨handled, kept⟩
  unfold videoTrsRlSend
  by_cases waits : 0 < s.trsInflight.num
  · rw [if_pos waits]
    exact ⟨⟨handled, kept.retryInflight none2 a.inflightTx⟩, right.ring⟩
  · rw [if_neg waits]
    have none := Nat.eq_zero_of_not_pos waits
    cases taken : s.dequeueBulk cfg.bulk with
    | none => exact right
    | some result =>
      rcases result with ⟨pkts, after⟩
      rcases kept.dequeue taken with ⟨taking, rfl, rest, same, same2⟩
      rcases right.ring.front (TrsPort.dequeueBulk_enough taken) with ⟨⟨built, clean⟩, later⟩
      dsimp only
      have sent := taking.rlBulk built.2 clean (by rw [same]; exact none) (by rw [same2]; exact none2)
        cfg a
      refine ⟨⟨_, sent⟩, ?_⟩
      rw [videoTrsRlBulk_ring, rest]
      exact later

theorem videoTrsRlTarget_kept (none2 : s.trsInflight2.num = 0) (targetTsc : Nat)
    (a : RlAnswers) : RlKept cfg (videoTrsRlTarget cfg s targetTsc a).1 := by
  unfold videoTrsRlTarget
  split
  · exact right.clocked _ _ _
  · split
    · split
      · exact right
      · exact videoTrsRlSend_kept (right.clocked 0 .idle s.trsPadInflightNum) none2 a
    · exact videoTrsRlSend_kept right none2 a

theorem videoTrsRlFrameStart_kept (preArmed : Bool) (refused : Nat) :
    RlKept cfg (videoTrsRlFrameStart cfg s preArmed refused) ∧
      (videoTrsRlFrameStart cfg s preArmed refused).trsInflight2 = s.trsInflight2 := by
  unfold videoTrsRlFrameStart
  dsimp only
  split
  · exact ⟨right.clocked _ _ _, rfl⟩
  · split
    · exact ⟨right.clocked _ _ _, rfl⟩
    · exact ⟨right.clocked _ _ _, rfl⟩

theorem videoTrsRlTaskletOnce_kept (a : RlAnswers) :
    RlKept cfg (videoTrsRlTaskletOnce cfg s a).1 := by
  unfold videoTrsRlTaskletOnce
  by_cases waits : 0 < s.trsInflight2.num
  · rw [if_pos waits]
    rcases right.kept with ⟨handled, kept⟩
    exact ⟨⟨handled, kept.retryInflight2 a.inflight2Tx⟩, right.ring⟩
  · rw [if_neg waits]
    have none2 := Nat.eq_zero_of_not_pos waits
    dsimp only
    split
    · generalize (if s.trsTargetTsc > cfg.warmUpNs then s.trsTargetTsc - cfg.warmUpNs else 0) = warmUp
      split
      · exact right
      · rcases videoTrsRlFrameStart_kept right a.preArmed a.warmUpPads with ⟨started, same2⟩
        exact videoTrsRlTarget_kept started (by rw [same2]; exact none2) _ a
    · exact videoTrsRlTarget_kept right none2 _ a

theorem videoTrsRlTasklet_kept (a again : RlAnswers) :
    RlKept cfg (videoTrsRlTasklet cfg s a again) := by
  have once := videoTrsRlTaskletOnce_kept right a
  unfold videoTrsRlTasklet
  generalize videoTrsRlTaskletOnce cfg s a = result at once
  rcases result with ⟨after, more⟩
  cases more with
  | false => exact once
  | true => exact videoTrsRlTaskletOnce_kept once again

end

/-- What a pass of another tasklet keeps. -/
structure ClockKept (s : TrsPort) (ring : List TrsMbuf -> Prop) : Prop where
  kept : Exists fun handled => s.Kept handled []
  none2 : s.trsInflight2.num = 0
  ring : ring s.ring

def Takes (bulk : Nat) (ring : List TrsMbuf -> Prop) : Prop :=
  forall pkts : List TrsMbuf, ring pkts -> bulk ≤ pkts.length ->
    (((pkts.take bulk).dropWhile (fun pkt => !pkt.dummy)).all (fun pkt => pkt.dummy) = true) ∧
      ring (pkts.drop bulk)

theorem takes_bulks (cfg : TrsConfig) :
    Takes cfg.bulk (fun ring => Bulks cfg ring (fun _ => True)) := by
  intro pkts whole enough
  rcases whole.front enough with ⟨⟨built, -⟩, later⟩
  exact ⟨built.2, later⟩

theorem takes_one : Takes 1 (fun _ => True) := by
  intro pkts _ enough
  refine ⟨?_, trivial⟩
  cases pkts with
  | nil => simp at enough
  | cons pkt others =>
    rw [List.take_succ_cons, List.take_zero]
    by_cases dummy : pkt.dummy = true
    · simp [dummy]
    · simp [dummy]

theorem videoTrsClockTasklet_kept {ring : List TrsMbuf -> Prop} {bulk : Nat} (right : ClockKept s ring)
    (takes : Takes bulk ring) (timeOf : TrsMbuf -> Nat) (anyTime : Bool) (a : TrsAnswers) :
    ClockKept (videoTrsClockTasklet timeOf anyTime bulk s a) ring := by
  unfold videoTrsClockTasklet
  by_cases pending : s.trsTargetTsc ≠ 0 ∧ notReached a.pending s.trsTargetTsc = true
  · rw [if_pos pending]
    exact right
  · rw [if_neg pending]
    rcases right.kept with ⟨handled, before⟩
    have kept := before.clocked 0 s.rlState s.trsPadInflightNum
    dsimp only
    by_cases waits : 0 < s.trsInflight.num
    · rw [if_pos waits]
      exact ⟨⟨handled, kept.retryInflight right.none2 a.inflightTx⟩, right.none2, right.ring⟩
    · rw [if_neg waits]
      have none := Nat.eq_zero_of_not_pos waits
      generalize taken : TrsPort.dequeueBulk { s with trsTargetTsc := 0 } bulk = result
      cases result with
      | none => exact ⟨⟨handled, kept⟩, right.none2, right.ring⟩
      | some result =>
        rcases result with ⟨pkts, after⟩
        rcases kept.dequeue taken with ⟨taking, rfl, rest, same, same2⟩
        have enough := TrsPort.dequeueBulk_enough taken
        rcases takes _ right.ring enough with ⟨built, later⟩
        have empty : after.trsInflight.num = 0 := by
          rw [same]
          exact none
        have empty2 : after.trsInflight2.num = 0 := by
          rw [same2]
          exact right.none2
        have sent := taking.clockBulk built empty empty2 timeOf anyTime a
        have frame := videoTrsClockBulk_sameRing timeOf anyTime after (s.ring.take bulk) a
        refine ⟨⟨_, sent⟩, ?_, ?_⟩
        · change (videoTrsClockBulk timeOf anyTime after (s.ring.take bulk) a).trsInflight2.num = 0
          rw [frame.inflight2]
          exact empty2
        · change ring (videoTrsClockBulk timeOf anyTime after (s.ring.take bulk) a).ring
          rw [frame.ring, rest]
          exact later

theorem videoTrsLaunchTimeTasklet_kept {ring : List TrsMbuf -> Prop} (right : ClockKept s ring)
    (takes : Takes cfg.bulk ring) (a : TrsAnswers) :
    ClockKept (videoTrsLaunchTimeTasklet cfg s a) ring := by
  unfold videoTrsLaunchTimeTasklet
  rcases right.kept with ⟨handled, kept⟩
  by_cases waits : 0 < s.trsInflight.num
  · rw [if_pos waits]
    exact ⟨⟨handled, kept.retryInflight right.none2 a.inflightTx⟩, right.none2, right.ring⟩
  · rw [if_neg waits]
    have none := Nat.eq_zero_of_not_pos waits
    cases taken : s.dequeueBulk cfg.bulk with
    | none => exact right
    | some result =>
      rcases result with ⟨pkts, after⟩
      rcases kept.dequeue taken with ⟨taking, rfl, rest, same, same2⟩
      rcases takes _ right.ring (TrsPort.dequeueBulk_enough taken) with ⟨built, later⟩
      have empty2 : after.trsInflight2.num = 0 := by
        rw [same2]
        exact right.none2
      dsimp only
      have genuine := genuine_takeWhile (s.ring.take cfg.bulk)
      have whole : (s.ring.take cfg.bulk).takeWhile (fun pkt => !pkt.dummy) ++
          (s.ring.take cfg.bulk).dropWhile (fun pkt => !pkt.dummy) = s.ring.take cfg.bulk :=
        List.takeWhile_append_dropWhile
      generalize (s.ring.take cfg.bulk).takeWhile (fun pkt => !pkt.dummy) = valid at genuine whole
      generalize (s.ring.take cfg.bulk).dropWhile (fun pkt => !pkt.dummy) = dummy at built whole
      have split : after.Kept handled (valid ++ (dummy ++ [])) := by
        rw [List.append_nil, whole]
        exact taking
      by_cases some : valid.length > 0
      · rw [if_pos some]
        have sent := (split.burstOrSave genuine (by rw [same]; exact none) empty2 a.bulkTx).free
          (List.all_eq_true.mp built)
        have commuted : (after.burstOrSave valid a.bulkTx).free dummy =
            (after.free dummy).burstOrSave valid a.bulkTx := by
          unfold TrsPort.burstOrSave videoTrsBurst
          dsimp only [TrsPort.free]
          split <;> rfl
        rw [commuted] at sent
        have frame := burstOrSave_sameRing (after.free dummy) valid a.bulkTx
        refine ⟨⟨_, sent⟩, ?_, ?_⟩
        · rw [frame.inflight2]
          exact empty2
        · rw [frame.ring]
          change ring after.ring
          rw [rest]
          exact later
      · rw [if_neg some]
        have nothing : valid = [] := List.eq_nil_of_length_eq_zero (Nat.eq_zero_of_not_pos some)
        rw [nothing, List.nil_append] at split
        refine ⟨⟨_, split.free (List.all_eq_true.mp built)⟩, empty2, ?_⟩
        change ring after.ring
        rw [rest]
        exact later

/-! ## Runs -/

/-- With the rate limit no bulk has a dummy behind the first packet of a frame. -/
def TrsStartsClean (cfg : TrsConfig) : TrsInput -> Prop
  | .enqueue pkts => cfg.tasklet = .rl -> StartsClean pkts
  | _ => True

instance (cfg : TrsConfig) (input : TrsInput) : Decidable (TrsStartsClean cfg input) := by
  induction input using TrsInput.casesOn <;> dsimp only [TrsStartsClean] <;> infer_instance

/-- Every packet that was taken from the ring was accepted by the queue or waits in a buffer, once and in
order; every dummy was freed and none was sent; and no unsent packet was overwritten. -/
def TrsPort.LosesNothing (s : TrsPort) : Prop :=
  (Exists fun dequeued : List TrsMbuf => s.enqueued = dequeued ++ s.ring ∧
    s.sent ++ s.trsInflight2.unsent ++ s.trsInflight.unsent =
      dequeued.filter (fun pkt => !pkt.dummy) ∧
    s.freed = dequeued.filter (fun pkt => pkt.dummy)) ∧
  s.overwritten = false

theorem TrsPort.Kept.enqueue (kept : s.Kept handled []) (bulk : List TrsMbuf) :
    ({ s with ring := s.ring ++ bulk, enqueued := s.enqueued ++ bulk } : TrsPort).Kept handled [] := by
  refine ⟨?_, kept.order, kept.freed, kept.untouched, kept.buffer, kept.buffer2⟩
  dsimp only
  rw [kept.ring]
  simp only [List.append_assoc]

theorem trsStep_right (right : s.Right cfg) {input : TrsInput} (built : TrsBuilt cfg input)
    (clean : TrsStartsClean cfg input) : (trsStep cfg s input).Right cfg := by
  have ring := right.ring
  unfold RingRight at ring
  cases input with
  | enqueue pkts =>
    rcases right.kept with ⟨handled, kept⟩
    refine ⟨⟨handled, kept.enqueue pkts⟩, ?_, right.second⟩
    unfold RingRight
    unfold TrsStartsClean at clean
    generalize cfg.tasklet = tasklet at ring clean ⊢
    cases tasklet with
    | rl => exact Bulks.concat ring built (clean rfl)
    | tsc bestEffort =>
      cases bestEffort with
      | true => trivial
      | false => exact Bulks.concat ring built trivial
    | launchTime => exact Bulks.concat ring built trivial
    | ptp => exact Bulks.concat ring built trivial
  | rlPass a again =>
    unfold trsStep
    cases kind : cfg.tasklet with
    | rl =>
      rw [kind] at ring
      have kept := videoTrsRlTasklet_kept ⟨right.kept, ring⟩ a again
      refine ⟨kept.kept, ?_, fun other => absurd kind other⟩
      unfold RingRight
      rw [kind]
      exact kept.ring
    | tsc bestEffort => exact right
    | launchTime => exact right
    | ptp => exact right
  | pass a =>
    unfold trsStep
    cases kind : cfg.tasklet with
    | rl => exact right
    | tsc bestEffort =>
      have none2 := right.second (by rw [kind]; exact fun same => by cases same)
      rw [kind] at ring
      cases bestEffort with
      | true =>
        have kept := videoTrsClockTasklet_kept (s := s) ⟨right.kept, none2, trivial⟩ takes_one
          TrsMbuf.tscTimeStamp true a
        refine ⟨kept.kept, ?_, fun _ => kept.none2⟩
        unfold RingRight
        rw [kind]
        trivial
      | false =>
        have kept := videoTrsClockTasklet_kept ⟨right.kept, none2, ring⟩ (takes_bulks cfg)
          TrsMbuf.tscTimeStamp false a
        refine ⟨kept.kept, ?_, fun _ => kept.none2⟩
        unfold RingRight
        rw [kind]
        exact kept.ring
    | launchTime =>
      have none2 := right.second (by rw [kind]; decide)
      rw [kind] at ring
      have kept := videoTrsLaunchTimeTasklet_kept ⟨right.kept, none2, ring⟩ (takes_bulks cfg) a
      refine ⟨kept.kept, ?_, fun _ => kept.none2⟩
      unfold RingRight
      rw [kind]
      exact kept.ring
    | ptp =>
      have none2 := right.second (by rw [kind]; decide)
      rw [kind] at ring
      have kept := videoTrsClockTasklet_kept ⟨right.kept, none2, ring⟩ (takes_bulks cfg)
        TrsMbuf.ptpTimeStamp false a
      refine ⟨kept.kept, ?_, fun _ => kept.none2⟩
      unfold RingRight
      rw [kind]
      exact kept.ring

theorem trsInit_right (cfg : TrsConfig) : trsInit.Right cfg := by
  refine ⟨⟨[], rfl, rfl, rfl, rfl, rfl, rfl⟩, ?_, fun _ => rfl⟩
  have empty : forall good, Bulks cfg [] good :=
    fun good => ⟨[], rfl, fun _ absurd => (by cases absurd)⟩
  unfold RingRight
  split
  · exact empty _
  · trivial
  · exact empty _

/-- A transmitter loses and reorders nothing, with the rate limit as long as no bulk has a dummy behind
the first packet of a frame. -/
theorem transmitter_loses_nothing (cfg : TrsConfig) (inputs : List TrsInput)
    (admitted : Admitted (trsStep cfg)
      (fun _ input => TrsBuilt cfg input ∧ TrsStartsClean cfg input) trsInit inputs) :
    (run (trsStep cfg) trsInit inputs).LosesNothing := by
  have right := run_invariant (trsStep cfg) _ (TrsPort.Right cfg)
    (fun _ _ right guards => trsStep_right right guards.1 guards.2) (trsInit_right cfg) admitted
  rcases right.kept with ⟨handled, kept⟩
  refine ⟨⟨handled, ?_, kept.order, kept.freed⟩, kept.untouched⟩
  have ring := kept.ring
  rw [List.append_nil] at ring
  exact ring

/-- A port with the rate limit and bulks of four packets. -/
def rateLimitedPort : TrsConfig where
  tasklet := .rl
  bulk := 4
  armed := false
  warmUpNs := 0
  padDue := fun _ _ => false
  bulk_pos := Nat.succ_pos 3
  bulk_le := by decide

/-- A pass in which the queue accepts so many packets of a bulk, at a time when all are due. -/
def acceptingPass (bulkTx : Nat) : RlAnswers where
  inflight2Tx := 4
  warmUpTsc := 1000
  preArmed := false
  warmUpPads := 0
  padTx := 1
  targetTsc := 1000
  inflightTx := 4
  curTsc := 1000
  beforeTx := 4
  beforePadTx := 1
  latePads := 0
  bulkTx := bulkTx
  bulkPadTx := 1

def packetOf (serial idx : Nat) : TrsMbuf := ⟨serial, idx, 0, 0⟩

/-- A frame of six packets in two bulks, the first of which the queue accepts in part. -/
def sixPackets : List TrsInput :=
  [.enqueue [packetOf 0 0, packetOf 1 1, packetOf 2 2, packetOf 3 3],
    .enqueue [packetOf 4 4, packetOf 5 5, packetOf 6 stTxDummyPktIdx, packetOf 7 stTxDummyPktIdx],
    .rlPass (acceptingPass 1) (acceptingPass 4), .rlPass (acceptingPass 4) (acceptingPass 4)]

theorem six_packets_sent :
    (run (trsStep rateLimitedPort) trsInit sixPackets).LosesNothing ∧
      (run (trsStep rateLimitedPort) trsInit sixPackets).sent.map TrsMbuf.serial = [0, 1, 2, 3, 4, 5] :=
  ⟨transmitter_loses_nothing rateLimitedPort sixPackets (by decide +kernel), by decide +kernel⟩

def shortFrame : List TrsInput :=
  [.enqueue [packetOf 0 0, packetOf 1 1, packetOf 2 stTxDummyPktIdx, packetOf 3 stTxDummyPktIdx],
    .rlPass (acceptingPass 4) (acceptingPass 4)]

/-- The dummies of a short frame are sent. -/
theorem short_frame_sends_dummies :
    ¬ (forall (cfg : TrsConfig) (inputs : List TrsInput),
      Admitted (trsStep cfg) (fun _ input => TrsBuilt cfg input) trsInit inputs ->
      (run (trsStep cfg) trsInit inputs).LosesNothing) := by
  intro all
  have kept := all rateLimitedPort shortFrame (by decide +kernel)
  rcases kept.1 with ⟨dequeued, -, order, -⟩
  have sent : packetOf 2 stTxDummyPktIdx ∈ (run (trsStep rateLimitedPort) trsInit shortFrame).sent := by
    decide +kernel
  have member : packetOf 2 stTxDummyPktIdx ∈ dequeued.filter (fun pkt => !pkt.dummy) := by
    rw [← order]
    exact List.mem_append_left _ (List.mem_append_left _ sent)
  have genuine := (List.mem_filter.mp member).2
  exact absurd genuine (by decide)

end MediaTransport.Video
