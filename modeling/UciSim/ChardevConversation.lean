import UciSim.ChardevLoop
import UciSim.Conversations
import UciSim.FreshStart

/-!
# The conversation with a chardev host

A host that completes at most two packets with each read is answered in the turn
that reads them: between two turns only notifications of the last tick wait.
-/

set_option autoImplicit false

namespace UciSim

open Framing Recorder

namespace Run

variable {r : Run}

theorem submit_grows (hq : r.engine.device.Quiet) {request : Packet}
    (hroom : r.Uncongested (.submit request)) :
    (r.step (.submit request)).engine.outboundPackets.length ≤
      r.engine.outboundPackets.length+5 := by
  obtain ⟨ns,hcalled,-,hemitted,-⟩ := r.step_called (.submit request) (hroom.fits hq) hq
  rw [outbound_grows r (show Op.submit request ≠ .dequeue by simp) hemitted, List.length_append]
  exact Nat.add_le_add_left (called_length hcalled) _

theorem tick_notices (hq : r.engine.device.Quiet) (hout : r.engine.outboundPackets = [])
    (elapsedMs : UInt32) :
    (r.step (.tick elapsedMs)).engine.outboundPackets.length ≤ 2 ∧
      ∀ n ∈ (r.step (.tick elapsedMs)).engine.outboundPackets, n.mt = mtNotification := by
  have hroom : r.Uncongested (.tick elapsedMs) := by
    show r.engine.outboundPackets.length ≤ 8
    rw [hout]
    exact Nat.zero_le _
  obtain ⟨ns,hcalled,-,hemitted,-⟩ := r.step_called (.tick elapsedMs) (hroom.fits hq) hq
  rw [outbound_grows r (show Op.tick elapsedMs ≠ .dequeue by simp) hemitted, hout, List.nil_append]
  cases hcalled with
  | ticked elapsedMs flushes ns d' ticked =>
    exact ⟨ticked_length ticked,(events_post_notices _).ticked ticked⟩

end Run

namespace ChardevLoop

/-- What holds of a loop that runs, with at most `bound` packets outbound. -/
structure Sound (profile : Profile) (scenario : Scenario) (received : List UInt8) (bound : ℕ)
    (loop : ChardevLoop) : Prop where
  follows : Follows Run.step Run.Uncongested (Run.init profile scenario) loop.dev.engine
  light : loop.run.engine.outboundPackets.length ≤ bound
  writes : loop.server.Writes masterWrite
  stream : loop.dev.stream = (cut chardevCutter received).2
  submitted : loop.dev.engine.made.flatMap Op.submits =
    (cut chardevCutter received).1.map packetOf

section Offers

variable {profile : Profile} {scenario : Scenario} {calls : Recorded Run Op}

theorem follows_quiet (hs : scenario ≠ .delayedNotifications)
    (h : Follows Run.step Run.Uncongested (Run.init profile scenario) calls) :
    calls.machine.engine.device.Quiet := by
  rw [h.reached]
  exact Run.uncongested_quiet hs h.along

/-- Packets that are all accepted, few enough for the room outbound, are an uncongested run. -/
theorem offer_follows (hs : scenario ≠ .delayedNotifications) {ps : List (ℕ × Packet)}
    (h : Follows Run.step Run.Uncongested (Run.init profile scenario) calls)
    (hroom : calls.machine.engine.outboundPackets.length+5*ps.length ≤ 13)
    (hok : (offer submitRecorded calls ps).1 = .ok) :
    let fed := (offer submitRecorded calls ps).2.1
    Follows Run.step Run.Uncongested (Run.init profile scenario) fed ∧
      fed.machine.engine.outboundPackets.length ≤
        calls.machine.engine.outboundPackets.length+5*ps.length ∧
      fed.machine.delivered = calls.machine.delivered ∧
      fed.made.flatMap Op.submits = calls.made.flatMap Op.submits ++ ps.map Prod.snd := by
  induction ps generalizing calls with
  | nil => exact ⟨h,Nat.le_refl _,rfl,(List.append_nil _).symm⟩
  | cons p ps ih =>
    rw [List.length_cons] at hroom ⊢
    have huncongested : calls.machine.Uncongested (.submit p.2) := by
      show calls.machine.engine.outboundPackets.length ≤ 8
      omega
    have hgrows := Run.submit_grows (follows_quiet hs h) huncongested
    have hmachine : (submitRecorded calls p.2).2.machine =
        calls.machine.step (.submit p.2) := rfl
    have hmade : (submitRecorded calls p.2).2.made = calls.made ++ [.submit p.2] := rfl
    have hfollows : Follows Run.step Run.Uncongested (Run.init profile scenario)
        (submitRecorded calls p.2).2 := h.call huncongested
    rw [offer_cons] at hok ⊢
    generalize submitRecorded calls p.2 = out at hok hmachine hmade hfollows ⊢
    obtain ⟨rc,calls'⟩ := out
    cases rc with
    | err => cases hok
    | ok =>
      dsimp only at hok hmachine hmade hfollows ⊢
      rw [← hmachine] at hgrows
      obtain ⟨hrest,hlight,hdelivered,hsubmits⟩ := ih hfollows (by omega) hok
      refine ⟨hrest,by omega,?_,?_⟩
      · rw [hdelivered, hmachine]
        rfl
      · rw [hsubmits, hmade, List.flatMap_append, List.append_assoc]
        rfl

end Offers

namespace Sound

variable {profile : Profile} {scenario : Scenario} {received bytes : List UInt8} {bound : ℕ}
  {loop next : ChardevLoop}

theorem reached (h : loop.Sound profile scenario received bound) :
    loop.run = Run.reached profile scenario loop.dev.engine.made := h.follows.reached

theorem start (profile : Profile) (scenario : Scenario) :
    (ChardevLoop.start profile scenario).Sound profile scenario [] 2 where
  follows := .init
  light := Nat.zero_le _
  writes := ⟨rfl,List.forall_mem_nil _⟩
  stream := by
    rw [cut_uncut uncut_nil]
    rfl
  submitted := by
    rw [cut_uncut uncut_nil]
    rfl

theorem whole (h : loop.Sound profile scenario received bound) :
    ∀ p ∈ loop.run.engine.outboundPackets, p.Whole := by
  have hwhole : (Run.reached profile scenario loop.dev.engine.made).engine.HoldsWhole :=
    reached_whole _
  rw [← h.reached] at hwhole
  exact fun p hp => hwhole p (List.mem_append_left _ hp)

theorem received_cut (h : loop.Sound profile scenario received bound)
    (hfits : loop.dev.Fits bytes) :
    cut chardevCutter (received ++ bytes) =
      ((cut chardevCutter received).1 ++ (loop.dev.append bytes).frames,
        (loop.dev.append bytes).rest) := by
  rw [cut_append, Chardev.frames, Chardev.rest, Chardev.append_fits hfits, h.stream]

theorem fed (hs : scenario ≠ .delayedNotifications)
    (h : loop.Sound profile scenario received 2) (hfits : loop.dev.Fits bytes)
    (hfew : (loop.dev.append bytes).frames.length ≤ 2) (hfed : loop.Fed bytes next) :
    next.Sound profile scenario (received ++ bytes) maxOutboundPackets := by
  cases hfed with
  | nothing =>
    rw [List.append_nil]
    exact { h with light := h.light.trans (by decide) }
  | submitted bytes dev receives =>
    obtain ⟨hok,hengine,hstream⟩ := receive_ok receives
    have hbatch : (loop.dev.append bytes).batch.map Prod.snd =
        (loop.dev.append bytes).frames.map packetOf := by
      rw [Chardev.batch, packetsFrom, List.map_map,
        ← located_frames (loop.dev.append bytes).base (loop.dev.append bytes).frames,
        List.map_map, located_frames]
      rfl
    have hlength := congrArg List.length hbatch
    rw [List.length_map, List.length_map] at hlength
    have hlight : loop.dev.engine.machine.engine.outboundPackets.length ≤ 2 := h.light
    obtain ⟨hfollows,hgrown,hdelivered,hsubmits⟩ :=
      offer_follows hs h.follows (by omega) hok
    rw [← hengine] at hfollows hgrown hdelivered hsubmits
    constructor
    · exact hfollows
    · refine hgrown.trans ?_
      simp only [maxOutboundPackets]
      omega
    · exact ⟨h.writes.written.trans (congrArg (wires masterWrite) hdelivered.symm),
        fun p hp => h.writes.wired p (hdelivered ▸ hp)⟩
    · rw [h.received_cut hfits]
      exact hstream
    · rw [h.received_cut hfits, List.map_append, ← h.submitted, ← hbatch]
      exact hsubmits

section Turns

variable {takes : ℕ → ℕ} {t : MasterTurn}

theorem flushed (h : loop.Sound profile scenario received bound)
    (hflush : loop.masterFlush takes = (.ok,next)) :
    next.Sound profile scenario received 0 := by
  obtain ⟨hok,rfl⟩ := flush_ok hflush
  have hflushed := Server.master_flush_flushed takes h.writes h.whole
  have hcomplete := hflushed.complete hok
  constructor
  · exact hflushed.drained.follows h.follows
  · exact (congrArg List.length hcomplete.2).le
  · exact hcomplete.1
  · exact h.stream
  · exact (hflushed.drained.made rfl).trans h.submitted

theorem ticked (hs : scenario ≠ .delayedNotifications)
    (h : loop.Sound profile scenario received 0) :
    let next := loop.withServer (loop.server.call (.tick tickMs))
    next.Sound profile scenario received 2 ∧
      ∀ n ∈ next.run.engine.outboundPackets, n.mt = mtNotification := by
  have hout : loop.run.engine.outboundPackets = [] :=
    List.length_eq_zero_iff.mp (Nat.le_zero.mp h.light)
  have hnotices := Run.tick_notices (follows_quiet hs h.follows) hout tickMs
  have huncongested : loop.run.Uncongested (.tick tickMs) := by
    show loop.run.engine.outboundPackets.length ≤ 8
    rw [hout]
    exact Nat.zero_le _
  refine ⟨?_,hnotices.2⟩
  constructor
  · exact h.follows.call huncongested
  · exact hnotices.1
  · exact h.writes.call (by simp)
  · exact h.stream
  · show (loop.dev.engine.made ++ [_]).flatMap Op.submits = _
    rw [List.flatMap_append, h.submitted]
    exact List.append_nil _

theorem turned (hs : scenario ≠ .delayedNotifications)
    (h : loop.Sound profile scenario received 2) (hpaced : loop.Paced takes t)
    (hrun : (loop.turn takes t).running = true) :
    (loop.turn takes t).Sound profile scenario (received ++ t.read.bytes) 2 ∧
      ∀ n ∈ (loop.turn takes t).run.engine.outboundPackets, n.mt = mtNotification := by
  obtain ⟨-,next,hinput,hturn⟩ := turn_running hpaced hrun
  obtain ⟨fed,hfed,hflush⟩ := process_input_ok hinput
  have hsound := h.fed hs hpaced.1 hpaced.2.1 hfed
  rw [hturn]
  exact (hsound.flushed hflush).ticked hs

theorem served (hs : scenario ≠ .delayedNotifications)
    (h : loop.Sound profile scenario received 2)
    (hnotices : ∀ n ∈ loop.run.engine.outboundPackets, n.mt = mtNotification)
    (turns : List MasterTurn) (hpaced : Runs.Along (turn takes) (Paced takes) loop turns)
    (hrun : (Runs.run (turn takes) loop turns).running = true) :
    (Runs.run (turn takes) loop turns).Sound profile scenario
        (received ++ turns.flatMap fun t => t.read.bytes) 2 ∧
      ∀ n ∈ (Runs.run (turn takes) loop turns).run.engine.outboundPackets,
        n.mt = mtNotification := by
  induction turns generalizing loop received with
  | nil =>
    rw [List.flatMap_nil, List.append_nil]
    exact ⟨h,hnotices⟩
  | cons t turns ih =>
    have hafter : (loop.turn takes t).running = true := by
      by_contra hended
      have hrest : Runs.run (turn takes) (loop.turn takes t) turns = loop.turn takes t :=
        ended_run (Bool.eq_false_of_not_eq_true hended) turns
      rw [Runs.run, hrest] at hrun
      exact hended hrun
    obtain ⟨hsound,hrest⟩ := h.turned hs hpaced.1 hafter
    rw [List.flatMap_cons, ← List.append_assoc]
    exact ih hsound hrest hpaced.2 hrun

end Turns

end Sound

end ChardevLoop

/-- The packets that the bytes read in the turns complete. -/
def receivedPackets (turns : List MasterTurn) : List Packet :=
  (cut chardevCutter (turns.flatMap fun t => t.read.bytes)).1.map packetOf

/-- While the loop runs, however the writes are taken: every packet the host has completed is
submitted, each command of them is answered, in order, and the host has read everything the
engine made but two notifications of the last tick at most. -/
theorem chardev_conversation (takes : ℕ → ℕ) (profile : Profile) (scenario : Scenario)
    (hs : scenario ≠ .delayedNotifications) (turns : List MasterTurn)
    (hpaced : Runs.Along (ChardevLoop.turn takes) (ChardevLoop.Paced takes)
      (ChardevLoop.start profile scenario) turns)
    (hrun : (ChardevLoop.served takes profile scenario turns).running = true) :
    let loop := ChardevLoop.served takes profile scenario turns
    let heard := hostDecode loop.connection.written
    loop.run = Run.reached profile scenario loop.dev.engine.made ∧
      loop.dev.engine.made.flatMap Op.submits = receivedPackets turns ∧
      answeredIds heard = (receivedPackets turns).flatMap (fun p => (Op.submit p).asks) ∧
      ∃ waiting : List Packet, waiting.length ≤ 2 ∧ (∀ n ∈ waiting, n.mt = mtNotification) ∧
        heard ++ waiting.map Packet.message = loop.run.produced.map Packet.message := by
  intro loop heard
  obtain ⟨h,hnotices⟩ := (ChardevLoop.Sound.start profile scenario).served hs
    (List.forall_mem_nil _) turns hpaced hrun
  rw [List.nil_append] at h
  have hwhole : ∀ p ∈ loop.run.delivered, p.Whole := by
    rw [h.reached]
    exact reached_delivers_whole _
  have hheard : heard = loop.run.delivered.map Packet.message := h.writes.master_reads hwhole
  have hanswers : answerIds loop.run.delivered = loop.dev.engine.made.flatMap Op.asks := by
    have hall : answerIds loop.run.emitted = loop.dev.engine.made.flatMap Op.asks :=
      Run.follows_answered h.follows
    have hwaiting : answerIds loop.run.engine.outboundPackets = [] := answer_ids_notices hnotices
    rwa [Run.emitted, answer_ids_append, hwaiting, List.append_nil] at hall
  refine ⟨h.reached,h.submitted,?_,loop.run.engine.outboundPackets,h.light,hnotices,?_⟩
  · rw [hheard, answered_ids_messages hwhole, hanswers, asks_submitted, h.submitted,
      receivedPackets, frames_ask_masked]
  · have hsent := Run.uncongested_emitted hs h.follows.along
    rw [← h.reached] at hsent
    rw [hheard, ← List.map_append, ← hsent]
    rfl

/-- A host that writes two commands at once, one of them in pieces. -/
def hostTurns : List MasterTurn :=
  [⟨.available [0x20,0x02,0x00,0x00,0x20,0x03],false⟩,⟨.nothing,true⟩,
    ⟨.available [0x00,0x00],false⟩]

theorem chardev_conversation_pieces :
    let loop := ChardevLoop.served (fun _ => 7) defaultProfile .default hostTurns
    let heard := hostDecode loop.connection.written
    loop.run = Run.reached defaultProfile .default loop.dev.engine.made ∧
      loop.dev.engine.made.flatMap Op.submits = receivedPackets hostTurns ∧
      answeredIds heard = (receivedPackets hostTurns).flatMap (fun p => (Op.submit p).asks) ∧
      ∃ waiting : List Packet, waiting.length ≤ 2 ∧ (∀ n ∈ waiting, n.mt = mtNotification) ∧
        heard ++ waiting.map Packet.message = loop.run.produced.map Packet.message :=
  chardev_conversation (fun _ => 7) defaultProfile .default nofun hostTurns
    (by decide +kernel) (by decide +kernel)

end UciSim
