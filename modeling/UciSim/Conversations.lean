import UciSim.AnswerOrder
import UciSim.Servers

/-!
# Conversations

What both transports share between the engine and the bytes: the packets a record of
calls submits, the responses a client reads, and what an uncongested run of calls
makes of them.
-/

set_option autoImplicit false

namespace UciSim

open Framing Recorder

/-- The packet that a call submits. -/
def Op.submits : Op → List Packet
  | .submit request => [request]
  | _ => []

namespace Server

variable {wire : Packet → Option (List UInt8)} {server : Server} {op : Op}

theorem call_delivered (hop : op ≠ .dequeue) :
    (server.call op).run.delivered = server.run.delivered := by
  cases op with
  | dequeue => exact absurd rfl hop
  | submit | tick => rfl

theorem Writes.call (h : server.Writes wire) (hop : op ≠ .dequeue) :
    (server.call op).Writes wire where
  written := by
    rw [call_delivered hop]
    exact h.written
  wired := by
    rw [call_delivered hop]
    exact h.wired

theorem WritesPart.call (h : server.WritesPart wire) (hop : op ≠ .dequeue) :
    (server.call op).WritesPart wire := by
  rw [WritesPart, call_delivered hop]
  exact h

end Server

/-- The identifiers of the responses that a client reads. -/
def answeredIds (messages : List Message) : List (UInt8 × UInt8) :=
  messages.filterMap fun m => if m.mt = mtResponse then some (m.gid,m.oid) else none

theorem answered_ids_messages {packets : List Packet} (h : ∀ p ∈ packets, p.Whole) :
    answeredIds (packets.map Packet.message) =
      (answerIds packets).map fun id => (id.1 &&& 0x0F,id.2 &&& 0x3F) := by
  induction packets with
  | nil => rfl
  | cons p packets ih =>
    have hmt : p.message.mt = p.mt := (h p List.mem_cons_self).masked
    have hrest := ih fun q hq => h q (List.mem_cons_of_mem p hq)
    unfold answeredIds answerIds at hrest ⊢
    rw [List.map_cons, List.filterMap_cons, List.filterMap_cons, hmt, hrest]
    by_cases hresponse : p.mt = mtResponse
    · rw [if_pos hresponse, if_pos hresponse]
      rfl
    · rw [if_neg hresponse, if_neg hresponse]

theorem asks_submitted (ops : List Op) :
    ops.flatMap Op.asks = (ops.flatMap Op.submits).flatMap fun p => (Op.submit p).asks := by
  rw [List.flatMap_assoc]
  refine List.flatMap_congr fun op _ => ?_
  cases op with
  | submit request => exact (List.append_nil _).symm
  | tick | dequeue => rfl

theorem frames_ask_masked (frames : List (List UInt8)) :
    ((frames.map packetOf).flatMap fun p => (Op.submit p).asks).map
        (fun id => (id.1 &&& 0x0F,id.2 &&& 0x3F)) =
      (frames.map packetOf).flatMap fun p => (Op.submit p).asks := by
  rw [List.map_flatMap, List.flatMap_map, List.flatMap_map]
  refine List.flatMap_congr fun f _ => ?_
  rw [Op.asks]
  split
  · have hgid : (packetOf f).gid &&& 0x0F = (packetOf f).gid := by
      rw [packetOf, UInt8.and_assoc, UInt8.and_self]
    have hoid : (packetOf f).oid &&& 0x3F = (packetOf f).oid := by
      rw [packetOf, UInt8.and_assoc, UInt8.and_self]
    rw [List.map_singleton, hgid, hoid]
  · rfl

theorem called_length {d d' : Device} {op : Op} {ns : List Packet} (h : Called d op ns d') :
    ns.length ≤ 5 := by
  cases h with
  | refused | silent | dequeued => exact Nat.zero_le _
  | ticked elapsedMs flushes ns d' ticked => exact (ticked_length ticked).trans (by decide)
  | answered request response posting d₁ flushes ns d' p served handled ticks ticked =>
    have hposted := posting_length served
    have hticked := ticked_length ticked
    have hresponse : response.toList.length ≤ 1 := by cases response <;> simp
    simp only [List.length_append]
    omega

namespace Run

variable {profile : Profile} {scenario : Scenario} {ops : List Op}

theorem uncongested_quiet (hs : scenario ≠ .delayedNotifications)
    (h : Along profile scenario Uncongested ops) :
    (reached profile scenario ops).engine.device.Quiet := by
  refine Runs.invariant_of_steps (I := fun r : Run => r.engine.device.Quiet) ?_ _ ops ⟨hs,rfl⟩ h
  intro r op hq hop
  obtain ⟨ns,-,hidle,-⟩ := r.step_called op (hop.fits hq) hq
  exact ⟨(step_scenario r op).symm ▸ hq.prompt,hidle⟩

theorem uncongested_emitted (hs : scenario ≠ .delayedNotifications)
    (h : Along profile scenario Uncongested ops) :
    (reached profile scenario ops).emitted = (reached profile scenario ops).produced := by
  have hinit : (init profile scenario).engine.device.Quiet := ⟨hs,rfl⟩
  refine (Runs.invariant_of_steps (I := fun r : Run => r.emitted = r.produced ∧
    r.engine.device.Quiet) ?_ _ ops ⟨rfl,hinit⟩ h).1
  rintro r op ⟨hsent,hq⟩ hop
  obtain ⟨ns,-,hidle,hemitted,hproduced⟩ := r.step_called op (hop.fits hq) hq
  refine ⟨?_,(step_scenario r op).symm ▸ hq.prompt,hidle⟩
  rw [hemitted, hproduced, hsent]

theorem Uncongested.answerable {r : Run} {op : Op} (h : r.Uncongested op) : r.Answerable op := by
  cases op with
  | submit request => exact fun _ => lt_of_le_of_lt h (by decide)
  | tick | dequeue => trivial

theorem follows_answered {calls : Recorded Run Op}
    (h : Recorder.Follows step Uncongested (init profile scenario) calls) :
    answerIds calls.machine.emitted = calls.made.flatMap Op.asks := by
  have halong : Along profile scenario Answerable calls.made :=
    Runs.along_mono (fun _ _ hop => hop.answerable) _ _ h.along
  rw [h.reached, ← asked_history (init profile scenario)]
  exact (answers_stored profile scenario _).2.mpr halong

end Run

end UciSim
