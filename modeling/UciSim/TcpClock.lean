import UciSim.TcpRuns
import UciSim.TransferSteps

/-!
# The clock of the TCP transport

A turn ticks the engine by the time since the last turn, but by 50 ms at most. The
time of the engine never runs ahead of the clock, and falls behind when a turn takes
longer.
-/

set_option autoImplicit false

namespace UciSim

namespace TcpLoop

def ticked (loop : TcpLoop) : ℕ := (loop.server.calls.made.map Op.elapsedMs).sum

/-- The clock read in the turn is at most one tick after the clock read before it. -/
def Punctual (arrivals takes : ℕ → ℕ) (loop : TcpLoop) (t : Turn) : Prop :=
  (loop.turn arrivals takes t).lastTickMs.toNat ≤ loop.lastTickMs.toNat+engineTickMs.toNat

/-- Neither the clock of the loop nor the time of the engine moves. -/
structure Still (loop loop' : TcpLoop) : Prop where
  last : loop'.lastTickMs = loop.lastTickMs
  ticked : loop'.ticked = loop.ticked

/-- The clock goes forward, and the engine is ticked by as much, or by one tick if that is less. -/
structure Passes (loop loop' : TcpLoop) : Prop where
  forward : loop.lastTickMs.toNat ≤ loop'.lastTickMs.toNat
  ticked : loop'.ticked = loop.ticked+
    min (loop'.lastTickMs.toNat-loop.lastTickMs.toNat) engineTickMs.toNat

theorem Still.passes {loop loop' : TcpLoop} (h : loop.Still loop') : loop.Passes loop' where
  forward := by rw [h.last]
  ticked := by rw [h.last, h.ticked, Nat.sub_self, Nat.zero_min, Nat.add_zero]

theorem Passes.between {loop loop₁ loop₂ loop' : TcpLoop} (h : loop₁.Passes loop₂)
    (hbefore : loop.Still loop₁) (hafter : loop₂.Still loop') : loop.Passes loop' where
  forward := by
    rw [hafter.last, ← hbefore.last]
    exact h.forward
  ticked := by rw [hafter.ticked, h.ticked, hafter.last, ← hbefore.last, ← hbefore.ticked]

theorem ticked_call (loop : TcpLoop) (op : Op) (socket : Socket) (lastTickMs : UInt64) :
    (⟨loop.server.call op,socket,lastTickMs,loop.running⟩ : TcpLoop).ticked =
      loop.ticked+op.elapsedMs := by
  show ((loop.server.calls.made ++ [op]).map Op.elapsedMs).sum = _
  rw [List.map_append, List.sum_append, List.map_singleton, List.sum_singleton]
  rfl

theorem tick_ms_value (elapsedMs : UInt64) :
    (tickMs elapsedMs).toNat = min elapsedMs.toNat engineTickMs.toNat := by
  rw [tickMs]
  split
  · rename_i hlong
    have hlt : engineTickMs.toNat < elapsedMs.toNat := UInt64.lt_iff_toNat_lt.mp hlong
    rw [Nat.min_eq_right hlt.le]
    rfl
  · rename_i hshort
    have hle : elapsedMs.toNat ≤ engineTickMs.toNat :=
      Nat.le_of_not_lt fun hlt => hshort (UInt64.lt_iff_toNat_lt.mpr hlt)
    rw [Nat.min_eq_left hle, UInt64.toNat_toUInt32]
    exact Nat.mod_eq_of_lt (lt_of_le_of_lt hle (by decide))

theorem Still.stop {loop loop' : TcpLoop} (h : loop.Still loop') : loop.Still loop'.stop :=
  ⟨h.last,h.ticked⟩

theorem stop_still (loop : TcpLoop) : loop.Still loop.stop := ⟨rfl,rfl⟩

variable (arrivals takes : ℕ → ℕ)

theorem receive_still (loop : TcpLoop) (readFails : Bool) :
    loop.Still (loop.receive arrivals readFails) := by
  rw [receive]
  split
  · exact loop.stop_still
  · split
    · exact ⟨rfl,ticked_call loop (.submit _) _ _⟩
    · exact ⟨rfl,rfl⟩
    · exact ⟨rfl,rfl⟩

theorem pass_passes (loop : TcpLoop) (nowMs : UInt64) : loop.Passes (loop.pass nowMs) := by
  rw [pass]
  split
  · rename_i hlater
    have hlt : loop.lastTickMs.toNat < nowMs.toNat := UInt64.lt_iff_toNat_lt.mp hlater
    refine ⟨hlt.le,(ticked_call loop (.tick _) _ nowMs).trans ?_⟩
    show _+(tickMs (nowMs-loop.lastTickMs)).toNat = _
    rw [tick_ms_value, UInt64.toNat_sub_of_le _ _ (UInt64.le_iff_toNat_le.mpr hlt.le)]
  · exact Still.passes ⟨rfl,rfl⟩

variable {profile : Profile} {scenario : Scenario} {incoming : List UInt8} {bound : ℕ}
  {loop : TcpLoop}

theorem Sound.flush_still (h : loop.Sound profile scenario incoming bound)
    (hrun : loop.running = true) : loop.Still (loop.flush takes) := by
  have hdrained := (Server.flush_to_client_flushed takes (h.writes hrun) h.whole).drained
  have hticked : ((loop.server.flushToClient takes).2.calls.made.map Op.elapsedMs).sum =
      loop.ticked := by
    refine hdrained.invariant (I := fun r => (r.made.map Op.elapsedMs).sum = loop.ticked) ?_ rfl
    intro r hr
    rw [Recorder.call, List.map_append, List.sum_append, hr]
    rfl
  rw [TcpLoop.flush]
  generalize loop.server.flushToClient takes = out at hticked ⊢
  obtain ⟨rc,server⟩ := out
  cases rc with
  | ok => exact ⟨rfl,hticked⟩
  | err => exact ⟨rfl,hticked⟩

theorem receives_still {t : Turn} {received : TcpLoop}
    (h : loop.Receives arrivals t received) : loop.Still received := by
  obtain ⟨-,rfl | rfl⟩ := h
  · exact ⟨rfl,rfl⟩
  · exact receive_still arrivals loop t.readFails

theorem Sound.turn_passes (h : loop.Sound profile scenario incoming 0) (t : Turn) :
    loop.Passes (loop.turn arrivals takes t) := by
  have hturned := loop.turn_turned arrivals takes t
  generalize loop.turn arrivals takes t = loop' at hturned ⊢
  cases hturned with
  | kept => exact Still.passes ⟨rfl,rfl⟩
  | stopped => exact loop.stop_still.passes
  | ended received hreceives => exact (receives_still arrivals hreceives).stop.passes
  | flushed received hreceives hrun nowMs =>
    refine (pass_passes received nowMs).between (receives_still arrivals hreceives) ?_
    exact ((h.received arrivals hreceives).pass hrun nowMs).flush_still takes
      ((received.pass_running nowMs).trans hrun)

/-- A run of turns: the engine never gets ahead of the clock, and keeps up with it exactly when
every turn does. -/
theorem Sound.run_passes (h : loop.Sound profile scenario incoming 0) (turns : List Turn) :
    let loop' := Runs.run (TcpLoop.turn arrivals takes) loop turns
    loop.lastTickMs.toNat ≤ loop'.lastTickMs.toNat ∧
      loop'.ticked ≤ loop.ticked+(loop'.lastTickMs.toNat-loop.lastTickMs.toNat) ∧
      (loop'.ticked = loop.ticked+(loop'.lastTickMs.toNat-loop.lastTickMs.toNat) ↔
        Runs.Along (TcpLoop.turn arrivals takes) (Punctual arrivals takes) loop turns) := by
  induction turns generalizing loop with
  | nil => simp [Runs.run, Runs.Along]
  | cons t turns ih =>
    obtain ⟨hforward,hticked⟩ := h.turn_passes arrivals takes t
    obtain ⟨hforward',hbehind,hexact⟩ := ih (h.turn arrivals takes t)
    simp only [Runs.run, Runs.Along] at hforward' hbehind hexact ⊢
    rw [← hexact, Punctual]
    refine ⟨hforward.trans hforward',?_,?_⟩
    · omega
    · omega

end TcpLoop

/-- However the turns are timed, the loop ticks the engine by at most the time that passes on the
clock, and by exactly that time if and only if the clock is read at least every 50 ms. -/
theorem tcp_clock (arrivals takes : ℕ → ℕ) (profile : Profile) (scenario : Scenario)
    (incoming : List UInt8) (nowMs : UInt64) (turns : List Turn) :
    let loop := TcpLoop.served arrivals takes profile scenario incoming nowMs turns
    nowMs.toNat ≤ loop.lastTickMs.toNat ∧
      loop.ticked ≤ loop.lastTickMs.toNat-nowMs.toNat ∧
      (loop.ticked = loop.lastTickMs.toNat-nowMs.toNat ↔
        Runs.Along (TcpLoop.turn arrivals takes) (TcpLoop.Punctual arrivals takes)
          (TcpLoop.start profile scenario incoming nowMs) turns) := by
  have hpasses := (TcpLoop.Sound.start profile scenario incoming nowMs).run_passes arrivals takes
    turns
  have hzero : (TcpLoop.start profile scenario incoming nowMs).ticked = 0 := rfl
  have hstart : (TcpLoop.start profile scenario incoming nowMs).lastTickMs = nowMs := rfl
  simp only [hzero, hstart, Nat.zero_add] at hpasses
  exact hpasses

end UciSim
