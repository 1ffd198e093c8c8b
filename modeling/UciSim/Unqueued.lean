import UciSim.FreshStart
import UciSim.General.Losses

/-!
# The engine without its queues

As long as the outbound queue has room and nothing is deferred, the engine is a
device that answers each call at once: what a call changes and what it sends depend
on the device alone, not on what the host has read.
-/

set_option autoImplicit false

namespace UciSim

def Device.ticked (d : Device) (elapsedMs : UInt32) : Device × List Packet :=
  let outcome := (Engine.mk d []).tick elapsedMs
  (outcome.engine.device.withPending [],outcome.produced)

def Device.call (d : Device) : Op → Device × List Packet
  | .submit request =>
    let (rc,x) := d.handlePacket request
    let answers := x.result.response.toList ++ x.accepted
    let left := x.device.withPending []
    if rc = .err ∧ x.result.response = none ∧ x.result.notification = none then (left,answers)
    else ((left.ticked 0).1,answers ++ (left.ticked 0).2)
  | .tick elapsedMs => d.ticked elapsedMs
  | .dequeue => (d,[])

theorem idle_self {d : Device} (h : d.pendingNotifications = []) : d.withPending [] = d := by
  rw [← h]
  rfl

namespace Engine

theorem tick_ticked_device (e : Engine) (elapsedMs : UInt32)
    (h : (e.tick elapsedMs).engine.device.pendingNotifications = []) :
    (e.tick elapsedMs).engine.device = (e.device.ticked elapsedMs).1 := by
  rw [← idle_self h]
  exact tick_device ⟨e.device,[]⟩ e rfl elapsedMs

theorem tick_ticked_produced (e : Engine) (elapsedMs : UInt32) :
    (e.tick elapsedMs).produced = (e.device.ticked elapsedMs).2 :=
  tick_produced ⟨e.device,[]⟩ e rfl elapsedMs

theorem submit_call {e : Engine} {request : Packet} (hq : e.device.Quiet)
    (hroom : e.outboundPackets.length+e.device.demand (.submit request) ≤ maxOutboundPackets)
    (hidle : (e.submitPacket request).engine.device.pendingNotifications = []) :
    (e.submitPacket request).engine.device = (e.device.call (.submit request)).1 ∧
      (e.submitPacket request).produced = (e.device.call (.submit request)).2 := by
  by_cases hmt : request.mt = mtData ∨ request.mt = mtCommand
  swap
  · obtain ⟨hdata,hcommand⟩ := not_or.mp hmt
    rw [submit_other e request hdata hcommand, Device.call,
      handle_packet_other e.device request hdata hcommand]
    exact ⟨(idle_self hq.idle).symm,rfl⟩
  obtain ⟨rc,d',response,posting,m,h⟩ := handled_packet e.device request hmt hq
  have hhanded := h.handed_le_demand
  rw [Device.call, h.outcome]
  dsimp only
  obtain ⟨hrc,hnone,hslot,hout⟩ | ⟨hkept,hout⟩ := submit_queued h (by omega)
  · rw [hout] at hidle ⊢
    rw [if_pos ⟨hrc,hnone,hslot⟩]
    have hwaiting : m.pending = [] := h.silent hslot
    exact ⟨by rw [hwaiting]; rfl,rfl⟩
  · rw [hout] at hidle ⊢
    rw [if_neg hkept]
    exact ⟨tick_ticked_device _ 0 hidle,congrArg _ (tick_ticked_produced _ 0)⟩

end Engine

namespace Run

variable {r : Run} {op : Op}

theorem step_call (hroom : r.Fits op) (hq : r.engine.device.Quiet) :
    (r.step op).engine.device = (r.engine.device.call op).1 ∧
      (r.step op).emitted = r.emitted ++ (r.engine.device.call op).2 := by
  obtain ⟨ns,-,hidle,hemitted,hproduced⟩ := r.step_called op hroom hq
  cases op with
  | dequeue =>
    rw [step_dequeue_emitted, step_dequeue_device]
    exact ⟨rfl,(List.append_nil _).symm⟩
  | tick elapsedMs =>
    have hmade : r.produced ++ (r.engine.tick elapsedMs).produced = r.produced ++ ns := hproduced
    rw [hemitted, ← List.append_cancel_left hmade]
    exact ⟨Engine.tick_ticked_device r.engine elapsedMs hidle,
      congrArg _ (Engine.tick_ticked_produced r.engine elapsedMs)⟩
  | submit request =>
    have hmade : r.produced ++ (r.engine.submitPacket request).produced = r.produced ++ ns :=
      hproduced
    obtain ⟨hdevice,hsent⟩ := Engine.submit_call hq hroom hidle
    rw [hemitted, ← List.append_cancel_left hmade]
    exact ⟨hdevice,congrArg _ hsent⟩

theorem step_quiet (hroom : r.Fits op) (hq : r.engine.device.Quiet) :
    (r.step op).engine.device.Quiet := by
  obtain ⟨ns,-,hidle,-⟩ := r.step_called op hroom hq
  exact ⟨(step_scenario r op).symm ▸ hq.prompt,hidle⟩

end Run

def Op.calls : Op → Bool
  | .dequeue => false
  | _ => true

namespace Device

abbrev after (d : Device) (ops : List Op) : Device := Runs.run (fun d op => (d.call op).1) d ops

def sends (d : Device) (ops : List Op) : List Packet :=
  Losses.history (fun d op => (d.call op).1) (fun d op => (d.call op).2) d ops

theorem sends_cons (d : Device) (op : Op) (ops : List Op) :
    d.sends (op::ops) = (d.call op).2 ++ (d.call op).1.sends ops := rfl

theorem unread (d : Device) (ops : List Op) :
    d.after (ops.filter Op.calls) = d.after ops ∧ d.sends (ops.filter Op.calls) = d.sends ops := by
  induction ops generalizing d with
  | nil => exact ⟨rfl,rfl⟩
  | cons op ops ih =>
    obtain ⟨hafter,hsends⟩ := ih (d.call op).1
    by_cases hop : op.calls = true
    · rw [List.filter_cons_of_pos hop, sends_cons, sends_cons, hsends]
      exact ⟨hafter,rfl⟩
    · rw [List.filter_cons_of_neg hop]
      cases op with
      | dequeue => exact ih d
      | submit | tick => exact absurd rfl hop

end Device

theorem Run.run_calls (r : Run) (ops : List Op) (hq : r.engine.device.Quiet)
    (h : Runs.Along Run.step Run.Fits r ops) :
    (Runs.run Run.step r ops).engine.device = r.engine.device.after ops ∧
      (Runs.run Run.step r ops).emitted = r.emitted ++ r.engine.device.sends ops := by
  induction ops generalizing r with
  | nil => exact ⟨rfl,(List.append_nil _).symm⟩
  | cons op ops ih =>
    obtain ⟨hdevice,hemitted⟩ := Run.step_call h.1 hq
    obtain ⟨hafter,hsends⟩ := ih (r.step op) (Run.step_quiet h.1 hq) h.2
    rw [hdevice] at hafter hsends
    rw [hemitted, List.append_assoc] at hsends
    exact ⟨hafter,hsends⟩

/-- As long as the outbound queue has room, the engine that does not defer is a device without
queues: however often the host reads in between, its calls change the device and send packets as
they would if the host read everything at once. -/
theorem engine_refines_unqueued (profile : Profile) (scenario : Scenario)
    (hs : scenario ≠ .delayedNotifications) (ops : List Op)
    (h : Run.Along profile scenario Run.Fits ops) :
    let d := Device.initWithProfile profile scenario
    (Run.reached profile scenario ops).engine.device = d.after (ops.filter Op.calls) ∧
      (Run.reached profile scenario ops).emitted = d.sends (ops.filter Op.calls) := by
  intro d
  have hq : (Run.init profile scenario).engine.device.Quiet := ⟨hs,rfl⟩
  obtain ⟨hafter,hsends⟩ := d.unread ops
  rw [hafter, hsends]
  exact Run.run_calls (Run.init profile scenario) ops hq h

theorem engine_refines_unqueued_start :
    let d := Device.initWithProfile defaultProfile .rangingStream
    let ops := [.submit (initRequest 1), .dequeue, .submit (startRequest 1), .tick 2000]
    (Run.reached defaultProfile .rangingStream ops).engine.device = d.after (ops.filter Op.calls) ∧
      (Run.reached defaultProfile .rangingStream ops).emitted = d.sends (ops.filter Op.calls) :=
  engine_refines_unqueued defaultProfile .rangingStream (by decide) _ (by decide +kernel)

end UciSim
