import UciSim.EventActions

/-!
# Uncongested calls as paths

With nothing pending between calls, every call is a path of actions on the view,
and the host is sent the signals of that path in order.
-/

set_option autoImplicit false

namespace UciSim

open View

/-- The device between two calls of an uncongested run. -/
structure Device.Settled (d : Device) : Prop where
  profile : d.profile.StartStop
  prompt : d.scenario ≠ .delayedNotifications
  idle : d.pendingNotifications = []
  shape : d.view.WellFormed

theorem Device.Settled.quiet {d : Device} (h : d.Settled) : d.Quiet := ⟨h.prompt,h.idle⟩

theorem Device.Settled.init {profile : Profile} (hp : profile.StartStop) {scenario : Scenario}
    (hs : scenario ≠ .delayedNotifications) :
    (Device.initWithProfile profile scenario).Settled :=
  ⟨hp,hs,rfl,View.WellFormed.init⟩

theorem signals_append (v : View) (actions rest : List Action) :
    v.signals (actions ++ rest) =
      v.signals actions ++ (Runs.run apply v actions).signals rest := by
  induction actions generalizing v with
  | nil => rfl
  | cons a actions ih => simp [View.signals, ih, Runs.run, List.append_assoc]

theorem Explains.trans {v v' v'' : View} {actions rest : List Action} {ns ms : List Packet}
    (h : Explains v actions ns v') (h' : Explains v' rest ms v'') :
    Explains v (actions ++ rest) (ns ++ ms) v'' where
  enabled := by
    rw [Runs.along_append, h.reaches]
    exact ⟨h.enabled,h'.enabled⟩
  reaches := by rw [Runs.run_append, h.reaches, h'.reaches]
  signals := by rw [List.filterMap_append, signals_append, h.reaches, h.signals, h'.signals]

theorem elapsed_explains (d : Device) (elapsedMs : UInt32) :
    Explains d.view [.elapsed elapsedMs] [] (d.tickEvents elapsedMs).view :=
  explains_one trivial rfl rfl

theorem not_abandoned {d : Device} {a : Action} (h : EventActions d a)
    (hidle : d.pendingNotifications = []) (ht : ¬ d.profile.BrokenTemplate) :
    a ≠ .abandoned := by
  rintro rfl
  cases h with
  | abandoned hcause => exact ht (hcause.resolve_left (not_not.mpr hidle))

section Guard

variable {g : View → Action → Prop}

theorem ticked_guarded {d d' : Device} {elapsedMs : UInt32} {flushes : Bool}
    {ns : List Packet} (hw : d.view.WellFormed) (h : Ticked d elapsedMs flushes ns d')
    (helapsed : ∀ v elapsedMs, g v (.elapsed elapsedMs))
    (hevent : ∀ a, EventActions (d.tickEvents elapsedMs) a →
      g (d.tickEvents elapsedMs).view a) :
    ∃ actions, Explains d.view actions ns d'.view ∧
      Runs.Along apply g d.view actions := by
  obtain ⟨actions,hactions,hexplains⟩ := ticked_actions hw h
  refine ⟨_,(elapsed_explains d elapsedMs).trans hexplains,helapsed _ _,?_⟩
  cases hactions with
  | none => trivial
  | one a ha => exact ⟨hevent a ha,trivial⟩

/-- A call between settled devices is a path along which a condition holds that the actions of
its packet and of the event it serves meet. -/
theorem called_path {d d' : Device} {op : Op} {ns : List Packet} (hs : d.Settled)
    (h : Called d op ns d') (hpending : d'.pendingNotifications = [])
    (helapsed : ∀ v elapsedMs, g v (.elapsed elapsedMs))
    (hpacket : ∀ request actions, op = .submit request → PacketActions d request actions →
      Runs.Along apply g d.view actions)
    (hevent : ∀ dt p, d.ticking op = some (dt.withPending p) → dt.pendingNotifications = [] →
      dt.profile = d.profile → ∀ a, EventActions dt a → g dt.view a) :
    d'.Settled ∧ (d'.profile = d.profile ∧ d'.scenario = d.scenario) ∧
      ∃ actions, Explains d.view actions ns d'.view ∧
        Runs.Along apply g d.view actions := by
  cases h with
  | refused request => exact ⟨hs,⟨rfl,rfl⟩,[],explains_nothing rfl rfl,trivial⟩
  | dequeued => exact ⟨hs,⟨rfl,rfl⟩,[],explains_nothing rfl rfl,trivial⟩
  | silent request response posting d' p served handled nothing =>
    obtain ⟨actions,hactions,hexplains⟩ := served_actions hs.profile hs.shape served
    rw [nothing] at hexplains
    obtain ⟨hprofile,hscenario⟩ := served_frame served
    exact ⟨⟨hprofile ▸ hs.profile,hscenario ▸ hs.prompt,hpending,hexplains.wellFormed hs.shape⟩,
      ⟨hprofile,hscenario⟩,actions,hexplains,hpacket request actions rfl hactions⟩
  | answered request response posting d₁ flushes ns d' p served handled ticks ticked =>
    obtain ⟨actions,hactions,hexplains⟩ := served_actions hs.profile hs.shape served
    obtain ⟨hprofile,hscenario⟩ := served_frame served
    obtain ⟨hscenario',hprofile',hpending'⟩ := ticked_frame ticked
    have hw := hexplains.wellFormed hs.shape
    obtain ⟨rest,hrest,hguard⟩ := ticked_guarded hw ticked helapsed
      (hevent (d₁.tickEvents 0) p ticks (hpending'.symm.trans hpending) hprofile)
    refine ⟨⟨hprofile' ▸ hprofile ▸ hs.profile,hscenario' ▸ hscenario ▸ hs.prompt,hpending,
      hrest.wellFormed hw⟩,⟨hprofile'.trans hprofile,hscenario'.trans hscenario⟩,
      actions ++ rest,hexplains.trans hrest,?_⟩
    rw [Runs.along_append, hexplains.reaches]
    exact ⟨hpacket request actions rfl hactions,hguard⟩
  | ticked elapsedMs flushes ns d' ticked =>
    obtain ⟨hscenario,hprofile,-⟩ := ticked_frame ticked
    obtain ⟨actions,hexplains,hguard⟩ := ticked_guarded hs.shape ticked helapsed
      (hevent (d.tickEvents elapsedMs) d.pendingNotifications rfl hs.idle rfl)
    exact ⟨⟨hprofile ▸ hs.profile,hscenario ▸ hs.prompt,hpending,hexplains.wellFormed hs.shape⟩,
      ⟨hprofile,hscenario⟩,actions,hexplains,hguard⟩

end Guard

theorem packet_actions_guarded {d : Device} {request : Packet} {actions : List Action}
    {g : View → Action → Prop} (h : PacketActions d request actions)
    (hguard : ∀ a ∈ actions, g d.view a)
    (hrescheduled : ∀ v i delayMs, g v (.rescheduled i delayMs)) :
    Runs.Along View.apply g d.view actions := by
  cases h with
  | none => trivial
  | rescheduled i delays =>
    refine Runs.along_of_mem ?_ _
    intro a ha v
    obtain ⟨delayMs,-,rfl⟩ := List.mem_map.mp ha
    exact hrescheduled v i delayMs
  | _ => exact ⟨hguard _ (List.mem_singleton.mpr rfl),trivial⟩

/-- A packet neither serves an event nor ends a stream. -/
theorem packet_actions_serve_nothing {d : Device} {request : Packet} {actions : List Action}
    (h : PacketActions d request actions) {a : Action} (ha : a ∈ actions) :
    a ≠ .abandoned ∧ ∀ i, a ≠ .ended i := by
  cases h with
  | none => cases ha
  | rescheduled i delays =>
    obtain ⟨delayMs,-,rfl⟩ := List.mem_map.mp ha
    exact ⟨by simp,by simp⟩
  | _ =>
    rw [List.mem_singleton.mp ha]
    exact ⟨by simp,by simp⟩

end UciSim
