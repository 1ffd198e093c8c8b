import UciSim.LifecycleObserver
import UciSim.Uncongested

/-!
# Packets as actions

The view of a device forgets its configurations and its mailbox. Under a profile
whose transitions are starting and stopping, a packet is a path of actions on
the view, and the notifications it posts carry the path's signals.
-/

set_option autoImplicit false

namespace UciSim

def Session.slot (s : Session) : Slot :=
  ⟨s.allocated,s.sessionId,s.state,s.rangingStreamRemaining,s.dataTransferInProgress⟩

def Device.view (d : Device) : View := ⟨fun i => (d.sessions i).slot,d.scheduledEvents⟩

/-- Sessions start from rest into `ACTIVE`, stop from `ACTIVE` into `IDLE`, and move no
other way. -/
structure Profile.StartStop (profile : Profile) : Prop where
  initial : profile.initialSessionState = sessionStateInit
  start : ∀ t, profile.getSessionTransition sessionStart = some t →
    t.nextState = sessionStateActive ∧ t.allows sessionStateActive = false
  stop : ∀ t, profile.getSessionTransition sessionStop = some t →
    t.nextState = sessionStateIdle ∧ t.allows sessionStateInit = false ∧
      t.allows sessionStateIdle = false
  others : ∀ oid t, profile.getSessionTransition oid = some t →
    oid = sessionStart ∨ oid = sessionStop

theorem default_profile_start_stop : defaultProfile.StartStop where
  initial := rfl
  start := by
    intro t ht
    cases ht
    decide
  stop := by
    intro t ht
    cases ht
    decide
  others := by
    intro oid t ht
    have hoid := List.find?_some ht
    have hmem := List.mem_of_find?_eq_some ht
    simp only [defaultProfile, List.mem_cons, List.not_mem_nil, or_false] at hmem
    obtain rfl | rfl := hmem
    · exact Or.inl (beq_iff_eq.mp hoid).symm
    · exact Or.inr (beq_iff_eq.mp hoid).symm

def Packet.signal (n : Packet) : Option Signal :=
  if n.IsDeviceStatus then some .cleared
  else if n.IsSessionStatus then
    some (.status (readU32Le n.payload 0) (byteAt n.payload 4))
  else none

theorem Packet.signal_quiet {n : Packet} (h : n.Quiet) : n.signal = none := by
  rw [signal, if_neg h.2, if_neg h.1]

theorem response_signal {n : Packet} (h : n.mt = mtResponse) : n.signal = none := by
  refine Packet.signal_quiet ⟨fun hs => ?_,fun hd => ?_⟩
  · exact absurd (h.symm.trans hs.1) (by decide)
  · exact absurd (h.symm.trans hd.1) (by decide)

theorem control_signal (oid : UInt8) (payload : List UInt8) :
    (Packet.notification gidSessionControl oid payload).signal = none :=
  Packet.signal_quiet ⟨fun hs => absurd hs.2.1 (show ¬ gidSessionControl = gidSessionConfig by
    decide),fun hd => absurd hd.2.1 (show ¬ gidSessionControl = gidCore by decide)⟩

theorem status_signal (sessionId : UInt32) (state reason : UInt8) :
    (sessionStatusNotification sessionId state reason).signal =
      some (.status sessionId state) := by
  have hstatus : (sessionStatusNotification sessionId state reason).IsSessionStatus :=
    ⟨rfl,rfl,rfl⟩
  have hdevice : ¬ (sessionStatusNotification sessionId state reason).IsDeviceStatus :=
    fun h => absurd h.2.1 (show ¬ gidSessionConfig = gidCore by decide)
  rw [Packet.signal, if_neg hdevice, if_pos hstatus]
  have hid : readU32Le (writeU32Le sessionId ++ [state,reason]) 0 = sessionId :=
    read_write_u32_le sessionId [state,reason]
  exact congrArg (fun id => some (Signal.status id state)) hid

namespace Device

theorem view_setSession (d : Device) (i : Fin maxSessions) (session : Session) :
    (d.setSession i session).view = d.view.setSlot i session.slot := by
  unfold view View.setSlot setSession
  simp only [View.mk.injEq, and_true]
  funext j
  by_cases h : j = i
  · subst h
    simp
  · simp [h]

theorem view_congr {d d' : Device} (hsessions : d'.sessions = d.sessions)
    (hevents : d'.scheduledEvents = d.scheduledEvents) : d'.view = d.view := by
  simp only [view, hsessions, hevents]

/-- A session that keeps its slot leaves the view alone. -/
theorem view_kept (d : Device) (i : Fin maxSessions) (session : Session)
    (h : session.slot = (d.sessions i).slot) : (d.setSession i session).view = d.view := by
  rw [view_setSession, h]
  exact View.setSlot_self d.view i

end Device

theorem Session.SameLifecycle.slot {s s' : Session} (h : s.SameLifecycle s') :
    s'.slot = s.slot := by
  simp only [Session.slot, h.allocated, h.sessionId, h.state, h.remaining, h.inProgress]

/-- An accepted deinitialisation of the session at slot `i`. -/
def Closes (d : Device) (request : Packet) (i : Fin maxSessions) : Prop :=
  request.mt = mtCommand ∧ request.gid = gidSessionConfig ∧ request.oid = sessionDeinit ∧
    d.profile.supportsCommand request.gid request.oid = true ∧ 4 ≤ request.payload.length ∧
    d.findSession (readU32Le request.payload 0) = some i

/-- An accepted transition of the session at slot `i`. -/
def Moves (d : Device) (request : Packet) (oid : UInt8) (i : Fin maxSessions) : Prop :=
  request.mt = mtCommand ∧ request.gid = gidSessionControl ∧ request.oid = oid ∧
    d.profile.supportsCommand request.gid request.oid = true ∧ 4 ≤ request.payload.length ∧
    d.findSession (readU32Le request.payload 0) = some i ∧
    ∃ t, d.profile.getSessionTransition oid = some t ∧ t.allows (d.sessions i).state = true

instance (d : Device) (request : Packet) (oid : UInt8) (i : Fin maxSessions) :
    Decidable (Moves d request oid i) := by
  unfold Moves
  have hlisted : Decidable (∃ t, d.profile.getSessionTransition oid = some t ∧
      t.allows (d.sessions i).state = true) :=
    inferInstanceAs (Decidable (∃ t, t ∈ d.profile.getSessionTransition oid ∧ _))
  infer_instance

/-- A start that passed validation. -/
def Starts (d : Device) (request : Packet) (i : Fin maxSessions) : Prop :=
  Moves d request sessionStart i ∧ validateSessionStart d.profile (d.sessions i) = .ok ()

def streamOf (d : Device) (i : Fin maxSessions) : Option (UInt8 × UInt32) :=
  if d.scenario = .rangingStream then
    some (d.profile.rangingStreamBurstCount,(d.sessions i).getRangingIntervalMs d.profile)
  else none

inductive PacketActions (d : Device) (request : Packet) : List Action → Prop where
  | none : PacketActions d request []
  | reported (i : Fin maxSessions) : PacketActions d request [.reported i]
  | rescheduled (i : Fin maxSessions) (delays : List UInt32) :
      PacketActions d request (delays.map (.rescheduled i))
  | opened (i : Fin maxSessions) (sessionId : UInt32) :
      PacketActions d request [.opened i sessionId]
  | closed (i : Fin maxSessions) (h : Closes d request i) :
      PacketActions d request [.closed i]
  | started (i : Fin maxSessions) (h : Starts d request i) :
      PacketActions d request [.started i (streamOf d i)]
  | stopped (i : Fin maxSessions) (h : Moves d request sessionStop i) :
      PacketActions d request [.stopped i]
  | begun (i : Fin maxSessions) (delayMs : UInt32) :
      PacketActions d request [.begun i delayMs]
  | reset (h : request.Resets) : PacketActions d request [.reset]

/-- The actions lead from one view to the other and their signals are posted. -/
structure Explains (v : View) (actions : List Action) (ns : List Packet) (v' : View) : Prop where
  enabled : Runs.Along View.apply View.Enabled v actions
  reaches : Runs.run View.apply v actions = v'
  signals : ns.filterMap Packet.signal = v.signals actions

theorem explains_nothing {v v' : View} {ns : List Packet} (hv : v' = v)
    (hns : ns.filterMap Packet.signal = []) : Explains v [] ns v' :=
  ⟨trivial,hv.symm,hns⟩

theorem explains_one {v v' : View} {a : Action} {ns : List Packet} (ha : v.Enabled a)
    (hv : v' = v.apply a) (hns : ns.filterMap Packet.signal = (v.signal a).toList) :
    Explains v [a] ns v' :=
  ⟨⟨ha,trivial⟩,hv.symm,by rw [hns]; exact (List.append_nil _).symm⟩

theorem Explains.wellFormed {v v' : View} {actions : List Action} {ns : List Packet}
    (h : Explains v actions ns v') (hw : v.WellFormed) : v'.WellFormed := by
  have := Runs.invariant_of_steps (I := View.WellFormed) (fun v a hw ha => hw.apply a ha) v actions
    hw h.enabled
  rwa [h.reaches] at this

/-- A law that enabled and guarded actions keep holds at the end of a path. -/
theorem Explains.law {v v' : View} {actions : List Action} {ns : List Packet}
    {Law : View → Prop} {guard : View → Action → Prop} (h : Explains v actions ns v')
    (hw : v.WellFormed) (hl : Law v) (hg : Runs.Along View.apply guard v actions)
    (hlaw : ∀ v a, v.WellFormed → Law v → v.Enabled a → guard v a → Law (v.apply a)) :
    Law v' := by
  have := Runs.invariant_of_steps (I := fun v => v.WellFormed ∧ Law v)
    (fun v a hv ha => ⟨hv.1.apply a ha.1,hlaw v a hv.1 hv.2 ha.1 ha.2⟩) v actions ⟨hw,hl⟩
    (Runs.along_and _ _ h.enabled hg)
  rw [h.reaches] at this
  exact this.2

end UciSim
