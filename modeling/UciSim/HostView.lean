import UciSim.UncongestedPaths
import UciSim.Requests

/-!
# The host's view of the sessions

A host that replays the session and device status notifications it is sent holds
the device's own map from session to state, and each packet and each event moves
a session along its life cycle only.
-/

set_option autoImplicit false

namespace UciSim

def Device.sessionStates (d : Device) : SessionStates :=
  fun sessionId => (d.findSession sessionId).map (fun i => (d.sessions i).state)

def replay (packets : List Packet) : SessionStates :=
  (packets.filterMap Packet.signal).foldl observe (fun _ => none)

/-- The state changes that a packet makes to the session of an identifier. -/
inductive PacketMove (d : Device) (request : Packet) (sessionId : UInt32) :
    Option UInt8 → Option UInt8 → Prop where
  | kept (state : Option UInt8) : PacketMove d request sessionId state state
  | opened : PacketMove d request sessionId none (some sessionStateInit)
  | started (i : Fin maxSessions) (state : UInt8) (found : d.findSession sessionId = some i)
      (starts : Starts d request i) (rest : state = sessionStateInit ∨ state = sessionStateIdle) :
      PacketMove d request sessionId (some state) (some sessionStateActive)
  | stopped (i : Fin maxSessions) (found : d.findSession sessionId = some i)
      (stops : Moves d request sessionStop i) :
      PacketMove d request sessionId (some sessionStateActive) (some sessionStateIdle)
  | closed (i : Fin maxSessions) (state : UInt8) (found : d.findSession sessionId = some i)
      (closes : Closes d request i) : PacketMove d request sessionId (some state) none
  | reset (state : Option UInt8) (resets : request.Resets) :
      PacketMove d request sessionId state none

/-- The state changes that the event due on `d` makes. -/
inductive EventMove (d : Device) (sessionId : UInt32) : Option UInt8 → Option UInt8 → Prop where
  | kept (state : Option UInt8) : EventMove d sessionId state state
  | ended (i : Fin maxSessions) (found : d.findSession sessionId = some i)
      (ends : EndsStream d i) :
      EventMove d sessionId (some sessionStateActive) (some sessionStateIdle)

/-- A call moves each session by its packet, then by the event it serves. -/
def Run.LegalStep (r : Run) (op : Op) : Prop :=
  ∀ sessionId, match op with
    | .submit request =>
      let handled := (r.engine.device.handlePacket request).2.device
      PacketMove r.engine.device request sessionId
          (r.engine.device.sessionStates sessionId) (handled.sessionStates sessionId) ∧
        EventMove (handled.tickEvents 0) sessionId (handled.sessionStates sessionId)
          ((r.step op).engine.device.sessionStates sessionId)
    | .tick elapsedMs =>
      EventMove (r.engine.device.tickEvents elapsedMs) sessionId
        (r.engine.device.sessionStates sessionId)
        ((r.step op).engine.device.sessionStates sessionId)
    | .dequeue => (r.step op).engine.device.sessionStates sessionId =
        r.engine.device.sessionStates sessionId

theorem states_of_slot {v : View} (hw : v.WellFormed) {i : Fin maxSessions}
    (ha : (v.slots i).allocated = true) :
    v.sessionStates (v.slots i).sessionId = some (v.slots i).state :=
  (View.session_states_some hw _ _).mpr ⟨i,ha,rfl,rfl⟩

theorem move_of_signal {R : UInt32 → Option UInt8 → Option UInt8 → Prop} {v : View}
    (hw : v.WellFormed) {a : Action} (ha : v.Enabled a) (hkept : ∀ k s, R k s s)
    (hcleared : v.signal a = some .cleared → ∀ k s, R k s none)
    (hmoved : ∀ k state, v.signal a = some (.status k state) →
      R k (v.sessionStates k) (if state = sessionStateDeinit then none else some state)) :
    ∀ k, R k (v.sessionStates k) ((v.apply a).sessionStates k) := by
  intro k
  rw [← View.observe_signal hw a ha]
  cases hsignal : v.signal a with
  | none => exact hkept _ _
  | some signal =>
    cases signal with
    | cleared => exact hcleared hsignal k _
    | status sessionId state =>
      simp only [Option.toList_some, List.foldl_cons, List.foldl_nil, observe]
      by_cases hk : k = sessionId
      · subst hk
        rw [Function.update_self]
        exact hmoved _ _ hsignal
      · rw [Function.update_of_ne hk]
        exact hkept _ _

theorem rescheduled_states (v : View) (i : Fin maxSessions) (delays : List UInt32) :
    (Runs.run View.apply v (delays.map (.rescheduled i))).sessionStates = v.sessionStates := by
  induction delays generalizing v with
  | nil => rfl
  | cons delayMs delays ih =>
    have hslots : (v.apply (.rescheduled i delayMs)).slots = v.slots :=
      View.resume_slots _ _ _ _
    exact (ih _).trans (View.session_states_congr hslots)

theorem packet_moves {d d' : Device} {request : Packet} {actions : List Action}
    {ns : List Packet} (hw : d.view.WellFormed) (h : PacketActions d request actions)
    (hexplains : Explains d.view actions ns d'.view) (sessionId : UInt32) :
    PacketMove d request sessionId (d.sessionStates sessionId) (d'.sessionStates sessionId) := by
  obtain ⟨henabled,hreaches,-⟩ := hexplains
  have hone : ∀ a, d.view.Enabled a → Runs.run View.apply d.view [a] = d'.view →
      (d.view.signal a = some .cleared → request.Resets) →
      (∀ k state, d.view.signal a = some (.status k state) →
        PacketMove d request k (d.sessionStates k)
          (if state = sessionStateDeinit then none else some state)) →
      PacketMove d request sessionId (d.sessionStates sessionId)
        (d'.sessionStates sessionId) := by
    intro a ha hrun hcleared hmoved
    have hview : d'.sessionStates = (d.view.apply a).sessionStates :=
      congrArg View.sessionStates hrun.symm
    rw [hview]
    exact move_of_signal (R := PacketMove d request) hw ha (fun _ s => .kept s)
      (fun hc k s => .reset s (hcleared hc)) hmoved sessionId
  have hfind : ∀ i, (d.view.slots i).allocated = true →
      d.findSession (d.view.slots i).sessionId = some i := fun i ha =>
    View.find_of_allocated hw ha
  cases h with
  | none =>
    have hview : d'.sessionStates = d.sessionStates := congrArg View.sessionStates hreaches.symm
    rw [hview]
    exact .kept _
  | rescheduled i delays =>
    have hview : d'.sessionStates = d.sessionStates :=
      (congrArg View.sessionStates hreaches.symm).trans (rescheduled_states d.view i delays)
    rw [hview]
    exact .kept _
  | reported i =>
    refine hone _ henabled.1 hreaches (fun h => by cases h) ?_
    intro k state hsignal
    cases hsignal
    have hstates : d.sessionStates (d.view.slots i).sessionId = some (d.view.slots i).state :=
      states_of_slot hw henabled.1
    have hne : (d.view.slots i).state ≠ sessionStateDeinit := by
      obtain h | h | h := hw.known i henabled.1 <;> rw [h] <;> decide
    rw [hstates, if_neg hne]
    exact .kept _
  | opened i id =>
    refine hone _ henabled.1 hreaches (fun h => by cases h) ?_
    intro k state hsignal
    cases hsignal
    have habsent : d.sessionStates id = none := by
      refine Option.eq_none_iff_forall_ne_some.mpr fun s hs => ?_
      obtain ⟨j,ha,hid,-⟩ := (View.session_states_some hw id s).mp hs
      exact henabled.1.2 j ha hid
    rw [habsent]
    exact .opened
  | closed i hcloses =>
    refine hone _ henabled.1 hreaches (fun h => by cases h) ?_
    intro k state hsignal
    cases hsignal
    have hstates : d.sessionStates (d.view.slots i).sessionId = some (d.view.slots i).state :=
      states_of_slot hw henabled.1
    rw [hstates]
    exact .closed i _ (hfind i henabled.1) hcloses
  | started i hstarts =>
    obtain ⟨⟨ha,hrest⟩,-⟩ := henabled
    refine hone (.started i (streamOf d i)) ⟨ha,hrest⟩ hreaches (fun h => by cases h) ?_
    intro k state hsignal
    cases hsignal
    have hstates : d.sessionStates (d.view.slots i).sessionId = some (d.view.slots i).state :=
      states_of_slot hw ha
    rw [hstates]
    exact .started i _ (hfind i ha) hstarts hrest
  | stopped i hstops =>
    obtain ⟨⟨ha,hactive⟩,-⟩ := henabled
    refine hone (.stopped i) ⟨ha,hactive⟩ hreaches (fun h => by cases h) ?_
    intro k state hsignal
    cases hsignal
    have hstates : d.sessionStates (d.view.slots i).sessionId = some (d.view.slots i).state :=
      states_of_slot hw ha
    rw [hstates, hactive]
    exact .stopped i (hfind i ha) hstops
  | begun i delayMs =>
    refine hone _ henabled.1 hreaches (fun h => by cases h) ?_
    intro k state hsignal
    cases hsignal
  | reset hresets =>
    refine hone _ henabled.1 hreaches (fun _ => hresets) ?_
    intro k state hsignal
    cases hsignal

theorem EventMove.withPending {d : Device} {sessionId : UInt32} {s s' : Option UInt8}
    (h : EventMove d sessionId s s') (p : List Packet) :
    EventMove (d.withPending p) sessionId s s' := by
  cases h with
  | kept => exact .kept _
  | ended i found ends => exact .ended i found ends

theorem event_moves {d d' : Device} {actions : List Action} {ns : List Packet}
    (hw : d.view.WellFormed) (h : TickActions d actions)
    (hexplains : Explains d.view actions ns d'.view) (sessionId : UInt32) :
    EventMove d sessionId (d.sessionStates sessionId) (d'.sessionStates sessionId) := by
  obtain ⟨henabled,hreaches,-⟩ := hexplains
  have hview : d'.sessionStates = (Runs.run View.apply d.view actions).sessionStates :=
    congrArg View.sessionStates hreaches.symm
  rw [hview]
  cases h with
  | none => exact .kept _
  | one a ha =>
    refine move_of_signal (R := EventMove d) hw henabled.1 (fun _ s => .kept s) ?_ ?_ sessionId
    · intro hc
      cases ha <;> cases hc
    · intro k state hsignal
      cases ha with
      | ended i hends =>
        cases hsignal
        obtain ⟨-,ha,hactive⟩ := henabled.1
        rw [states_of_slot hw ha, hactive]
        exact .ended i (View.find_of_allocated hw ha) hends
      | _ => cases hsignal

theorem legal_step {r : Run} {op : Op} (hs : r.engine.device.Settled)
    (hroom : r.Uncongested op) : r.LegalStep op := by
  obtain ⟨ns,hcalled,hpending,-⟩ := r.step_called op (hroom.fits hs.quiet) hs.quiet
  intro sessionId
  generalize hd : (r.step op).engine.device = d' at hcalled hpending
  cases hcalled with
  | refused request data command =>
    dsimp only
    rw [handle_packet_other _ request data command]
    exact ⟨.kept _,.kept _⟩
  | silent request response posting _ p served handled nothing =>
    obtain ⟨actions,hactions,hexplains⟩ := served_actions hs.profile hs.shape served
    dsimp only
    rw [handled]
    exact ⟨packet_moves hs.shape hactions hexplains sessionId,.kept _⟩
  | answered request response posting d₁ flushes ms _ p served handled ticks ticked =>
    obtain ⟨actions,hactions,hexplains⟩ := served_actions hs.profile hs.shape served
    have hw := hexplains.wellFormed hs.shape
    obtain ⟨rest,hrest,hticked⟩ := ticked_actions hw ticked
    dsimp only
    rw [handled]
    exact ⟨packet_moves hs.shape hactions hexplains sessionId,
      (event_moves (ticked_shape hw 0) hrest hticked sessionId).withPending p⟩
  | ticked elapsedMs flushes ms _ ticked =>
    obtain ⟨rest,hrest,hticked⟩ := ticked_actions hs.shape ticked
    exact event_moves (ticked_shape hs.shape elapsedMs) hrest hticked sessionId
  | dequeued => rfl

structure Run.Followed (r : Run) : Prop where
  settled : r.engine.device.Settled
  known : replay r.emitted = r.engine.device.sessionStates

theorem Run.Followed.step {r : Run} {op : Op} (h : r.Followed) (hroom : r.Uncongested op) :
    (r.step op).Followed := by
  obtain ⟨ns,hcalled,hpending,hemitted,-⟩ :=
    r.step_called op (hroom.fits h.settled.quiet) h.settled.quiet
  obtain ⟨hsettled,-,actions,hexplains,-⟩ := called_path (g := fun _ _ => True) h.settled
    hcalled hpending (fun _ _ => trivial)
    (fun _ _ _ _ => Runs.along_of_forall (fun _ _ => trivial) _ _)
    (fun _ _ _ _ _ _ _ => trivial)
  refine ⟨hsettled,?_⟩
  have hreplay : replay (r.emitted ++ ns) =
      (ns.filterMap Packet.signal).foldl observe (replay r.emitted) := by
    simp [replay, List.filterMap_append, List.foldl_append]
  have hobserved := View.observe_signals h.settled.shape actions hexplains.enabled
  rw [hexplains.reaches, ← hexplains.signals] at hobserved
  rw [hemitted, hreplay, h.known]
  exact hobserved

theorem Run.Followed.init {profile : Profile} (hp : profile.StartStop) {scenario : Scenario}
    (hs : scenario ≠ .delayedNotifications) : (Run.init profile scenario).Followed where
  settled := Device.Settled.init hp hs
  known := rfl

theorem Run.Followed.reached {profile : Profile} (hp : profile.StartStop) {scenario : Scenario}
    (hs : scenario ≠ .delayedNotifications) {ops : List Op}
    (h : Run.Along profile scenario Run.Uncongested ops) :
    (Run.reached profile scenario ops).Followed :=
  Runs.invariant_of_steps (I := Run.Followed) (fun _ _ hf hroom => hf.step hroom) _ ops
    (Run.Followed.init hp hs) h

/-- In every uncongested run that does not defer notifications the host holds exactly the
device's map from session to state, and every step it goes on with is a legal one. -/
theorem host_follows_device (profile : Profile) (hp : profile.StartStop) (scenario : Scenario)
    (hs : scenario ≠ .delayedNotifications) (ops : List Op)
    (h : Run.Along profile scenario Run.Uncongested ops) :
    replay (Run.reached profile scenario ops).emitted =
        (Run.reached profile scenario ops).engine.device.sessionStates ∧
      ∀ op, (Run.reached profile scenario ops).Uncongested op →
        (Run.reached profile scenario ops).LegalStep op := by
  have hfollowed := Run.Followed.reached hp hs h
  exact ⟨hfollowed.known,fun op hroom => legal_step hfollowed.settled hroom⟩

def followedRun : List Op := [.submit (initRequest 1), .submit (startRequest 1), .tick 2000,
  .dequeue, .submit (stopRequest 1), .submit (initRequest 2), .submit (deinitRequest 1)]

theorem host_follows_two_sessions :
    replay (Run.reached defaultProfile .rangingStream followedRun).emitted =
        (Run.reached defaultProfile .rangingStream followedRun).engine.device.sessionStates ∧
      ∀ op, (Run.reached defaultProfile .rangingStream followedRun).Uncongested op →
        (Run.reached defaultProfile .rangingStream followedRun).LegalStep op :=
  host_follows_device defaultProfile default_profile_start_stop .rangingStream (by decide) _
    (by decide +kernel)

end UciSim
