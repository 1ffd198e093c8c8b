import UciSim.ConfigReads
import UciSim.TickFailures

/-!
# What the parameter tables keep

A property of a parameter table that the defaults have and that every entry a
set request stores keeps is a property of every session in use, in every state
the device reaches, and when it serves an event.
-/

set_option autoImplicit false

namespace UciSim

structure TableLaw (profile : Profile) (Q : Session → Prop) : Prop where
  congr : ∀ session session', session'.configs = session.configs → Q session → Q session'
  defaults : Q (Session.zero.storeDefaults profile.defaultSessionAppConfigs)
  stored : ∀ (d : Device) (i : Fin maxSessions) (configId : UInt8) (value : List UInt8),
    d.profile = profile → Q (d.sessions i) → d.refusal i configId value = none →
      Q (d.storing i configId value)

/-- Every session in use has the property and a free slot is empty. -/
structure Device.Lawful (profile : Profile) (Q : Session → Prop) (d : Device) : Prop where
  profile : d.profile = profile
  free : ∀ i, (d.sessions i).allocated = false → (d.sessions i).configs = []
  held : ∀ i, (d.sessions i).allocated = true → Q (d.sessions i)

namespace TableLaw

variable {profile : Profile} {Q : Session → Prop} {d : Device}

theorem fresh (law : TableLaw profile Q) (hp : d.profile = profile) {i : Fin maxSessions}
    (h : (d.sessions i).configs = []) (sessionId : UInt32) : Q (d.freshSession i sessionId) := by
  refine law.congr _ _ ?_ law.defaults
  rw [← hp]
  exact store_defaults_configs h _

theorem configured (law : TableLaw profile Q) (h : d.Lawful profile Q) {request : Packet}
    {i : Fin maxSessions} (sets : Sets d request i) :
    ((d.reconfigured request i).sessions i).allocated = true ∧
      Q ((d.reconfigured request i).sessions i) := by
  have ha := (Device.find_session_some sets.2.2.2).1
  have hinvariant := Device.set_app_configs_invariant
    (P := fun d => d.profile = profile ∧ (d.sessions i).allocated = true ∧ Q (d.sessions i))
    (e := fun _ _ => True) (i := i) ?_ (byteAt request.payload 4).toNat
    (request.payload.drop 5) d ⟨h.profile,ha,h.held i ha⟩ fun _ _ => trivial
  · exact hinvariant.2
  · rintro d configId value ⟨hp,ha,hq⟩ - hrefusal
    rw [Device.stored_profile, Device.stored_session]
    exact ⟨hp,(Device.storing_eq d i configId value).2.2.2.trans ha,
      law.stored d i configId value hp hq hrefusal⟩

theorem same (law : TableLaw profile Q) {d' : Device} (h : d.Lawful profile Q)
    (hp : d'.profile = d.profile) (hs : d.SameTables d') : d'.Lawful profile Q where
  profile := hp.trans h.profile
  free i ha := (hs i).configs.trans (h.free i ((hs i).allocated ▸ ha))
  held i ha := law.congr _ _ (hs i).configs (h.held i ((hs i).allocated ▸ ha))

theorem move (law : TableLaw profile Q) (h : d.Lawful profile Q) {request : Packet}
    {i : Fin maxSessions} {session : Session} (hmove : TableMove d request i session) :
    (session.allocated = false → session.configs = []) ∧
      (session.allocated = true → Q session) := by
  cases hmove with
  | kept _ same =>
    constructor
    · exact fun ha => same.configs.trans (h.free i (same.allocated ▸ ha))
    · exact fun ha => law.congr _ _ same.configs (h.held i (same.allocated ▸ ha))
  | opened sessionId free =>
    constructor
    · intro ha
      rw [fresh_session_eq] at ha
      cases ha
    · exact fun _ => law.fresh h.profile (h.free i free) sessionId
  | cleared =>
    constructor
    · exact fun _ => rfl
    · intro ha
      cases ha
  | configured sets =>
    rcases law.configured h sets with ⟨hallocated,hq⟩
    constructor
    · intro ha
      exact absurd (ha.symm.trans hallocated) (by decide)
    · exact fun _ => hq

theorem served (law : TableLaw profile Q) (h : d.Lawful profile Q) {request : Packet}
    {response : Option Packet} {posting : Posting} {d' : Device}
    (hserved : Served d request response posting d') : d'.Lawful profile Q where
  profile := (served_frame hserved).1.trans h.profile
  free i := (law.move h (served_tables hserved i)).1
  held i := (law.move h (served_tables hserved i)).2

theorem ticked (law : TableLaw profile Q) (h : d.Lawful profile Q) {elapsedMs : UInt32}
    {flushes : Bool} {ns : List Packet} {d' : Device} (hticked : Ticked d elapsedMs flushes ns d') :
    d'.Lawful profile Q :=
  law.same h (ticked_frame hticked).2.1 (Device.SameTables.ticked hticked)

theorem step (law : TableLaw profile Q) {r : Run} (h : r.engine.device.Lawful profile Q) (op : Op) :
    (r.step op).engine.device.Lawful profile Q :=
  r.step_device (G := fun _ _ => True) (fun _ _ hd => ⟨hd.profile,hd.free,hd.held⟩)
    (fun _ _ _ _ _ hd _ hserved => law.served hd hserved)
    (fun _ _ _ _ _ hd hticked => law.ticked hd hticked) op h fun _ _ => trivial

/-- Every session in use of a reached device has the property. -/
theorem reached (law : TableLaw profile Q) (scenario : Scenario) (ops : List Op) :
    (Run.reached profile scenario ops).engine.device.Lawful profile Q :=
  Runs.invariant_of_all_steps (I := fun r : Run => r.engine.device.Lawful profile Q)
    (fun _ op hr => law.step hr op) _ ops ⟨rfl,fun _ _ => rfl,nofun⟩

end TableLaw

/-- The engine whose tick the call runs, and the time that passes in it. -/
def Run.ticking (r : Run) : Op → Option (Engine × UInt32)
  | .submit request => (r.engine.closing request).map (fun closed => (closed,0))
  | .tick elapsedMs => some (r.engine,elapsedMs)
  | .dequeue => none

theorem Run.ticking_cases {r : Run} {op : Op} {e : Engine} {elapsedMs : UInt32}
    (h : r.ticking op = some (e,elapsedMs)) : (op = .tick elapsedMs ∧ e = r.engine) ∨
      ∃ request, op = .submit request ∧ elapsedMs = 0 ∧ r.engine.closing request = some e := by
  cases op with
  | dequeue => cases h
  | tick elapsedMs =>
    cases h
    exact Or.inl ⟨rfl,rfl⟩
  | submit request =>
    rcases Option.map_eq_some_iff.mp h with ⟨closed,hclosed,hpair⟩
    cases hpair
    exact Or.inr ⟨request,rfl,rfl,hclosed⟩

theorem TableLaw.closing {profile : Profile} {Q : Session → Prop} (law : TableLaw profile Q)
    {e closed : Engine} (h : e.device.Lawful profile Q) {request : Packet}
    (hclosed : e.closing request = some closed) : closed.device.Lawful profile Q := by
  by_cases hmt : request.mt = mtData ∨ request.mt = mtCommand
  · rcases handle_packet_served e.device request hmt with ⟨rc,response,posting,d',hserved,hx⟩
    have hd' := law.served h hserved
    rw [posted_finalized] at hx
    rw [Engine.closing_lines hx hclosed]
    exact ⟨hd'.profile,hd'.free,hd'.held⟩
  · rcases not_or.mp hmt with ⟨hdata,hcommand⟩
    rw [Engine.closing_other hdata hcommand] at hclosed
    cases hclosed

theorem TableLaw.ticking {profile : Profile} {Q : Session → Prop} (law : TableLaw profile Q)
    {r : Run} (h : r.engine.device.Lawful profile Q) {op : Op} {e : Engine} {elapsedMs : UInt32}
    (hticks : r.ticking op = some (e,elapsedMs)) : e.device.Lawful profile Q := by
  rcases Run.ticking_cases hticks with ⟨rfl,rfl⟩ | ⟨request,rfl,rfl,hclosed⟩
  · exact h
  · exact law.closing h hclosed

end UciSim
