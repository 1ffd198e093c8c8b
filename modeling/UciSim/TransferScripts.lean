import UciSim.HostView
import UciSim.TransferRuns

/-!
# The script of a repeated message

A message that is to be repeated is reported once for each repetition, numbered from
one, and then credited and reported transmitted. Eight bits count the transmissions,
and an event that a removed session left behind is taken for one of the new session's.
-/

set_option autoImplicit false

namespace UciSim

open Exchange

section

variable {d d' d₁ : Device} {i : Fin maxSessions} {message : Packet} {ns : List Packet}

theorem taken_begins (hq : d.Quiet) (htakes : d.Takes message i)
    (hrepeats : (d.sessions i).getDataRepetitionCount ≠ 0) :
    d.AdmitsData message i ∧ d.scheduledEvents.length < maxScenarioEvents ∧
      (d.handlePacket message).2.accepted = [] ∧
      ∃ p, (d.handlePacket message).2.device =
        ((d.setSession i ((d.sessions i).beginRequest message)).withEvents
          (d.scheduledEvents ++ [⟨.dataTransfer,readU32Le message.payload 0,
            (d.sessions i).getRangingIntervalMs d.profile⟩])).withPending p := by
  rcases htakes with ⟨hmt,hfound,hrc,hnew⟩
  rcases Device.data_device (d := d) hmt with ⟨p,hdevice⟩
  rcases data_handled (d := d) hmt with ⟨hsame,-,haccepted⟩
  have hslot : ∀ j, d.AdmitsData message j → j = i :=
    fun j hj => Option.some.inj (hj.2.2.1.symm.trans hfound)
  rw [hsame] at hrc
  unfold Device.Acknowledges at hnew
  rw [haccepted] at hnew
  rw [hdevice, haccepted]
  have houtcome := data_message_outcome d message
  generalize (start d).handleDataMessageSend message = outcome at houtcome hrc hnew
  cases houtcome with
  | ignored | refused | unscheduled => cases hrc
  | repeated j admits known =>
    have hroom := (completion_room (x := start d) (readU32Le message.payload 0)
      (readU16Le message.payload 12) dataTransferStatusRepetitionOk (by
        rw [show (start d).device = d from rfl, hq.idle]
        decide)).2
    rw [hroom] at hnew
    refine absurd ⟨hmt,?_,?_⟩ hnew
    · exact List.mem_append_right _ List.mem_cons_self
    · exact List.mem_append_right _ (List.mem_cons_of_mem _ List.mem_cons_self)
  | completed j admits new once =>
    rw [hslot j admits] at once
    exact absurd once hrepeats
  | begun j delayMs admits new repeats room delay =>
    have hj := hslot j admits
    subst hj
    exact ⟨admits,room,rfl,p,by rw [delay]; rfl⟩

theorem taken_transmits (hs : d.Settled) (htakes : d.Takes message i)
    (hrepeats : (d.sessions i).getDataRepetitionCount ≠ 0)
    (hstale : ∀ event ∈ d.scheduledEvents,
      event.key ≠ (.dataTransfer,readU32Le message.payload 0))
    {p : List Packet} (hhandled : (d.handlePacket message).2.device = d'.withPending p) :
    d'.Transmits i (readU32Le message.payload 0) (readU16Le message.payload 12)
        (d.sessions i).getDataRepetitionCount.toNat 0
        ((d'.sessions i).getRangingIntervalMs d'.profile).toNat (maxScenarioEvents-1) := by
  rcases taken_begins hs.quiet htakes hrepeats with ⟨admits,room,-,q,hdevice⟩
  rcases Device.find_session_some admits.2.2.1 with ⟨hallocated,hid⟩
  rw [hhandled] at hdevice
  have hsessions := congrArg Device.sessions hdevice
  have hevents := congrArg Device.scheduledEvents hdevice
  have hprofile := congrArg Device.profile hdevice
  rw [Device.withPending_sessions, Device.withPending_sessions, Device.withEvents_sessions]
    at hsessions
  have hsession : d'.sessions i = (d.sessions i).beginRequest message := by
    rw [hsessions, Device.setSession_same]
  have hinterval : (d'.sessions i).getRangingIntervalMs d'.profile =
      (d.sessions i).getRangingIntervalMs d.profile := by
    rw [hsession, show d'.profile = d.profile from hprofile]
    exact Session.interval_of_configs rfl _
  constructor
  · rw [hsession]
    exact hallocated
  · rw [hsession]
    exact hid
  · rw [hsession]
    rfl
  · rw [hsession]
    rfl
  · rw [hsession]
    exact Nat.zero_add _
  · rw [hsession]
    rfl
  · rw [hinterval, show d'.scheduledEvents = _ from hevents]
    exact Awaited.awaits_mono (Awaited.awaits_append hstale rfl) (Nat.le_refl _)
      (Nat.le_sub_one_of_lt room)

theorem taken_onward {intervalMs : ℕ} (hs : d.Settled)
    (hoid : d.profile.rangeDataNotificationOid ∉ controlNotificationOids)
    (htakes : d.Takes message i) (hrepeats : (d.sessions i).getDataRepetitionCount ≠ 0)
    (hcount : (d.sessions i).getDataRepetitionCount.toNat ≤ 254)
    (hstale : ∀ event ∈ d.scheduledEvents,
      event.key ≠ (.dataTransfer,readU32Le message.payload 0))
    (h : Called d (.submit message) ns d') (hpending : d'.pendingNotifications = [])
    (hd : d'.HasActive i (readU32Le message.payload 0) intervalMs) :
    d'.Onward i (readU32Le message.payload 0) (readU16Le message.payload 12)
      (d.sessions i).getDataRepetitionCount.toNat 0 intervalMs intervalMs
      (maxScenarioEvents-1) 0 ns := by
  have hnothing : d.hands message = [] := by
    unfold Device.hands
    rw [data_response htakes.1, (taken_begins hs.quiet htakes hrepeats).2.2.1]
    rfl
  cases h with
  | refused _ data => exact absurd htakes.1 data
  | silent _ response posting _ p served handled =>
    have hbegun := taken_transmits hs htakes hrepeats hstale handled
    exact .waits _ (Nat.le_refl _) (fun _ => Nat.le_refl _)
      (hbegun.mono hd.interval (Nat.le_refl _)) rfl
  | answered _ response posting d₁ flushes ms _ p served handled ticks ticked hands =>
    have hbegun := taken_transmits hs htakes hrepeats hstale handled
    rcases ticked_frame ticked with ⟨-,hprofile,hidle⟩
    have hinterval : ((d₁.sessions i).getRangingIntervalMs d₁.profile).toNat ≤ intervalMs := by
      have hbound := hd.interval
      rw [hprofile, Session.interval_of_configs (Device.SameTables.ticked ticked i).configs]
        at hbound
      exact hbound
    have honward := ticked_onward (served_settled hs served (hidle.symm.trans hpending))
      ((served_frame served).1 ▸ hoid) hcount (hbegun.mono hinterval (Nat.le_refl _)) hd ticked
    refine honward.after ?_
    rw [← hands, hnothing]
    rfl

end

theorem reached_settled {profile : Profile} (hp : profile.StartStop) {scenario : Scenario}
    (hs : scenario ≠ .delayedNotifications) {ops : List Op}
    (hops : Run.Along profile scenario Run.Uncongested ops) :
    (Run.reached profile scenario ops).engine.device.Settled :=
  (Runs.invariant_of_steps (I := Run.Followed) (fun _ _ hf hroom => hf.step hroom) _ ops
    (Run.Followed.init hp hs) hops).settled

/-- A message taken to be repeated is transmitted with all its repetitions, in a run that leaves
the session active and time enough. -/
theorem taken_finishes {r : Run} {i : Fin maxSessions} {message : Packet} {intervalMs : ℕ}
    {after : List Op} (hr : r.Running i) (htakes : r.engine.device.Takes message i)
    (hrepeats : (r.engine.device.sessions i).getDataRepetitionCount ≠ 0)
    (hcount : (r.engine.device.sessions i).getDataRepetitionCount.toNat ≤ 254)
    (hstale : ∀ event ∈ r.engine.device.scheduledEvents,
      event.key ≠ (.dataTransfer,readU32Le message.payload 0))
    (hops : Runs.Along Run.step (Run.KeepsActive (readU32Le message.payload 0) i intervalMs) r
      (.submit message::after))
    (hrounds : Rounds intervalMs
      ((r.engine.device.sessions i).getDataRepetitionCount.toNat+1) after) :
    Runs.Reaches Run.step (r.Finished i (readU32Le message.payload 0)
      (readU16Le message.payload 12) (r.engine.device.sessions i).getDataRepetitionCount.toNat)
      (r.step (.submit message)) after := by
  rcases hops with ⟨hop,hafter⟩
  rcases hr.step hop.1 hop.2.active with ⟨hrunning,ns,hcalled,hpending,hemitted⟩
  have hnone : r.Tells r (readU32Le message.payload 0)
      (repetitionNotices (readU16Le message.payload 12) 0) :=
    ⟨[],(List.append_nil _).symm,rfl⟩
  rcases hnone.onward hrunning hemitted (taken_onward hr.settled hr.oid htakes hrepeats hcount
    hstale hcalled hpending hop.2) with ⟨place,hplace,-,hwaits⟩ | hnext | hfinished
  · exact rounds_finish hcount hrounds (by omega) (hwaits.mono (Nat.le_refl _) hplace) hafter
  · exact rounds_finish hcount hrounds (by omega) hnext hafter
  · exact ⟨[],after,rfl,hfinished⟩

/-- In every uncongested run, a new message that the session takes with a repetition count of
at most 254, while no event of an earlier transfer is left under the session's identifier, is
reported repeated once for each repetition, numbered from one, then credited, then reported
transmitted under the number that follows, as long as the session stays active and time enough
passes. Until the session is brought another message nothing more is told, the transfer is over,
and no event of it is left. -/
theorem repetitions_counted (profile : Profile) (hp : profile.StartStop)
    (hoid : profile.rangeDataNotificationOid ∉ controlNotificationOids) (scenario : Scenario)
    (hs : scenario ≠ .delayedNotifications) (before : List Op)
    (hbefore : Run.Along profile scenario Run.Uncongested before) (message : Packet)
    (i : Fin maxSessions) (count : UInt8)
    (htakes : (Run.reached profile scenario before).engine.device.Takes message i)
    (hread : ((Run.reached profile scenario before).engine.device.sessions
      i).getDataRepetitionCount = count) (hrepeats : count ≠ 0) (hcount : count ≤ 254)
    (hstale : ∀ event ∈ (Run.reached profile scenario before).engine.device.scheduledEvents,
      event.key ≠ (.dataTransfer,readU32Le message.payload 0))
    (intervalMs : ℕ) (after : List Op)
    (hactive : Runs.Along Run.step (Run.KeepsActive (readU32Le message.payload 0) i intervalMs)
      (Run.reached profile scenario before) (.submit message::after))
    (hrounds : Rounds intervalMs (count.toNat+1) after) :
    ∃ made rest, after = made ++ rest ∧ ∀ later, later <+: rest →
      (∀ op ∈ later, ¬ op.BringsData (readU32Le message.payload 0)) →
        let start := Run.reached profile scenario before
        let reached := Runs.run Run.step start (.submit message::(made ++ later))
        start.Tells reached (readU32Le message.payload 0)
            (repetitionNotices (readU16Le message.payload 12) count.toNat ++
              finalNotices (readU16Le message.payload 12) count.toNat) ∧
          reached.engine.device.TransferOver i (readU32Le message.payload 0) := by
  subst hread
  have hsettled := reached_settled hp hs hbefore
  have hprofile : (Run.reached profile scenario before).engine.device.profile = profile :=
    Run.reached_profile before
  rw [← hprofile] at hoid
  have hadmits := (taken_begins hsettled.quiet htakes hrepeats).1
  have hrunning : (Run.reached profile scenario before).Running i :=
    ⟨hsettled,hoid,hadmits.2.2.2.1⟩
  rcases taken_finishes hrunning htakes hrepeats hcount hstale hactive hrounds with
    ⟨made,rest,rfl,hfinished⟩
  refine ⟨made,rest,rfl,?_⟩
  rintro later ⟨last,rfl⟩ hother
  have hafter := hactive.2
  rw [Runs.along_append, Runs.along_append] at hafter
  have hlater := finished_later hfinished hafter.2.1 hother
  rw [← Runs.run_append] at hlater
  exact ⟨hlater.told,hlater.ended⟩

/-- A session is opened, is to repeat its messages, and starts. -/
def repeatingSession (count : UInt8) : List Op :=
  [.submit (initRequest 1),
    .submit (setAppConfigRequest 1 1 [appConfigDataRepetitionCount,1,count]),
    .submit (startRequest 1)] ++ List.replicate 6 .dequeue

def secondStream : List Op :=
  [.submit (initRequest 2),.submit (startRequest 2)] ++ List.replicate 4 .dequeue

def waitingTick : List Op := [.tick 2000,.dequeue,.dequeue]

def servingTicks : List Op := (List.replicate 8 [.tick 0,.dequeue,.dequeue]).flatten

def repeatedTwice : List Op :=
  waitingTick ++ (servingTicks ++ (waitingTick ++ (servingTicks ++
    (waitingTick ++ (servingTicks ++ [])))))

theorem repeated_twice_rounds : Rounds 2000 3 repeatedTwice :=
  .more _ _ _ (by decide) (by decide) (.more _ _ _ (by decide) (by decide)
    (.more _ _ _ (by decide) (by decide) (.done [])))

theorem repetitions_counted_twice :
    ∃ made rest, repeatedTwice = made ++ rest ∧ ∀ later, later <+: rest →
      (∀ op ∈ later, ¬ op.BringsData 1) →
        let start := Run.reached defaultProfile .rangingStream (repeatingSession 2 ++ secondStream)
        let reached := Runs.run Run.step start (.submit (dataMessage 1 5)::(made ++ later))
        start.Tells reached 1 (repetitionNotices 5 2 ++ finalNotices 5 2) ∧
          reached.engine.device.TransferOver 0 1 := by
  have hbefore : Run.Along defaultProfile .rangingStream Run.Uncongested
    (repeatingSession 2 ++ secondStream) := by decide +kernel
  have htakes : (Run.reached defaultProfile .rangingStream
    (repeatingSession 2 ++ secondStream)).engine.device.Takes (dataMessage 1 5) 0 := by
      decide +kernel
  have hread : ((Run.reached defaultProfile .rangingStream
    (repeatingSession 2 ++ secondStream)).engine.device.sessions 0).getDataRepetitionCount = 2 := by
      decide +kernel
  have hstale : ∀ event ∈ (Run.reached defaultProfile .rangingStream
    (repeatingSession 2 ++ secondStream)).engine.device.scheduledEvents,
      event.key ≠ (.dataTransfer,1) := by decide +kernel
  have hactive : Runs.Along Run.step (Run.KeepsActive 1 0 2000) (Run.reached defaultProfile
    .rangingStream (repeatingSession 2 ++ secondStream))
      (.submit (dataMessage 1 5)::repeatedTwice) := by decide +kernel
  exact repetitions_counted defaultProfile default_profile_start_stop (by decide) .rangingStream
    (by decide) _ hbefore (dataMessage 1 5) 0 2 htakes hread (by decide) (by decide) hstale 2000
    repeatedTwice hactive repeated_twice_rounds

def wrappedTicks : List Op := (List.replicate 256 [.tick 2000,.dequeue]).flatten

/-- The transfer of a session is cut off by the removal of the session, and a session is opened
again under its identifier. -/
def reopenedSession : List Op :=
  repeatingSession 1 ++ [.submit (dataMessage 1 5),.tick 1000,.submit (deinitRequest 1)] ++
    List.replicate 4 .dequeue ++ repeatingSession 1

def reopenedTicks : List Op := [.dequeue,.tick 2000,.dequeue,.dequeue,.tick 0]

/-- With 255 repetitions the last transmission is reported under the number zero, and an event left
by a removed session outlives the transfer. -/
theorem repetitions_miscounted :
    (let start := Run.reached defaultProfile .default (repeatingSession 255)
      let reached := Runs.run Run.step start (.submit (dataMessage 1 5)::wrappedTicks)
      Run.Along defaultProfile .default Run.Uncongested (repeatingSession 255) ∧
        start.engine.device.Takes (dataMessage 1 5) 0 ∧
        (start.engine.device.sessions 0).getDataRepetitionCount = 255 ∧
        Runs.Along Run.step (Run.KeepsActive 1 0 2000) start
          (.submit (dataMessage 1 5)::wrappedTicks) ∧
        (reached.engine.device.sessions 0).dataTransferInProgress = false ∧
        start.Tells reached 1 (repetitionNotices 5 255 ++
          [.credit,.transmitted 5 dataTransferStatusOk 0]) ∧
        ¬ start.Tells reached 1 (repetitionNotices 5 255 ++ finalNotices 5 255)) ∧
      let start := Run.reached defaultProfile .default reopenedSession
      let reached := Runs.run Run.step start (.submit (dataMessage 1 6)::reopenedTicks)
      Run.Along defaultProfile .default Run.Uncongested reopenedSession ∧
        start.engine.device.Takes (dataMessage 1 6) 0 ∧
        (start.engine.device.sessions 0).getDataRepetitionCount = 1 ∧
        Runs.Along Run.step (Run.KeepsActive 1 0 2000) start
          (.submit (dataMessage 1 6)::reopenedTicks) ∧
        start.Tells reached 1 (repetitionNotices 6 1 ++ finalNotices 6 1) ∧
        (reached.engine.device.sessions 0).dataTransferInProgress = false ∧
        ∃ event ∈ reached.engine.device.scheduledEvents, event.key = (.dataTransfer,1) := by
  decide +kernel

end UciSim
