import UciSim.General.TimedQueue
import UciSim.RangingPace

/-!
# The scheduler of timed events

An event is taken out of the queue when its time is up and not before, in its turn, or
because its session or its key was named. Rescheduling fails only on a full queue that
holds no event of the key.
-/

set_option autoImplicit false

namespace UciSim

namespace Device

variable {d : Device} {type : EventType} {sessionId : UInt32}

theorem events_without_same (h : ∀ event ∈ d.scheduledEvents, event.key ≠ (type,sessionId)) :
    d.eventsWithout type sessionId = d.scheduledEvents := by
  rw [events_without_key]
  exact List.filter_eq_self.mpr fun event hevent => decide_eq_true (h event hevent)

theorem events_without_shorter (h : ∃ event ∈ d.scheduledEvents, event.key = (type,sessionId)) :
    (d.eventsWithout type sessionId).length < d.scheduledEvents.length := by
  rcases h with ⟨event,hevent,hkey⟩
  rw [events_without_key]
  refine List.length_filter_lt_length_iff_exists.mpr ⟨event,hevent,?_⟩
  rw [hkey]
  simp

theorem events_without_room (hbounded : d.scheduledEvents.length ≤ maxScenarioEvents)
    (hfull : ¬ (d.scheduledEvents.length = maxScenarioEvents ∧
      ∀ event ∈ d.scheduledEvents, event.key ≠ (type,sessionId))) :
    (d.eventsWithout type sessionId).length < maxScenarioEvents := by
  by_cases hkey : ∃ event ∈ d.scheduledEvents, event.key = (type,sessionId)
  · exact Nat.lt_of_lt_of_le (events_without_shorter hkey) hbounded
  · have hnone : ∀ event ∈ d.scheduledEvents, event.key ≠ (type,sessionId) :=
      fun event hevent hk => hkey ⟨event,hevent,hk⟩
    rw [events_without_same hnone]
    exact Nat.lt_of_le_of_ne hbounded fun hlength => hfull ⟨hlength,hnone⟩

end Device

/-- What the array of events can hold. -/
abbrev EventQueue := {events : List ScheduledEvent // events.length ≤ maxScenarioEvents}

/-- Rescheduling fails exactly without a type or on a full queue that holds no event of the key,
and then changes nothing. Otherwise the event comes last, behind all events of other keys in their
order. -/
theorem reschedule_iff (d : Device) (queue : EventQueue) (type : EventType)
    (sessionId delayMs : UInt32) :
    let outcome := (d.withEvents queue.1).rescheduleSessionEvent type sessionId delayMs
    (outcome.1 = .err ↔ type = .none ∨ (queue.1.length = maxScenarioEvents ∧
        ∀ event ∈ queue.1, event.key ≠ (type,sessionId))) ∧
      (outcome.1 = .err → outcome.2 = d.withEvents queue.1) ∧
      (outcome.1 = .ok → outcome.2 = d.withEvents
        (queue.1.filter (fun event => decide (event.key ≠ (type,sessionId))) ++
          [⟨type,sessionId,delayMs⟩])) := by
  intro outcome
  rcases queue with ⟨events,hbounded⟩
  by_cases ht : type = .none
  · have houtcome : outcome = (.err,d.withEvents events) := if_pos ht
    rw [houtcome]
    exact ⟨iff_of_true rfl (Or.inl ht),fun _ => rfl,fun h => nomatch h⟩
  have houtcome : outcome = ((d.withEvents events).withEvents
      ((d.withEvents events).eventsWithout type sessionId)).scheduleEvent type sessionId delayMs :=
    Device.reschedule_event_eq _ _ _ delayMs ht
  by_cases hfull : events.length = maxScenarioEvents ∧
      ∀ event ∈ events, event.key ≠ (type,sessionId)
  · have hsame : (d.withEvents events).withEvents ((d.withEvents events).eventsWithout type
        sessionId) = d.withEvents events := by
      rw [Device.events_without_same (by exact hfull.2)]
      rfl
    rw [hsame, Device.schedule_event_full _ _ _ _ (Nat.le_of_eq hfull.1.symm)] at houtcome
    rw [houtcome]
    exact ⟨iff_of_true rfl (Or.inr hfull),fun _ => rfl,fun h => nomatch h⟩
  · have hroom : ((d.withEvents events).eventsWithout type sessionId).length <
        maxScenarioEvents := Device.events_without_room hbounded hfull
    have hwithout : (d.withEvents events).eventsWithout type sessionId =
        events.filter (fun event => decide (event.key ≠ (type,sessionId))) :=
      Device.events_without_key _ _ _
    rw [Device.schedule_event_room _ _ _ _ ht (by exact hroom)] at houtcome
    rw [houtcome, ← hwithout]
    refine ⟨iff_of_false ?_ (not_or.mpr ⟨ht,hfull⟩),?_,fun _ => rfl⟩
    · intro h
      cases h
    · intro h
      cases h

/-- Without a type rescheduling fails on an empty queue too. -/
theorem reschedule_untyped :
    ((Device.initWithProfile defaultProfile .default).rescheduleSessionEvent .none 1 0).1 = .err ∧
      ¬ (Device.initWithProfile defaultProfile .default).scheduledEvents.length =
        maxScenarioEvents := by
  decide +kernel

inductive QueueOp where
  | schedule (type : EventType) (sessionId delayMs : UInt32)
  | reschedule (type : EventType) (sessionId delayMs : UInt32)
  | cancel (sessionId : UInt32)
  | tick (elapsedMs : UInt32)
  | dequeueReady
  deriving DecidableEq, Repr

namespace QueueOp

/-- The operation cancels or reschedules the events of the key. -/
def removes : QueueOp → EventType × UInt32 → Bool
  | .reschedule type sessionId _ => fun key => type != .none && key == (type,sessionId)
  | .cancel sessionId => fun key => key.2 == sessionId
  | _ => fun _ => false

def elapsedMs : QueueOp → ℕ
  | .tick elapsedMs => elapsedMs.toNat
  | _ => 0

def dequeues : QueueOp → ℕ
  | .dequeueReady => 1
  | _ => 0

end QueueOp

/-- A device whose queue is used, and the events that were taken out ready. -/
structure EventRun where
  device : Device
  returned : List ScheduledEvent

def EventRun.step (r : EventRun) : QueueOp → EventRun
  | .schedule type sessionId delayMs =>
    { r with device := (r.device.scheduleEvent type sessionId delayMs).2 }
  | .reschedule type sessionId delayMs =>
    { r with device := (r.device.rescheduleSessionEvent type sessionId delayMs).2 }
  | .cancel sessionId => { r with device := r.device.cancelSessionEvents sessionId }
  | .tick elapsedMs => { r with device := r.device.tickEvents elapsedMs }
  | .dequeueReady =>
    match r.device.dequeueReadyEvent with
    | none => r
    | some (event,device) => ⟨device,r.returned ++ [event]⟩

def ScheduledEvent.after (elapsed : ℕ) (event : ScheduledEvent) : ScheduledEvent :=
  { event with delayMs := UInt32.ofNat (event.delayMs.toNat-elapsed) }

/-- What the operation does to the ledger: only what the device accepts is put. -/
def Device.ledgerOps (d : Device) :
    QueueOp → List (TimedQueue.Op ScheduledEvent (EventType × UInt32))
  | .schedule type sessionId delayMs =>
    if (d.scheduleEvent type sessionId delayMs).1 = .ok then [.put ⟨type,sessionId,delayMs⟩]
    else []
  | .reschedule type sessionId delayMs =>
    if type = .none then []
    else .drop (fun key => key == (type,sessionId))::
      if (d.rescheduleSessionEvent type sessionId delayMs).1 = .ok then
        [.put ⟨type,sessionId,delayMs⟩]
      else []
  | .cancel sessionId => [.drop fun key => key.2 == sessionId]
  | .tick elapsedMs => [.pass elapsedMs.toNat]
  | .dequeueReady => [.serve]

abbrev EventLedger := TimedQueue.Ledger ScheduledEvent

def EventLedger.run (l : EventLedger)
    (ops : List (TimedQueue.Op ScheduledEvent (EventType × UInt32))) : EventLedger :=
  TimedQueue.Ledger.run ScheduledEvent.key ScheduledEvent.left ScheduledEvent.after l ops

/-- A run on the queue together with its ledger. -/
structure Scheduler where
  run : EventRun
  ledger : EventLedger

namespace Scheduler

/-- The queue of the device is empty at first. -/
def init (d : Device) : Scheduler := ⟨⟨d.withEvents [],[]⟩,TimedQueue.Ledger.empty⟩

def step (s : Scheduler) (op : QueueOp) : Scheduler :=
  ⟨s.run.step op,s.ledger.run (s.run.device.ledgerOps op)⟩

abbrev reached (d : Device) (ops : List QueueOp) : Scheduler := Runs.run step (init d) ops

end Scheduler

theorem left_after (elapsed : ℕ) (event : ScheduledEvent) :
    (event.after elapsed).left = event.left-elapsed :=
  UInt32.toNat_ofNat_of_lt' (Nat.lt_of_le_of_lt (Nat.sub_le _ _) event.delayMs.toNat_lt)

theorem events_age : TimedQueue.Ledger.Ages ScheduledEvent.key ScheduledEvent.left
    ScheduledEvent.after where
  key _ _ := rfl
  left := left_after

theorem aged_after (elapsedMs : UInt32) (event : ScheduledEvent) :
    event.aged elapsedMs = event.after elapsedMs.toNat := by
  have hleft : (event.aged elapsedMs).left = (event.after elapsedMs.toNat).left := by
    rw [left_after]
    unfold ScheduledEvent.aged ScheduledEvent.left
    dsimp only
    split
    · rename_i hlate
      exact UInt32.toNat_sub_of_le _ _ (Nat.le_of_lt hlate)
    · rename_i hdue
      exact (Nat.sub_eq_zero_of_le (Nat.le_of_not_lt hdue)).symm
  have hdelay : (event.aged elapsedMs).delayMs = (event.after elapsedMs.toNat).delayMs :=
    UInt32.toNat_inj.mp hleft
  exact congrArg (fun delayMs => (⟨event.type,event.sessionId,delayMs⟩ : ScheduledEvent)) hdelay

theorem ready_left (event : ScheduledEvent) : (event.delayMs == 0) = (event.left == 0) := by
  refine Bool.eq_iff_iff.mpr ?_
  rw [beq_iff_eq, beq_iff_eq]
  exact UInt32.toNat_inj.symm

theorem schedule_cases (d : Device) (type : EventType) (sessionId delayMs : UInt32) :
    d.scheduleEvent type sessionId delayMs = (.err,d) ∨
      d.scheduleEvent type sessionId delayMs =
        (.ok,d.withEvents (d.scheduledEvents ++ [⟨type,sessionId,delayMs⟩])) := by
  by_cases ht : type = .none
  · exact Or.inl (if_pos ht)
  · by_cases hroom : d.scheduledEvents.length < maxScenarioEvents
    · exact Or.inr (Device.schedule_event_room d type sessionId delayMs ht hroom)
    · exact Or.inl (Device.schedule_event_full d type sessionId delayMs (Nat.le_of_not_lt hroom))

namespace EventLedger

/-- The ledger shows what the device of the run holds and has returned. -/
structure Shows (l : EventLedger) (r : EventRun) : Prop where
  waiting : l.entries = r.device.scheduledEvents
  returned : l.served.map (fun served => served.1.entry) = r.returned

variable {l : EventLedger} {r : EventRun}

theorem run_cons (l : EventLedger) (op : TimedQueue.Op ScheduledEvent (EventType × UInt32))
    (ops : List (TimedQueue.Op ScheduledEvent (EventType × UInt32))) :
    l.run (op::ops) = (l.run [op]).run ops := rfl

theorem Shows.put (h : l.Shows r) (event : ScheduledEvent) :
    (l.run [.put event]).Shows
      ⟨r.device.withEvents (r.device.scheduledEvents ++ [event]),r.returned⟩ := by
  have hput := TimedQueue.Ledger.entries_put ScheduledEvent.key ScheduledEvent.left
    ScheduledEvent.after l event
  rw [h.waiting] at hput
  exact ⟨hput,h.returned⟩

theorem Shows.drop (h : l.Shows r) (named : EventType × UInt32 → Bool) :
    (l.run [.drop named]).Shows
      ⟨r.device.withEvents (r.device.scheduledEvents.filter fun event => !named event.key),
        r.returned⟩ := by
  have hdrop := TimedQueue.Ledger.entries_drop ScheduledEvent.key ScheduledEvent.left
    ScheduledEvent.after l named
  rw [h.waiting] at hdrop
  exact ⟨hdrop,h.returned⟩

theorem Shows.schedule (h : l.Shows r) (type : EventType) (sessionId delayMs : UInt32) :
    (l.run (if (r.device.scheduleEvent type sessionId delayMs).1 = .ok then
        [.put ⟨type,sessionId,delayMs⟩] else [])).Shows
      ⟨(r.device.scheduleEvent type sessionId delayMs).2,r.returned⟩ := by
  rcases schedule_cases r.device type sessionId delayMs with hfailed | hdone
  · have herr : ¬ (r.device.scheduleEvent type sessionId delayMs).1 = .ok := by
      rw [hfailed]
      exact nofun
    rw [if_neg herr, hfailed]
    exact h
  · rw [hdone, if_pos rfl]
    exact h.put _

theorem Shows.reschedule (h : l.Shows r) (type : EventType) (sessionId delayMs : UInt32) :
    (l.run (r.device.ledgerOps (.reschedule type sessionId delayMs))).Shows
      ⟨(r.device.rescheduleSessionEvent type sessionId delayMs).2,r.returned⟩ := by
  unfold Device.ledgerOps
  dsimp only
  by_cases ht : type = .none
  · rw [if_pos ht, show r.device.rescheduleSessionEvent type sessionId delayMs = (.err,r.device)
      from if_pos ht]
    exact h
  · rw [if_neg ht, run_cons, Device.reschedule_event_eq _ _ _ delayMs ht]
    exact (h.drop fun key => key == (type,sessionId)).schedule type sessionId delayMs

theorem Shows.tick (h : l.Shows r) (elapsedMs : UInt32) :
    (l.run [.pass elapsedMs.toNat]).Shows ⟨r.device.tickEvents elapsedMs,r.returned⟩ := by
  have hpass := TimedQueue.Ledger.entries_pass ScheduledEvent.key ScheduledEvent.left
    ScheduledEvent.after l elapsedMs.toNat
  rw [h.waiting] at hpass
  refine ⟨hpass.trans ?_,h.returned⟩
  exact List.map_congr_left fun event _ => (aged_after elapsedMs event).symm

theorem Shows.dequeue (h : l.Shows r) : (l.run [.serve]).Shows (r.step .dequeueReady) := by
  have hready : (fun event : ScheduledEvent => event.delayMs == 0) =
      fun event => event.left == 0 := funext ready_left
  rcases TimedQueue.Ledger.entries_serve ScheduledEvent.key ScheduledEvent.left
    ScheduledEvent.after l with ⟨hwaiting,hserved⟩
  rw [h.waiting, ← hready] at hwaiting
  rw [h.returned, h.waiting, ← hready] at hserved
  cases hdequeued : r.device.dequeueReadyEvent with
  | none =>
    have hfind : r.device.scheduledEvents.find? (fun event => event.delayMs == 0) = none := by
      unfold Device.dequeueReadyEvent at hdequeued
      split at hdequeued
      · assumption
      · cases hdequeued
    rw [List.eraseP_of_forall_not (List.find?_eq_none.mp hfind)] at hwaiting
    rw [hfind, Option.toList_none, List.append_nil] at hserved
    rw [EventRun.step, hdequeued]
    exact ⟨hwaiting,hserved⟩
  | some taken =>
    rcases taken with ⟨event,device⟩
    rcases Device.dequeue_ready_event_some hdequeued with ⟨hfind,rfl⟩
    rw [hfind] at hserved
    rw [EventRun.step, hdequeued]
    exact ⟨hwaiting,hserved⟩

theorem Shows.step (h : l.Shows r) (op : QueueOp) :
    (l.run (r.device.ledgerOps op)).Shows (r.step op) := by
  cases op with
  | schedule type sessionId delayMs => exact h.schedule type sessionId delayMs
  | reschedule type sessionId delayMs => exact h.reschedule type sessionId delayMs
  | cancel sessionId => exact h.drop fun key => key.2 == sessionId
  | tick elapsedMs => exact h.tick elapsedMs
  | dequeueReady => exact h.dequeue

end EventLedger

namespace Scheduler

/-- The ledger shows what the device holds and has returned, and its books are in order. -/
structure Sound (s : Scheduler) : Prop where
  shows : s.ledger.Shows s.run
  kept : s.ledger.Kept ScheduledEvent.key ScheduledEvent.left

theorem Sound.step {s : Scheduler} (h : s.Sound) (op : QueueOp) : (s.step op).Sound where
  shows := h.shows.step op
  kept := h.kept.run events_age _

theorem reached_sound (d : Device) (ops : List QueueOp) : (reached d ops).Sound :=
  Runs.invariant_of_all_steps (fun _ op hs => hs.step op) _ ops
    ⟨⟨rfl,rfl⟩,TimedQueue.Ledger.Kept.empty⟩

end Scheduler

theorem ledger_ops_names (d : Device) (op : QueueOp) (key : EventType × UInt32)
    (h : op.removes key = false) : ∀ entry ∈ d.ledgerOps op, entry.names key = false := by
  intro entry hentry
  cases op with
  | schedule type sessionId delayMs =>
    unfold Device.ledgerOps at hentry
    dsimp only at hentry
    split at hentry
    · rw [List.mem_singleton.mp hentry]
      rfl
    · cases hentry
  | reschedule type sessionId delayMs =>
    unfold Device.ledgerOps at hentry
    dsimp only at hentry
    split at hentry
    · cases hentry
    · rename_i ht
      rcases List.mem_cons.mp hentry with rfl | hput
      · have hkey : (type != .none && key == (type,sessionId)) = false := h
        rwa [bne_iff_ne.mpr ht, Bool.true_and] at hkey
      · split at hput
        · rw [List.mem_singleton.mp hput]
          rfl
        · cases hput
  | cancel sessionId =>
    rw [List.mem_singleton.mp hentry]
    exact h
  | tick elapsedMs =>
    rw [List.mem_singleton.mp hentry]
    rfl
  | dequeueReady =>
    rw [List.mem_singleton.mp hentry]
    rfl

theorem ledger_ops_serves (d : Device) (op : QueueOp) :
    ((d.ledgerOps op).map TimedQueue.Op.serves).sum = op.dequeues := by
  cases op with
  | schedule type sessionId delayMs =>
    unfold Device.ledgerOps
    dsimp only
    split <;> rfl
  | reschedule type sessionId delayMs =>
    unfold Device.ledgerOps
    dsimp only
    split
    · rfl
    · split <;> rfl
  | cancel sessionId => rfl
  | tick elapsedMs => rfl
  | dequeueReady => rfl

theorem EventLedger.serve_now (l : EventLedger) : (l.run [.serve]).now = l.now := by
  show (TimedQueue.Ledger.step ScheduledEvent.key ScheduledEvent.left ScheduledEvent.after l
    .serve).now = l.now
  cases hfind : l.waiting.find? fun t => t.entry.left == 0 with
  | none => rw [TimedQueue.Ledger.serve_none hfind]
  | some t => rw [TimedQueue.Ledger.serve_some hfind]

theorem ledger_ops_now (d : Device) (l : EventLedger) (op : QueueOp) :
    (l.run (d.ledgerOps op)).now = l.now+op.elapsedMs := by
  cases op with
  | schedule type sessionId delayMs =>
    unfold Device.ledgerOps
    dsimp only
    split <;> rfl
  | reschedule type sessionId delayMs =>
    unfold Device.ledgerOps
    dsimp only
    split
    · rfl
    · split <;> rfl
  | cancel sessionId => rfl
  | tick elapsedMs => rfl
  | dequeueReady => exact l.serve_now

namespace Scheduler

theorem run_now (s : Scheduler) (ops : List QueueOp) :
    (Runs.run step s ops).ledger.now = s.ledger.now+(ops.map QueueOp.elapsedMs).sum := by
  induction ops generalizing s with
  | nil => rfl
  | cons op ops ih =>
    have hnow : (s.step op).ledger.now = s.ledger.now+op.elapsedMs := ledger_ops_now _ _ op
    rw [List.map_cons, List.sum_cons, ← Nat.add_assoc, ← hnow]
    exact ih _

/-- A run on the queue is a run on its ledger that names no more and serves as often. -/
theorem run_ledger (s : Scheduler) (ops : List QueueOp) :
    ∃ entries, (Runs.run step s ops).ledger = s.ledger.run entries ∧
      (∀ key, (∀ op ∈ ops, op.removes key = false) →
        ∀ entry ∈ entries, entry.names key = false) ∧
      (entries.map TimedQueue.Op.serves).sum = (ops.map QueueOp.dequeues).sum := by
  induction ops generalizing s with
  | nil => exact ⟨[],rfl,fun _ _ _ h => (nomatch h),rfl⟩
  | cons op ops ih =>
    rcases ih (s.step op) with ⟨entries,hledger,hnames,hserves⟩
    refine ⟨s.run.device.ledgerOps op ++ entries,?_,?_,?_⟩
    · have happend : s.ledger.run (s.run.device.ledgerOps op ++ entries) =
          (s.ledger.run (s.run.device.ledgerOps op)).run entries := Runs.run_append _ _ _ _
      rw [happend]
      exact hledger
    · intro key hkey entry hentry
      rcases List.mem_append.mp hentry with hentry | hentry
      · exact ledger_ops_names _ op key (hkey op List.mem_cons_self) entry hentry
      · exact hnames key (fun op' hop' => hkey op' (List.mem_cons_of_mem op hop')) entry hentry
    · rw [List.map_append, List.sum_append, ledger_ops_serves, hserves, List.map_cons,
        List.sum_cons]

theorem same_event {event event' : ScheduledEvent} (hkey : event.key = event'.key)
    (hleft : event.left = event'.left) : event = event' := by
  rcases event with ⟨type,sessionId,delayMs⟩
  rcases event' with ⟨type',sessionId',delayMs'⟩
  rcases Prod.mk.inj hkey with ⟨rfl,rfl⟩
  rw [UInt32.toNat_inj.mp (show delayMs.toNat = delayMs'.toNat from hleft)]

theorem Sound.served_late {s : Scheduler} (h : s.Sound)
    {served : TimedQueue.Ticket ScheduledEvent × ℕ} (hs : served ∈ s.ledger.served) :
    ∃ event since, s.ledger.log[served.1.number]? = some (event,since) ∧
      served.1.entry.key = event.key ∧ since+event.delayMs.toNat ≤ served.2 := by
  rcases h.kept.served served hs with ⟨-,hleft,event,since,hlog,hsince,hkey,hover⟩
  refine ⟨event,since,hlog,hkey,?_⟩
  have hdelay : event.left = event.delayMs.toNat := rfl
  omega

theorem due_served {s : Scheduler} (h : s.Sound)
    {before after : List (TimedQueue.Ticket ScheduledEvent)}
    {t : TimedQueue.Ticket ScheduledEvent} (hwaiting : s.ledger.waiting = before ++ t::after)
    (hdelay : t.entry.delayMs = 0) {more : List QueueOp}
    (hmore : ∀ op ∈ more, op.removes t.entry.key = false)
    (hmany : before.length < (more.map QueueOp.dequeues).sum) :
    ∃ new back rest, (Runs.run step s more).ledger.served = s.ledger.served ++ (new ++ back::rest) ∧
      back.1 = t ∧ new.length ≤ before.length := by
  have hleft : t.entry.left = 0 := congrArg UInt32.toNat hdelay
  have hnumber : t.number < s.ledger.log.length := by
    refine h.kept.below (List.mem_append_left _ ?_)
    rw [hwaiting]
    exact List.mem_append_right _ List.mem_cons_self
  rcases run_ledger s more with ⟨entries,hledger,hnames,hserves⟩
  rw [← hserves] at hmany
  rcases (h.kept.due hwaiting hleft).served events_age hnumber (hnames _ hmore) hmany with
    ⟨new,back,rest,hserved,htag,hback,hlength⟩
  refine ⟨new,back,rest,?_,?_,hlength⟩
  · rw [hledger]
    exact hserved
  · rcases Prod.mk.inj htag with ⟨hsame,hkey⟩
    have hentry : back.1.entry = t.entry := same_event hkey (hback.trans hleft.symm)
    exact congrArg₂ TimedQueue.Ticket.mk hsame hentry

theorem stays {s : Scheduler} {t : TimedQueue.Ticket ScheduledEvent}
    (ht : t ∈ s.ledger.waiting) {more : List QueueOp}
    (hmore : ∀ op ∈ more, op.removes t.entry.key = false) :
    (∃ u ∈ (Runs.run step s more).ledger.waiting, u.number = t.number) ∨
      ∃ back ∈ (Runs.run step s more).ledger.served, back.1.number = t.number := by
  rcases run_ledger s more with ⟨entries,hledger,hnames,-⟩
  rw [hledger]
  have hwaits : s.ledger.Waits ScheduledEvent.key t := ⟨t,ht,rfl⟩
  rcases hwaits.run events_age (hnames _ hmore) with ⟨u,hu,htag⟩ | ⟨new,back,rest,hserved,htag⟩
  · exact Or.inl ⟨u,hu,congrArg Prod.fst htag⟩
  · refine Or.inr ⟨back,?_,congrArg Prod.fst htag⟩
    have hmem : back ∈ s.ledger.served ++ (new ++ back::rest) := by simp
    rw [← hserved] at hmem
    exact hmem

theorem dropped_removed (d : Device) (ops : List QueueOp)
    {t : TimedQueue.Ticket ScheduledEvent} (ht : t ∈ (reached d ops).ledger.dropped) :
    ∃ op ∈ ops, op.removes t.entry.key = true := by
  by_contra hnone
  have hkept : ∀ op ∈ ops, op.removes t.entry.key = false := by
    intro op hop
    by_contra hremoves
    exact hnone ⟨op,hop,Bool.eq_true_of_not_eq_false hremoves⟩
  rcases run_ledger (init d) ops with ⟨entries,hledger,hnames,-⟩
  rcases @TimedQueue.Ledger.run_dropped _ _ ScheduledEvent.key ScheduledEvent.left
    ScheduledEvent.after (init d).ledger entries with ⟨ts,hdropped,hnamed⟩
  have hmem : t ∈ (init d).ledger.dropped ++ ts := by
    rw [← hdropped]
    rw [reached, hledger] at ht
    exact ht
  rcases hnamed t hmem with ⟨entry,hentry,hname⟩
  rw [hnames _ hkept entry hentry] at hname
  cases hname

end Scheduler

/-- In every run on the queue, nothing that was scheduled is lost, doubled or altered, nothing is
taken out before its delay has passed, and what is due is taken out in its turn. -/
theorem scheduler_contract (d : Device) (ops : List QueueOp) :
    let s := Scheduler.reached d ops
    s.Sound ∧ s.ledger.now = (ops.map QueueOp.elapsedMs).sum ∧
      (∀ served ∈ s.ledger.served, ∃ event since,
        s.ledger.log[served.1.number]? = some (event,since) ∧
          served.1.entry.key = event.key ∧ since+event.delayMs.toNat ≤ served.2) ∧
      (∀ t ∈ s.ledger.dropped, ∃ op ∈ ops, op.removes t.entry.key = true) ∧
      ∀ more, let s' := Scheduler.reached d (ops ++ more)
        (∀ t ∈ s.ledger.waiting, (∀ op ∈ more, op.removes t.entry.key = false) →
          (∃ u ∈ s'.ledger.waiting, u.number = t.number) ∨
            ∃ back ∈ s'.ledger.served, back.1.number = t.number) ∧
          ∀ before t after, s.ledger.waiting = before ++ t::after → t.entry.delayMs = 0 →
            (∀ op ∈ more, op.removes t.entry.key = false) →
            before.length < (more.map QueueOp.dequeues).sum →
            ∃ new back rest, s'.ledger.served = s.ledger.served ++ (new ++ back::rest) ∧
              back.1 = t ∧ new.length ≤ before.length := by
  intro s
  have hsound : s.Sound := Scheduler.reached_sound d ops
  refine ⟨hsound,?_,fun served hs => hsound.served_late hs,
    fun t ht => Scheduler.dropped_removed d ops ht,?_⟩
  · have hnow : s.ledger.now = 0+(ops.map QueueOp.elapsedMs).sum := Scheduler.run_now _ ops
    rw [hnow, Nat.zero_add]
  · intro more s'
    have hlater : s' = Runs.run Scheduler.step s more := Runs.run_append _ _ _ _
    rw [hlater]
    refine ⟨fun t ht hmore => Scheduler.stays ht hmore,?_⟩
    intro before t after hwaiting hdelay hmore hmany
    exact Scheduler.due_served hsound hwaiting hdelay hmore hmany

/-- Two ready events in a queue of three. -/
def readyPair : List QueueOp := [.schedule .rangeData 1 5, .schedule .dataTransfer 2 0,
  .schedule .rangeData 3 0]

/-- The last one is served after two others at most, whatever is scheduled and cancelled. -/
theorem third_event_served :
    let d := (Engine.initWithProfile defaultProfile .default).device
    let served := fun ops => (Scheduler.reached d ops).ledger.served
    ∃ new back rest, served (readyPair ++ [.dequeueReady, .schedule .rangeData 4 0, .tick 5,
        .cancel 2, .dequeueReady, .dequeueReady]) = served readyPair ++ (new ++ back::rest) ∧
      back.1.entry.sessionId = 3 ∧ new.length ≤ 2 := by
  intro d served
  have hturn := ((scheduler_contract d readyPair).2.2.2.2 [.dequeueReady,
    .schedule .rangeData 4 0, .tick 5, .cancel 2, .dequeueReady, .dequeueReady]).2
  rcases hturn [⟨0,⟨.rangeData,1,5⟩⟩,⟨1,⟨.dataTransfer,2,0⟩⟩] ⟨2,⟨.rangeData,3,0⟩⟩ [] rfl rfl
    (by decide) (by decide) with ⟨new,back,rest,hserved,hback,hlength⟩
  refine ⟨new,back,rest,hserved,?_,hlength⟩
  rw [hback]

end UciSim
