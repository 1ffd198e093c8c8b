import UciSim.TransferSteps
import UciSim.UncongestedPaths

/-!
# A transfer along a run

An uncongested run that keeps the session active, and lets time enough pass, makes all
the repetitions of a transfer and ends it.
-/

set_option autoImplicit false

namespace UciSim

section

variable {d d' : Device} {i : Fin maxSessions} {sessionId : UInt32} {sequence : UInt16}
  {count made time place intervalMs turns : ℕ} {op : Op} {request : Packet} {ns ms : List Packet}

theorem Device.Onward.after
    (h : d.Onward i sessionId sequence count made intervalMs time place turns ns)
    (hms : transferNotices sessionId ms = []) :
    d.Onward i sessionId sequence count made intervalMs time place 0 (ms ++ ns) := by
  have happend : transferNotices sessionId (ms ++ ns) = transferNotices sessionId ns := by
    rw [notices_append, hms, List.nil_append]
  cases h with
  | waits place' nearer turn still told =>
    exact .waits place' nearer (fun _ => nearer) still (happend.trans told)
  | repeats next told => exact .repeats next (happend.trans told)
  | ends all ended told => exact .ends all ended (happend.trans told)

theorem served_settled {response : Option Packet} {posting : Posting} (hs : d.Settled)
    (h : Served d request response posting d') (hpending : d'.pendingNotifications = []) :
    d'.Settled := by
  rcases served_actions hs.profile hs.shape h with ⟨actions,-,hexplains⟩
  rcases served_frame h with ⟨hprofile,hscenario⟩
  exact ⟨hprofile ▸ hs.profile,hscenario ▸ hs.prompt,hpending,hexplains.wellFormed hs.shape⟩

theorem Device.Transmits.handled {response : Option Packet} {posting : Posting}
    {p : List Packet} (hs : d.Settled) (hactive : (d.sessions i).state = sessionStateActive)
    (ht : d.Transmits i sessionId sequence count made time place)
    (hserved : Served d request response posting d')
    (hhandled : (d.handlePacket request).2.device = d'.withPending p)
    (hhands : d.hands request = response.toList ++ posting.packets)
    (hstill : (d'.sessions i).state = sessionStateActive) :
    d'.Transmits i sessionId sequence count made time place ∧
      transferNotices sessionId (response.toList ++ posting.packets) = [] := by
  rcases packet_spares hs.profile hs.distinct ht.allocated hactive hserved hhandled hhands hstill
    (fun _ => Or.inr ht.inProgress) with ⟨hspares,htold⟩
  rw [ht.named] at htold
  exact ⟨ht.spared hspares,htold⟩

theorem called_onward (hs : d.Settled)
    (hoid : d.profile.rangeDataNotificationOid ∉ controlNotificationOids) (hcount : count ≤ 254)
    (hactive : (d.sessions i).state = sessionStateActive)
    (ht : d.Transmits i sessionId sequence count made time place) (h : Called d op ns d')
    (hpending : d'.pendingNotifications = []) (hd : d'.HasActive i sessionId intervalMs) :
    d'.Onward i sessionId sequence count made intervalMs (time-op.elapsedMs) place op.turns
      ns := by
  cases h with
  | refused | dequeued => exact .waits place (Nat.le_refl _) (fun _ => Nat.le_refl _) ht rfl
  | silent request response posting _ p served handled nothing hands =>
    rcases ht.handled hs hactive served handled (hands.trans nothing.symm) hd.active with ⟨hnext,-⟩
    exact .waits place (Nat.le_refl _) (fun _ => Nat.le_refl _) hnext rfl
  | answered request response posting d₁ flushes ms _ p served handled ticks ticked hands =>
    rcases ht.handled hs hactive served handled hands (ticked_active ticked hd.active) with
      ⟨hnext,htold⟩
    have hidle := (ticked_frame ticked).2.2.symm.trans hpending
    have honward := ticked_onward (served_settled hs served hidle)
      ((served_frame served).1 ▸ hoid) hcount hnext hd ticked
    exact honward.after htold
  | ticked elapsedMs flushes ns _ ticked => exact ticked_onward hs hoid hcount ht hd ticked

theorem ticked_over {elapsedMs : UInt32} {flushes : Bool} (hd : d.DistinctIds)
    (hoid : d.profile.rangeDataNotificationOid ∉ controlNotificationOids)
    (ho : d.TransferOver i sessionId) (h : Ticked d elapsedMs flushes ns d')
    (hstill : (d'.sessions i).state = sessionStateActive) :
    d'.TransferOver i sessionId ∧ transferNotices sessionId ns = [] := by
  have hnone : ∀ event ∈ (d.tickEvents elapsedMs).scheduledEvents,
      event.key ≠ (.dataTransfer,sessionId) := Awaited.absent_aged (fun _ => rfl) ho.none
  have haged : (d.tickEvents elapsedMs).TransferOver i sessionId :=
    ⟨ho.allocated,ho.named,ho.ended,hnone⟩
  cases h with
  | waiting => exact ⟨haged,rfl⟩
  | served event d₁ _ _ _ ready fired =>
    rcases Device.dequeue_ready_event_some ready with ⟨hready,rfl⟩
    have hkey := hnone event (List.mem_of_find?_eq_some hready)
    have hleft : ((d.tickEvents elapsedMs).withEvents
        ((d.tickEvents elapsedMs).scheduledEvents.eraseP
          (fun event => event.delayMs == 0))).TransferOver i sessionId :=
      ⟨ho.allocated,ho.named,ho.ended,fun e he => hnone e (List.mem_of_mem_eraseP he)⟩
    rw [← hleft.key] at hkey
    rcases fired_other (by exact hoid) (by exact hd) hleft.allocated hkey fired hstill with
      ⟨hspares,htold⟩
    rw [hleft.named] at htold
    exact ⟨hleft.spared hspares,htold⟩

theorem called_over (hs : d.Settled)
    (hoid : d.profile.rangeDataNotificationOid ∉ controlNotificationOids)
    (hactive : (d.sessions i).state = sessionStateActive) (ho : d.TransferOver i sessionId)
    (h : Called d op ns d') (hpending : d'.pendingNotifications = [])
    (hstill : (d'.sessions i).state = sessionStateActive)
    (hother : ∀ request, op = .submit request → request.mt = mtData →
      readU32Le request.payload 0 ≠ sessionId) :
    d'.TransferOver i sessionId ∧ transferNotices sessionId ns = [] := by
  cases h with
  | refused | dequeued => exact ⟨ho,rfl⟩
  | silent request response posting _ p served handled nothing hands =>
    have hmessage := fun hmt => ho.named ▸ hother request rfl hmt
    have hspares := (packet_spares hs.profile hs.distinct ho.allocated hactive served handled
      (hands.trans nothing.symm) hstill (fun hmt => Or.inl (hmessage hmt))).1
    exact ⟨ho.spared hspares,rfl⟩
  | answered request response posting d₁ flushes ms _ p served handled ticks ticked hands =>
    have hmessage := fun hmt => ho.named ▸ hother request rfl hmt
    rcases packet_spares hs.profile hs.distinct ho.allocated hactive served handled hands
      (ticked_active ticked hstill) (fun hmt => Or.inl (hmessage hmt)) with ⟨hspares,htold⟩
    rw [ho.named] at htold
    have hidle := (ticked_frame ticked).2.2.symm.trans hpending
    rcases ticked_over (served_settled hs served hidle).distinct
      ((served_frame served).1 ▸ hoid) (ho.spared hspares) ticked hstill with ⟨hover,hticked⟩
    refine ⟨hover,?_⟩
    rw [notices_append, htold, hticked]
    rfl
  | ticked elapsedMs flushes ns _ ticked => exact ticked_over hs.distinct hoid ho ticked hstill

end

/-- The call finds room, and leaves the session active with its events `intervalMs` apart at
most. -/
def Run.KeepsActive (sessionId : UInt32) (i : Fin maxSessions) (intervalMs : ℕ) (r : Run)
    (op : Op) : Prop :=
  r.Uncongested op ∧ (r.step op).engine.device.HasActive i sessionId intervalMs

instance (d : Device) (i : Fin maxSessions) (sessionId : UInt32) (intervalMs : ℕ) :
    Decidable (d.HasActive i sessionId intervalMs) :=
  decidable_of_iff (d.findSession sessionId = some i ∧
      (d.sessions i).state = sessionStateActive ∧
        ((d.sessions i).getRangingIntervalMs d.profile).toNat ≤ intervalMs)
    ⟨fun h => ⟨h.1,h.2.1,h.2.2⟩,fun h => ⟨h.found,h.active,h.interval⟩⟩

instance (sessionId : UInt32) (i : Fin maxSessions) (intervalMs : ℕ) (r : Run) (op : Op) :
    Decidable (r.KeepsActive sessionId i intervalMs op) := inferInstanceAs (Decidable (_ ∧ _))

/-- Time enough for the transmissions: for each `intervalMs` pass, and then as many events are
served as there are at most. -/
inductive Rounds (intervalMs : ℕ) : ℕ → List Op → Prop
  | done (ops : List Op) : Rounds intervalMs 0 ops
  | more {rounds : ℕ} (waiting serving rest : List Op)
      (time : intervalMs ≤ (waiting.map Op.elapsedMs).sum)
      (turns : maxScenarioEvents ≤ (serving.map Op.turns).sum)
      (next : Rounds intervalMs rounds rest) :
      Rounds intervalMs (rounds+1) (waiting ++ (serving ++ rest))

/-- Since `start` the host was told this of the transfers of the session. -/
def Run.Tells (start r : Run) (sessionId : UInt32) (notices : List TransferNotice) : Prop :=
  ∃ ns, r.emitted = start.emitted ++ ns ∧ transferNotices sessionId ns = notices

theorem Run.tells_iff {start r : Run} {sessionId : UInt32} {notices : List TransferNotice} :
    start.Tells r sessionId notices ↔ start.emitted <+: r.emitted ∧
      transferNotices sessionId (r.emitted.drop start.emitted.length) = notices := by
  constructor
  · rintro ⟨ns,hemitted,hnotices⟩
    rw [hemitted, List.drop_left]
    exact ⟨⟨ns,rfl⟩,hnotices⟩
  · rintro ⟨⟨ns,hemitted⟩,hnotices⟩
    rw [← hemitted, List.drop_left] at hnotices
    exact ⟨ns,hemitted.symm,hnotices⟩

instance (start r : Run) (sessionId : UInt32) (notices : List TransferNotice) :
    Decidable (start.Tells r sessionId notices) := decidable_of_iff _ Run.tells_iff.symm

theorem Run.Tells.more {start r r' : Run} {sessionId : UInt32} {notices : List TransferNotice}
    {ns : List Packet} (h : start.Tells r sessionId notices)
    (hemitted : r'.emitted = r.emitted ++ ns) :
    start.Tells r' sessionId (notices ++ transferNotices sessionId ns) := by
  rcases h with ⟨before,hbefore,rfl⟩
  refine ⟨before ++ ns,?_,notices_append _ _⟩
  rw [hemitted, hbefore, List.append_assoc]

/-- A run in which the session is active and can tell of its transfers. -/
structure Run.Running (r : Run) (i : Fin maxSessions) : Prop where
  settled : r.engine.device.Settled
  oid : r.engine.device.profile.rangeDataNotificationOid ∉ controlNotificationOids
  active : (r.engine.device.sessions i).state = sessionStateActive

theorem Run.Running.step {r : Run} {i : Fin maxSessions} {op : Op} (h : r.Running i)
    (hroom : r.Uncongested op)
    (hstill : ((r.step op).engine.device.sessions i).state = sessionStateActive) :
    (r.step op).Running i ∧ ∃ ns, Called r.engine.device op ns (r.step op).engine.device ∧
      (r.step op).engine.device.pendingNotifications = [] ∧
      (r.step op).emitted = r.emitted ++ ns := by
  rcases r.step_called op (hroom.fits h.settled.quiet) h.settled.quiet with
    ⟨ns,hcalled,hpending,hemitted,-⟩
  rcases called_path (g := fun _ _ => True) h.settled hcalled hpending (fun _ _ => trivial)
    (fun _ _ _ _ => Runs.along_of_forall (fun _ _ => trivial) _ _)
    (fun _ _ _ _ _ _ _ => trivial) with ⟨hsettled,⟨hprofile,-⟩,-⟩
  exact ⟨⟨hsettled,hprofile ▸ h.oid,hstill⟩,ns,hcalled,hpending,hemitted⟩

section

variable {start r : Run} {i : Fin maxSessions} {sessionId : UInt32} {sequence : UInt16}
  {count made time place intervalMs : ℕ} {op : Op} {ops : List Op}

/-- Of the repetitions of the transfer `made` were made since `start`, and the host was told of
them and of nothing else. -/
structure Run.Underway (start : Run) (i : Fin maxSessions) (sessionId : UInt32)
    (sequence : UInt16) (count made time place : ℕ) (r : Run) : Prop where
  running : r.Running i
  transmits : r.engine.device.Transmits i sessionId sequence count made time place
  told : start.Tells r sessionId (repetitionNotices sequence made)

/-- The transfer has ended since `start`, and the host was told all of it and nothing else. -/
structure Run.Finished (start : Run) (i : Fin maxSessions) (sessionId : UInt32)
    (sequence : UInt16) (count : ℕ) (r : Run) : Prop where
  running : r.Running i
  ended : r.engine.device.TransferOver i sessionId
  told : start.Tells r sessionId (repetitionNotices sequence count ++ finalNotices sequence count)

theorem Run.Underway.mono {time' place' : ℕ}
    (h : start.Underway i sessionId sequence count made time place r) (htime : time ≤ time')
    (hplace : place ≤ place') : start.Underway i sessionId sequence count made time' place' r :=
  ⟨h.running,h.transmits.mono htime hplace,h.told⟩

theorem repetition_notices_succ (sequence : UInt16) (made : ℕ) :
    repetitionNotices sequence (made+1) = repetitionNotices sequence made ++
      [.transmitted sequence dataTransferStatusRepetitionOk (made+1)] := by
  unfold repetitionNotices
  rw [List.range_succ, List.map_append]
  rfl

theorem Run.Tells.onward {turns : ℕ} {r' : Run} {ns : List Packet} (hrunning : r'.Running i)
    (htold : start.Tells r sessionId (repetitionNotices sequence made))
    (hemitted : r'.emitted = r.emitted ++ ns)
    (h : r'.engine.device.Onward i sessionId sequence count made intervalMs time place turns ns) :
    (∃ place', place' ≤ place ∧ (time = 0 → place'+turns ≤ place) ∧
        start.Underway i sessionId sequence count made time place' r') ∨
      start.Underway i sessionId sequence count (made+1) intervalMs (maxScenarioEvents-1) r' ∨
      start.Finished i sessionId sequence count r' := by
  have hmore := htold.more hemitted
  cases h with
  | waits place' nearer turn still told =>
    rw [told, List.append_nil] at hmore
    exact Or.inl ⟨place',nearer,turn,hrunning,still,hmore⟩
  | repeats next told =>
    rw [told, ← repetition_notices_succ] at hmore
    exact Or.inr (Or.inl ⟨hrunning,next,hmore⟩)
  | ends all ended told =>
    subst all
    rw [told] at hmore
    exact Or.inr (Or.inr ⟨hrunning,ended,hmore⟩)

theorem Run.Underway.step (hcount : count ≤ 254)
    (h : start.Underway i sessionId sequence count made time place r)
    (hop : r.KeepsActive sessionId i intervalMs op) :
    (∃ place', place' ≤ place ∧ (time-op.elapsedMs = 0 → place'+op.turns ≤ place) ∧
        start.Underway i sessionId sequence count made (time-op.elapsedMs) place' (r.step op)) ∨
      start.Underway i sessionId sequence count (made+1) intervalMs (maxScenarioEvents-1)
        (r.step op) ∨
      start.Finished i sessionId sequence count (r.step op) := by
  rcases h.running.step hop.1 hop.2.active with ⟨hrunning,ns,hcalled,hpending,hemitted⟩
  exact h.told.onward hrunning hemitted (called_onward h.running.settled h.running.oid hcount
    h.running.active h.transmits hcalled hpending hop.2)

/-- More than `made` repetitions were made, and the next is on its way. -/
def Run.Advanced (start : Run) (i : Fin maxSessions) (sessionId : UInt32) (sequence : UInt16)
    (count made intervalMs : ℕ) (r : Run) : Prop :=
  ∃ k, made < k ∧
    start.Underway i sessionId sequence count k intervalMs (maxScenarioEvents-1) r

theorem Run.Underway.step_nearer (hcount : count ≤ 254)
    (h : start.Underway i sessionId sequence count made time place r)
    (hop : r.KeepsActive sessionId i intervalMs op) :
    start.Finished i sessionId sequence count (r.step op) ∨
      start.Advanced i sessionId sequence count made intervalMs (r.step op) ∨
      ∃ place', place' ≤ place ∧ (time-op.elapsedMs = 0 → place'+op.turns ≤ place) ∧
        start.Underway i sessionId sequence count made (time-op.elapsedMs) place'
          (r.step op) := by
  rcases h.step hcount hop with hwaits | hnext | hfinished
  · exact Or.inr (Or.inr hwaits)
  · exact Or.inr (Or.inl ⟨made+1,Nat.lt_succ_self made,hnext⟩)
  · exact Or.inl hfinished

theorem Run.Advanced.step (hcount : count ≤ 254)
    (h : start.Advanced i sessionId sequence count made intervalMs r)
    (hop : r.KeepsActive sessionId i intervalMs op) :
    start.Finished i sessionId sequence count (r.step op) ∨
      start.Advanced i sessionId sequence count made intervalMs (r.step op) := by
  rcases h with ⟨k,hk,hunderway⟩
  rcases hunderway.step_nearer hcount hop with hfinished | ⟨l,hl,hnext⟩ | ⟨place',hplace,-,hwaits⟩
  · exact Or.inl hfinished
  · exact Or.inr ⟨l,Nat.lt_trans hk hl,hnext⟩
  · exact Or.inr ⟨k,hk,hwaits.mono (Nat.sub_le _ _) hplace⟩

theorem underway_due (hcount : count ≤ 254)
    (h : start.Underway i sessionId sequence count made intervalMs (maxScenarioEvents-1) r)
    (hops : Runs.Along Run.step (Run.KeepsActive sessionId i intervalMs) r ops)
    (htime : intervalMs ≤ (ops.map Op.elapsedMs).sum) :
    Runs.Reaches Run.step (start.Finished i sessionId sequence count) r ops ∨
      start.Advanced i sessionId sequence count made intervalMs (Runs.run Run.step r ops) ∨
      start.Underway i sessionId sequence count made 0 (maxScenarioEvents-1)
        (Runs.run Run.step r ops) := by
  let distance : ℕ → Run → Prop := fun left r =>
    start.Advanced i sessionId sequence count made intervalMs r ∨
      start.Underway i sessionId sequence count made left (maxScenarioEvents-1) r
  have hstep : ∀ left r op, distance left r → r.KeepsActive sessionId i intervalMs op →
      start.Finished i sessionId sequence count (r.step op) ∨
        distance (left-op.elapsedMs) (r.step op) := by
    rintro left r op (hadvanced | hwaits) hop
    · exact (hadvanced.step hcount hop).imp id Or.inl
    · rcases hwaits.step_nearer hcount hop with hfinished | hadvanced | ⟨place',hplace,-,hnext⟩
      · exact Or.inl hfinished
      · exact Or.inr (Or.inl hadvanced)
      · exact Or.inr (Or.inr (hnext.mono (Nat.le_refl _) hplace))
  have hnear := Runs.reaches_or_nearer hstep intervalMs r ops (Or.inr h) hops
  rwa [Nat.sub_eq_zero_of_le htime] at hnear

theorem due_served (hcount : count ≤ 254)
    (h : start.Advanced i sessionId sequence count made intervalMs r ∨
      start.Underway i sessionId sequence count made 0 (maxScenarioEvents-1) r)
    (hops : Runs.Along Run.step (Run.KeepsActive sessionId i intervalMs) r ops)
    (hturns : maxScenarioEvents ≤ (ops.map Op.turns).sum) :
    Runs.Reaches Run.step (start.Finished i sessionId sequence count) r ops ∨
      start.Advanced i sessionId sequence count made intervalMs (Runs.run Run.step r ops) := by
  let distance : ℕ → Run → Prop := fun left r =>
    start.Advanced i sessionId sequence count made intervalMs r ∨
      ∃ place, place < left ∧ start.Underway i sessionId sequence count made 0 place r
  have hstep : ∀ left r op, distance left r → r.KeepsActive sessionId i intervalMs op →
      start.Finished i sessionId sequence count (r.step op) ∨
        distance (left-op.turns) (r.step op) := by
    rintro left r op (hadvanced | ⟨place,hplace,hwaits⟩) hop
    · exact (hadvanced.step hcount hop).imp id Or.inl
    · rcases hwaits.step_nearer hcount hop with hfinished | hadvanced | ⟨place',-,hturn,hnext⟩
      · exact Or.inl hfinished
      · exact Or.inr (Or.inl hadvanced)
      · have hnearer := hturn (Nat.zero_sub _)
        exact Or.inr (Or.inr ⟨place',by omega,hnext.mono (Nat.sub_le _ _) (Nat.le_refl _)⟩)
  have hnear := Runs.reaches_or_nearer hstep maxScenarioEvents r ops
    (h.imp id fun hdue => ⟨_,by decide,hdue⟩) hops
  rw [Nat.sub_eq_zero_of_le hturns] at hnear
  rcases hnear with hreaches | hadvanced | ⟨place,hnone,-⟩
  · exact Or.inl hreaches
  · exact Or.inr hadvanced
  · exact absurd hnone (Nat.not_lt_zero place)

/-- With time enough for all its transmissions the transfer ends. -/
theorem rounds_finish {rounds : ℕ} (hcount : count ≤ 254) (hr : Rounds intervalMs rounds ops)
    (henough : count < made+rounds)
    (h : start.Underway i sessionId sequence count made intervalMs (maxScenarioEvents-1) r)
    (hops : Runs.Along Run.step (Run.KeepsActive sessionId i intervalMs) r ops) :
    Runs.Reaches Run.step (start.Finished i sessionId sequence count) r ops := by
  induction hr generalizing made r with
  | done ops =>
    have hremaining := h.transmits.remaining
    omega
  | more waiting serving rest time turns next ih =>
    rw [Runs.along_append, Runs.along_append] at hops
    rcases hops with ⟨hwaiting,hserving,hrest⟩
    rcases underway_due hcount h hwaiting time with hreaches | hdue
    · exact Runs.reaches_append _ hreaches
    · refine Runs.reaches_later ?_
      rcases due_served hcount hdue hserving turns with hreaches | ⟨k,hk,hunderway⟩
      · exact Runs.reaches_append _ hreaches
      · exact Runs.reaches_later (ih (by omega) hunderway hrest)

/-- The call brings the session a message. -/
def Op.BringsData (sessionId : UInt32) : Op → Prop
  | .submit request => request.mt = mtData ∧ readU32Le request.payload 0 = sessionId
  | _ => False

instance (sessionId : UInt32) : (op : Op) → Decidable (op.BringsData sessionId)
  | .submit _ => inferInstanceAs (Decidable (_ ∧ _))
  | .tick _ => isFalse id
  | .dequeue => isFalse id

theorem Run.Finished.step (h : start.Finished i sessionId sequence count r)
    (hop : r.KeepsActive sessionId i intervalMs op) (hother : ¬ op.BringsData sessionId) :
    start.Finished i sessionId sequence count (r.step op) := by
  rcases h.running.step hop.1 hop.2.active with ⟨hrunning,ns,hcalled,hpending,hemitted⟩
  have hmessage : ∀ request, op = .submit request → request.mt = mtData →
      readU32Le request.payload 0 ≠ sessionId := by
    rintro request rfl hmt hid
    exact hother ⟨hmt,hid⟩
  rcases called_over h.running.settled h.running.oid h.running.active h.ended hcalled hpending
    hop.2.active hmessage with ⟨hover,hnothing⟩
  have htold := h.told.more hemitted
  rw [hnothing, List.append_nil] at htold
  exact ⟨hrunning,hover,htold⟩

theorem finished_later (h : start.Finished i sessionId sequence count r)
    (hops : Runs.Along Run.step (Run.KeepsActive sessionId i intervalMs) r ops)
    (hother : ∀ op ∈ ops, ¬ op.BringsData sessionId) :
    start.Finished i sessionId sequence count (Runs.run Run.step r ops) :=
  Runs.invariant_of_steps (fun _ _ hfinished hop => hfinished.step hop.1 hop.2) r ops h
    (Runs.along_and r ops hops (Runs.along_of_mem (fun op hop _ => hother op hop) r))

end

end UciSim
