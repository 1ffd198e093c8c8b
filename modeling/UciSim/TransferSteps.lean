import UciSim.ConfigTables
import UciSim.TransferFrames

/-!
# One call of a transfer under way

A call leaves the transfer as it is, with its event nearer, or makes the next
transmission and tells the host of it.
-/

set_option autoImplicit false

namespace UciSim

def repetitionNotices (sequence : UInt16) (made : ℕ) : List TransferNotice :=
  (List.range made).map fun k => .transmitted sequence dataTransferStatusRepetitionOk (k+1)

/-- What the host is told of the end of a transfer with `count` repetitions. -/
def finalNotices (sequence : UInt16) (count : ℕ) : List TransferNotice :=
  [.credit,.transmitted sequence dataTransferStatusOk (count+1)]

def Op.elapsedMs : Op → ℕ
  | .tick elapsedMs => elapsedMs.toNat
  | _ => 0

/-- The events a call serves for certain, as long as any is due. -/
def Op.turns : Op → ℕ
  | .tick _ => 1
  | _ => 0

namespace Device

/-- The session of the slot and of the identifier is active, and its events follow one another in
`intervalMs` at most. -/
structure HasActive (d : Device) (i : Fin maxSessions) (sessionId : UInt32) (intervalMs : ℕ) :
    Prop where
  found : d.findSession sessionId = some i
  active : (d.sessions i).state = sessionStateActive
  interval : ((d.sessions i).getRangingIntervalMs d.profile).toNat ≤ intervalMs

/-- Of the `count` repetitions `made` were made. The one event of the transfer is due in `time` at
most, behind `place` others at most. -/
structure Transmits (d : Device) (i : Fin maxSessions) (sessionId : UInt32) (sequence : UInt16)
    (count made time place : ℕ) : Prop where
  allocated : (d.sessions i).allocated = true
  named : (d.sessions i).sessionId = sessionId
  inProgress : (d.sessions i).dataTransferInProgress = true
  numbered : (d.sessions i).dataTransferSequence = sequence
  remaining : made+(d.sessions i).dataTransferRepetitionsRemaining.toNat = count
  txCount : (d.sessions i).dataTransferTxCount.toNat = made
  event : Awaited.Awaits ScheduledEvent.key ScheduledEvent.left (.dataTransfer,sessionId) time
    place d.scheduledEvents

structure TransferOver (d : Device) (i : Fin maxSessions) (sessionId : UInt32) : Prop where
  allocated : (d.sessions i).allocated = true
  named : (d.sessions i).sessionId = sessionId
  ended : (d.sessions i).dataTransferInProgress = false
  none : ∀ event ∈ d.scheduledEvents, event.key ≠ (.dataTransfer,sessionId)

/-- What is made of a transfer under way: it waits for its event with `time` left, makes the next
repetition, or ends. -/
inductive Onward (d : Device) (i : Fin maxSessions) (sessionId : UInt32) (sequence : UInt16)
    (count made intervalMs time place turns : ℕ) (ns : List Packet) : Prop where
  | waits (place' : ℕ) (nearer : place' ≤ place) (turn : time = 0 → place'+turns ≤ place)
      (still : d.Transmits i sessionId sequence count made time place')
      (told : transferNotices sessionId ns = [])
  | repeats (next : d.Transmits i sessionId sequence count (made+1) intervalMs
        (maxScenarioEvents-1))
      (told : transferNotices sessionId ns =
        [.transmitted sequence dataTransferStatusRepetitionOk (made+1)])
  | ends (all : made = count) (ended : d.TransferOver i sessionId)
      (told : transferNotices sessionId ns = finalNotices sequence count)

end Device

variable {d d' : Device} {i : Fin maxSessions} {sessionId : UInt32} {sequence : UInt16}
  {count made time place intervalMs : ℕ} {ns : List Packet}

namespace Device

theorem Settled.distinct (h : d.Settled) : d.DistinctIds := h.shape.distinct

theorem Transmits.key (h : d.Transmits i sessionId sequence count made time place) :
    (d.sessions i).transferKey = (.dataTransfer,sessionId) :=
  congrArg (Prod.mk EventType.dataTransfer) h.named

theorem TransferOver.key (h : d.TransferOver i sessionId) :
    (d.sessions i).transferKey = (.dataTransfer,sessionId) :=
  congrArg (Prod.mk EventType.dataTransfer) h.named

theorem Transmits.withEvents {events : List ScheduledEvent} {time' place' : ℕ}
    (h : d.Transmits i sessionId sequence count made time place)
    (hevent : Awaited.Awaits ScheduledEvent.key ScheduledEvent.left (.dataTransfer,sessionId)
      time' place' events) :
    (d.withEvents events).Transmits i sessionId sequence count made time' place' :=
  ⟨h.allocated,h.named,h.inProgress,h.numbered,h.remaining,h.txCount,hevent⟩

theorem Transmits.mono {time' place' : ℕ}
    (h : d.Transmits i sessionId sequence count made time place) (htime : time ≤ time')
    (hplace : place ≤ place') : d.Transmits i sessionId sequence count made time' place' :=
  h.withEvents (Awaited.awaits_mono h.event htime hplace)

theorem Transmits.spared (h : d.Transmits i sessionId sequence count made time place)
    (hs : d.SparesTransfer d' i) : d'.Transmits i sessionId sequence count made time place where
  allocated := hs.allocated.trans h.allocated
  named := hs.sessionId.trans h.named
  inProgress := (congrArg Transfer.inProgress hs.transfer).trans h.inProgress
  numbered := (congrArg Transfer.sequence hs.transfer).trans h.numbered
  remaining := by
    rw [← h.remaining]
    exact congrArg (fun t : Transfer => made+t.remaining.toNat) hs.transfer
  txCount := (congrArg (fun t : Transfer => t.txCount.toNat) hs.transfer).trans h.txCount
  event := (h.key ▸ hs.events).1 time place h.event

theorem TransferOver.spared (h : d.TransferOver i sessionId) (hs : d.SparesTransfer d' i) :
    d'.TransferOver i sessionId where
  allocated := hs.allocated.trans h.allocated
  named := hs.sessionId.trans h.named
  ended := (congrArg Transfer.inProgress hs.transfer).trans h.ended
  none := (h.key ▸ hs.events).2 h.none

theorem Transmits.repeated {events : List ScheduledEvent}
    (h : d.Transmits i sessionId sequence count made time place)
    (hcount : count ≤ 254) (hmore : (d.sessions i).dataTransferRepetitionsRemaining > 0)
    (halone : ∀ event ∈ events, event.key ≠ (.dataTransfer,sessionId))
    (hroom : events.length < maxScenarioEvents)
    (hinterval : ((d.sessions i).getRangingIntervalMs d.profile).toNat ≤ intervalMs) :
    (((d.withEvents events).setSession i (d.sessions i).repeatTransfer).withEvents (events ++
        [⟨.dataTransfer,(d.sessions i).sessionId,
          (d.sessions i).getRangingIntervalMs d.profile⟩])).Transmits i sessionId sequence count
        (made+1) intervalMs (maxScenarioEvents-1) ∧
      (d.sessions i).transmit.dataTransferTxCount.toNat = made+1 := by
  have hsession : (((d.withEvents events).setSession i
      (d.sessions i).repeatTransfer).withEvents (events ++ [⟨.dataTransfer,
        (d.sessions i).sessionId,(d.sessions i).getRangingIntervalMs d.profile⟩])).sessions i =
      (d.sessions i).repeatTransfer := Device.setSession_same _ _ _
  have hremaining := h.remaining
  have hpos : 1 ≤ (d.sessions i).dataTransferRepetitionsRemaining.toNat := hmore
  have htx : (d.sessions i).transmit.dataTransferTxCount.toNat = made+1 := by
    show ((d.sessions i).dataTransferTxCount+1).toNat = made+1
    rw [UInt8.toNat_add, h.txCount]
    show (made+1) % 256 = made+1
    omega
  have hleft : ((d.sessions i).dataTransferRepetitionsRemaining-1).toNat =
      (d.sessions i).dataTransferRepetitionsRemaining.toNat-1 :=
    UInt8.toNat_sub_of_le _ _ hpos
  have hevent : Awaited.Awaits ScheduledEvent.key ScheduledEvent.left (.dataTransfer,sessionId)
      ((d.sessions i).getRangingIntervalMs d.profile).toNat events.length
      (events ++ [⟨.dataTransfer,(d.sessions i).sessionId,
        (d.sessions i).getRangingIntervalMs d.profile⟩]) :=
    Awaited.awaits_append halone h.key
  refine ⟨?_,htx⟩
  constructor
  · rw [hsession]
    exact h.allocated
  · rw [hsession]
    exact h.named
  · rw [hsession]
    exact h.inProgress
  · rw [hsession]
    exact h.numbered
  · rw [hsession]
    show made+1+((d.sessions i).dataTransferRepetitionsRemaining-1).toNat = count
    rw [hleft]
    omega
  · rw [hsession]
    exact htx
  · exact Awaited.awaits_mono hevent hinterval (Nat.le_sub_one_of_lt hroom)

theorem Transmits.finished {events : List ScheduledEvent}
    (h : d.Transmits i sessionId sequence count made time place)
    (hcount : count ≤ 254) (hlast : ¬ (d.sessions i).dataTransferRepetitionsRemaining > 0)
    (halone : ∀ event ∈ events, event.key ≠ (.dataTransfer,sessionId)) :
    made = count ∧
      ((d.withEvents events).setSession i (d.sessions i).finishTransfer).TransferOver i
        sessionId ∧
      (d.sessions i).transmit.dataTransferTxCount.toNat = count+1 := by
  have hsession : ((d.withEvents events).setSession i
      (d.sessions i).finishTransfer).sessions i = (d.sessions i).finishTransfer :=
    Device.setSession_same _ _ _
  have hremaining := h.remaining
  have hzero : (d.sessions i).dataTransferRepetitionsRemaining.toNat = 0 :=
    Nat.le_zero.mp (Nat.le_of_not_lt hlast)
  refine ⟨by omega,?_,?_⟩
  · constructor
    · rw [hsession]
      exact h.allocated
    · rw [hsession]
      exact h.named
    · rw [hsession]
      rfl
    · exact halone
  · show ((d.sessions i).dataTransferTxCount+1).toNat = count+1
    rw [UInt8.toNat_add, h.txCount]
    show (made+1) % 256 = count+1
    omega

end Device

theorem due_left (event : ScheduledEvent) (h : event.left = 0) : (event.delayMs == 0) = true := by
  refine beq_iff_eq.mpr (UInt32.toNat_inj.mp ?_)
  exact h

theorem aged_transmits (elapsedMs : UInt32)
    (h : d.Transmits i sessionId sequence count made time place) :
    (d.tickEvents elapsedMs).Transmits i sessionId sequence count made (time-elapsedMs.toNat)
      place := by
  have hevent : Awaited.Awaits ScheduledEvent.key ScheduledEvent.left (.dataTransfer,sessionId)
      (time-elapsedMs.toNat) place (d.tickEvents elapsedMs).scheduledEvents := by
    refine Awaited.awaits_aged (fun _ => rfl) (fun event => ?_) h.event
    unfold ScheduledEvent.left
    dsimp only
    split
    · rename_i hlate
      rw [UInt32.toNat_sub_of_le _ _ (Nat.le_of_lt hlate)]
    · exact Nat.zero_le _
  exact h.withEvents hevent

theorem repetition_told (sessionId : UInt32) (sequence : UInt16) (txCount : UInt8) :
    transferNotices sessionId [dataTransferStatusNotification sessionId sequence
      dataTransferStatusRepetitionOk txCount] =
        [.transmitted sequence dataTransferStatusRepetitionOk txCount.toNat] := by
  unfold transferNotices
  rw [List.filterMap_cons, status_notice _ _ _ (Or.inl rfl)]
  rfl

theorem completion_told (sessionId : UInt32) (sequence : UInt16) (txCount : UInt8) :
    transferNotices sessionId (dataCompletion sessionId sequence dataTransferStatusOk txCount) =
      [.credit,.transmitted sequence dataTransferStatusOk txCount.toNat] := by
  unfold transferNotices dataCompletion
  rw [List.filterMap_cons, credit_notice, List.filterMap_cons, status_notice _ _ _ (Or.inr rfl)]
  rfl

section

variable {event : ScheduledEvent} {flushes : Bool}

theorem served_other (hd : d.DistinctIds)
    (hoid : d.profile.rangeDataNotificationOid ∉ controlNotificationOids)
    (ht : d.Transmits i sessionId sequence count made time place)
    (hactive : (d'.sessions i).state = sessionStateActive)
    (hready : d.scheduledEvents.find? (fun event => event.delayMs == 0) = some event)
    (hkey : event.key ≠ (.dataTransfer,sessionId))
    (h : Fired (d.withEvents (d.scheduledEvents.eraseP (fun event => event.delayMs == 0))) event
      flushes ns d') :
    d'.Onward i sessionId sequence count made intervalMs time place 1 ns := by
  have hkept := (Awaited.keeps_taken hready hkey).1 time place ht.event
  have hother : event.key ≠ ((d.withEvents (d.scheduledEvents.eraseP
      (fun event => event.delayMs == 0))).sessions i).transferKey := by
    rw [(ht.withEvents hkept).key]
    exact hkey
  rcases fired_other (by exact hoid) (by exact hd) (by exact ht.allocated) hother h hactive with
    ⟨hspares,hnotices⟩
  rw [(ht.withEvents hkept).named] at hnotices
  by_cases hdue : time = 0
  · subst hdue
    rcases Awaited.awaits_turn hready hkey due_left ht.event with ⟨hpos,hturn⟩
    exact .waits (place-1) (Nat.sub_le _ _) (fun _ => by omega)
      ((ht.withEvents hturn).spared hspares) hnotices
  · exact .waits place (Nat.le_refl _) (fun h => absurd h hdue)
      ((ht.withEvents hkept).spared hspares) hnotices

/-- The event of the transfer is served: the next repetition is made, or the last
transmission. -/
theorem served_own (hs : d.Settled) (hcount : count ≤ 254)
    (ht : d.Transmits i sessionId sequence count made time place)
    (hd : d'.HasActive i sessionId intervalMs)
    (hready : d.scheduledEvents.find? (fun event => event.delayMs == 0) = some event)
    (hkey : event.key = (.dataTransfer,sessionId))
    (h : Fired (d.withEvents (d.scheduledEvents.eraseP (fun event => event.delayMs == 0))) event
      flushes ns d') :
    d'.Onward i sessionId sequence count made intervalMs time place 1 ns := by
  have hbounded : d.scheduledEvents.length ≤ maxScenarioEvents := hs.shape.bounded
  have hshorter := KeyedQueue.taken_length hready
  have hactive := fired_active h hd.active
  have halone : ∀ event ∈ d.scheduledEvents.eraseP (fun event => event.delayMs == 0),
      event.key ≠ (.dataTransfer,sessionId) := by
    have hevent := ht.event
    rw [← hkey] at hevent ⊢
    exact Awaited.awaits_taken hready hevent
  have hroom : (d.scheduledEvents.eraseP (fun event => event.delayMs == 0)).length <
      maxScenarioEvents := by omega
  rcases fired_own (by exact hs.distinct) (by exact ht.allocated) (by exact hs.idle)
    (by exact hroom) hactive (by exact ht.inProgress) (hkey.trans ht.key.symm) h with
    ⟨hmore,rfl,rfl⟩ | ⟨hlast,rfl,rfl⟩
  · have hinterval : ((d.sessions i).getRangingIntervalMs d.profile).toNat ≤ intervalMs := by
      have hbound := hd.interval
      rw [Device.withEvents_sessions, Device.setSession_same] at hbound
      exact hbound
    rcases ht.repeated hcount hmore halone hroom hinterval with ⟨hnext,htx⟩
    refine .repeats hnext ?_
    have htold := repetition_told sessionId sequence (d.sessions i).transmit.dataTransferTxCount
    rw [htx, ← ht.named, ← ht.numbered] at htold
    rw [← ht.named, ← ht.numbered]
    exact htold
  · rcases ht.finished hcount hlast halone with ⟨hall,hover,htx⟩
    refine .ends hall hover ?_
    have htold := completion_told sessionId sequence (d.sessions i).transmit.dataTransferTxCount
    rw [htx, ← ht.named, ← ht.numbered] at htold
    rw [← ht.named, ← ht.numbered]
    exact htold

end

theorem ticked_onward {elapsedMs : UInt32} {flushes : Bool} (hs : d.Settled)
    (hoid : d.profile.rangeDataNotificationOid ∉ controlNotificationOids) (hcount : count ≤ 254)
    (ht : d.Transmits i sessionId sequence count made time place)
    (hd : d'.HasActive i sessionId intervalMs) (h : Ticked d elapsedMs flushes ns d') :
    d'.Onward i sessionId sequence count made intervalMs (time-elapsedMs.toNat) place 1 ns := by
  have haged := aged_transmits elapsedMs ht
  have hsettled : (d.tickEvents elapsedMs).Settled :=
    ⟨hs.profile,hs.prompt,hs.idle,ticked_shape hs.shape elapsedMs⟩
  cases h with
  | waiting hnone =>
    have hskip : (d.tickEvents elapsedMs).scheduledEvents.find?
        (fun event => event.delayMs == 0) = none := by
      unfold Device.dequeueReadyEvent at hnone
      split at hnone
      · assumption
      · cases hnone
    refine .waits place (Nat.le_refl _) (fun hdue => ?_) haged rfl
    rw [hdue] at haged
    exact absurd hskip (Awaited.awaits_found due_left haged.event)
  | served event d₁ _ _ _ ready fired =>
    obtain ⟨hready,rfl⟩ := Device.dequeue_ready_event_some ready
    by_cases hkey : event.key = (.dataTransfer,sessionId)
    · exact served_own hsettled hcount haged hd hready hkey fired
    · exact served_other hsettled.distinct hoid haged hd.active hready hkey fired

end UciSim
