import UciSim.Engine
import UciSim.General.Mailbox

/-!
# The exchange as a mailbox

The result slot, the pending queue and the history of an exchange form a
mailbox. Notifications change the mailbox alone, so a handler's outcome is the
changed device, its response, and the list of notifications posted to it.
-/

set_option autoImplicit false

namespace UciSim

abbrev Mail := Mailbox.State Packet

def Device.withPending (device : Device) (pending : List Packet) : Device :=
  { device with pendingNotifications := pending }

@[simp] theorem Device.withPending_self (device : Device) :
    device.withPending device.pendingNotifications = device := rfl

@[simp] theorem Device.withPending_pending (device : Device) (pending : List Packet) :
    (device.withPending pending).pendingNotifications = pending := rfl

@[simp] theorem Device.withPending_withPending (device : Device) (p q : List Packet) :
    (device.withPending p).withPending q = device.withPending q := rfl

@[simp] theorem Device.withPending_sessions (device : Device) (pending : List Packet) :
    (device.withPending pending).sessions = device.sessions := rfl

@[simp] theorem Device.withPending_events (device : Device) (pending : List Packet) :
    (device.withPending pending).scheduledEvents = device.scheduledEvents := rfl

@[simp] theorem Device.withPending_scenario (device : Device) (pending : List Packet) :
    (device.withPending pending).scenario = device.scenario := rfl

@[simp] theorem Device.withPending_profile (device : Device) (pending : List Packet) :
    (device.withPending pending).profile = device.profile := rfl

namespace Exchange

def mail (x : Exchange) : Mail :=
  ⟨x.result.notification,x.device.pendingNotifications,x.accepted⟩

def withMail (x : Exchange) (m : Mail) : Exchange where
  device := x.device.withPending m.pending
  result := { x.result with notification := m.slot }
  accepted := m.accepted

@[simp] theorem mail_withMail (x : Exchange) (m : Mail) : (x.withMail m).mail = m := rfl

@[simp] theorem withMail_mail (x : Exchange) : x.withMail x.mail = x := rfl

@[simp] theorem withMail_withMail (x : Exchange) (m m' : Mail) :
    (x.withMail m).withMail m' = x.withMail m' := rfl

theorem queueNotification_mail (x : Exchange) (n : Packet) :
    (x.queueNotification n).2 = x.withMail (Mailbox.queue maxPendingNotifications x.mail n) := by
  unfold queueNotification Mailbox.queue
  by_cases h : x.device.pendingNotifications.length ≥ maxPendingNotifications
  · rw [if_pos h, if_pos (show x.mail.pending.length ≥ _ from h)]
    rfl
  · rw [if_neg h, if_neg (show ¬ x.mail.pending.length ≥ _ from h)]
    rfl

theorem queueNotification_ok (x : Exchange) (n : Packet) :
    (x.queueNotification n).1 = .ok ↔
      x.device.pendingNotifications.length < maxPendingNotifications := by
  unfold queueNotification
  by_cases h : x.device.pendingNotifications.length ≥ maxPendingNotifications
  · simp [h]
  · simp [h]
    omega

theorem emit_mail (x : Exchange) (n : Packet) :
    x.emit n = x.withMail (Mailbox.deliver maxPendingNotifications
      x.device.scenario.shouldDeferNotification x.mail n) := by
  unfold emit deliverNotification Mailbox.deliver
  by_cases hd : x.device.scenario.shouldDeferNotification = true
  · simpa [hd] using queueNotification_mail x n
  · cases hs : x.result.notification with
    | none =>
      simp [hd, mail, hs]
      rfl
    | some b => simpa [hd, mail, hs] using queueNotification_mail x n

def emitAll (x : Exchange) (ns : List Packet) : Exchange := ns.foldl emit x

theorem emitAll_mail (x : Exchange) (ns : List Packet) :
    x.emitAll ns = x.withMail (Mailbox.deliverAll maxPendingNotifications
      x.device.scenario.shouldDeferNotification x.mail ns) := by
  induction ns generalizing x with
  | nil => rfl
  | cons n ns ih =>
    have h : x.emitAll (n::ns) = (x.emit n).emitAll ns := rfl
    rw [h, ih, emit_mail]
    rfl

theorem finalizeResult_mail (x : Exchange) (k : ℕ) :
    x.finalizeResult k =
      if x.device.scenario.shouldAutoDeliverPending k then x.withMail (Mailbox.settle x.mail)
      else x := by
  by_cases ha : x.device.scenario.shouldAutoDeliverPending k = true
  · have hm : x.mail = ⟨x.result.notification,x.device.pendingNotifications,x.accepted⟩ := rfl
    cases hs : x.result.notification with
    | some b =>
      rw [hs] at hm
      simp [finalizeResult, Mailbox.settle, ha, hs, hm]
      rw [← hm, withMail_mail]
    | none =>
      cases hp : x.device.pendingNotifications with
      | nil =>
        rw [hs, hp] at hm
        simp [finalizeResult, Mailbox.settle, Device.dequeueNotification, ha, hs, hp, hm]
        rw [← hm, withMail_mail]
      | cons a rest =>
        rw [hs, hp] at hm
        simp [finalizeResult, Mailbox.settle, Device.dequeueNotification, ha, hs, hp, hm]
        rfl
  · cases hs : x.result.notification <;> simp [finalizeResult, ha, hs]

theorem emit_response (x : Exchange) (n : Packet) :
    (x.emit n).result.response = x.result.response := by
  rw [emit_mail]
  rfl

theorem report_error_response (outcome : Rc × Exchange) :
    (reportError outcome).result.response = outcome.2.result.response := by
  unfold reportError
  split
  · rfl
  · split
    · split
      · exact emit_response _ _
      · rfl
    · rfl

theorem finalize_response (x : Exchange) (k : ℕ) :
    (x.finalizeResult k).result.response = x.result.response := by
  rw [finalizeResult_mail]
  split <;> rfl

theorem finalize_sessions (x : Exchange) (k : ℕ) :
    (x.finalizeResult k).device.sessions = x.device.sessions := by
  rw [finalizeResult_mail]
  split <;> rfl

theorem finalize_accepted (x : Exchange) (k : ℕ) : (x.finalizeResult k).accepted = x.accepted := by
  rw [finalizeResult_mail]
  split
  · exact Mailbox.settle_accepted x.mail
  · rfl

def mapDevice (x : Exchange) (f : Device → Device) : Exchange :=
  ⟨f x.device,x.result,x.accepted⟩

/-- A device change that neither reads nor moves the mailbox commutes with a notification. -/
theorem emit_mapDevice (f : Device → Device) (x : Exchange) (n : Packet)
    (hscenario : (f x.device).scenario = x.device.scenario)
    (hpending : (f x.device).pendingNotifications = x.device.pendingNotifications)
    (hframe : ∀ p, f (x.device.withPending p) = (f x.device).withPending p) :
    (x.emit n).mapDevice f = (x.mapDevice f).emit n := by
  have hm : (x.mapDevice f).mail = x.mail := by
    simp [mail, mapDevice, hpending]
  rw [emit_mail x, emit_mail (x.mapDevice f), hm]
  simp only [mapDevice, hscenario, withMail, hframe]

end Exchange

end UciSim
