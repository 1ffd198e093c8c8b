import UciSim.DeferredDelivery
import UciSim.General.Awaited
import UciSim.MessageLedgers
import UciSim.RangingPace
import UciSim.Scripts

/-!
# What the host is told of a transfer

A session tells the host of its transfers by credits and by the statuses of what it
transmitted. Nothing but its own event and a message of its own makes it tell
anything, or touches the transfer under way.
-/

set_option autoImplicit false

namespace UciSim

open Exchange

inductive TransferNotice where
  | credit
  | transmitted (sequence : UInt16) (status : UInt8) (txCount : ℕ)
  deriving DecidableEq, Repr

instance (n : Packet) : Decidable n.ReportsRefusal := inferInstanceAs (Decidable (_ ∧ _))

/-- What the packet tells of the transfers of the session: a credit, or a transmission that was
made. -/
def Packet.transferNotice (sessionId : UInt32) (n : Packet) : Option TransferNotice :=
  if n.mt ≠ mtNotification ∨ n.gid ≠ gidSessionControl ∨ readU32Le n.payload 0 ≠ sessionId then
    none
  else if n.oid = sessionDataCreditNtf then some .credit
  else if n.oid = sessionDataTransferStatusNtf ∧ ¬ n.ReportsRefusal then
    some (.transmitted (readU16Le n.payload 4) (byteAt n.payload 6) (byteAt n.payload 7).toNat)
  else none

/-- All that the packets tell of the transfers of the session, in order. -/
def transferNotices (sessionId : UInt32) (ns : List Packet) : List TransferNotice :=
  ns.filterMap (Packet.transferNotice sessionId)

theorem halves_joined (n : ℕ) (h : n < 2^16) : n % 256 ||| (n >>> 8 % 256) <<< 8 = n := by
  have hjoined := bytes_joined n (lt_of_lt_of_le h (by decide))
  have h16 : n >>> 16 = 0 := by
    rw [Nat.shiftRight_eq_div_pow]
    exact Nat.div_eq_of_lt h
  have h24 : n >>> 24 = 0 := by
    rw [Nat.shiftRight_eq_div_pow]
    exact Nat.div_eq_of_lt (lt_of_lt_of_le h (by decide))
  simpa [h16, h24] using hjoined

theorem read_write_u16_le (value : UInt16) (rest : List UInt8) :
    readU16Le (writeU16Le value ++ rest) 0 = value := by
  have fits : (value.toNat >>> 8 % 256) <<< 8 % 65536 = (value.toNat >>> 8 % 256) <<< 8 := by
    apply Nat.mod_eq_of_lt
    rw [Nat.shiftLeft_eq]
    omega
  apply UInt16.toNat_inj.mp
  simp [readU16Le, writeU16Le, byteAt, byte_masked, fits]
  exact halves_joined value.toNat (UInt16.toNat_lt value)

section

variable {sessionId : UInt32} {n : Packet}

theorem notice_none (h : n.mt ≠ mtNotification ∨ n.gid ≠ gidSessionControl ∨
    readU32Le n.payload 0 ≠ sessionId) : n.transferNotice sessionId = none := by
  unfold Packet.transferNotice
  rw [if_pos h]

theorem notice_other_oid (hcredit : n.oid ≠ sessionDataCreditNtf)
    (hstatus : n.oid ≠ sessionDataTransferStatusNtf) : n.transferNotice sessionId = none := by
  have hnone : ¬ (n.oid = sessionDataTransferStatusNtf ∧ ¬ n.ReportsRefusal) :=
    fun h => hstatus h.1
  unfold Packet.transferNotice
  rw [if_neg hcredit, if_neg hnone, ite_self]

theorem notice_refusal (hcredit : n.oid ≠ sessionDataCreditNtf) (h : n.ReportsRefusal) :
    n.transferNotice sessionId = none := by
  have hnone : ¬ (n.oid = sessionDataTransferStatusNtf ∧ ¬ n.ReportsRefusal) :=
    fun hn => hn.2 h
  unfold Packet.transferNotice
  rw [if_neg hcredit, if_neg hnone, ite_self]

theorem credit_notice (sessionId : UInt32) (availability : UInt8) :
    (dataCreditNotification sessionId availability).transferNotice sessionId =
      some .credit := by
  have hid : readU32Le (dataCreditNotification sessionId availability).payload 0 = sessionId :=
    read_write_u32_le sessionId [availability]
  unfold Packet.transferNotice
  rw [hid, if_neg (by simp [dataCreditNotification, Packet.notification]),
    if_pos (by exact rfl)]

theorem status_notice (sessionId : UInt32) (sequenceNumber : UInt16) {status : UInt8}
    (txCount : UInt8)
    (hs : status = dataTransferStatusRepetitionOk ∨ status = dataTransferStatusOk) :
    (dataTransferStatusNotification sessionId sequenceNumber status txCount).transferNotice
      sessionId = some (.transmitted sequenceNumber status txCount.toNat) := by
  have hid : readU32Le (dataTransferStatusNotification sessionId sequenceNumber status
      txCount).payload 0 = sessionId :=
    read_write_u32_le sessionId (writeU16Le sequenceNumber ++ [status,txCount])
  have hsequence : readU16Le (dataTransferStatusNotification sessionId sequenceNumber status
      txCount).payload 4 = sequenceNumber :=
    read_write_u16_le sequenceNumber [status,txCount]
  have hreports : ¬ (dataTransferStatusNotification sessionId sequenceNumber status
      txCount).ReportsRefusal := by
    rw [transfer_status_reports]
    exact fun h => hs.elim h.1 h.2
  unfold Packet.transferNotice
  rw [hid, hsequence, if_neg (by simp [dataTransferStatusNotification, Packet.notification]),
    if_neg (by exact (by decide : ¬ sessionDataTransferStatusNtf = sessionDataCreditNtf)),
    if_pos (by exact ⟨rfl,hreports⟩)]
  rfl

theorem notices_append (ns ms : List Packet) :
    transferNotices sessionId (ns ++ ms) =
      transferNotices sessionId ns ++ transferNotices sessionId ms := List.filterMap_append

theorem notices_none {ns : List Packet} (h : ∀ n ∈ ns, n.transferNotice sessionId = none) :
    transferNotices sessionId ns = [] := List.filterMap_eq_nil_iff.mpr h

theorem response_notice (h : n.mt = mtResponse) : n.transferNotice sessionId = none :=
  notice_none (Or.inl (by rw [h]; decide))

theorem idle_status_notice (session : Session) :
    (idleStatus session).transferNotice sessionId = none :=
  notice_none (Or.inr (Or.inl (show ¬ gidSessionConfig = gidSessionControl by decide)))

/-- A notification of another session's transfer. -/
theorem completion_notices {sessionId' : UInt32} (h : sessionId' ≠ sessionId)
    (sequenceNumber : UInt16) (status txCount : UInt8) :
    transferNotices sessionId (dataCompletion sessionId' sequenceNumber status txCount) = [] ∧
      (dataTransferStatusNotification sessionId' sequenceNumber status txCount).transferNotice
        sessionId = none := by
  have hstatus : (dataTransferStatusNotification sessionId' sequenceNumber status
      txCount).transferNotice sessionId = none := by
    refine notice_none (Or.inr (Or.inr ?_))
    have hid := read_write_u32_le sessionId' (writeU16Le sequenceNumber ++ [status,txCount])
    exact fun hsame => h (hid.symm.trans hsame)
  refine ⟨notices_none fun n hn => ?_,hstatus⟩
  rcases List.mem_pair.mp hn with rfl | rfl
  · refine notice_none (Or.inr (Or.inr ?_))
    have hid := read_write_u32_le sessionId' [1]
    exact fun hsame => h (hid.symm.trans hsame)
  · exact hstatus

/-- No command tells of a transfer. -/
theorem change_notices {d d' : Device} {request : Packet} {ns : List Packet}
    (h : Change d request ns d') : transferNotices sessionId ns = [] := by
  have hstatus : ∀ id state reason,
      (sessionStatusNotification id state reason).transferNotice sessionId = none :=
    fun _ _ _ => notice_none (Or.inr (Or.inl (show ¬ gidSessionConfig = gidSessionControl by
      decide)))
  cases h with
  | housekept | edited | configured => rfl
  | linked i session id oid linkId credit allocated lifecycle configs named =>
    refine notices_none fun n hn => ?_
    rw [List.mem_singleton.mp hn]
    rcases named with rfl | rfl
    · exact notice_other_oid (show ¬ sessionLogicalLinkUwbsCreate = sessionDataCreditNtf by decide)
        (show ¬ sessionLogicalLinkUwbsCreate = sessionDataTransferStatusNtf by decide)
    · exact notice_other_oid (show ¬ sessionLogicalLinkUwbsClose = sessionDataCreditNtf by decide)
        (show ¬ sessionLogicalLinkUwbsClose = sessionDataTransferStatusNtf by decide)
  | reported | opened | closed | moved =>
    exact notices_none fun n hn => List.mem_singleton.mp hn ▸ hstatus _ _ _
  | reset =>
    refine notices_none fun n hn => List.mem_singleton.mp hn ▸ ?_
    exact notice_none (Or.inr (Or.inl (show ¬ gidCore = gidSessionControl by decide)))

/-- A measurement tells nothing of a transfer, where its notifications are told from the others
of their group. -/
theorem sampled_notices {d d' : Device} {ns : List Packet}
    (hoid : d.profile.rangeDataNotificationOid ∉ controlNotificationOids)
    (h : Sampled d ns d') : transferNotices sessionId ns = [] := by
  cases h with
  | silent => rfl
  | sent payload =>
    refine notices_none fun n hn => List.mem_singleton.mp hn ▸ ?_
    refine notice_other_oid (fun hcredit => hoid ?_) (fun hstatus => hoid ?_)
    · rw [show d.profile.rangeDataNotificationOid = sessionDataCreditNtf from hcredit]
      decide
    · rw [show d.profile.rangeDataNotificationOid = sessionDataTransferStatusNtf from hstatus]
      decide

end

end UciSim
