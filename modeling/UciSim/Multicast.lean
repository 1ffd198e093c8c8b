import UciSim.General.BoundedSet
import UciSim.ListMoves

/-!
# The multicast list

A session's multicast entries stand for a set of at most eight pairs of a short
address and a subsession. An update works through the entries of its request in
order, and each of them gets the verdict of the set.
-/

set_option autoImplicit false

namespace UciSim

open Exchange

abbrev MulticastAddress := UInt16 × UInt32

def MulticastEntry.address (entry : MulticastEntry) : MulticastAddress :=
  (entry.shortAddress,entry.subsessionId)

def verdictStatus : BoundedSet.Verdict → UInt8
  | .done => statusOk
  | .present => statusAddressAlreadyPresent
  | .full => statusMulticastListFull
  | .absent => statusAddressNotFound

/-- Every action but removal adds. -/
def multicastOp (action : UInt8) (addresses : Finset MulticastAddress)
    (address : MulticastAddress) : BoundedSet.Verdict × Finset MulticastAddress :=
  if action = multicastActionRemove then BoundedSet.remove addresses address
  else BoundedSet.add maxMulticastEntries addresses address

/-- The entries a payload carries, as many as are declared. An entry has a key of the given
length behind its address; only the last one of the payload may do without. -/
def carriedAddresses (keyLen : ℕ) : ℕ → List UInt8 → List MulticastAddress
  | 0, _ => []
  | remaining+1, rest =>
    if 6+keyLen ≤ rest.length then
      (readU16Le rest 0,readU32Le rest 2)::carriedAddresses keyLen remaining (rest.drop (6+keyLen))
    else if rest.length = 6 then [(readU16Le rest 0,readU32Le rest 2)]
    else []

/-- Seven bytes for each entry worked through. -/
def multicastItems (addresses : List MulticastAddress) (verdicts : List BoundedSet.Verdict) :
    List UInt8 :=
  (List.zipWith (fun address verdict => writeU16Le address.1 ++ writeU32Le address.2 ++
    [verdictStatus verdict]) addresses verdicts).flatten

abbrev multicastReplyRoom : ℕ := (maxPayload-2)/7

namespace Packet

def multicastAction (request : Packet) : UInt8 := byteAt request.payload 5

def declaredMulticast (request : Packet) : ℕ := (byteAt request.payload 4).toNat

def carriedMulticast (request : Packet) : List MulticastAddress :=
  carriedAddresses (Session.multicastKeyLen request.multicastAction) request.declaredMulticast
    (request.payload.drop 6)

end Packet

namespace Session

def multicastSet (session : Session) : Finset MulticastAddress :=
  BoundedSet.contents MulticastEntry.address session.multicastEntries

/-- There are as many cells as the source has, and no address has two of them. -/
structure MulticastKept (session : Session) : Prop where
  cells : session.multicastEntries.length = maxMulticastEntries
  distinct : BoundedSet.Distinct MulticastEntry.address session.multicastEntries

end Session

namespace Device

/-- The request is a supported update of the list of the session at slot `i`. -/
structure UpdatesMulticast (d : Device) (request : Packet) (i : Fin maxSessions) : Prop where
  command : d.Commands request gidSessionConfig sessionUpdateControllerMulticastList i
  long : 6 ≤ request.payload.length
  supported : supportsMulticastAction request.multicastAction = true

/-- The entries the reply has room for are worked through in order on the set. -/
def RefinesSet (d : Device) (request : Packet) (i : Fin maxSessions) : Prop :=
  let addresses := (d.sessions i).multicastSet
  let processed := request.carriedMulticast.take multicastReplyRoom
  let outcome := BoundedSet.run (multicastOp request.multicastAction) addresses processed
  ∃ overall,
    (d.handlePacket request).2.result.response = some ⟨mtResponse,pbfComplete,gidSessionConfig,
      sessionUpdateControllerMulticastList,overall::UInt8.ofNat processed.length::
        multicastItems processed outcome.1⟩ ∧
    (∀ j, ((d.handlePacket request).2.device.sessions j).multicastSet =
      if j = i then outcome.2 else (d.sessions j).multicastSet) ∧
    (overall = statusOk ↔ request.carriedMulticast.length = request.declaredMulticast ∧
      ∀ verdict ∈ (BoundedSet.run (multicastOp request.multicastAction) addresses
        request.carriedMulticast).1, verdict = .done)

end Device

theorem matches_multicast_eq (shortAddress : UInt16) (subsessionId : UInt32) :
    Session.matchesMulticast shortAddress subsessionId =
      BoundedSet.holds MulticastEntry.address (shortAddress,subsessionId) := by
  funext cell
  cases cell with
  | none => rfl
  | some entry =>
    rw [Bool.eq_iff_iff]
    simp [Session.matchesMulticast, BoundedSet.holds, MulticastEntry.address]

theorem verdict_status_ok (verdict : BoundedSet.Verdict) :
    verdictStatus verdict = statusOk ↔ verdict = .done := by
  cases verdict <;> decide

variable {session : Session}

theorem add_multicast_entry_put {key : List UInt8} (h : key.length ≤ 32) (session : Session)
    (shortAddress : UInt16) (subsessionId : UInt32) :
    let outcome := BoundedSet.put MulticastEntry.address session.multicastEntries
      ⟨shortAddress,subsessionId,key⟩
    session.addMulticastEntry shortAddress subsessionId key =
      (verdictStatus outcome.1,{ session with multicastEntries := outcome.2 }) := by
  intro outcome
  unfold Session.addMulticastEntry
  rw [if_neg (Nat.not_lt_of_le h), matches_multicast_eq]
  by_cases hany : session.multicastEntries.any
      (BoundedSet.holds MulticastEntry.address (shortAddress,subsessionId)) = true
  · have hput : outcome = (.present,session.multicastEntries) := if_pos hany
    rw [if_pos hany, hput]
    rfl
  · rw [if_neg hany, show outcome = BoundedSet.put MulticastEntry.address
      session.multicastEntries ⟨shortAddress,subsessionId,key⟩ from rfl]
    unfold BoundedSet.put
    rw [if_neg (by exact hany)]
    cases session.multicastEntries.findIdx? Option.isNone <;> rfl

theorem remove_multicast_entry_clear (session : Session) (shortAddress : UInt16)
    (subsessionId : UInt32) :
    let outcome := BoundedSet.clear MulticastEntry.address session.multicastEntries
      (shortAddress,subsessionId)
    session.removeMulticastEntry shortAddress subsessionId =
      (verdictStatus outcome.1,{ session with multicastEntries := outcome.2 }) := by
  unfold Session.removeMulticastEntry BoundedSet.clear
  rw [matches_multicast_eq]
  cases session.multicastEntries.findIdx?
    (BoundedSet.holds MulticastEntry.address (shortAddress,subsessionId)) <;> rfl

theorem multicast_set_card (h : session.MulticastKept) :
    session.multicastSet.card ≤ maxMulticastEntries :=
  (BoundedSet.contents_card_le h.distinct).trans_eq h.cells

theorem multicast_entry_refines (h : session.MulticastKept) {key : List UInt8}
    (hkey : key.length ≤ 32) (action : UInt8) (shortAddress : UInt16) (subsessionId : UInt32) :
    let entered := if action = multicastActionRemove then
      session.removeMulticastEntry shortAddress subsessionId
      else session.addMulticastEntry shortAddress subsessionId key
    let outcome := multicastOp action session.multicastSet (shortAddress,subsessionId)
    entered.1 = verdictStatus outcome.1 ∧ entered.2.MulticastKept ∧
      entered.2.multicastSet = outcome.2 := by
  unfold multicastOp
  by_cases hr : action = multicastActionRemove
  · rcases BoundedSet.clear_refines h.distinct (shortAddress,subsessionId)
      with ⟨hdistinct,hcells,houtcome⟩
    rw [if_pos hr, if_pos hr, remove_multicast_entry_clear, Session.multicastSet, houtcome]
    exact ⟨rfl,⟨hcells.trans h.cells,hdistinct⟩,rfl⟩
  · rcases BoundedSet.put_refines h.distinct ⟨shortAddress,subsessionId,key⟩
      with ⟨hdistinct,hcells,houtcome⟩
    rw [h.cells] at houtcome
    rw [if_neg hr, if_neg hr, add_multicast_entry_put hkey, Session.multicastSet,
      show (shortAddress,subsessionId) = MulticastEntry.address ⟨shortAddress,subsessionId,key⟩
        from rfl, houtcome]
    exact ⟨rfl,⟨hcells.trans h.cells,hdistinct⟩,rfl⟩

theorem multicast_key_len_le (action : UInt8) : Session.multicastKeyLen action ≤ 32 := by
  unfold Session.multicastKeyLen
  split_ifs <;> decide

theorem carried_addresses_succ (keyLen count : ℕ) (rest : List UInt8) :
    carriedAddresses keyLen (count+1) rest =
      if 6+keyLen ≤ rest.length then
        (readU16Le rest 0,readU32Le rest 2)::carriedAddresses keyLen count (rest.drop (6+keyLen))
      else if rest.length = 6 then [(readU16Le rest 0,readU32Le rest 2)]
      else [] := rfl

theorem carried_addresses_nil (keyLen count : ℕ) : carriedAddresses keyLen count [] = [] := by
  cases count with
  | zero => rfl
  | succ count => rw [carried_addresses_succ, if_neg (Nat.not_le_of_lt (by
      rw [List.length_nil]
      omega)), if_neg (by decide)]

theorem carried_addresses_length (keyLen count : ℕ) (rest : List UInt8) :
    (carriedAddresses keyLen count rest).length ≤ count := by
  induction count generalizing rest with
  | zero => exact Nat.le_refl 0
  | succ count ih =>
    rw [carried_addresses_succ]
    split
    · exact Nat.succ_le_succ (ih _)
    · split
      · exact Nat.succ_le_succ (Nat.zero_le count)
      · exact Nat.zero_le _

/-- The next entry is there with its key, or it is the last one and has none, or it is cut
short. -/
theorem carried_addresses_key (action : UInt8) (count : ℕ) {rest : List UInt8}
    (h : ¬ rest.length < 6) :
    (∃ key tail, Session.multicastKey action (rest.drop 6) = some (key,tail) ∧ key.length ≤ 32 ∧
      carriedAddresses (Session.multicastKeyLen action) (count+1) rest =
        (readU16Le rest 0,readU32Le rest 2)::
          carriedAddresses (Session.multicastKeyLen action) count tail) ∨
    (Session.multicastKey action (rest.drop 6) = none ∧
      carriedAddresses (Session.multicastKeyLen action) (count+1) rest = []) := by
  have hkey := multicast_key_len_le action
  rw [carried_addresses_succ]
  unfold Session.multicastKey
  dsimp only
  rw [List.length_drop]
  by_cases hfull : 6+Session.multicastKeyLen action ≤ rest.length
  · rw [if_pos (by omega), if_pos hfull, List.drop_drop]
    refine Or.inl ⟨_,_,rfl,?_,rfl⟩
    exact (List.length_take_le _ _).trans hkey
  by_cases hlast : rest.length = 6
  · rw [if_neg (by omega), if_neg (by omega), if_neg hfull, if_pos hlast]
    exact Or.inl ⟨[],[],rfl,Nat.zero_le 32,by rw [carried_addresses_nil]⟩
  · rw [if_neg (by omega), if_pos (by omega), if_neg hfull, if_neg hlast]
    exact Or.inr ⟨rfl,rfl⟩

theorem multicast_items_cons (address : MulticastAddress) (addresses : List MulticastAddress)
    (verdict : BoundedSet.Verdict) (verdicts : List BoundedSet.Verdict) :
    multicastItems (address::addresses) (verdict::verdicts) =
      writeU16Le address.1 ++ writeU32Le address.2 ++ [verdictStatus verdict] ++
        multicastItems addresses verdicts := rfl

/-- The induction is on the declared count. The room of the reply and the entries left shrink
together, so the loop ends where the shorter of them does. -/
theorem update_multicast_list_refines (action : UInt8) (count : ℕ) (rest : List UInt8)
    (session : Session) (items : List UInt8) (overall : UInt8) (h : session.MulticastKept) :
    let processed := (carriedAddresses (Session.multicastKeyLen action) count rest).take
      ((maxPayload-2-items.length)/7)
    let outcome := BoundedSet.run (multicastOp action) session.multicastSet processed
    let result := session.updateMulticastList action count rest items overall
    result.2.1 = items ++ multicastItems processed outcome.1 ∧
      result.2.2.MulticastKept ∧ result.2.2.multicastSet = outcome.2 ∧
      (result.1 = statusOk ↔ overall = statusOk ∧ processed.length = count ∧
        ∀ verdict ∈ outcome.1, verdict = .done) := by
  have hsize : maxPayload = 1024 := rfl
  have hinvalid : statusInvalidParam ≠ statusOk := by decide
  induction count generalizing rest session items overall with
  | zero =>
    have hnone : carriedAddresses (Session.multicastKeyLen action) 0 rest = [] := rfl
    rw [hnone, List.take_nil]
    exact ⟨(List.append_nil items).symm,h,rfl,by simp [Session.updateMulticastList, BoundedSet.run]⟩
  | succ count ih =>
    have hstops : ∀ processed : List MulticastAddress, processed = [] →
        items = items ++ multicastItems processed
          (BoundedSet.run (multicastOp action) session.multicastSet processed).1 ∧
        session.MulticastKept ∧ session.multicastSet =
          (BoundedSet.run (multicastOp action) session.multicastSet processed).2 ∧
        (statusInvalidParam = statusOk ↔ overall = statusOk ∧ processed.length = count+1 ∧
          ∀ verdict ∈ (BoundedSet.run (multicastOp action) session.multicastSet processed).1,
            verdict = .done) := by
      rintro _ rfl
      exact ⟨(List.append_nil items).symm,h,rfl,
        iff_of_false hinvalid fun hall => absurd hall.2.1 (Nat.succ_ne_zero count).symm⟩
    unfold Session.updateMulticastList
    by_cases hcut : rest.length < 6 ∨ 2+items.length+7 > maxPayload
    · rw [if_pos hcut]
      refine hstops _ ?_
      rcases hcut with hcut | hcut
      · rw [carried_addresses_succ, if_neg (by omega), if_neg (by omega), List.take_nil]
      · rw [show (maxPayload-2-items.length)/7 = 0 by omega, List.take_zero]
    rw [if_neg hcut]
    dsimp only
    rcases carried_addresses_key action count (fun hshort => hcut (Or.inl hshort)) with
      ⟨key,tail,hkey,hlength,hcarried⟩ | ⟨hkey,hcarried⟩
    · rcases multicast_entry_refines h hlength action (readU16Le rest 0) (readU32Le rest 2)
        with ⟨hstatus,hkept,hset⟩
      have hroom : (maxPayload-2-items.length)/7 = (maxPayload-2-(items.length+7))/7+1 := by omega
      rw [hkey, hcarried, hroom, List.take_succ_cons]
      dsimp only
      generalize (if action = multicastActionRemove then
        session.removeMulticastEntry (readU16Le rest 0) (readU32Le rest 2)
        else session.addMulticastEntry (readU16Le rest 0) (readU32Le rest 2) key) = entered
        at hstatus hkept hset ⊢
      rcases entered with ⟨status,entered⟩
      dsimp only at hstatus hkept hset ⊢
      rw [BoundedSet.run, ← hset, multicast_items_cons, ← hstatus]
      have hnext := ih tail entered (items ++ writeU16Le (readU16Le rest 0) ++
        writeU32Le (readU32Le rest 2) ++ [status])
        (if status ≠ statusOk ∧ overall = statusOk then statusFailed else overall) hkept
      have hitems : (items ++ writeU16Le (readU16Le rest 0) ++ writeU32Le (readU32Le rest 2) ++
          [status]).length = items.length+7 := by
        simp only [List.length_append, List.length_singleton]
        rfl
      rw [hitems] at hnext
      rcases hnext with ⟨hbytes,hfinal,hleft,hok⟩
      refine ⟨?_,hfinal,hleft,hok.trans ?_⟩
      · rw [hbytes]
        simp only [List.append_assoc]
      · have hfirst := verdict_status_ok
          (multicastOp action session.multicastSet (readU16Le rest 0,readU32Le rest 2)).1
        rw [← hstatus] at hfirst
        rw [List.length_cons, List.forall_mem_cons, ← hfirst, Nat.add_right_cancel_iff]
        by_cases hs : status = statusOk
        · rw [if_neg fun hfailed => hfailed.1 hs]
          simp [hs]
        · refine iff_of_false (fun hall => ?_) fun hall => hs hall.2.2.1
          by_cases ho : overall = statusOk
          · rw [if_pos ⟨hs,ho⟩] at hall
            exact absurd hall.1 (by decide)
          · rw [if_neg fun hfailed => ho hfailed.2] at hall
            exact ho hall.1
    · rw [hkey, hcarried, List.take_nil]
      exact hstops _ rfl

theorem multicast_all_done {action : UInt8} {addresses : Finset MulticastAddress}
    {entries : List MulticastAddress} (hroom : addresses.card ≤ maxMulticastEntries)
    (h : ∀ verdict ∈ (BoundedSet.run (multicastOp action) addresses entries).1,
      verdict = .done) : entries.length ≤ maxMulticastEntries := by
  by_cases hr : action = multicastActionRemove
  · have hop : multicastOp action = BoundedSet.remove := by
      funext addresses address
      exact if_pos hr
    rw [hop] at h
    exact (BoundedSet.removes_bounded h).trans hroom
  · have hop : multicastOp action = BoundedSet.add maxMulticastEntries := by
      funext addresses address
      exact if_neg hr
    rw [hop] at h
    have hadds := BoundedSet.adds_bounded hroom h
    omega

namespace Device

variable {d : Device} {request : Packet} {i : Fin maxSessions}

theorem multicast_dispatched (h : d.UpdatesMulticast request i) :
    (start d).dispatchCommand request =
      (start d).handleSessionUpdateMulticastList request :=
  config_command ⟨h.command.mt,h.command.group,h.command.named,h.command.supported⟩
    (.updateMulticastList rfl)

theorem multicast_items_length (addresses : List MulticastAddress)
    (verdicts : List BoundedSet.Verdict) (h : verdicts.length = addresses.length) :
    (multicastItems addresses verdicts).length = 7*addresses.length := by
  induction addresses generalizing verdicts with
  | nil => rfl
  | cons address addresses ih =>
    cases verdicts with
    | nil => cases h
    | cons verdict verdicts =>
      have htail := ih verdicts (Nat.succ.inj h)
      rw [multicast_items_cons, List.length_append, htail, List.length_cons]
      show 7+7*addresses.length = _
      omega

theorem multicast_processed_iff (hkept : (d.sessions i).MulticastKept) (request : Packet) :
    ((request.carriedMulticast.take multicastReplyRoom).length = request.declaredMulticast ∧
      ∀ verdict ∈ (BoundedSet.run (multicastOp request.multicastAction)
        (d.sessions i).multicastSet (request.carriedMulticast.take multicastReplyRoom)).1,
        verdict = .done) ↔
      (request.carriedMulticast.length = request.declaredMulticast ∧
        ∀ verdict ∈ (BoundedSet.run (multicastOp request.multicastAction)
          (d.sessions i).multicastSet request.carriedMulticast).1, verdict = .done) := by
  have hcarried : request.carriedMulticast.length ≤ request.declaredMulticast :=
    carried_addresses_length _ _ _
  have hroom : multicastReplyRoom = 146 := rfl
  have hsize : maxMulticastEntries = 8 := rfl
  by_cases hfits : request.carriedMulticast.length ≤ multicastReplyRoom
  · rw [List.take_of_length_le hfits]
  · refine iff_of_false (fun h => ?_) fun h => ?_
    · have hlength := h.1
      rw [List.length_take] at hlength
      omega
    · have hbound := multicast_all_done (multicast_set_card hkept) h.2
      omega

theorem multicast_refines_set (hkept : (d.sessions i).MulticastKept)
    (h : d.UpdatesMulticast request i) : d.RefinesSet request i := by
  have hloop := update_multicast_list_refines request.multicastAction request.declaredMulticast
    (request.payload.drop 6) (d.sessions i) [] statusOk hkept
  have hhandler : ∃ overall result, result = (d.sessions i).updateMulticastList
        request.multicastAction request.declaredMulticast (request.payload.drop 6) [] statusOk ∧
      overall = (if result.2.1.length/7 ≠ request.declaredMulticast ∧ result.1 = statusOk then
        statusInvalidParam else result.1) ∧
      (start d).dispatchCommand request = (rcOf overall,
        ((start d).setSession i result.2.2).respond gidSessionConfig
          sessionUpdateControllerMulticastList
          ([overall,UInt8.ofNat (result.2.1.length/7)] ++ result.2.1)) := by
    refine ⟨_,_,rfl,rfl,?_⟩
    rw [multicast_dispatched h, handleSessionUpdateMulticastList,
      if_neg (Nat.not_lt_of_le h.long), show (start d).device = d from rfl, h.command.found]
    dsimp only
    have hsupported : ¬ (!supportsMulticastAction (byteAt request.payload 5)) = true := by
      rw [show byteAt request.payload 5 = request.multicastAction from rfl, h.supported]
      decide
    rw [if_neg hsupported]
    rfl
  rcases hhandler with ⟨overall,result,hresult,hoverall,hdispatch⟩
  have hprocessed : (carriedAddresses (Session.multicastKeyLen request.multicastAction)
        request.declaredMulticast (request.payload.drop 6)).take
          ((maxPayload-2-([] : List UInt8).length)/7) =
      request.carriedMulticast.take multicastReplyRoom := rfl
  rw [← hresult] at hloop
  dsimp only at hloop
  rw [hprocessed] at hloop
  rcases hloop with ⟨hitems,-,hset,hok⟩
  rw [List.nil_append] at hitems
  have hcount : result.2.1.length/7 =
      (request.carriedMulticast.take multicastReplyRoom).length := by
    rw [hitems, multicast_items_length _ _ (BoundedSet.run_length _ _ _)]
    omega
  rcases handle_command_device d request h.command.mt with ⟨pending,hdevice⟩
  unfold RefinesSet
  dsimp only
  rw [handle_command_response d request h.command.mt, hdevice, hdispatch, ← hcount]
  refine ⟨overall,?_,fun j => ?_,?_⟩
  · rw [← hitems]
    rfl
  · by_cases hj : j = i
    · subst hj
      rw [if_pos rfl, ← hset]
      exact congrArg Session.multicastSet (setSession_same d j result.2.2)
    · rw [if_neg hj]
      exact congrArg Session.multicastSet (setSession_other d result.2.2 hj)
  · rw [← multicast_processed_iff hkept]
    have hsame : overall = statusOk ↔ result.1 = statusOk := by
      rw [hoverall, hcount]
      by_cases hall : result.1 = statusOk
      · rw [if_neg fun hshort => hshort.1 (hok.mp hall).2.1]
      · rw [if_neg fun hshort => hall hshort.2]
    rw [hsame, hok]
    exact and_iff_right rfl

end Device

theorem multicast_law : ListLaw Session.MulticastKept where
  congr session session' hl h := by
    have hentries : session'.multicastEntries = session.multicastEntries := congrArg Prod.fst hl
    exact ⟨hentries ▸ h.cells,hentries ▸ h.distinct⟩
  zero := ⟨rfl,by decide⟩
  updated session action count rest h :=
    (update_multicast_list_refines action count rest session [] statusOk h).2.1
  linked session session' requestedId mode credit linkId _ hallocated h := by
    unfold Session.allocateLogicalLink at hallocated
    split at hallocated
    · cases hallocated
    · split at hallocated
      · cases hallocated
      · cases hallocated
        exact ⟨h.cells,h.distinct⟩
  unlinked session session' linkId hremoved h := by
    unfold Session.removeLogicalLink at hremoved
    split at hremoved
    · cases hremoved
      exact ⟨h.cells,h.distinct⟩
    · cases hremoved

/-- In every reachable state no session's table holds an address twice, and a supported update
works through its entries on the set that the table stands for. -/
theorem multicast_list_refines_set (profile : Profile) (scenario : Scenario) (ops : List Op) :
    (∀ i, ((Run.reached profile scenario ops).engine.device.sessions i).MulticastKept) ∧
    ∀ request i, (Run.reached profile scenario ops).engine.device.UpdatesMulticast request i →
      (Run.reached profile scenario ops).engine.device.RefinesSet request i := by
  have hkept := multicast_law.reached profile scenario ops
  exact ⟨hkept,fun request i h => Device.multicast_refines_set (hkept i) h⟩

/-- The same address twice, the second time at the end without its key. -/
theorem multicast_list_refines_two :
    (Run.reached defaultProfile .default [.submit (initRequest 1)]).engine.device.RefinesSet
      (hostCommand gidSessionConfig sessionUpdateControllerMulticastList
        (writeU32Le 1 ++ [2,multicastActionAddShortKey,7,0] ++ writeU32Le 5 ++
          List.replicate 16 3 ++ [7,0] ++ writeU32Le 5)) 0 :=
  (multicast_list_refines_set defaultProfile .default [.submit (initRequest 1)]).2 _ 0
    ⟨⟨rfl,rfl,rfl,by decide,by decide +kernel⟩,by decide,by decide⟩

end UciSim
