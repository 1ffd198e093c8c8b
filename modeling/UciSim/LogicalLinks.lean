import UciSim.LinkTables
import UciSim.ListMoves

/-!
# Logical links

A session has at most eight links with distinct identifiers. A new link goes
behind the others under the identifier it asks for or the least that is free, and
a link that is closed leaves the others as they are.
-/

set_option autoImplicit false

namespace UciSim

open Exchange

/-- The eight links at most have distinct identifiers, and none of them is the request for an
automatic one. -/
structure Session.LinksKept (session : Session) : Prop where
  few : session.logicalLinks.length ≤ maxLogicalLinks
  distinct : (session.logicalLinks.map LogicalLink.linkId).Nodup
  named : ∀ link ∈ session.logicalLinks, link.linkId ≠ 0xFF

section

variable {session : Session}

theorem find_link_none {linkId : UInt8} : session.findLogicalLink linkId = none ↔
    ∀ link ∈ session.logicalLinks, link.linkId ≠ linkId := by
  rw [Session.findLogicalLink, List.find?_eq_none]
  simp

/-- Of any nine identifiers one is not in use by eight links. -/
theorem free_link_id_small (h : session.logicalLinks.length ≤ maxLogicalLinks) :
    ∃ id, session.freeLinkId = some id ∧ id < 0xFF := by
  have hsmall : ∃ id ∈ (List.range 9).map UInt8.ofNat, session.findLogicalLink id = none := by
    by_contra hused
    have hsubset : (List.range 9).map UInt8.ofNat ⊆
        session.logicalLinks.map LogicalLink.linkId := by
      intro id hid
      by_contra hnot
      refine hused ⟨id,hid,find_link_none.mpr fun link hlink heq => hnot ?_⟩
      exact List.mem_map.mpr ⟨link,hlink,heq⟩
    have hlength := List.Nodup.length_le_of_subset (by decide) hsubset
    rw [List.length_map, List.length_map, List.length_range] at hlength
    have hsize : maxLogicalLinks = 8 := rfl
    omega
  rcases hsmall with ⟨small,hmem,hfree⟩
  cases hid : session.freeLinkId with
  | none => exact absurd hfree (free_link_id_none.mp hid small)
  | some id =>
    have hle := (free_link_id_least.mp hid).2 hfree
    have hbound : ∀ id ∈ (List.range 9).map UInt8.ofNat, id < 0xFF := by decide +kernel
    exact ⟨id,rfl,UInt8.lt_of_le_of_lt hle (hbound small hmem)⟩

def Session.Assigns (session : Session) (requestedId linkId : UInt8) : Prop :=
  if requestedId = 0xFF then
    IsLeast {id | ∀ link ∈ session.logicalLinks, link.linkId ≠ id} linkId
  else linkId = requestedId

theorem allocate_link_iff (requestedId mode credit linkId : UInt8) (session' : Session) :
    session.allocateLogicalLink requestedId mode credit = some (linkId,session') ↔
      session.logicalLinks.length < maxLogicalLinks ∧ session.Assigns requestedId linkId ∧
        session' = { session with
          logicalLinks := session.logicalLinks ++ [⟨linkId,mode,credit⟩] } := by
  unfold Session.allocateLogicalLink Session.Assigns
  by_cases hfull : session.logicalLinks.length ≥ maxLogicalLinks
  · rw [if_pos hfull]
    exact iff_of_false nofun fun h => absurd h.1 (Nat.not_lt_of_le hfull)
  rw [if_neg hfull]
  have hroom := Nat.lt_of_not_le hfull
  by_cases hauto : requestedId = 0xFF
  · have hleast : session.freeLinkId = some linkId ↔
        IsLeast {id | ∀ link ∈ session.logicalLinks, link.linkId ≠ id} linkId := by
      rw [free_link_id_least]
      simp only [find_link_none]
    rw [if_pos hauto, if_pos hauto, ← hleast]
    cases session.freeLinkId with
    | none => simp
    | some id =>
      simp only [Option.some.injEq, Prod.mk.injEq]
      constructor
      · rintro ⟨rfl,rfl⟩
        exact ⟨hroom,rfl,rfl⟩
      · rintro ⟨-,rfl,rfl⟩
        exact ⟨rfl,rfl⟩
  · rw [if_neg hauto, if_neg hauto]
    simp only [Option.some.injEq, Prod.mk.injEq]
    constructor
    · rintro ⟨rfl,rfl⟩
      exact ⟨hroom,rfl,rfl⟩
    · rintro ⟨-,rfl,rfl⟩
      exact ⟨rfl,rfl⟩

theorem allocate_link_none (h : session.logicalLinks.length ≤ maxLogicalLinks)
    (requestedId mode credit : UInt8) :
    session.allocateLogicalLink requestedId mode credit = none ↔
      session.logicalLinks.length = maxLogicalLinks := by
  unfold Session.allocateLogicalLink
  by_cases hfull : session.logicalLinks.length ≥ maxLogicalLinks
  · rw [if_pos hfull]
    exact iff_of_true rfl (Nat.le_antisymm h hfull)
  rw [if_neg hfull]
  refine iff_of_false ?_ fun heq => hfull heq.ge
  rcases free_link_id_small h with ⟨id,hid,-⟩
  by_cases hauto : requestedId = 0xFF
  · rw [if_pos hauto, hid]
    nofun
  · rw [if_neg hauto]
    nofun

theorem erase_link {links : List LogicalLink} (h : (links.map LogicalLink.linkId).Nodup)
    (linkId : UInt8) : links.eraseP (fun link => link.linkId == linkId) =
      links.filter fun link => link.linkId != linkId := by
  induction links with
  | nil => rfl
  | cons link links ih =>
    rw [List.map_cons, List.nodup_cons] at h
    by_cases hid : link.linkId = linkId
    · have hothers : links.filter (fun link => link.linkId != linkId) = links := by
        rw [List.filter_eq_self]
        intro other hmem
        have hne : other.linkId ≠ linkId := fun heq =>
          h.1 (List.mem_map.mpr ⟨other,hmem,heq.trans hid.symm⟩)
        simpa using hne
      rw [List.eraseP_cons_of_pos (by simpa using hid),
        List.filter_cons_of_neg (by simpa using hid), hothers]
    · rw [List.eraseP_cons_of_neg (by simpa using hid),
        List.filter_cons_of_pos (by simpa using hid), ih h.2]

end

theorem links_law : ListLaw Session.LinksKept where
  congr session session' hl h := by
    have hlinks : session'.logicalLinks = session.logicalLinks := congrArg Prod.snd hl
    exact ⟨hlinks ▸ h.few,hlinks ▸ h.distinct,hlinks ▸ h.named⟩
  zero := ⟨Nat.zero_le _,List.nodup_nil,nofun⟩
  updated session action count rest h := by
    rcases update_multicast_list_eq action count rest session [] statusOk with ⟨entries,heq⟩
    rw [heq]
    exact ⟨h.few,h.distinct,h.named⟩
  linked session session' requestedId mode credit linkId hunused hallocated h := by
    rcases (allocate_link_iff _ _ _ _ _).mp hallocated with ⟨hroom,hassigns,rfl⟩
    have hnew : (∀ link ∈ session.logicalLinks, link.linkId ≠ linkId) ∧ linkId ≠ 0xFF := by
      unfold Session.Assigns at hassigns
      by_cases hauto : requestedId = 0xFF
      · rw [if_pos hauto] at hassigns
        refine ⟨hassigns.1,?_⟩
        rintro rfl
        rcases free_link_id_small h.few with ⟨id,hid,hsmall⟩
        have hfree := find_link_none.mp (free_link_id_least.mp hid).1
        exact UInt8.not_le.mpr hsmall (hassigns.2 hfree)
      · rw [if_neg hauto] at hassigns
        rw [hassigns]
        exact ⟨find_link_none.mp (hunused hauto),hauto⟩
    refine ⟨?_,?_,?_⟩
    · rw [List.length_append, List.length_singleton]
      exact hroom
    · rw [List.map_append, List.nodup_append]
      refine ⟨h.distinct,by simp,?_⟩
      intro id hid other hother
      rcases List.mem_map.mp hid with ⟨link,hlink,rfl⟩
      rw [List.map_singleton, List.mem_singleton] at hother
      rw [hother]
      exact hnew.1 link hlink
    · intro link hlink
      rcases List.mem_append.mp hlink with hlink | hlink
      · exact h.named link hlink
      · rw [List.mem_singleton.mp hlink]
        exact hnew.2
  unlinked session session' linkId hremoved h := by
    unfold Session.removeLogicalLink at hremoved
    split at hremoved
    · cases hremoved
      have hsub := List.eraseP_sublist (p := fun link : LogicalLink => link.linkId == linkId)
        (l := session.logicalLinks)
      exact ⟨hsub.length_le.trans h.few,h.distinct.sublist (hsub.map _),
        fun link hlink => h.named link (hsub.subset hlink)⟩
    · cases hremoved

namespace Device

def links (d : Device) (i : Fin maxSessions) : List LogicalLink := (d.sessions i).logicalLinks

/-- The request is the link command `oid` for the session at slot `i`, and names a link. -/
structure AsksLink (d : Device) (request : Packet) (oid : UInt8) (i : Fin maxSessions) :
    Prop where
  command : d.Commands request gidSessionControl oid i
  long : 5 ≤ request.payload.length

def RespondsLink (d : Device) (request : Packet) (payload : List UInt8) : Prop :=
  (d.handlePacket request).2.result.response =
    some ⟨mtResponse,pbfComplete,gidSessionControl,request.oid,payload⟩

/-- The links of the slot `i` are as given, those of the others as they were. -/
def LeavesLinks (d : Device) (request : Packet) (i : Fin maxSessions)
    (links : List LogicalLink) : Prop :=
  ∀ j, (d.handlePacket request).2.device.links j = if j = i then links else d.links j

/-- A creation fails exactly when the identifier is in use or the table is full, and its link
goes behind the others. -/
structure CreatesLink (d : Device) (request : Packet) (i : Fin maxSessions) : Prop where
  explicit : request.linkId ≠ 0xFF → (¬ Acknowledged d request ↔
    (∃ link ∈ d.links i, link.linkId = request.linkId) ∨ (d.links i).length = maxLogicalLinks)
  automatic : request.linkId = 0xFF →
    (¬ Acknowledged d request ↔ (d.links i).length = maxLogicalLinks)
  created : Acknowledged d request → ∃ linkId, (d.sessions i).Assigns request.linkId linkId ∧
    d.RespondsLink request [statusOk,linkId,request.linkCredit] ∧
    d.LeavesLinks request i
      (d.links i ++ [⟨linkId,request.linkMode,request.linkCredit⟩])
  refused : ¬ Acknowledged d request → d.LeavesLinks request i (d.links i)

/-- Closing a link succeeds exactly when there is one, and takes away this one only. -/
structure ClosesLink (d : Device) (request : Packet) (i : Fin maxSessions) : Prop where
  accepted : Acknowledged d request ↔ ∃ link ∈ d.links i, link.linkId = request.linkId
  closed : d.LeavesLinks request i
    ((d.links i).filter fun link => link.linkId != request.linkId)

variable {d : Device} {request : Packet} {i : Fin maxSessions}

theorem control_dispatched {oid : UInt8}
    {handler : Exchange → Packet → Fin maxSessions → Rc × Exchange} (h : d.AsksLink request oid i)
    (hlisted : ControlCommand oid handler) :
    (start d).dispatchCommand request = handler (start d) request i := by
  have hlong := h.long
  refine dispatch_control_of (h.command.named ▸ hlisted) h.command.group ?_ (by omega)
    h.command.found
  rw [h.command.group, h.command.named]
  exact h.command.supported

theorem link_outcome {oid : UInt8} {rc : Rc} {x : Exchange} {payload : List UInt8}
    (session : Session) (h : d.AsksLink request oid i)
    (hdispatch : (start d).dispatchCommand request = (rc,x))
    (hresponse : x.result.response =
      some ⟨mtResponse,pbfComplete,gidSessionControl,request.oid,payload⟩)
    (hdevice : ∃ pending, x.device = (d.setSession i session).withPending pending) :
    d.RespondsLink request payload ∧
      (Acknowledged d request ↔ byteAt payload 0 = statusOk) ∧
      d.LeavesLinks request i session.logicalLinks := by
  rcases command_outcome h.command.mt hdispatch hresponse hdevice with ⟨hack,pending,hp⟩
  refine ⟨?_,hack,fun j => ?_⟩
  · rw [RespondsLink, handle_command_response d request h.command.mt, hdispatch]
    exact hresponse
  · unfold links
    rw [hp]
    by_cases hj : j = i
    · subst hj
      rw [if_pos rfl]
      exact congrArg Session.logicalLinks (setSession_same d j session)
    · rw [if_neg hj]
      exact congrArg Session.logicalLinks (setSession_other d session hj)

theorem set_session_self (d : Device) (i : Fin maxSessions) :
    d.setSession i (d.sessions i) = d := by
  unfold setSession
  rw [Function.update_eq_self]

theorem link_refused {oid : UInt8} {payload : List UInt8} (h : d.AsksLink request oid i)
    (hdispatch : (start d).dispatchCommand request =
      (.err,(start d).respond gidSessionControl oid payload))
    (hs : byteAt payload 0 ≠ statusOk) :
    d.RespondsLink request payload ∧ ¬ Acknowledged d request ∧
      d.LeavesLinks request i (d.links i) := by
  have hsame : ∃ pending, ((start d).respond gidSessionControl oid payload).device =
      (d.setSession i (d.sessions i)).withPending pending :=
    ⟨d.pendingNotifications,by rw [set_session_self]; rfl⟩
  rcases link_outcome _ h hdispatch (by rw [h.command.named]; rfl) hsame with
    ⟨hresponse,hack,hlinks⟩
  exact ⟨hresponse,fun hok => hs (hack.mp hok),hlinks⟩

theorem create_link_dispatched (h : d.AsksLink request sessionLogicalLinkCreate i) :
    (start d).dispatchCommand request =
      if request.linkId ≠ 0xFF ∧ ((d.sessions i).findLogicalLink request.linkId).isSome then
        (Rc.err,(start d).respond gidSessionControl sessionLogicalLinkCreate
          [statusInvalidParam,0xFF,0])
      else if (d.links i).length ≥ maxLogicalLinks then
        (Rc.err,(start d).respond gidSessionControl sessionLogicalLinkCreate
          [statusMulticastListFull,0xFF,0])
      else match (d.sessions i).allocateLogicalLink request.linkId request.linkMode
          request.linkCredit with
        | none => (Rc.err,(start d).respond gidSessionControl sessionLogicalLinkCreate
            [statusInvalidParam,0xFF,0])
        | some (assignedId,session) =>
          (.ok,(((start d).setSession i session).respond gidSessionControl
            sessionLogicalLinkCreate [statusOk,assignedId,request.linkCredit]).emit
              (logicalLinkNotification request.target sessionLogicalLinkUwbsCreate assignedId
                request.linkCredit)) := by
  rw [control_dispatched h (.logicalLinkCreate rfl)]
  unfold handleLogicalLinkCreate
  rw [if_neg (Nat.not_lt_of_le h.long)]
  rfl

theorem create_link_granted (h : d.AsksLink request sessionLogicalLinkCreate i)
    (hunused : request.linkId ≠ 0xFF → (d.sessions i).findLogicalLink request.linkId = none)
    {linkId : UInt8} {session : Session}
    (hallocated : (d.sessions i).allocateLogicalLink request.linkId request.linkMode
      request.linkCredit = some (linkId,session)) :
    d.RespondsLink request [statusOk,linkId,request.linkCredit] ∧ Acknowledged d request ∧
      d.LeavesLinks request i
        (d.links i ++ [⟨linkId,request.linkMode,request.linkCredit⟩]) := by
  have hdispatch := create_link_dispatched h
  rcases (allocate_link_iff _ _ _ _ _).mp hallocated with ⟨hroom,-,hsession⟩
  have hfull : ¬ (d.links i).length ≥ maxLogicalLinks := Nat.not_le_of_lt hroom
  rw [if_neg fun hused => absurd (hunused hused.1) (Option.isSome_iff_ne_none.mp hused.2),
    if_neg hfull, hallocated] at hdispatch
  rcases link_outcome session h hdispatch (by rw [emit_response, h.command.named]; rfl)
    (emit_device _ _) with ⟨hresponse,hack,hlinks⟩
  rw [hsession] at hlinks
  exact ⟨hresponse,hack.mpr rfl,hlinks⟩

theorem create_link_refines (hkept : (d.sessions i).LinksKept)
    (h : d.AsksLink request sessionLogicalLinkCreate i) : d.CreatesLink request i := by
  have hdispatch := create_link_dispatched h
  have hused : ((d.sessions i).findLogicalLink request.linkId).isSome = true ↔
      ∃ link ∈ d.links i, link.linkId = request.linkId := by
    rw [Option.isSome_iff_ne_none, ne_eq, find_link_none]
    simp [links]
  by_cases hexplicit : request.linkId ≠ 0xFF ∧
      ((d.sessions i).findLogicalLink request.linkId).isSome
  · rw [if_pos hexplicit] at hdispatch
    rcases link_refused h hdispatch (by decide) with ⟨-,hack,hlinks⟩
    exact ⟨fun _ => iff_of_true hack (Or.inl (hused.mp hexplicit.2)),
      fun hauto => absurd hauto hexplicit.1,fun hok => absurd hok hack,fun _ => hlinks⟩
  rw [if_neg hexplicit] at hdispatch
  have hunused : request.linkId ≠ 0xFF → ¬ ∃ link ∈ d.links i, link.linkId = request.linkId :=
    fun hid hlink => hexplicit ⟨hid,hused.mpr hlink⟩
  by_cases hfull : (d.links i).length ≥ maxLogicalLinks
  · have hlength := Nat.le_antisymm hkept.few hfull
    rw [if_pos hfull] at hdispatch
    rcases link_refused h hdispatch (by decide) with ⟨-,hack,hlinks⟩
    exact ⟨fun _ => iff_of_true hack (Or.inr hlength),fun _ => iff_of_true hack hlength,
      fun hok => absurd hok hack,fun _ => hlinks⟩
  have hlength : (d.links i).length ≠ maxLogicalLinks := fun heq => hfull heq.ge
  cases hallocated : (d.sessions i).allocateLogicalLink request.linkId request.linkMode
      request.linkCredit with
  | none => exact absurd ((allocate_link_none hkept.few _ _ _).mp hallocated) hlength
  | some assigned =>
    have hassigns := ((allocate_link_iff _ _ _ _ _).mp hallocated).2.1
    have hfree : request.linkId ≠ 0xFF →
        (d.sessions i).findLogicalLink request.linkId = none := by
      intro hid
      exact Option.not_isSome_iff_eq_none.mp fun hsome => hexplicit ⟨hid,hsome⟩
    rcases create_link_granted h hfree hallocated with ⟨hresponse,hok,hlinks⟩
    exact ⟨fun hid => iff_of_false (not_not.mpr hok) (not_or.mpr ⟨hunused hid,hlength⟩),
      fun _ => iff_of_false (not_not.mpr hok) hlength,
      fun _ => ⟨assigned.1,hassigns,hresponse,hlinks⟩,fun hrefused => absurd hok hrefused⟩

theorem create_link_leaves (h : d.AsksLink request sessionLogicalLinkCreate i) :
    (d.handlePacket request).2.device.links i =
      if request.linkId ≠ 0xFF ∧ ((d.sessions i).findLogicalLink request.linkId).isSome then
        (d.sessions i).logicalLinks
      else match (d.sessions i).allocateLogicalLink request.linkId request.linkMode
          request.linkCredit with
        | none => (d.sessions i).logicalLinks
        | some (_,session) => session.logicalLinks := by
  have hdispatch := create_link_dispatched h
  have hkeeps : ∀ payload : List UInt8, byteAt payload 0 ≠ statusOk →
      (start d).dispatchCommand request =
        (.err,(start d).respond gidSessionControl sessionLogicalLinkCreate payload) →
      (d.handlePacket request).2.device.links i = (d.sessions i).logicalLinks := by
    intro payload hs hrefused
    rw [(link_refused h hrefused hs).2.2 i, if_pos rfl]
    rfl
  by_cases hexplicit : request.linkId ≠ 0xFF ∧
      ((d.sessions i).findLogicalLink request.linkId).isSome
  · rw [if_pos hexplicit] at hdispatch ⊢
    exact hkeeps _ (by decide) hdispatch
  rw [if_neg hexplicit] at hdispatch ⊢
  cases hallocated : (d.sessions i).allocateLogicalLink request.linkId request.linkMode
      request.linkCredit with
  | none =>
    rw [hallocated] at hdispatch
    split at hdispatch
    · exact hkeeps _ (by decide) hdispatch
    · exact hkeeps _ (by decide) hdispatch
  | some assigned =>
    have hfree : request.linkId ≠ 0xFF →
        (d.sessions i).findLogicalLink request.linkId = none := by
      intro hid
      exact Option.not_isSome_iff_eq_none.mp fun hsome => hexplicit ⟨hid,hsome⟩
    have hsession := ((allocate_link_iff _ _ _ _ _).mp hallocated).2.2
    rw [(create_link_granted h hfree hallocated).2.2 i, if_pos rfl]
    exact (congrArg Session.logicalLinks hsession).symm

theorem close_link_refines (hkept : (d.sessions i).LinksKept)
    (h : d.AsksLink request sessionLogicalLinkClose i) : d.ClosesLink request i := by
  have hdispatch : (start d).dispatchCommand request =
      (start d).handleLogicalLinkClose request i := by
    rw [control_dispatched h (.logicalLinkClose rfl)]
  unfold handleLogicalLinkClose at hdispatch
  rw [if_neg (Nat.not_lt_of_le h.long)] at hdispatch
  dsimp only at hdispatch
  have herased := erase_link hkept.distinct request.linkId
  cases hfound : (d.sessions i).findLogicalLink request.linkId with
  | none =>
    have hremoved : (d.sessions i).removeLogicalLink request.linkId = none := by
      unfold Session.removeLogicalLink
      rw [hfound]
      rfl
    have hnone := find_link_none.mp hfound
    rw [show ((start d).device.sessions i).removeLogicalLink (byteAt request.payload 4) = none
      from hremoved] at hdispatch
    rcases link_refused h hdispatch (show statusInvalidParam ≠ statusOk by decide)
      with ⟨-,hack,hlinks⟩
    refine ⟨iff_of_false hack fun ⟨link,hlink,hid⟩ => hnone link hlink hid,?_⟩
    have hall : (d.links i).filter (fun link => link.linkId != request.linkId) = d.links i := by
      rw [List.filter_eq_self]
      intro link hlink
      simpa using hnone link hlink
    rwa [hall]
  | some link =>
    have hremoved : (d.sessions i).removeLogicalLink request.linkId = some { d.sessions i with
        logicalLinks := (d.sessions i).logicalLinks.eraseP
          (fun link => link.linkId == request.linkId) } := by
      unfold Session.removeLogicalLink
      rw [hfound]
      rfl
    rw [show ((start d).device.sessions i).removeLogicalLink (byteAt request.payload 4) = some _
      from hremoved] at hdispatch
    rcases link_outcome _ h hdispatch (by rw [emit_response, h.command.named]; rfl)
      (emit_device _ _) with ⟨-,hack,hlinks⟩
    have hmem := List.mem_of_find?_eq_some hfound
    have hid := List.find?_some hfound
    refine ⟨iff_of_true (hack.mpr rfl) ⟨link,hmem,by simpa using hid⟩,?_⟩
    dsimp only at hlinks
    rwa [herased] at hlinks

theorem link_param_responds (h : d.AsksLink request sessionLogicalLinkGetParam i)
    (linkId mode credit : UInt8) :
    d.RespondsLink request [statusOk,linkId,mode,credit] ↔
      (d.sessions i).findLogicalLink request.linkId = some ⟨linkId,mode,credit⟩ := by
  have hdispatch : (start d).dispatchCommand request =
      (start d).handleLogicalLinkGetParam request i := by
    rw [control_dispatched h (.logicalLinkGetParam rfl)]
  unfold handleLogicalLinkGetParam at hdispatch
  rw [if_neg (Nat.not_lt_of_le h.long)] at hdispatch
  dsimp only at hdispatch
  unfold RespondsLink
  rw [handle_command_response d request h.command.mt, hdispatch, h.command.named]
  change (Exchange.result (Prod.snd _)).response = _ ↔ _
  cases hfound : (d.sessions i).findLogicalLink request.linkId with
  | none =>
    rw [show ((start d).device.sessions i).findLogicalLink (byteAt request.payload 4) = none
      from hfound]
    refine iff_of_false (fun hresponse => ?_) nofun
    injection hresponse with hpacket
    injection hpacket with _ _ _ _ hpayload
    injection hpayload with hstatus
    exact absurd hstatus (by decide)
  | some link =>
    rw [show ((start d).device.sessions i).findLogicalLink (byteAt request.payload 4) = some link
      from hfound]
    have hid : link.linkId = request.linkId := by simpa using List.find?_some hfound
    rcases link with ⟨linkId',mode',credit'⟩
    change linkId' = byteAt request.payload 4 at hid
    rw [← hid]
    constructor
    · intro hresponse
      injection hresponse with hpacket
      injection hpacket with _ _ _ _ hpayload
      simpa using hpayload
    · intro hlink
      cases hlink
      rfl

end Device

end UciSim
