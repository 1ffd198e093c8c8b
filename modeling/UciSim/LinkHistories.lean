import UciSim.LogicalLinks

/-!
# The history of a link

A link keeps what its creation gave it and its place among the others until it is
closed, and it goes with its session or with the whole device. The arrays of the
source, worked on by its own loops, hold the links of every session in order.
-/

set_option autoImplicit false

namespace UciSim

open Exchange

namespace Device

variable {d : Device} {request : Packet} {i : Fin maxSessions}

def HasLink (d : Device) (sessionId : UInt32) (link : LogicalLink) : Prop :=
  ∃ i, (d.sessions i).allocated = true ∧ (d.sessions i).sessionId = sessionId ∧ link ∈ d.links i

/-- The request creates the link: it asks for its mode and credit, and is answered with its
identifier. -/
def GivesLink (d : Device) (request : Packet) (sessionId : UInt32) (link : LogicalLink) : Prop :=
  ∃ i, d.AsksLink request sessionLogicalLinkCreate i ∧ request.target = sessionId ∧
    d.RespondsLink request [statusOk,link.linkId,link.credit] ∧ link.mode = request.linkMode ∧
      link.credit = request.linkCredit

/-- The request closes the link, or the session, or resets the device. -/
def EndsLink (d : Device) (request : Packet) (sessionId : UInt32) (linkId : UInt8) : Prop :=
  (∃ i, d.AsksLink request sessionLogicalLinkClose i ∧ request.target = sessionId ∧
    request.linkId = linkId) ∨
  (d.Deinits request ∧ request.target = sessionId) ∨ d.AcceptsReset request

theorem commands_slot {gid oid : UInt8} (h : d.Commands request gid oid i) :
    (d.sessions i).allocated = true ∧ (d.sessions i).sessionId = request.target :=
  find_session_some h.found

theorem moved_slot {session : Session} (h : ListsMove d request i session) :
    ((d.sessions i).allocated = true → session.allocated = true ∧
      session.sessionId = (d.sessions i).sessionId) ∨
    (session = Session.zero ∧ (d.AcceptsReset request ∨ d.Deinits request ∧
      d.findSession request.target = some i)) := by
  cases h with
  | kept _ same => exact Or.inl fun ha => ⟨same.allocated ha,same.sessionId ha⟩
  | closed command long =>
    exact Or.inr ⟨rfl,Or.inr ⟨⟨⟨command.mt,command.group,command.named,command.supported⟩,long⟩,
      command.found⟩⟩
  | reset accepted => exact Or.inr ⟨rfl,Or.inl accepted⟩
  | updated command =>
    rcases update_multicast_list_eq (byteAt request.payload 5) (byteAt request.payload 4).toNat
      (request.payload.drop 6) (d.sessions i) [] statusOk with ⟨entries,heq⟩
    rw [heq]
    exact Or.inl fun ha => ⟨ha,rfl⟩
  | linked linkId _ command long unused allocated =>
    rcases (allocate_link_iff _ _ _ _ _).mp allocated with ⟨-,-,rfl⟩
    exact Or.inl fun ha => ⟨ha,rfl⟩
  | unlinked _ command long removed =>
    unfold Session.removeLogicalLink at removed
    split at removed
    · cases removed
      exact Or.inl fun ha => ⟨ha,rfl⟩
    · cases removed

theorem moved_link {session : Session} {link : LogicalLink} (h : ListsMove d request i session)
    (hlink : link ∈ session.logicalLinks) :
    link ∈ d.links i ∨ d.AsksLink request sessionLogicalLinkCreate i ∧
      ∃ linkId, d.RespondsLink request [statusOk,linkId,request.linkCredit] ∧
        link = ⟨linkId,request.linkMode,request.linkCredit⟩ := by
  cases h with
  | kept _ same =>
    have hlinks : session.logicalLinks = d.links i := congrArg Prod.snd same.lists
    exact Or.inl (hlinks ▸ hlink)
  | closed => cases hlink
  | reset => cases hlink
  | updated command =>
    rcases update_multicast_list_eq (byteAt request.payload 5) (byteAt request.payload 4).toNat
      (request.payload.drop 6) (d.sessions i) [] statusOk with ⟨entries,heq⟩
    rw [heq] at hlink
    exact Or.inl hlink
  | linked linkId _ command long unused allocated =>
    have hsession := ((allocate_link_iff _ _ _ _ _).mp allocated).2.2
    rw [hsession] at hlink
    rcases List.mem_append.mp hlink with hlink | hlink
    · exact Or.inl hlink
    · exact Or.inr ⟨⟨command,long⟩,linkId,
        (create_link_granted ⟨command,long⟩ unused allocated).1,List.mem_singleton.mp hlink⟩
  | unlinked _ command long removed =>
    unfold Session.removeLogicalLink at removed
    split at removed
    · cases removed
      exact Or.inl (List.mem_of_mem_eraseP hlink)
    · cases removed

theorem kept_link {session : Session} {link : LogicalLink} (h : ListsMove d request i session)
    (hlink : link ∈ d.links i)
    (hstays : ¬ d.EndsLink request (d.sessions i).sessionId link.linkId) :
    link ∈ session.logicalLinks := by
  cases h with
  | kept _ same =>
    have hlinks : session.logicalLinks = d.links i := congrArg Prod.snd same.lists
    rwa [hlinks]
  | closed command long =>
    refine absurd (Or.inr (Or.inl ⟨⟨⟨command.mt,command.group,command.named,
      command.supported⟩,long⟩,?_⟩)) hstays
    exact (commands_slot command).2.symm
  | reset accepted => exact absurd (Or.inr (Or.inr accepted)) hstays
  | updated command =>
    rcases update_multicast_list_eq (byteAt request.payload 5) (byteAt request.payload 4).toNat
      (request.payload.drop 6) (d.sessions i) [] statusOk with ⟨entries,heq⟩
    rw [heq]
    exact hlink
  | linked linkId _ command long unused allocated =>
    rw [((allocate_link_iff _ _ _ _ _).mp allocated).2.2]
    exact List.mem_append_left _ hlink
  | unlinked _ command long removed =>
    have hother : link.linkId ≠ request.linkId := fun hid => hstays
      (Or.inl ⟨i,⟨command,long⟩,(commands_slot command).2.symm,hid.symm⟩)
    unfold Session.removeLogicalLink at removed
    split at removed
    · cases removed
      exact (List.mem_eraseP_of_neg (by simpa using hother)).mpr hlink
    · cases removed

theorem gives_link (hkept : (d.sessions i).LinksKept)
    (h : d.AsksLink request sessionLogicalLinkCreate i) {linkId : UInt8}
    (hresponse : d.RespondsLink request [statusOk,linkId,request.linkCredit]) :
    (⟨linkId,request.linkMode,request.linkCredit⟩ : LogicalLink) ∈
      (d.handlePacket request).2.device.links i := by
  have hok : Acknowledged d request := ⟨_,hresponse,rfl⟩
  rcases (create_link_refines hkept h).created hok with ⟨assigned,-,hassigned,hlinks⟩
  have hid : linkId = assigned := by
    unfold RespondsLink at hresponse hassigned
    rw [hresponse] at hassigned
    injection hassigned with hpacket
    injection hpacket with _ _ _ _ hpayload
    simpa using hpayload
  rw [hlinks i, if_pos rfl, hid]
  exact List.mem_append_right _ (List.mem_singleton.mpr rfl)

theorem deinit_absent (hslots : d.SlotsKept) (h : d.Deinits request) :
    (d.handlePacket request).2.device.sessionMap request.target = none := by
  have hrefines := deinit_refines hslots h
  by_cases hok : Acknowledged d request
  · rw [hrefines.removed hok, Function.update_self]
  · rcases hrefines.refused hok with ⟨pending,hp⟩
    rw [hp]
    exact not_not.mp fun hsome => hok (hrefines.accepted.mpr hsome)

theorem reset_links (h : d.AcceptsReset request) (j : Fin maxSessions) :
    (d.handlePacket request).2.device.links j = [] := by
  rcases handle_command_device d request h.1.1 with ⟨p,hp⟩
  rw [reset_dispatched h] at hp
  rcases posted_device d.resetRuntimeState
    (some ⟨mtResponse,pbfComplete,request.gid,request.oid,[statusOk]⟩)
    (.delivered [deviceStatusNotification d.resetRuntimeState.deviceState]) with ⟨q,hq⟩
  rw [hp, hq]
  rfl

theorem ended_link (hslots : d.SlotsKept) (hkept : ∀ i, (d.sessions i).LinksKept)
    {sessionId : UInt32} {link : LogicalLink} (h : d.EndsLink request sessionId link.linkId) :
    ¬ (d.handlePacket request).2.device.HasLink sessionId link := by
  rintro ⟨j,hallocated,hid,hlink⟩
  have hmoves := handled_lists d request j
  rcases h with ⟨i,hasks,htarget,hnamed⟩ | ⟨hdeinits,htarget⟩ | hreset
  · rcases commands_slot hasks.command with ⟨ha,hi⟩
    have hj : j = i := by
      by_contra hother
      rcases moved_slot hmoves with hslot | ⟨hzero,-⟩
      · rcases Bool.eq_false_or_eq_true (d.sessions j).allocated with hused | hfree
        · refine hother (hslots.distinct j i hused ha ?_)
          exact ((hslot hused).2.symm.trans hid).trans (htarget.symm.trans hi.symm)
        · have hblank : d.links j = [] := congrArg Session.logicalLinks (hslots.blank j hfree)
          rw [(close_link_refines (hkept i) hasks).closed j, if_neg hother, hblank] at hlink
          cases hlink
      · rw [hzero] at hallocated
        cases hallocated
    subst hj
    rw [(close_link_refines (hkept j) hasks).closed j, if_pos rfl, List.mem_filter, hnamed]
      at hlink
    simp at hlink
  · exact Slots.find_none (L := Session.layout)
      (session_map_absent.mp (deinit_absent hslots hdeinits)) hallocated (hid.trans htarget.symm)
  · rw [reset_links hreset] at hlink
    cases hlink

theorem has_link_handled (hslots : d.SlotsKept) (hkept : ∀ i, (d.sessions i).LinksKept)
    (sessionId : UInt32) (link : LogicalLink) :
    (d.handlePacket request).2.device.HasLink sessionId link ↔
      d.GivesLink request sessionId link ∨
        (d.HasLink sessionId link ∧ ¬ d.EndsLink request sessionId link.linkId) := by
  constructor
  · rintro ⟨i,hallocated,hid,hlink⟩
    have hmoves := handled_lists d request i
    have hused : (d.sessions i).allocated = true := by
      by_contra hfree
      have hblank := hslots.blank i (Bool.eq_false_iff.mpr hfree)
      rcases moved_link hmoves hlink with hbefore | ⟨hasks,-⟩
      · have hnone : d.links i = [] := congrArg Session.logicalLinks hblank
        rw [hnone] at hbefore
        cases hbefore
      · exact hfree (commands_slot hasks.command).1
    have hsame : (d.sessions i).sessionId = sessionId := by
      rcases moved_slot hmoves with hslot | ⟨hzero,-⟩
      · exact (hslot hused).2.symm.trans hid
      · rw [hzero] at hallocated
        cases hallocated
    rcases moved_link hmoves hlink with hbefore | ⟨hasks,linkId,hresponse,rfl⟩
    · refine Or.inr ⟨⟨i,hused,hsame,hbefore⟩,fun hends => ?_⟩
      exact ended_link hslots hkept hends ⟨i,hallocated,hid,hlink⟩
    · exact Or.inl ⟨i,hasks,(commands_slot hasks.command).2.symm.trans hsame,hresponse,rfl,rfl⟩
  · rintro (⟨i,hasks,htarget,hresponse,hmode,hcredit⟩ | ⟨⟨i,hused,hid,hlink⟩,hstays⟩)
    · rcases commands_slot hasks.command with ⟨ha,hi⟩
      have hthere : link ∈ (d.handlePacket request).2.device.links i := by
        rw [hcredit] at hresponse
        have hgiven := gives_link (hkept i) hasks hresponse
        rwa [← hmode, ← hcredit] at hgiven
      rcases moved_slot (handled_lists d request i) with hslot | ⟨hzero,-⟩
      · exact ⟨i,(hslot ha).1,((hslot ha).2.trans hi).trans htarget,hthere⟩
      · unfold links at hthere
        rw [hzero] at hthere
        cases hthere
    · have hmoves := handled_lists d request i
      rcases moved_slot hmoves with hslot | ⟨-,hreset | ⟨hdeinits,hfound⟩⟩
      · exact ⟨i,(hslot hused).1,(hslot hused).2.trans hid,
          kept_link hmoves hlink (by rwa [hid])⟩
      · exact absurd (Or.inr (Or.inr hreset)) hstays
      · have htarget := (find_session_some hfound).2.symm.trans hid
        exact absurd (Or.inr (Or.inl ⟨hdeinits,htarget⟩)) hstays

instance (d : Device) (request : Packet) (gid oid : UInt8) (i : Fin maxSessions) :
    Decidable (d.Commands request gid oid i) :=
  decidable_of_iff (request.mt = mtCommand ∧ request.gid = gid ∧ request.oid = oid ∧
      d.profile.supportsCommand gid oid = true ∧ d.findSession request.target = some i)
    ⟨fun ⟨hmt,hgid,hoid,hs,hfound⟩ => ⟨hmt,hgid,hoid,hs,hfound⟩,
      fun h => ⟨h.mt,h.group,h.named,h.supported,h.found⟩⟩

instance (d : Device) (request : Packet) (oid : UInt8) (i : Fin maxSessions) :
    Decidable (d.AsksLink request oid i) :=
  decidable_of_iff (d.Commands request gidSessionControl oid i ∧ 5 ≤ request.payload.length)
    ⟨fun ⟨hcommand,hlong⟩ => ⟨hcommand,hlong⟩,fun h => ⟨h.command,h.long⟩⟩

def linkTableAfter (d : Device) (request : Packet) (i : Fin maxSessions) (table : LinkTable) :
    LinkTable :=
  if d.AcceptsReset request then .zero
  else if d.Commands request gidSessionConfig sessionDeinit i ∧ 4 ≤ request.payload.length then
    .zero
  else if d.AsksLink request sessionLogicalLinkCreate i then
    table.createLogicalLink request.linkId request.linkMode request.linkCredit
  else if d.AsksLink request sessionLogicalLinkClose i then
    table.removeLogicalLink request.linkId
  else table

theorem link_table_handled (hslots : d.SlotsKept) (hkept : ∀ i, (d.sessions i).LinksKept)
    {table : LinkTable} (h : table.Holds (d.links i)) :
    (d.linkTableAfter request i table).Holds ((d.handlePacket request).2.device.links i) := by
  unfold linkTableAfter
  by_cases hreset : d.AcceptsReset request
  · rw [if_pos hreset, reset_links hreset]
    exact LinkTable.holds_zero
  rw [if_neg hreset]
  have hmoves := handled_lists d request i
  by_cases hdeinit : d.Commands request gidSessionConfig sessionDeinit i ∧
      4 ≤ request.payload.length
  · have hasks : d.Deinits request := ⟨⟨hdeinit.1.mt,hdeinit.1.group,hdeinit.1.named,
      hdeinit.1.supported⟩,hdeinit.2⟩
    have hgone : (d.handlePacket request).2.device.links i = [] := by
      rcases commands_slot hdeinit.1 with ⟨ha,hid⟩
      rcases moved_slot hmoves with hslot | ⟨hzero,-⟩
      · exact absurd ((hslot ha).2.trans hid) (Slots.find_none (L := Session.layout)
          (session_map_absent.mp (deinit_absent hslots hasks)) (hslot ha).1)
      · exact congrArg Session.logicalLinks hzero
    rw [if_pos hdeinit, hgone]
    exact LinkTable.holds_zero
  rw [if_neg hdeinit]
  by_cases hcreate : d.AsksLink request sessionLogicalLinkCreate i
  · rw [if_pos hcreate, create_link_leaves hcreate]
    exact LinkTable.create_holds h request.linkId request.linkMode request.linkCredit
  rw [if_neg hcreate]
  by_cases hclose : d.AsksLink request sessionLogicalLinkClose i
  · rw [if_pos hclose, (close_link_refines (hkept i) hclose).closed i, if_pos rfl]
    have hremoved := LinkTable.remove_holds h request.linkId
    rwa [erase_link (hkept i).distinct] at hremoved
  rw [if_neg hclose]
  have hsame : (d.handlePacket request).2.device.links i = d.links i := by
    unfold links
    generalize (d.handlePacket request).2.device.sessions i = session at hmoves
    cases hmoves with
    | kept _ same => exact congrArg Prod.snd same.lists
    | closed command long => exact absurd ⟨command,long⟩ hdeinit
    | reset accepted => exact absurd accepted hreset
    | updated command =>
      rcases update_multicast_list_eq (byteAt request.payload 5) (byteAt request.payload 4).toNat
        (request.payload.drop 6) (d.sessions i) [] statusOk with ⟨entries,heq⟩
      rw [heq]
    | linked _ _ command long => exact absurd ⟨command,long⟩ hcreate
    | unlinked _ command long => exact absurd ⟨command,long⟩ hclose
  rwa [hsame]

end Device

/-- In the array's counted entries are links with distinct identifiers, and nothing is behind. -/
structure LinkTable.WellFormed (table : LinkTable) : Prop where
  cells : table.cells.length = maxLogicalLinks
  few : table.count ≤ maxLogicalLinks
  live : ∀ k < table.count, (table.cells.getD k .zero).inUse = true ∧
    (table.cells.getD k .zero).linkId ≠ 0xFF
  distinct : ∀ j k, j < table.count → k < table.count →
    (table.cells.getD j .zero).linkId = (table.cells.getD k .zero).linkId → j = k
  zero_behind : ∀ k, table.count ≤ k → table.cells.getD k .zero = .zero

theorem LinkTable.holds_well_formed {table : LinkTable} {session : Session}
    (hkept : session.LinksKept) (h : table.Holds session.logicalLinks) : table.WellFormed := by
  have hcount := holds_count h
  have hcell : ∀ k (hk : k < session.logicalLinks.length),
      table.cells.getD k .zero = (session.logicalLinks[k]).cell := by
    intro k hk
    rw [Compact.Holds.getD h (by rwa [List.length_map]), List.getElem_map]
  refine ⟨Compact.Holds.length h,hcount ▸ hkept.few,?_,?_,?_⟩
  · intro k hk
    rw [hcount] at hk
    rw [hcell k hk]
    exact ⟨rfl,hkept.named _ (List.getElem_mem hk)⟩
  · intro j k hj hk hid
    rw [hcount] at hj hk
    rw [hcell j hj, hcell k hk] at hid
    have hj' : j < (session.logicalLinks.map LogicalLink.linkId).length := by
      rwa [List.length_map]
    have hk' : k < (session.logicalLinks.map LogicalLink.linkId).length := by
      rwa [List.length_map]
    have hids : (session.logicalLinks.map LogicalLink.linkId)[j] =
        (session.logicalLinks.map LogicalLink.linkId)[k] := by
      rw [List.getElem_map, List.getElem_map]
      exact hid
    exact (hkept.distinct.getElem_inj_iff).mp hids
  · intro k hk
    exact Compact.Holds.blank_behind h (by rw [List.length_map, ← hcount]; exact hk)

structure TableRun where
  run : Run
  tables : Fin maxSessions → LinkTable

def TableRun.step (t : TableRun) (op : Op) : TableRun :=
  ⟨t.run.step op,match op with
    | .submit request => fun i => t.run.engine.device.linkTableAfter request i (t.tables i)
    | _ => t.tables⟩

def linkTables (profile : Profile) (scenario : Scenario) (ops : List Op) :
    Fin maxSessions → LinkTable :=
  (Runs.run TableRun.step ⟨Run.init profile scenario,fun _ => .zero⟩ ops).tables

theorem Run.step_slots (r : Run) (op : Op) (i : Fin maxSessions) :
    ((r.handled op).sessions i).SameLists ((r.step op).engine.device.sessions i) ∧
      ((r.handled op).sessions i).SameSlot ((r.step op).engine.device.sessions i) := by
  refine r.step_handled (P := fun d => ((r.handled op).sessions i).SameLists (d.sessions i) ∧
    ((r.handled op).sessions i).SameSlot (d.sessions i)) (fun _ _ hd => hd) ?_ op
    ⟨.refl _,.refl _⟩
  rintro d elapsedMs flushes ns d' ⟨hlists,hslot⟩ hticked
  exact ⟨hlists.trans (Device.SameLists.ticked hticked i),
    hslot.trans (Device.SameSlots.ticked hticked i)⟩

theorem Run.step_links (r : Run) (op : Op) (i : Fin maxSessions) :
    (r.step op).engine.device.links i = (r.handled op).links i :=
  congrArg Prod.snd (r.step_slots op i).1.lists

theorem Run.step_has_link (r : Run) (op : Op) (sessionId : UInt32) (link : LogicalLink) :
    (r.step op).engine.device.HasLink sessionId link ↔ (r.handled op).HasLink sessionId link := by
  unfold Device.HasLink
  simp only [(r.step_slots op _).2.allocated, (r.step_slots op _).2.sessionId, r.step_links]

def Op.Gives (r : Run) (op : Op) (sessionId : UInt32) (link : LogicalLink) : Prop :=
  ∃ request, op = .submit request ∧ r.engine.device.GivesLink request sessionId link

def Op.Ends (r : Run) (op : Op) (sessionId : UInt32) (linkId : UInt8) : Prop :=
  ∃ request, op = .submit request ∧ r.engine.device.EndsLink request sessionId linkId

/-- The run created the link, and has not ended it since. -/
def LinkGiven (profile : Profile) (scenario : Scenario) (ops : List Op) (sessionId : UInt32)
    (link : LogicalLink) : Prop :=
  Runs.Since Run.step (fun r op => op.Gives r sessionId link)
    (fun r op => op.Ends r sessionId link.linkId) (Run.init profile scenario) ops

theorem table_run (profile : Profile) (scenario : Scenario) (ops : List Op) :
    (Runs.run TableRun.step ⟨Run.init profile scenario,fun _ => .zero⟩ ops).run =
      Run.reached profile scenario ops :=
  Runs.run_map (f := TableRun.run) (fun _ _ => rfl) _ ops

variable {profile : Profile} {scenario : Scenario}

/-- What a run keeps of the slots and their links. -/
def Run.LinksKept (r : Run) : Prop :=
  r.engine.device.SlotsKept ∧ ∀ i, (r.engine.device.sessions i).LinksKept

theorem Run.LinksKept.step {r : Run} (h : r.LinksKept) (op : Op) : (r.step op).LinksKept :=
  ⟨.step op h.1,links_law.step r op h.2⟩

theorem Run.LinksKept.init (profile : Profile) (scenario : Scenario) :
    (Run.init profile scenario).LinksKept :=
  ⟨.cleared rfl,fun _ => links_law.zero⟩

theorem link_tables_hold (profile : Profile) (scenario : Scenario) (ops : List Op)
    (i : Fin maxSessions) :
    (linkTables profile scenario ops i).Holds
      ((Run.reached profile scenario ops).engine.device.links i) := by
  let kept : TableRun → Prop :=
    fun t => t.run.LinksKept ∧ ∀ i, (t.tables i).Holds (t.run.engine.device.links i)
  have hstep : ∀ t op, kept t → kept (TableRun.step t op) := by
    rintro t op ⟨hkept,hholds⟩
    refine ⟨hkept.step op,fun i => ?_⟩
    show ((TableRun.step t op).tables i).Holds ((t.run.step op).engine.device.links i)
    rw [Run.step_links]
    cases op with
    | submit request => exact Device.link_table_handled hkept.1 hkept.2 (hholds i)
    | tick elapsedMs => exact hholds i
    | dequeue => exact hholds i
  have hinvariant := Runs.invariant_of_all_steps hstep
    ⟨Run.init profile scenario,fun _ => .zero⟩ ops
    ⟨.init profile scenario,fun _ => LinkTable.holds_zero⟩
  have hholds := hinvariant.2 i
  rwa [table_run] at hholds

theorem has_link_given (ops : List Op) (sessionId : UInt32) (link : LogicalLink) :
    (Run.reached profile scenario ops).engine.device.HasLink sessionId link ↔
      LinkGiven profile scenario ops sessionId link := by
  refine Runs.holds_iff_since (P := fun r : Run => r.engine.device.HasLink sessionId link)
    (I := Run.LinksKept) (fun r op hr => hr.step op) ?_ _ (.init profile scenario) ?_ ops
  · rintro r op ⟨hslots,hkept⟩
    rw [r.step_has_link]
    cases op with
    | submit request =>
      rw [Run.handled, Device.has_link_handled hslots hkept]
      simp [Op.Gives, Op.Ends]
    | tick elapsedMs => simp [Run.handled, Op.Gives, Op.Ends]
    | dequeue => simp [Run.handled, Op.Gives, Op.Ends]
  · rintro ⟨i,hallocated,-⟩
    cases hallocated

/-- A request for a link's mode and credit is granted exactly for what the link was given. -/
def ReadsLink (profile : Profile) (scenario : Scenario) (ops : List Op) (request : Packet) : Prop :=
  ∀ mode credit, (Run.reached profile scenario ops).engine.device.RespondsLink request
      [statusOk,request.linkId,mode,credit] ↔
    LinkGiven profile scenario ops request.target ⟨request.linkId,mode,credit⟩

theorem reads_link {ops : List Op} {request : Packet} {i : Fin maxSessions}
    (h : (Run.reached profile scenario ops).engine.device.AsksLink request
      sessionLogicalLinkGetParam i) : ReadsLink profile scenario ops request := by
  intro mode credit
  have hslots : (Run.reached profile scenario ops).engine.device.SlotsKept :=
    .reached profile scenario ops
  have hkept := links_law.reached profile scenario ops i
  rcases Device.commands_slot h.command with ⟨ha,hid⟩
  rw [Device.link_param_responds h, ← has_link_given]
  constructor
  · intro hfound
    exact ⟨i,ha,hid,List.mem_of_find?_eq_some hfound⟩
  · rintro ⟨j,hallocated,hj,hlink⟩
    have hsame : j = i := hslots.distinct j i hallocated ha (hj.trans hid.symm)
    subst hsame
    cases hfound : ((Run.reached profile scenario ops).engine.device.sessions j).findLogicalLink
        request.linkId with
    | none => exact absurd rfl (find_link_none.mp hfound _ hlink)
    | some link =>
      have hnamed : link.linkId = request.linkId := by simpa using List.find?_some hfound
      exact congrArg some (List.inj_on_of_nodup_map hkept.distinct
        (List.mem_of_find?_eq_some hfound) hlink hnamed)

/-- In every reachable state the array of every session is well formed and holds its links;
creating and closing act on one link only, and a link is reported as it was created. -/
theorem logical_links_kept (profile : Profile) (scenario : Scenario) (ops : List Op) :
    (∀ i, (linkTables profile scenario ops i).WellFormed ∧
      (linkTables profile scenario ops i).Holds
        ((Run.reached profile scenario ops).engine.device.links i)) ∧
    ∀ request i,
      ((Run.reached profile scenario ops).engine.device.AsksLink request
        sessionLogicalLinkCreate i →
          (Run.reached profile scenario ops).engine.device.CreatesLink request i) ∧
      ((Run.reached profile scenario ops).engine.device.AsksLink request
        sessionLogicalLinkClose i →
          (Run.reached profile scenario ops).engine.device.ClosesLink request i) ∧
      ((Run.reached profile scenario ops).engine.device.AsksLink request
        sessionLogicalLinkGetParam i → ReadsLink profile scenario ops request) := by
  have hkept := links_law.reached profile scenario ops
  refine ⟨fun i => ?_,fun request i => ⟨?_,?_,reads_link⟩⟩
  · have hholds := link_tables_hold profile scenario ops i
    exact ⟨LinkTable.holds_well_formed (hkept i) hholds,hholds⟩
  · exact Device.create_link_refines (hkept i)
  · exact Device.close_link_refines (hkept i)

/-- A link created under the least identifier is asked for. -/
theorem logical_links_kept_one :
    ReadsLink defaultProfile .default [.submit (initRequest 1),
        .submit (hostCommand gidSessionControl sessionLogicalLinkCreate
          (writeU32Le 1 ++ [0xFF,2,5]))]
      (hostCommand gidSessionControl sessionLogicalLinkGetParam (writeU32Le 1 ++ [0])) := by
  have hfound : (Run.reached defaultProfile .default [.submit (initRequest 1),
      .submit (hostCommand gidSessionControl sessionLogicalLinkCreate
        (writeU32Le 1 ++ [0xFF,2,5]))]).engine.device.findSession 1 = some 0 := by
    decide +kernel
  exact ((logical_links_kept defaultProfile .default [.submit (initRequest 1),
    .submit (hostCommand gidSessionControl sessionLogicalLinkCreate
      (writeU32Le 1 ++ [0xFF,2,5]))]).2
    (hostCommand gidSessionControl sessionLogicalLinkGetParam (writeU32Le 1 ++ [0])) 0).2.2
      ⟨⟨rfl,rfl,rfl,by rw [Run.reached_profile]; decide,hfound⟩,by decide⟩

end UciSim
