import UciSim.ConfigVerdicts

/-!
# The verdict on a command

A session control command is a question, a move of a logical link, or a transition
of the profile. With its verdict and those of the other groups the code returned for
any command is told by the request and the device.
-/

set_option autoImplicit false

namespace UciSim

open Exchange

section

variable {d : Device} {request : Packet} {i : Fin maxSessions}

theorem logical_link_create_verdict : ((start d).handleLogicalLinkCreate request i).1 = .ok ↔
    5 ≤ request.payload.length ∧
      (request.linkId ≠ 0xFF → (d.sessions i).findLogicalLink request.linkId = none) ∧
      (d.sessions i).logicalLinks.length < maxLogicalLinks ∧
      (d.sessions i).allocateLogicalLink request.linkId request.linkMode request.linkCredit ≠
        none := by
  unfold handleLogicalLinkCreate
  split
  · exact iff_of_false err_ne_ok fun h => Nat.not_lt.mpr h.1 ‹_›
  rw [and_iff_right (Nat.le_of_not_lt ‹_›)]
  dsimp only
  rw [show (start d).device = d from rfl]
  split
  · rename_i hused
    refine iff_of_false err_ne_ok fun h => ?_
    rw [show (d.sessions i).findLogicalLink (byteAt request.payload 4) = none from h.1 hused.1]
      at hused
    exact absurd hused.2 (by decide)
  rename_i hunused
  split
  · exact iff_of_false err_ne_ok fun h => Nat.not_lt.mpr ‹_› h.2.1
  rename_i hroom
  have hfree : request.linkId ≠ 0xFF →
      (d.sessions i).findLogicalLink request.linkId = none := by
    intro hid
    have hlink := not_and.mp hunused hid
    rwa [Bool.not_eq_true, Option.isSome_eq_false_iff, Option.isNone_iff_eq_none] at hlink
  rw [and_iff_right hfree, and_iff_right (Nat.lt_of_not_le hroom)]
  unfold Packet.linkId Packet.linkMode Packet.linkCredit
  cases (d.sessions i).allocateLogicalLink (byteAt request.payload 4)
      (if request.payload.length ≥ 6 then byteAt request.payload 5 else 0)
      (if request.payload.length ≥ 7 then byteAt request.payload 6 else 1) with
  | none => exact iff_of_false err_ne_ok fun h => h rfl
  | some link => exact iff_of_true rfl (Option.some_ne_none link)

theorem logical_link_close_verdict : ((start d).handleLogicalLinkClose request i).1 = .ok ↔
    5 ≤ request.payload.length ∧ (d.sessions i).findLogicalLink request.linkId ≠ none := by
  unfold handleLogicalLinkClose Packet.linkId
  split
  · exact iff_of_false err_ne_ok fun h => Nat.not_lt.mpr h.1 ‹_›
  rw [and_iff_right (Nat.le_of_not_lt ‹_›)]
  dsimp only
  rw [show (start d).device = d from rfl]
  unfold Session.removeLogicalLink
  cases (d.sessions i).findLogicalLink (byteAt request.payload 4) with
  | none => exact iff_of_false err_ne_ok fun h => h rfl
  | some link => exact iff_of_true rfl (Option.some_ne_none link)

theorem logical_link_get_param_verdict :
    ((start d).handleLogicalLinkGetParam request i).1 = .ok ↔
      5 ≤ request.payload.length ∧ (d.sessions i).findLogicalLink request.linkId ≠ none := by
  unfold handleLogicalLinkGetParam Packet.linkId
  split
  · exact iff_of_false err_ne_ok fun h => Nat.not_lt.mpr h.1 ‹_›
  rw [and_iff_right (Nat.le_of_not_lt ‹_›)]
  dsimp only
  rw [show (start d).device = d from rfl]
  cases (d.sessions i).findLogicalLink (byteAt request.payload 4) with
  | none => exact iff_of_false err_ne_ok fun h => h rfl
  | some link => exact iff_of_true rfl (Option.some_ne_none link)

theorem transition_verdict :
    ((start d).handleTransition request i).1 = .ok ↔ d.AcceptsTransition request i := by
  unfold handleTransition Device.AcceptsTransition
  rw [show (start d).device = d from rfl]
  cases d.profile.getSessionTransition request.oid with
  | none => exact iff_of_false err_ne_ok fun ⟨_,h,_⟩ => by cases h
  | some transition =>
    dsimp only
    by_cases hallows : transition.allows (d.sessions i).state = true
    swap
    · rw [if_pos (by simpa using hallows)]
      refine iff_of_false err_ne_ok fun ⟨t,ht,hallowed,_⟩ => ?_
      cases ht
      exact hallows hallowed
    rw [if_neg (by simp [hallows])]
    by_cases hstart : request.oid = sessionStart
    swap
    · rw [if_neg hstart]
      exact iff_of_true rfl ⟨transition,rfl,hallows,fun h => absurd h hstart⟩
    rw [if_pos hstart]
    cases hverdict : validateSessionStart d.profile (d.sessions i) with
    | ok a =>
      exact iff_of_true rfl ⟨transition,rfl,hallows,fun _ _ h => by cases h⟩
    | error invalid =>
      dsimp only
      split
      · refine iff_of_true rfl ⟨transition,rfl,hallows,fun _ other h => ?_⟩
        cases h
        assumption
      · rename_i hsurface
        exact iff_of_false err_ne_ok fun ⟨_,_,_,h⟩ => hsurface (h hstart invalid rfl)

theorem control_verdict : ((start d).handleSessionControl request).1 = .ok ↔
    d.profile.supportsCommand request.gid request.oid = true ∧ 4 ≤ request.payload.length ∧
      d.Targets request fun i => d.AcceptsControl request i := by
  cases control_dispatch d.profile request (d.findSession (readU32Le request.payload 0)) with
  | refused status _ cause fails =>
    rw [fails (start d) rfl rfl]
    exact iff_of_false err_ne_ok fun ⟨hs,hlen,htargets⟩ => targets_none (cause hs hlen) htargets
  | handled handler i listed supported long hfound runs =>
    rw [runs (start d) rfl rfl, and_iff_right supported, and_iff_right long, targets_of hfound]
    unfold Device.AcceptsControl
    cases listed with
    | getRangingCount opcode =>
      rw [opcode]
      exact iff_of_true rfl trivial
    | logicalLinkCreate opcode =>
      rw [opcode]
      exact logical_link_create_verdict
    | logicalLinkClose opcode =>
      rw [opcode]
      exact logical_link_close_verdict
    | logicalLinkGetParam opcode =>
      rw [opcode]
      exact logical_link_get_param_verdict
    | transition opcode =>
      simp only [List.mem_cons, List.not_mem_nil, or_false, not_or] at opcode
      rw [if_neg opcode.1, if_neg opcode.2.1, if_neg (not_or.mpr opcode.2.2)]
      exact transition_verdict

theorem qorvo_ext2_verdict : ((start d).handleQorvoExt2 request).1 = .ok ↔
    request.oid = oidQorvoCoreGetDeviceStats := by
  unfold handleQorvoExt2
  split
  · exact iff_of_true rfl ‹_›
  · exact iff_of_false err_ne_ok ‹_›

theorem qorvo_mac_verdict (hmt : request.mt = mtCommand) (hgid : request.gid = gidQorvoMac) :
    ((start d).handleQorvoMac request).1 = .ok ↔
      request.oid = oidQorvoMacSetCalibrations ∨
        request.oid = oidQorvoMacGetCalibrations ∧ ∃ keys, request.ListsKeys keys := by
  by_cases hget : request.oid = oidQorvoMacGetCalibrations
  · have hset : request.oid ≠ oidQorvoMacSetCalibrations := by
      rw [hget]
      decide
    rw [← dispatch_qorvo_mac hgid]
    rcases get_calibrations_cases d ⟨hmt,hgid,hget⟩ with ⟨keys,hkeys,hcalled⟩ | ⟨hnone,hcalled⟩
    · rw [hcalled]
      exact iff_of_true rfl (Or.inr ⟨hget,keys,hkeys⟩)
    · rw [hcalled]
      refine iff_of_false err_ne_ok ?_
      rintro (h | ⟨-,keys,hkeys⟩)
      · exact hset h
      · exact hnone keys hkeys
  · unfold handleQorvoMac
    rw [if_neg hget]
    split
    · exact iff_of_true rfl (Or.inl ‹_›)
    · rename_i hset
      exact iff_of_false err_ne_ok fun h => h.elim hset fun h => hget h.1

/-- Of every device and every command: the handlers succeed exactly on what the device accepts. -/
theorem dispatch_verdict (hmt : request.mt = mtCommand) :
    ((start d).dispatchCommand request).1 = .ok ↔ d.Accepts request := by
  rcases group_dispatch request with ⟨handler,listed,runs⟩
  rw [runs]
  unfold Device.Accepts
  cases listed with
  | core group =>
    rw [if_pos group]
    exact core_verdict group
  | sessionConfig group =>
    rw [if_neg (by rw [group]; decide), if_pos group]
    exact config_verdict group
  | sessionControl group =>
    rw [if_neg (by rw [group]; decide), if_neg (by rw [group]; decide), if_pos group]
    exact control_verdict
  | qorvoExt2 group =>
    rw [if_neg (by rw [group]; decide), if_neg (by rw [group]; decide),
      if_neg (by rw [group]; decide), if_pos group]
    exact qorvo_ext2_verdict
  | qorvoMac group =>
    rw [if_neg (by rw [group]; decide), if_neg (by rw [group]; decide),
      if_neg (by rw [group]; decide), if_neg (by rw [group]; decide), if_pos group]
    exact qorvo_mac_verdict hmt group
  | unknown group =>
    simp only [List.mem_cons, List.not_mem_nil, or_false, not_or] at group
    rw [if_neg group.1, if_neg group.2.1, if_neg group.2.2.1, if_neg group.2.2.2.1,
      if_neg group.2.2.2.2]
    exact iff_of_false err_ne_ok not_false

end

end UciSim
