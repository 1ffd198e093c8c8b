import Mathlib.Data.List.InsertIdx
import UciSim.General.Compact
import UciSim.Session

/-!
# The array of logical links

The source keeps a session's links in an array of eight entries and a count, and
its search looks at the counted entries only. An entry that is removed is closed
up by moving the later ones, so the counted entries are the links in order.
-/

set_option autoImplicit false

namespace UciSim

structure LinkCell where
  inUse : Bool
  linkId : UInt8
  mode : UInt8
  credit : UInt8
  deriving DecidableEq, Repr

/-- An entry after `memset`. -/
def LinkCell.zero : LinkCell := ⟨false,0,0,0⟩

def LogicalLink.cell (link : LogicalLink) : LinkCell := ⟨true,link.linkId,link.mode,link.credit⟩

abbrev LinkTable := Compact.Store LinkCell

namespace LinkTable

def zero : LinkTable := Compact.empty .zero maxLogicalLinks

def findLogicalLink (table : LinkTable) (linkId : UInt8) : Option ℕ :=
  Compact.find .zero (fun cell => cell.inUse && cell.linkId == linkId) table

/-- The automatic search goes on while the candidate is in use and below `0xFF`. -/
def candidate (table : LinkTable) : ℕ → UInt8 → UInt8
  | 0, id => id
  | turns+1, id =>
    if (table.findLogicalLink id).isSome ∧ id < 0xFF then candidate table turns (id+1) else id

def allocateLogicalLink (table : LinkTable) (requestedId : UInt8) : Option (UInt8 × LinkTable) :=
  if table.count ≥ maxLogicalLinks then none
  else
    let id := if requestedId = 0xFF then table.candidate 255 0 else requestedId
    if requestedId = 0xFF ∧ id = 0xFF ∧ (table.findLogicalLink id).isSome then none
    else some (id,Compact.push ⟨true,id,0,0⟩ table)

/-- The entry allocated last gets the mode and the credit of its request. -/
def fill (table : LinkTable) (id mode credit : UInt8) : LinkTable :=
  { table with cells := table.cells.set (table.count-1) ⟨true,id,mode,credit⟩ }

def createLogicalLink (table : LinkTable) (requestedId mode credit : UInt8) : LinkTable :=
  if requestedId ≠ 0xFF ∧ (table.findLogicalLink requestedId).isSome then table
  else match table.allocateLogicalLink requestedId with
    | none => table
    | some (id,table) => table.fill id mode credit

def removeLogicalLink (table : LinkTable) (linkId : UInt8) : LinkTable :=
  match table.findLogicalLink linkId with
  | none => table
  | some i => Compact.removeAt .zero i table

/-- The counted entries are the links in order, and the others are zero. -/
def Holds (table : LinkTable) (links : List LogicalLink) : Prop :=
  Compact.Holds .zero maxLogicalLinks (links.map LogicalLink.cell) table

variable {table : LinkTable} {session : Session}

theorem holds_zero : zero.Holds [] := Compact.holds_empty _

theorem holds_count {links : List LogicalLink} (h : table.Holds links) :
    table.count = links.length := by
  rw [h.count, List.length_map]

theorem find_holds (h : table.Holds session.logicalLinks) (linkId : UInt8) :
    table.findLogicalLink linkId =
      session.logicalLinks.findIdx? (fun link => link.linkId == linkId) := by
  rw [findLogicalLink, Compact.Holds.find h, List.findIdx?_map]
  exact congrFun (congrArg List.findIdx? (funext fun _ => Bool.true_and _)) _

theorem find_some_iff (h : table.Holds session.logicalLinks) (linkId : UInt8) :
    (table.findLogicalLink linkId).isSome = (session.findLogicalLink linkId).isSome := by
  rw [find_holds h, Session.findLogicalLink, List.findIdx?_isSome, List.isSome_find?]

/-- Every identifier passed over is in use; the search stops at one that is not, or at `0xFF`. -/
theorem candidate_spec (table : LinkTable) (turns : ℕ) (id : UInt8)
    (h : id.toNat+turns = 255) :
    id ≤ table.candidate turns id ∧
      (∀ other, id ≤ other → other < table.candidate turns id →
        (table.findLogicalLink other).isSome) ∧
      (table.candidate turns id < 0xFF →
        ¬ (table.findLogicalLink (table.candidate turns id)).isSome) := by
  induction turns generalizing id with
  | zero =>
    refine ⟨UInt8.le_refl _,fun other hle hlt => ?_,fun hlt => ?_⟩
    · exact absurd hle (UInt8.not_le.mpr hlt)
    · have hfull : id.toNat < 255 := hlt
      omega
  | succ turns ih =>
    unfold candidate
    by_cases hnext : (table.findLogicalLink id).isSome ∧ id < 0xFF
    · have hsmall : id.toNat < 255 := hnext.2
      have hone : (id+1).toNat = id.toNat+1 := by
        rw [UInt8.toNat_add]
        exact Nat.mod_eq_of_lt (by
          show id.toNat+1 < 256
          omega)
      rcases ih (id+1) (by omega) with ⟨hle,hused,hfree⟩
      rw [if_pos hnext]
      refine ⟨?_,fun other hother hlt => ?_,hfree⟩
      · rw [UInt8.le_iff_toNat_le] at hle ⊢
        omega
      · by_cases hsame : other = id
        · exact hsame ▸ hnext.1
        · refine hused other ?_ hlt
          have hne : other.toNat ≠ id.toNat := fun heq => hsame (UInt8.toNat_inj.mp heq)
          rw [UInt8.le_iff_toNat_le] at hother ⊢
          omega
    · rw [if_neg hnext]
      refine ⟨UInt8.le_refl _,fun other hle hlt => ?_,fun hlt hsome => hnext ⟨hsome,hlt⟩⟩
      exact absurd hle (UInt8.not_le.mpr hlt)

end LinkTable

theorem free_link_id_eq (session : Session) :
    session.freeLinkId = ((List.range 256).find? fun n =>
      (session.findLogicalLink (UInt8.ofNat n)).isNone).map UInt8.ofNat := by
  unfold Session.freeLinkId
  rw [List.find?_map]
  rfl

theorem free_link_id_least {session : Session} {id : UInt8} :
    session.freeLinkId = some id ↔ IsLeast {id | session.findLogicalLink id = none} id := by
  have hlt : id.toNat < 256 := UInt8.toNat_lt id
  rw [free_link_id_eq]
  constructor
  · intro h
    rcases Option.map_eq_some_iff.mp h with ⟨n,hfind,rfl⟩
    rcases List.find?_range_eq_some.mp hfind with ⟨hfree,hmem,hbefore⟩
    refine ⟨Option.isNone_iff_eq_none.mp hfree,fun other hother => ?_⟩
    by_contra hless
    have hn : (UInt8.ofNat n).toNat = n := UInt8.toNat_ofNat_of_lt' (List.mem_range.mp hmem)
    rw [UInt8.not_le, UInt8.lt_iff_toNat_lt, hn] at hless
    have hused := hbefore other.toNat hless
    rw [UInt8.ofNat_toNat, show session.findLogicalLink other = none from hother] at hused
    exact absurd hused (by decide)
  · rintro ⟨hfree,hleast⟩
    refine Option.map_eq_some_iff.mpr ⟨id.toNat,?_,UInt8.ofNat_toNat⟩
    rw [List.find?_range_eq_some, UInt8.ofNat_toNat]
    refine ⟨Option.isNone_iff_eq_none.mpr hfree,List.mem_range.mpr hlt,fun j hj => ?_⟩
    have hj' : (UInt8.ofNat j).toNat = j := UInt8.toNat_ofNat_of_lt' (Nat.lt_trans hj hlt)
    cases hused : session.findLogicalLink (UInt8.ofNat j) with
    | some link => rfl
    | none =>
      have hle := UInt8.le_iff_toNat_le.mp (hleast hused)
      omega

theorem free_link_id_none {session : Session} :
    session.freeLinkId = none ↔ ∀ id, session.findLogicalLink id ≠ none := by
  rw [free_link_id_eq, Option.map_eq_none_iff, List.find?_eq_none]
  constructor
  · intro h id hfree
    have hused := h id.toNat (List.mem_range.mpr (UInt8.toNat_lt id))
    rw [UInt8.ofNat_toNat, hfree] at hused
    exact hused rfl
  · intro h n hn hfree
    exact h _ (Option.isNone_iff_eq_none.mp hfree)

namespace LinkTable

variable {table : LinkTable} {session : Session}

theorem candidate_eq (h : table.Holds session.logicalLinks) :
    (if table.candidate 255 0 = 0xFF ∧ (table.findLogicalLink (table.candidate 255 0)).isSome then
      none else some (table.candidate 255 0)) = session.freeLinkId := by
  rcases candidate_spec table 255 0 rfl with ⟨-,hused,hfree⟩
  generalize table.candidate 255 0 = id at hused hfree ⊢
  have hsome : ∀ other, (table.findLogicalLink other).isSome = true ↔
      session.findLogicalLink other ≠ none := by
    intro other
    rw [find_some_iff h, Option.isSome_iff_ne_none]
  by_cases hlast : id < 0xFF
  · rw [if_neg fun hend => absurd (hend.1 ▸ hlast) (by decide)]
    refine (free_link_id_least.mpr ⟨?_,fun other hother => ?_⟩).symm
    · have hnot := hfree hlast
      rw [hsome] at hnot
      exact not_not.mp hnot
    · by_contra hless
      exact (hsome other).mp (hused other (UInt8.zero_le) (UInt8.not_le.mp hless)) hother
  · have hid : id = 0xFF := by
      have hlt := UInt8.toNat_lt id
      rw [UInt8.lt_iff_toNat_lt] at hlast
      exact UInt8.toNat_inj.mp (by
        show id.toNat = 255
        change ¬ id.toNat < 255 at hlast
        omega)
    by_cases hin : (table.findLogicalLink id).isSome
    · rw [if_pos ⟨hid,hin⟩]
      refine (free_link_id_none.mpr fun other => (hsome other).mp ?_).symm
      by_cases hsame : other = id
      · exact hsame ▸ hin
      · refine hused other (UInt8.zero_le) ?_
        have hne : other.toNat ≠ id.toNat := fun heq => hsame (UInt8.toNat_inj.mp heq)
        have hother := UInt8.toNat_lt other
        rw [UInt8.lt_iff_toNat_lt]
        rw [hid] at hne ⊢
        change other.toNat ≠ 255 at hne
        change other.toNat < 255
        omega
    · rw [if_neg fun hend => hin hend.2]
      refine (free_link_id_least.mpr ⟨?_,fun other hother => ?_⟩).symm
      · rw [hsome] at hin
        exact not_not.mp hin
      · by_contra hless
        exact (hsome other).mp (hused other (UInt8.zero_le) (UInt8.not_le.mp hless)) hother

theorem fill_push (table : LinkTable) (id mode credit : UInt8) (cell : LinkCell) :
    fill (Compact.push cell table) id mode credit =
      Compact.push ⟨true,id,mode,credit⟩ table := by
  unfold fill Compact.push
  rw [Nat.add_sub_cancel, List.set_set]

theorem push_holds {links : List LogicalLink} (h : table.Holds links)
    (hroom : links.length < maxLogicalLinks) (link : LogicalLink) :
    Holds (Compact.push link.cell table) (links ++ [link]) := by
  unfold Holds
  rw [List.map_append]
  exact Compact.Holds.push h (by rwa [List.length_map]) link.cell

theorem create_holds (h : table.Holds session.logicalLinks) (requestedId mode credit : UInt8) :
    (table.createLogicalLink requestedId mode credit).Holds
      (if requestedId ≠ 0xFF ∧ (session.findLogicalLink requestedId).isSome then
        session.logicalLinks
      else match session.allocateLogicalLink requestedId mode credit with
        | none => session.logicalLinks
        | some (_,session) => session.logicalLinks) := by
  unfold createLogicalLink
  rw [find_some_iff h]
  by_cases hused : requestedId ≠ 0xFF ∧ (session.findLogicalLink requestedId).isSome
  · rw [if_pos hused, if_pos hused]
    exact h
  rw [if_neg hused, if_neg hused]
  unfold allocateLogicalLink Session.allocateLogicalLink
  rw [holds_count h]
  by_cases hfull : session.logicalLinks.length ≥ maxLogicalLinks
  · rw [if_pos hfull, if_pos hfull]
    exact h
  have hroom : session.logicalLinks.length < maxLogicalLinks := Nat.lt_of_not_le hfull
  rw [if_neg hfull, if_neg hfull]
  by_cases hauto : requestedId = 0xFF
  · have hsearch := candidate_eq h
    rw [if_pos hauto]
    dsimp only
    rw [if_pos hauto]
    generalize table.candidate 255 0 = id at hsearch ⊢
    by_cases hend : id = 0xFF ∧ (table.findLogicalLink id).isSome
    · rw [if_pos hend] at hsearch
      rw [if_pos ⟨hauto,hend⟩, ← hsearch]
      exact h
    · rw [if_neg hend] at hsearch
      rw [if_neg fun hall => hend hall.2, ← hsearch]
      dsimp only
      rw [fill_push]
      exact push_holds h hroom ⟨id,mode,credit⟩
  · rw [if_neg hauto]
    dsimp only
    rw [if_neg hauto, if_neg fun hall => hauto hall.1]
    dsimp only
    rw [fill_push]
    exact push_holds h hroom ⟨requestedId,mode,credit⟩

theorem remove_holds (h : table.Holds session.logicalLinks) (linkId : UInt8) :
    (table.removeLogicalLink linkId).Holds
      (session.logicalLinks.eraseP fun link => link.linkId == linkId) := by
  unfold removeLogicalLink
  rw [find_holds h, List.eraseP_eq_eraseIdx]
  cases hfound : session.logicalLinks.findIdx? (fun link => link.linkId == linkId) with
  | none => exact h
  | some i =>
    rcases List.findIdx?_eq_some_iff_getElem.mp hfound with ⟨hi,-⟩
    have hremoved := Compact.Holds.removeAt h (i := i) (by rwa [List.length_map])
    rwa [List.eraseIdx_map] at hremoved

end LinkTable

end UciSim
