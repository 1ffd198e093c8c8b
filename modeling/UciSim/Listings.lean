import UciSim.CommandReplies
import UciSim.ConfigRoundTrip
import UciSim.TableLaws

/-!
# Listing a whole table

A get request that names no identifier lists the table in the profile's order. The
listing is complete where its encoding fits the payload, and otherwise reports an
error behind the entries that fit.
-/

set_option autoImplicit false

namespace UciSim

open Exchange

/-- A get request of an existing session that names no identifier. -/
structure ListsTable (d : Device) (request : Packet) (i : Fin maxSessions) : Prop where
  command : request.mt = mtCommand ∧ request.gid = gidSessionConfig ∧
    request.oid = sessionGetAppConfig
  supported : d.profile.supportsCommand gidSessionConfig sessionGetAppConfig = true
  long : 5 ≤ request.payload.length
  found : d.findSession (readU32Le request.payload 0) = some i
  unnamed : byteAt request.payload 4 = 0

namespace Session

/-- The supported parameters the session stores, in the profile's order. -/
def listing (session : Session) (profile : Profile) : List ConfigEntry :=
  session.entriesOf profile.supportedSessionAppConfigIds

/-- The entries are the stored values of the supported parameters, each once. -/
structure ListedBy (session : Session) (profile : Profile) (entries : List ConfigEntry) :
    Prop where
  nodup : (Table.keys entries).Nodup
  mem_iff : ∀ configId value, (configId,value) ∈ entries ↔
    profile.supportsSessionAppConfig configId = true ∧ session.getConfig configId = some value

/-- No stored value is longer than a table's slot. -/
def Short (session : Session) : Prop :=
  ∀ configId value, session.getConfig configId = some value → value.length ≤ maxConfigValue

end Session

def Listed (payload : List UInt8) (status : UInt8) (entries : List ConfigEntry) : Prop :=
  byteAt payload 0 = status ∧ (byteAt payload 1).toNat = entries.length ∧
    decodeEntries entries.length (payload.drop 2) = some entries

def listingSize (entries : List ConfigEntry) : ℕ :=
  2+(entries.flatMap Device.encodeEntry).length

/-- The request is answered with success and the whole table. -/
def Device.ListsAll (d : Device) (request : Packet) (i : Fin maxSessions) : Prop :=
  ∃ response entries, (d.handlePacket request).2.result.response = some response ∧
    Listed response.payload statusOk entries ∧ (d.sessions i).ListedBy d.profile entries

theorem entries_cons (session : Session) (configId : UInt8) (ids : List UInt8) :
    session.entriesOf (configId::ids) = match session.getConfig configId with
      | none => session.entriesOf ids
      | some value => (configId,value)::session.entriesOf ids := by
  rw [Session.entriesOf, List.filterMap_cons]
  cases session.getConfig configId <;> rfl

theorem collect_supported_outcome (session : Session) (ids items : List UInt8) (processed : ℕ) :
    (2+items.length+((session.entriesOf ids).flatMap Device.encodeEntry).length ≤ maxPayload →
      collectSupported session ids items processed =
        (statusOk,items ++ (session.entriesOf ids).flatMap Device.encodeEntry,
          processed+(session.entriesOf ids).length)) ∧
    (maxPayload < 2+items.length+((session.entriesOf ids).flatMap Device.encodeEntry).length →
      2+items.length ≤ maxPayload → ∃ shown next rest,
        session.entriesOf ids = shown ++ next::rest ∧
        collectSupported session ids items processed =
          (statusInvalidParam,items ++ shown.flatMap Device.encodeEntry,
            processed+shown.length) ∧
        maxPayload < 2+items.length+((shown ++ [next]).flatMap Device.encodeEntry).length) := by
  induction ids generalizing items processed with
  | nil =>
    simp only [Session.entriesOf, List.filterMap_nil, List.flatMap_nil, List.length_nil]
    exact ⟨fun _ => by rw [List.append_nil]; rfl,fun h hroom => by omega⟩
  | cons configId ids ih =>
    rw [entries_cons]
    unfold collectSupported
    cases hvalue : session.getConfig configId with
    | none => exact ih items processed
    | some value =>
      have hsize : (Device.encodeEntry (configId,value)).length = 2+value.length := by
        simp only [Device.encodeEntry, List.length_cons]
        omega
      have hbytes : items ++ [configId,UInt8.ofNat value.length] ++ value =
          items ++ Device.encodeEntry (configId,value) := by
        simp [Device.encodeEntry]
      dsimp only
      rw [List.flatMap_cons, List.length_append, hsize, List.length_cons]
      by_cases hlong : 2+items.length+2+value.length > maxPayload
      · rw [if_pos hlong]
        constructor
        · intro hfits
          omega
        · intro _ _
          refine ⟨[],(configId,value),session.entriesOf ids,rfl,?_,?_⟩
          · rw [List.flatMap_nil, List.append_nil]
            rfl
          · rw [List.nil_append, List.flatMap_singleton, hsize]
            omega
      · rw [if_neg hlong, hbytes]
        have hnext := ih (items ++ Device.encodeEntry (configId,value)) (processed+1)
        rw [List.length_append, hsize] at hnext
        constructor
        · intro hfits
          rw [hnext.1 (by omega), List.append_assoc]
          congr 2
          omega
        · intro hover _
          rcases hnext.2 (by omega) (by omega) with ⟨shown,next,rest,hsplit,hcollect,hfull⟩
          refine ⟨(configId,value)::shown,next,rest,?_,?_,?_⟩
          · rw [hsplit, List.cons_append]
          · rw [hcollect, List.flatMap_cons, List.append_assoc, List.length_cons]
            congr 2
            omega
          · rw [List.cons_append, List.flatMap_cons, List.length_append, hsize]
            omega

section

variable {profile : Profile} {session : Session} {d : Device} {request : Packet}
  {i : Fin maxSessions}

theorem listing_nodup (h : profile.supportedSessionAppConfigIds.Nodup) :
    (Table.keys (session.listing profile)).Nodup := by
  have hsublist : ∀ ids, (Table.keys (session.entriesOf ids)).Sublist ids := by
    intro ids
    induction ids with
    | nil => exact .slnil
    | cons configId ids ih =>
      rw [entries_cons]
      cases session.getConfig configId with
      | none => exact ih.cons _
      | some value => exact ih.cons_cons _
  exact h.sublist (hsublist _)

theorem listing_listed (h : profile.supportedSessionAppConfigIds.Nodup) :
    session.ListedBy profile (session.listing profile) where
  nodup := listing_nodup h
  mem_iff configId value := by
    unfold Session.listing Session.entriesOf Profile.supportsSessionAppConfig
    rw [List.mem_filterMap, List.contains_iff_mem]
    constructor
    · rintro ⟨other,hmem,hentry⟩
      rcases Option.map_eq_some_iff.mp hentry with ⟨v,hvalue,hpair⟩
      cases hpair
      exact ⟨hmem,hvalue⟩
    · rintro ⟨hmem,hvalue⟩
      exact ⟨configId,hmem,by rw [hvalue]; rfl⟩

theorem get_all_response (h : ListsTable d request i) :
    (d.handlePacket request).2.result.response = some ⟨mtResponse,pbfComplete,gidSessionConfig,
      sessionGetAppConfig,
      [(collectSupported (d.sessions i) d.profile.supportedSessionAppConfigIds [] 0).1,
        UInt8.ofNat
          (collectSupported (d.sessions i) d.profile.supportedSessionAppConfigIds [] 0).2.2] ++
      (collectSupported (d.sessions i) d.profile.supportedSessionAppConfigIds [] 0).2.1⟩ := by
  rcases h.command with ⟨hmt,hgid,hoid⟩
  have hdispatch : (start d).dispatchCommand request =
      (start d).handleSessionGetAppConfig request :=
    get_app_config_command ⟨hmt,hgid,hoid,h.supported⟩
  rw [handle_command_response d request hmt, hdispatch, handleSessionGetAppConfig,
    if_neg (Nat.not_lt_of_le h.long), show (start d).device = d from rfl, h.found]
  dsimp only
  rw [if_pos h.unnamed, hoid]
  rfl

theorem listed_reply {status : UInt8} {entries : List ConfigEntry}
    (hcount : entries.length < 256) (hshort : ∀ entry ∈ entries, entry.2.length < 256) :
    Listed ([status,UInt8.ofNat entries.length] ++ entries.flatMap Device.encodeEntry) status
      entries :=
  ⟨rfl,UInt8.toNat_ofNat_of_lt' hcount,decode_encoded entries hshort⟩

theorem listing_short (h : session.Short) :
    ∀ entry ∈ session.listing profile, entry.2.length < 256 := by
  intro entry hmem
  rcases List.mem_filterMap.mp hmem with ⟨configId,-,hentry⟩
  rcases Option.map_eq_some_iff.mp hentry with ⟨value,hvalue,hpair⟩
  cases hpair
  exact Nat.lt_of_le_of_lt (h configId value hvalue) (by decide)

theorem listing_count (h : profile.supportedSessionAppConfigIds.length < 256) :
    (session.listing profile).length < 256 :=
  Nat.lt_of_le_of_lt (List.length_filterMap_le _ _) h

theorem listing_fits (h : ListsTable d request i) (hshort : (d.sessions i).Short)
    (hids : d.profile.supportedSessionAppConfigIds.length < 256)
    (hfits : listingSize ((d.sessions i).listing d.profile) ≤ maxPayload) :
    ∃ response, (d.handlePacket request).2.result.response = some response ∧
      Listed response.payload statusOk ((d.sessions i).listing d.profile) := by
  have hcollect := (collect_supported_outcome (d.sessions i)
    d.profile.supportedSessionAppConfigIds [] 0).1 (by exact hfits)
  have hresponse := get_all_response h
  rw [hcollect, List.nil_append, Nat.zero_add] at hresponse
  exact ⟨_,hresponse,listed_reply (listing_count hids) (listing_short hshort)⟩

theorem listing_cut (h : ListsTable d request i) (hshort : (d.sessions i).Short)
    (hids : d.profile.supportedSessionAppConfigIds.length < 256)
    (hover : maxPayload < listingSize ((d.sessions i).listing d.profile)) :
    ∃ response shown next rest, (d.handlePacket request).2.result.response = some response ∧
      (d.sessions i).listing d.profile = shown ++ next::rest ∧
      Listed response.payload statusInvalidParam shown ∧
      maxPayload < listingSize (shown ++ [next]) := by
  rcases (collect_supported_outcome (d.sessions i)
    d.profile.supportedSessionAppConfigIds [] 0).2 (by exact hover) (by decide)
    with ⟨shown,next,rest,hsplit,hcollect,hfull⟩
  have hresponse := get_all_response h
  have hcount : ((d.sessions i).listing d.profile).length < 256 := listing_count hids
  have hvalues : ∀ entry ∈ (d.sessions i).listing d.profile, entry.2.length < 256 :=
    listing_short hshort
  rw [show (d.sessions i).listing d.profile = shown ++ next::rest from hsplit] at hcount hvalues
  rw [hcollect, List.nil_append, Nat.zero_add] at hresponse
  refine ⟨_,shown,next,rest,hresponse,hsplit,listed_reply ?_ ?_,hfull⟩
  · rw [List.length_append] at hcount
    omega
  · exact fun entry hmem => hvalues entry (List.mem_append_left _ hmem)

theorem lists_all_iff (h : ListsTable d request i) (hshort : (d.sessions i).Short)
    (hids : d.profile.supportedSessionAppConfigIds.length < 256)
    (hnodup : d.profile.supportedSessionAppConfigIds.Nodup) :
    d.ListsAll request i ↔ listingSize ((d.sessions i).listing d.profile) ≤ maxPayload := by
  constructor
  · rintro ⟨response,entries,hresponse,hlisted,-⟩
    by_contra hover
    rcases listing_cut h hshort hids (Nat.lt_of_not_le hover) with ⟨other,shown,-,-,hother,-,hcut,-⟩
    cases Option.some.inj (hresponse.symm.trans hother)
    exact absurd (hlisted.1.symm.trans hcut.1) (by decide)
  · intro hfits
    rcases listing_fits h hshort hids hfits with ⟨response,hresponse,hlisted⟩
    exact ⟨response,_,hresponse,hlisted,listing_listed hnodup⟩

end

theorem Session.Short.stored {session session' : Session} (h : session.Short) {configId : UInt8}
    {value : List UInt8} (hstore : session.storeConfig configId value = some session') :
    session'.Short := by
  intro other v hv
  rw [Session.store_config_get hstore other] at hv
  by_cases hid : configId = other
  · rw [if_pos hid] at hv
    rw [← Option.some.inj hv]
    exact (Session.store_config_some hstore).1
  · rw [if_neg hid] at hv
    exact h other v hv

theorem Session.Short.defaults {session : Session} (h : session.Short)
    (defaults : List ConfigEntry) : (session.storeDefaults defaults).Short := by
  induction defaults generalizing session with
  | nil => exact h
  | cons entry defaults ih =>
    have hnext : ((session.storeConfig entry.1 entry.2).getD session).Short := by
      cases hstore : session.storeConfig entry.1 entry.2 with
      | none => exact h
      | some session' => exact h.stored hstore
    exact ih hnext

theorem short_law (profile : Profile) : TableLaw profile Session.Short where
  congr session session' hc h := by
    intro configId value hget
    refine h configId value ?_
    rwa [Session.getConfig, ← hc]
  defaults := Session.Short.defaults (fun _ _ hget => by cases hget) _
  stored d i configId value _ h hrefusal := by
    intro other v hget
    rw [Device.storing_get_config hrefusal] at hget
    by_cases hid : configId = other
    · rw [if_pos hid] at hget
      cases hget
      rcases refusal_none hrefusal with ⟨-,session,hstore⟩
      exact (Session.store_config_some hstore).1
    · rw [if_neg hid] at hget
      exact h other v hget

theorem default_ids_nodup : defaultProfile.supportedSessionAppConfigIds.Nodup := by
  decide +kernel

/-- In every state reached with the default profile a whole table is listed, each stored pair
once, exactly when its encoding fits the payload; else the listing reports an error behind the
entries in front of the first one that does not fit. -/
theorem table_listed_iff_fits (scenario : Scenario) (ops : List Op) (request : Packet)
    (i : Fin maxSessions)
    (h : ListsTable (Run.reached defaultProfile scenario ops).engine.device request i) :
    let d := (Run.reached defaultProfile scenario ops).engine.device
    let entries := (d.sessions i).listing defaultProfile
    (d.ListsAll request i ↔ listingSize entries ≤ maxPayload) ∧
    (maxPayload < listingSize entries → ∃ response shown next rest,
      (d.handlePacket request).2.result.response = some response ∧
      entries = shown ++ next::rest ∧ Listed response.payload statusInvalidParam shown ∧
      maxPayload < listingSize (shown ++ [next])) := by
  intro d entries
  have hlawful := (short_law defaultProfile).reached scenario ops
  have hp : d.profile = defaultProfile := hlawful.profile
  have hshort : (d.sessions i).Short :=
    hlawful.held i (Device.find_session_some h.found).1
  have hids : d.profile.supportedSessionAppConfigIds.length < 256 := by
    rw [hp]
    decide
  have hnodup : d.profile.supportedSessionAppConfigIds.Nodup := by
    rw [hp]
    exact default_ids_nodup
  have hentries : entries = (d.sessions i).listing d.profile := by rw [hp]
  rw [hentries]
  exact ⟨lists_all_iff h hshort hids hnodup,listing_cut h hshort hids⟩

theorem default_table_listed :
    let d := (Run.reached defaultProfile .default [.submit (initRequest 1)]).engine.device
    let request := getAppConfigRequest 1 []
    let entries := (d.sessions 0).listing defaultProfile
    (d.ListsAll request 0 ↔ listingSize entries ≤ maxPayload) ∧
    (maxPayload < listingSize entries → ∃ response shown next rest,
      (d.handlePacket request).2.result.response = some response ∧
      entries = shown ++ next::rest ∧ Listed response.payload statusInvalidParam shown ∧
      maxPayload < listingSize (shown ++ [next])) :=
  table_listed_iff_fits .default [.submit (initRequest 1)] _ 0
    ⟨⟨rfl,rfl,rfl⟩,by decide,by decide,by decide +kernel,by decide⟩

/-- A request that stores 64 bytes for each of the parameters. -/
def longValues (sessionId : UInt32) (ids : List UInt8) : Packet :=
  setAppConfigRequest sessionId (UInt8.ofNat ids.length)
    (ids.flatMap fun configId => configId::64::List.replicate 64 0x55)

/-- Fourteen long values, each stored as sent, and the table cannot be listed any more. -/
theorem long_table_refused :
    let stored := [.submit (initRequest 1),
      .submit (longValues 1 [0x0A,0x0B,0x0C,0x12,0x1D,0x21,0x25]),
      .submit (longValues 1 [0x27,0x2B,0x2C,0x2F,0x30,0x31,0x33])]
    let d := (Run.reached defaultProfile .default stored).engine.device
    ListsTable d (getAppConfigRequest 1 []) 0 ∧ ¬ d.ListsAll (getAppConfigRequest 1 []) 0 := by
  intro stored d
  have hcommand : ListsTable d (getAppConfigRequest 1 []) 0 :=
    ⟨⟨rfl,rfl,rfl⟩,by decide +kernel,by decide,by decide +kernel,by decide⟩
  have hstatus : byteAt ((d.handlePacket (getAppConfigRequest 1 [])).2.result.response.getD
      (getAppConfigRequest 1 [])).payload 0 = statusInvalidParam := by decide +kernel
  refine ⟨hcommand,?_⟩
  rintro ⟨response,entries,hresponse,hlisted,-⟩
  rw [hresponse] at hstatus
  exact absurd (hlisted.1.symm.trans hstatus) (by decide)

end UciSim
