import UciSim.SubmittedOnce
import UciSim.TcpServer

/-!
# The commands of both transports

The same stream of packets reaches the engine through either transport, in
whatever pieces it arrives. The chardev submits what the TCP server submits
exactly when no packet is longer than a control packet can be and the engine
accepts every packet but possibly the last.
-/

set_option autoImplicit false

namespace UciSim

open Framing

section

variable {σ : Type} {submit : σ → Packet → Rc × σ}

theorem offer_ok {engine : σ} {ps : List (ℕ × Packet)} (h : (offer submit engine ps).1 = .ok) :
    (offer submit engine ps).2.2 = ps := by
  induction ps generalizing engine with
  | nil => rfl
  | cons p ps ih =>
    rw [offer_cons] at h ⊢
    rcases hsubmit : submit engine p.2 with ⟨rc,engine'⟩
    rw [hsubmit] at h
    cases rc with
    | err => cases h
    | ok => exact congrArg (p::·) (ih h)

theorem offer_append (engine : σ) (ps qs : List (ℕ × Packet)) :
    offer submit engine (ps ++ qs) =
      if (offer submit engine ps).1 = .ok then
        ((offer submit (offer submit engine ps).2.1 qs).1,
          (offer submit (offer submit engine ps).2.1 qs).2.1,
          (offer submit engine ps).2.2 ++ (offer submit (offer submit engine ps).2.1 qs).2.2)
      else offer submit engine ps := by
  induction ps generalizing engine with
  | nil => rfl
  | cons p ps ih =>
    rw [List.cons_append, offer_cons, offer_cons]
    rcases submit engine p.2 with ⟨rc,engine'⟩
    cases rc with
    | err => rfl
    | ok =>
      simp only [ih engine']
      by_cases hrc : (offer submit engine' ps).1 = .ok
      · simp only [hrc, if_true, List.cons_append]
      · simp only [hrc, if_false]

/-- All packets are offered when all but the last are accepted. -/
theorem offer_all (engine : σ) (ps : List (ℕ × Packet)) :
    (offer submit engine ps).2.2 = ps ↔ (offer submit engine ps.dropLast).1 = .ok := by
  induction ps generalizing engine with
  | nil => exact iff_of_true rfl rfl
  | cons p ps ih =>
    cases ps with
    | nil =>
      refine iff_of_true ?_ rfl
      rw [offer_cons]
      split <;> rfl
    | cons q qs =>
      rw [List.dropLast_cons_cons, offer_cons, offer_cons]
      rcases submit engine p.2 with ⟨rc,engine'⟩
      cases rc with
      | err => simp
      | ok => simpa using ih engine'

theorem packets_from_append (base : ℕ) (fs gs : List (List UInt8)) :
    packetsFrom base (fs ++ gs) =
      packetsFrom base fs ++ packetsFrom (base+fs.flatten.length) gs := by
  rw [packetsFrom, located_append, List.map_append]
  rfl

end

namespace Chardev

variable {σ : Type} (submit : σ → Packet → Rc × σ)

def Fits (dev : Chardev σ) (bytes : List UInt8) : Prop :=
  dev.stream.length+bytes.length ≤ maxPacket

instance (dev : Chardev σ) (bytes : List UInt8) : Decidable (dev.Fits bytes) :=
  inferInstanceAs (Decidable (_ ≤ _))

/-- The chardev has submitted every packet received, and the engine has accepted each. -/
structure Current (engine : σ) (received : List UInt8) (dev : Chardev σ) : Prop where
  stream : dev.stream = (cut chardevCutter received).2
  base : dev.base = (cut chardevCutter received).1.flatten.length
  accepted : offer submit engine (packetsFrom 0 (cut chardevCutter received).1) =
    (.ok,dev.engine,dev.submitted)

variable {submit} {engine : σ} {received bytes : List UInt8} {dev : Chardev σ}

theorem append_fits (h : dev.Fits bytes) : (dev.append bytes).stream = dev.stream ++ bytes := by
  unfold Fits at h
  show dev.stream ++ bytes.take _ = _
  rw [if_neg (by omega), List.take_length]

namespace Current

theorem submitted_eq (h : Current submit engine received dev) :
    dev.submitted = packetsFrom 0 (cut chardevCutter received).1 := by
  have haccepted := h.accepted
  have hrc : (offer submit engine (packetsFrom 0 (cut chardevCutter received).1)).1 = .ok := by
    rw [haccepted]
  rw [← offer_ok hrc, haccepted]

theorem received_cut (h : Current submit engine received dev) (hfits : dev.Fits bytes) :
    cut chardevCutter (received ++ bytes) =
      ((cut chardevCutter received).1 ++ (dev.append bytes).frames,(dev.append bytes).rest) := by
  rw [cut_append, frames, rest, append_fits hfits, h.stream]

theorem received_packets (h : Current submit engine received dev) (hfits : dev.Fits bytes) :
    packetsFrom 0 (cut chardevCutter (received ++ bytes)).1 =
      packetsFrom 0 (cut chardevCutter received).1 ++ (dev.append bytes).batch := by
  rw [h.received_cut hfits, packets_from_append, Nat.zero_add, ← h.base]
  rfl

theorem received_offer (h : Current submit engine received dev) (hfits : dev.Fits bytes) :
    offer submit engine (packetsFrom 0 (cut chardevCutter (received ++ bytes)).1) =
      (((dev.append bytes).offered submit).1,((dev.append bytes).offered submit).2.1,
        (dev.step submit bytes).submitted) := by
  rw [h.received_packets hfits, offer_append, h.accepted, if_pos rfl, step_submitted]
  rfl

theorem step (h : Current submit engine received dev) (hfits : dev.Fits bytes)
    (hcommits : (dev.append bytes).Commits submit) :
    Current submit engine (received ++ bytes) (dev.step submit bytes) := by
  have hoffer := h.received_offer hfits
  have hcut := h.received_cut hfits
  constructor
  · rw [hcut, step_eq, if_pos hcommits]
  · rw [hcut, step_eq, if_pos hcommits, List.flatten_append, List.length_append, ← h.base]
  · rw [hoffer, hcommits.1, step_eq, if_pos hcommits]

end Current

variable {packets chunks : List (List UInt8)}

theorem packets_once {limit : ℕ} (hpackets : ∀ f ∈ packets, Frame (wireCutter limit) f) :
    ((packetsFrom 0 packets).map Prod.fst).Nodup := by
  rw [packets_from_places]
  exact located_nodup 0 hpackets

theorem current_run (hpackets : ∀ f ∈ packets, Frame chardevCutter f)
    (h : Current submit engine received dev) (hjoin : received ++ chunks.flatten = packets.flatten)
    (hchunks : ∀ bytes ∈ chunks, bytes ≠ [])
    (hfits : Runs.Along (step submit) Fits dev chunks) :
    (dev.run submit chunks).submitted = packetsFrom 0 packets ↔
      (offer submit engine (packetsFrom 0 packets).dropLast).1 = .ok := by
  rw [← offer_all]
  induction chunks generalizing dev received with
  | nil =>
    rw [List.flatten_nil, List.append_nil] at hjoin
    have hcut := cut_flatten hpackets
    rw [← hjoin] at hcut
    have hall := h.accepted
    rw [hcut] at hall
    rw [hall]
    rfl
  | cons bytes chunks ih =>
    have hjoin' : (received ++ bytes) ++ chunks.flatten = packets.flatten := by
      rw [← hjoin, List.flatten_cons, List.append_assoc]
    have hoffer := h.received_offer hfits.1
    cases chunks with
    | nil =>
      rw [List.flatten_nil, List.append_nil] at hjoin'
      rw [hjoin', cut_flatten hpackets] at hoffer
      rw [hoffer]
      rfl
    | cons more chunks =>
      have hmore : (more::chunks).flatten ≠ [] := by
        intro hnil
        exact hchunks more (by simp) (List.append_eq_nil_iff.mp hnil).1
      have hvalid : wireFront 255 (dev.append bytes).rest ≠ .invalid := by
        have := cut_part_valid (by decide) hpackets hjoin'
        rwa [h.received_cut hfits.1] at this
      by_cases hcommits : (dev.append bytes).Commits submit
      · exact ih (h.step hfits.1 hcommits) hjoin' (fun b hb => hchunks b (by simp [hb])) hfits.2
      · have hrefused : ((dev.append bytes).offered submit).1 ≠ .ok :=
          fun hok => hcommits ⟨hok,hvalid⟩
        have hbatch : (dev.append bytes).batch ≠ [] := by
          intro hnone
          rw [offered, hnone] at hrefused
          exact hrefused rfl
        refine iff_of_false ?_ ?_
        · intro hsubmitted
          have hrepeats : dev.Repeats submit bytes := ⟨hbatch,hcommits⟩
          have honce : (dev.run submit (bytes::more::chunks)).places.Nodup := by
            rw [places, hsubmitted]
            exact packets_once hpackets
          exact repeats_run hrepeats more honce
        · rcases cut_part hpackets hjoin' hmore with ⟨gs,hgs,hparts⟩
          rw [hparts, packets_from_append, offer_append, hoffer, if_neg hrefused]
          intro hall
          have hprefix := (offer_split submit engine
            (packetsFrom 0 (cut chardevCutter (received ++ bytes)).1)).length_le
          rw [hoffer, hall, List.length_append] at hprefix
          refine hgs (List.length_eq_zero_iff.mp ?_)
          have hlength := congrArg List.length (located_frames (0+(cut chardevCutter
            (received ++ bytes)).1.flatten.length) gs)
          rw [packetsFrom, packetsFrom, List.length_map, List.length_map] at hprefix
          rw [List.length_map] at hlength
          omega

theorem run_short (submit : σ → Packet → Rc × σ) (dev : Chardev σ) (chunks : List (List UInt8))
    (h : ∀ p ∈ dev.submitted, p.2.payload.length ≤ 255) :
    ∀ p ∈ (dev.run submit chunks).submitted, p.2.payload.length ≤ 255 := by
  refine Runs.invariant_of_all_steps
    (I := fun dev : Chardev σ => ∀ p ∈ dev.submitted, p.2.payload.length ≤ 255) ?_ dev chunks h
  intro dev bytes hdev p hp
  rw [step_submitted, List.mem_append] at hp
  rcases hp with hp | hp
  · exact hdev p hp
  · rcases List.mem_map.mp ((offer_split submit _ _).subset hp) with ⟨⟨o,f⟩,hf,rfl⟩
    have hmem : f ∈ (dev.append bytes).frames := by
      rw [← located_frames (dev.append bytes).base (dev.append bytes).frames]
      exact List.mem_map.mpr ⟨_,hf,rfl⟩
    have hframe := cut_frame (c := chardevCutter) _ f hmem
    show (packetOf f).payload.length ≤ 255
    rw [frame_payload hframe]
    exact (wire_frame.mp hframe).2.1

theorem short_frame {f : List UInt8} (h : WirePacket f) :
    f.length ≤ headerSize+255 ↔ Frame chardevCutter f := by
  rw [wire_frame]
  have hframe := wire_frame.mp (wire_packet_frame.mp h)
  simp only [headerSize] at *
  omega

end Chardev

open Chardev in
/-- A stream of packets that arrives in reads that fit is submitted by the chardev as the TCP
server submits it, each packet once, exactly when no payload has more than 255 bytes and the
engine accepts all packets but possibly the last. -/
theorem transports_submit {σ σ' : Type} (submit : σ → Packet → Rc × σ)
    (submit' : σ' → Packet → Rc × σ') (engine : σ) (engine' : σ') (arrivals : ℕ → ℕ) (turns : ℕ)
    (packets chunks : List (List UInt8)) (hpackets : ∀ f ∈ packets, WirePacket f)
    (hjoin : chunks.flatten = packets.flatten) (hreads : ∀ bytes ∈ chunks, bytes ≠ [])
    (hfits : Runs.Along (step submit) Fits (.start engine) chunks)
    (hturns : packets.length ≤ turns) :
    (run submit (.start engine) chunks).submitted =
        (TcpServer.serve submit' arrivals turns (.start engine' packets.flatten)).submitted ↔
      (∀ f ∈ packets, f.length ≤ headerSize+255) ∧
        (offer submit engine (packetsFrom 0 packets).dropLast).1 = .ok := by
  have hframes : ∀ f ∈ packets, Frame tcpCutter f :=
    fun f hf => wire_packet_frame.mp (hpackets f hf)
  rw [TcpServer.serve_submitted]
  simp only [TcpServer.start, cut_flatten hframes, List.take_of_length_le hturns, List.nil_append]
  by_cases hshort : ∀ f ∈ packets, f.length ≤ headerSize+255
  · rw [and_iff_right hshort]
    have hcurrent : Current submit engine [] (.start engine) := ⟨rfl,rfl,rfl⟩
    exact current_run (fun f hf => (short_frame (hpackets f hf)).mp (hshort f hf)) hcurrent hjoin
      hreads hfits
  · refine iff_of_false ?_ fun h => hshort h.1
    intro hsame
    refine hshort fun f hf => (short_frame (hpackets f hf)).mpr ?_
    rw [← located_frames 0 packets] at hf
    rcases List.mem_map.mp hf with ⟨p,hp,rfl⟩
    have hlength : (packetOf p.2).payload.length ≤ 255 := by
      refine run_short submit (.start engine) chunks nofun (p.1,packetOf p.2) ?_
      rw [hsame]
      exact List.mem_map.mpr ⟨p,hp,rfl⟩
    have hframe : Frame tcpCutter p.2 :=
      hframes _ (by rw [← located_frames 0 packets]; exact List.mem_map.mpr ⟨p,hp,rfl⟩)
    rw [frame_payload hframe] at hlength
    have hwire := wire_frame.mp hframe
    exact wire_frame.mpr ⟨hwire.1,hlength,hwire.2.2⟩

def twoRequests : List (List UInt8) := [[0x20,0x02,0x00,0x00],[0x20,0x02,0x00,0x00]]

theorem transports_submit_requests :
    (Chardev.run Engine.submit (.start (Engine.initWithProfile defaultProfile .default))
        [[0x20,0x02],[0x00,0x00,0x20],[0x02,0x00,0x00]]).submitted =
      (TcpServer.serve Engine.submit (fun _ => 3) 5
        (.start (Engine.initWithProfile defaultProfile .default) twoRequests.flatten)).submitted :=
  (transports_submit Engine.submit Engine.submit (Engine.initWithProfile defaultProfile .default)
    (Engine.initWithProfile defaultProfile .default) (fun _ => 3) 5 twoRequests
    [[0x20,0x02],[0x00,0x00,0x20],[0x02,0x00,0x00]] (by decide) (by decide) (by decide)
    (by decide +kernel) (by decide)).mpr ⟨by decide,by decide +kernel⟩

def longMessage : List UInt8 := [0x01,0x00,0x00,0x01] ++ List.replicate 256 0

/-- The TCP server submits the message, the chardev does not. -/
theorem long_message_withheld :
    WirePacket longMessage ∧
      Chardev.Fits (.start (Engine.initWithProfile defaultProfile .default)) longMessage ∧
      (Chardev.run Engine.submit (.start (Engine.initWithProfile defaultProfile .default))
        [longMessage]).submitted = [] ∧
      (TcpServer.serve Engine.submit (fun _ => 1) 2
        (.start (Engine.initWithProfile defaultProfile .default) longMessage)).submitted =
          [(0,packetOf longMessage)] := by
  decide +kernel

end UciSim
