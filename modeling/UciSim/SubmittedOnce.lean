import UciSim.Chardev
import UciSim.Engine
import UciSim.Profile

/-!
# Submissions of the chardev

A call that fails keeps the bytes of the packets it has submitted, and the next
call submits them again. A run submits every packet at most once exactly when
no call but the last fails after a submission.
-/

set_option autoImplicit false

namespace UciSim

open Framing

section

variable {σ : Type} (submit : σ → Packet → Rc × σ)

theorem offer_split (engine : σ) (ps : List (ℕ × Packet)) :
    (offer submit engine ps).2.2 <+: ps := by
  induction ps generalizing engine with
  | nil => exact List.prefix_rfl
  | cons p ps ih =>
    rw [offer_cons]
    split
    · exact ⟨ps,rfl⟩
    · exact List.cons_prefix_cons.mpr ⟨rfl,ih _⟩

theorem offer_head (engine : σ) (p : ℕ × Packet) (ps : List (ℕ × Packet)) :
    p ∈ (offer submit engine (p::ps)).2.2 := by
  rw [offer_cons]
  split
  · exact List.mem_singleton_self p
  · exact List.mem_cons_self

theorem packets_from_places (base : ℕ) (frames : List (List UInt8)) :
    (packetsFrom base frames).map Prod.fst = (located base frames).map Prod.fst := by
  rw [packetsFrom, List.map_map]
  rfl

end

namespace Chardev

variable {σ : Type} (submit : σ → Packet → Rc × σ)

def step (dev : Chardev σ) (bytes : List UInt8) : Chardev σ := (dev.receive submit bytes).2

abbrev run (dev : Chardev σ) (chunks : List (List UInt8)) : Chardev σ :=
  Runs.run (step submit) dev chunks

/-- The places of the packets submitted so far. -/
def places (dev : Chardev σ) : List ℕ := dev.submitted.map Prod.fst

/-- The call finds a complete packet, and the engine refuses one of those it finds or a header
with a length above 255 follows them. -/
def Repeats (dev : Chardev σ) (bytes : List UInt8) : Prop :=
  (dev.append bytes).batch ≠ [] ∧ ¬ (dev.append bytes).Commits submit

instance (dev : Chardev σ) (bytes : List UInt8) : Decidable (dev.Repeats submit bytes) :=
  inferInstanceAs (Decidable (_ ∧ _))

/-- No place twice, and only places of consumed bytes. -/
structure Fresh (dev : Chardev σ) : Prop where
  nodup : dev.places.Nodup
  consumed : ∀ o ∈ dev.places, o < dev.base

theorem step_eq (dev : Chardev σ) (bytes : List UInt8) :
    dev.step submit bytes =
      if (dev.append bytes).Commits submit then
        ⟨((dev.append bytes).offered submit).2.1,(dev.append bytes).rest,
          dev.base+(dev.append bytes).frames.flatten.length,
          dev.submitted ++ ((dev.append bytes).offered submit).2.2⟩
      else ⟨((dev.append bytes).offered submit).2.1,(dev.append bytes).stream,dev.base,
        dev.submitted ++ ((dev.append bytes).offered submit).2.2⟩ := by
  rw [step, receive, stream_feed_eq]
  split <;> rfl

theorem step_submitted (dev : Chardev σ) (bytes : List UInt8) :
    (dev.step submit bytes).submitted =
      dev.submitted ++ ((dev.append bytes).offered submit).2.2 := by
  rw [step_eq]
  split <;> rfl

theorem step_places (dev : Chardev σ) (bytes : List UInt8) :
    (dev.step submit bytes).places =
      dev.places ++ (((dev.append bytes).offered submit).2.2).map Prod.fst := by
  rw [places, step_submitted, List.map_append]
  rfl

theorem run_places (dev : Chardev σ) (chunks : List (List UInt8)) :
    ∃ more, (dev.run submit chunks).places = dev.places ++ more := by
  induction chunks generalizing dev with
  | nil => exact ⟨[],(List.append_nil _).symm⟩
  | cons bytes chunks ih =>
    rcases ih (dev.step submit bytes) with ⟨more,hmore⟩
    rw [step_places, List.append_assoc] at hmore
    exact ⟨_,hmore⟩

theorem first_place (dev : Chardev σ) (h : dev.batch ≠ []) :
    dev.base ∈ ((dev.offered submit).2.2).map Prod.fst := by
  rw [offered]
  unfold batch at *
  cases hframes : dev.frames with
  | nil =>
    rw [hframes] at h
    exact absurd rfl h
  | cons f fs =>
    rw [packets_from_cons]
    exact List.mem_map.mpr ⟨_,offer_head _ _ _ _,rfl⟩

variable {submit} {dev : Chardev σ} {bytes : List UInt8}

theorem offered_places (dev : Chardev σ) :
    ((dev.offered submit).2.2).map Prod.fst <+: (located dev.base dev.frames).map Prod.fst := by
  rw [← packets_from_places]
  exact (offer_split submit dev.engine dev.batch).map Prod.fst

theorem offered_bounds {o : ℕ} (ho : o ∈ ((dev.offered submit).2.2).map Prod.fst) :
    dev.base ≤ o ∧ o < dev.base+dev.frames.flatten.length :=
  located_bounds (cut_frame dev.stream) ((offered_places dev).subset ho)

/-- After consumed places, one call submits no place twice, whether it fails or not. -/
theorem fresh_step_nodup (h : dev.Fresh) : (dev.step submit bytes).places.Nodup := by
  rw [step_places]
  refine List.nodup_append.mpr ⟨h.nodup,?_,?_⟩
  · exact (located_nodup dev.base (cut_frame (dev.append bytes).stream)).sublist
      (offered_places (dev.append bytes)).sublist
  · rintro o ho o' ho' rfl
    have hlow := (offered_bounds ho').1
    have hhigh := h.consumed o ho
    have hbase : (dev.append bytes).base = dev.base := rfl
    omega

theorem fresh_step (h : dev.Fresh) (hgood : ¬ dev.Repeats submit bytes) :
    (dev.step submit bytes).Fresh := by
  refine ⟨fresh_step_nodup h,?_⟩
  have hbase : (dev.append bytes).base = dev.base := rfl
  intro o ho
  rw [step_places, List.mem_append] at ho
  by_cases hcommits : (dev.append bytes).Commits submit
  · rw [step_eq, if_pos hcommits]
    show o < dev.base+(dev.append bytes).frames.flatten.length
    rcases ho with ho | ho
    · have := h.consumed o ho
      omega
    · have := (offered_bounds ho).2
      omega
  · have hempty : (dev.append bytes).batch = [] := by
      by_contra hbatch
      exact hgood ⟨hbatch,hcommits⟩
    rw [step_eq, if_neg hcommits]
    rcases ho with ho | ho
    · exact h.consumed o ho
    · rw [offered, hempty] at ho
      cases ho

theorem append_stream (dev : Chardev σ) (bytes : List UInt8) :
    ∃ kept, (dev.append bytes).stream = dev.stream ++ kept := ⟨_,rfl⟩

theorem batch_append (h : dev.batch ≠ []) : (dev.append bytes).batch ≠ [] := by
  rcases append_stream dev bytes with ⟨kept,hkept⟩
  unfold batch frames at *
  rw [hkept, cut_append]
  cases hframes : (cut chardevCutter dev.stream).1 with
  | nil =>
    rw [hframes] at h
    exact absurd rfl h
  | cons f fs =>
    intro hnil
    cases hnil

theorem repeated_step (h : dev.Repeats submit bytes) (more : List UInt8) :
    ¬ ((dev.step submit bytes).step submit more).places.Nodup := by
  have hstuck : dev.step submit bytes = ⟨((dev.append bytes).offered submit).2.1,
      (dev.append bytes).stream,dev.base,
      dev.submitted ++ ((dev.append bytes).offered submit).2.2⟩ := by
    rw [step_eq, if_neg h.2]
  have hbatch : (dev.step submit bytes).batch ≠ [] := by
    rw [hstuck]
    exact h.1
  have hfirst : dev.base ∈ (dev.step submit bytes).places := by
    rw [step_places]
    exact List.mem_append_right _ (first_place submit (dev.append bytes) h.1)
  have hsecond := first_place submit ((dev.step submit bytes).append more) (batch_append hbatch)
  have hbase : ((dev.step submit bytes).append more).base = dev.base := by
    rw [hstuck]
    rfl
  rw [hbase] at hsecond
  rw [step_places]
  intro hnodup
  exact (List.nodup_append.mp hnodup).2.2 _ hfirst _ hsecond rfl

theorem repeats_run {chunks : List (List UInt8)} (h : dev.Repeats submit bytes) (more : List UInt8) :
    ¬ (dev.run submit (bytes::more::chunks)).places.Nodup := by
  intro hnodup
  rcases run_places submit ((dev.step submit bytes).step submit more) chunks with ⟨later,hlater⟩
  rw [show dev.run submit (bytes::more::chunks) =
    ((dev.step submit bytes).step submit more).run submit chunks from rfl, hlater] at hnodup
  exact repeated_step h more (List.nodup_append.mp hnodup).1

theorem fresh_run (h : dev.Fresh) (chunks : List (List UInt8)) :
    (dev.run submit chunks).places.Nodup ↔
      Runs.Along (step submit) (fun dev bytes => ¬ dev.Repeats submit bytes) dev
        chunks.dropLast := by
  induction chunks generalizing dev with
  | nil => exact iff_of_true h.nodup trivial
  | cons bytes chunks ih =>
    cases chunks with
    | nil => exact iff_of_true (fresh_step_nodup h) trivial
    | cons more chunks =>
      rw [List.dropLast_cons_cons]
      by_cases hrepeats : dev.Repeats submit bytes
      · exact iff_of_false (repeats_run hrepeats more) fun hgood => hgood.1 hrepeats
      · refine (ih (fresh_step h hrepeats)).trans ?_
        exact (and_iff_right hrepeats).symm

/-- Whatever the accumulator holds, the engine answers and the host sends, no packet is submitted
twice exactly when no call before the last one fails after a submission. -/
theorem submitted_once (engine : σ) (stream : List UInt8) (chunks : List (List UInt8)) :
    (run submit ⟨engine,stream,0,[]⟩ chunks).places.Nodup ↔
      Runs.Along (step submit) (fun dev bytes => ¬ dev.Repeats submit bytes)
        ⟨engine,stream,0,[]⟩ chunks.dropLast :=
  have hfresh : Fresh (⟨engine,stream,0,[]⟩ : Chardev σ) :=
    ⟨List.nodup_nil,fun _ ho => absurd ho List.not_mem_nil⟩
  fresh_run hfresh chunks

end Chardev

/-- The engine as the transports call it. -/
def Engine.submit (engine : Engine) (packet : Packet) : Rc × Engine :=
  ((engine.submitPacket packet).rc,(engine.submitPacket packet).engine)

/-- A device information request and a packet of a type the engine refuses. -/
def refusedBatch : List UInt8 := [0x20,0x02,0x00,0x00,0x40,0x02,0x00,0x00]

/-- The next byte from the host makes the chardev submit the request again. -/
theorem submitted_twice :
    ¬ (Chardev.run Engine.submit (.start (Engine.initWithProfile defaultProfile .default))
      [refusedBatch,[0x20]]).places.Nodup := by
  decide +kernel

end UciSim
