import Mathlib.Data.List.Nodup
import Mathlib.Order.Basic

/-!
# Cutting a stream into frames

A cutter looks at the front of a stream: it is too short to tell, it cannot
start a frame, or it starts with a complete frame of some length. What a cutter
says of a front it says of every longer stream, so a stream is cut into the
same frames however it arrives.
-/

set_option autoImplicit false

namespace Framing

inductive Front where
  | short
  | invalid
  | complete (n : ℕ)
  deriving DecidableEq

structure Cutter (α : Type) where
  front : List α → Front
  fits : ∀ s n, front s = .complete n → 0 < n ∧ n ≤ s.length
  grows : ∀ s t n, front s = .complete n → front (s ++ t) = .complete n
  stays : ∀ s t, front s = .invalid → front (s ++ t) = .invalid
  own : ∀ s n, front s = .complete n → front (s.take n) = .complete n

variable {α : Type} (c : Cutter α)

def cutLoop : ℕ → List α → List (List α) × List α
  | 0, s => ([], s)
  | turns+1, s =>
    match c.front s with
    | .complete n => (s.take n :: (cutLoop turns (s.drop n)).1, (cutLoop turns (s.drop n)).2)
    | _ => ([], s)

/-- The complete frames at the front of a stream, and what follows them. -/
def cut (s : List α) : List (List α) × List α := cutLoop c s.length s

def Frame (f : List α) : Prop := c.front f = .complete f.length

instance (f : List α) : Decidable (Frame c f) := inferInstanceAs (Decidable (_ = _))

/-- No complete frame starts the stream. -/
def Uncut (s : List α) : Prop := ∀ n, c.front s ≠ .complete n

variable {c}

theorem uncut_nil : Uncut c [] := by
  intro n hn
  have hfits := c.fits [] n hn
  rw [List.length_nil] at hfits
  omega

theorem cut_loop_uncut {s : List α} (h : Uncut c s) (turns : ℕ) : cutLoop c turns s = ([], s) := by
  cases turns with
  | zero => rfl
  | succ turns =>
    rw [cutLoop]
    split
    · rename_i n hn
      exact absurd hn (h n)
    · rfl

theorem cut_loop_turns (turns turns' : ℕ) (s : List α) (h : s.length ≤ turns)
    (h' : s.length ≤ turns') : cutLoop c turns s = cutLoop c turns' s := by
  induction turns generalizing turns' s with
  | zero =>
    rw [List.length_eq_zero_iff.mp (Nat.le_zero.mp h), cut_loop_uncut uncut_nil,
      cut_loop_uncut uncut_nil]
  | succ turns ih =>
    cases turns' with
    | zero =>
      rw [List.length_eq_zero_iff.mp (Nat.le_zero.mp h'), cut_loop_uncut uncut_nil,
        cut_loop_uncut uncut_nil]
    | succ turns' =>
      rw [cutLoop, cutLoop]
      split
      · rename_i n hn
        have hfits := c.fits s n hn
        rw [ih turns' (s.drop n) (by rw [List.length_drop]; omega)
          (by rw [List.length_drop]; omega)]
      · rfl

theorem cut_uncut {s : List α} (h : Uncut c s) : cut c s = ([], s) := cut_loop_uncut h _

theorem cut_complete {s : List α} {n : ℕ} (h : c.front s = .complete n) :
    cut c s = (s.take n :: (cut c (s.drop n)).1, (cut c (s.drop n)).2) := by
  have hfits := c.fits s n h
  have hturns := cut_loop_turns (c := c) s.length (s.length+1) s (by omega) (by omega)
  rw [cut, hturns, cutLoop, h]
  simp only [cut]
  rw [cut_loop_turns s.length (s.drop n).length (s.drop n) (by rw [List.length_drop]; omega)
    (by omega)]

/-- Every stream starts with no frame, or with one and a shorter stream after it. -/
theorem cut_induction {P : List α → Prop} (uncut : ∀ s, Uncut c s → P s)
    (complete : ∀ s n, c.front s = .complete n → P (s.drop n) → P s) (s : List α) : P s := by
  induction hn : s.length using Nat.strongRecOn generalizing s with
  | _ k ih =>
    by_cases hs : Uncut c s
    · exact uncut s hs
    · simp only [Uncut, not_forall, not_not] at hs
      rcases hs with ⟨n,hfront⟩
      have hfits := c.fits s n hfront
      exact complete s n hfront
        (ih (s.drop n).length (by rw [List.length_drop]; omega) (s.drop n) rfl)

theorem cut_join (s : List α) : (cut c s).1.flatten ++ (cut c s).2 = s := by
  induction s using cut_induction (c := c) with
  | uncut s hs => simp [cut_uncut hs]
  | complete s n hn ih =>
    rw [cut_complete hn, List.flatten_cons, List.append_assoc, ih, List.take_append_drop]

theorem front_frame {s : List α} {n : ℕ} (h : c.front s = .complete n) : Frame c (s.take n) := by
  have hfits := c.fits s n h
  rw [Frame, c.own s n h, List.length_take, Nat.min_eq_left hfits.2]

theorem cut_frame (s : List α) : ∀ f ∈ (cut c s).1, Frame c f := by
  induction s using cut_induction (c := c) with
  | uncut s hs => simp [cut_uncut hs]
  | complete s n hn ih =>
    rw [cut_complete hn]
    intro f hf
    rcases List.mem_cons.mp hf with rfl | hf
    · exact front_frame hn
    · exact ih f hf

theorem cut_rest (s : List α) : Uncut c (cut c s).2 := by
  induction s using cut_induction (c := c) with
  | uncut s hs => rwa [cut_uncut hs]
  | complete s n hn ih => rwa [cut_complete hn]

theorem frame_pos {f : List α} (h : Frame c f) : 0 < f.length := (c.fits f _ h).1

/-- Frames and a rest that starts with none are the only way to cut their stream. -/
theorem cut_frames {fs : List (List α)} {rest : List α} (hfs : ∀ f ∈ fs, Frame c f)
    (hrest : Uncut c rest) : cut c (fs.flatten ++ rest) = (fs,rest) := by
  induction fs with
  | nil => simpa using cut_uncut hrest
  | cons f fs ih =>
    have hf : c.front ((f::fs).flatten ++ rest) = .complete f.length := by
      rw [List.flatten_cons, List.append_assoc]
      exact c.grows _ _ _ (hfs f List.mem_cons_self)
    rw [cut_complete hf, List.flatten_cons, List.append_assoc, List.take_left, List.drop_left,
      ih fun g hg => hfs g (List.mem_cons_of_mem f hg)]

/-- A stream is cut the same however it arrives. -/
theorem cut_append (s t : List α) :
    cut c (s ++ t) =
      ((cut c s).1 ++ (cut c ((cut c s).2 ++ t)).1, (cut c ((cut c s).2 ++ t)).2) := by
  have hjoin : s ++ t = ((cut c s).1 ++ (cut c ((cut c s).2 ++ t)).1).flatten ++
      (cut c ((cut c s).2 ++ t)).2 := by
    rw [List.flatten_append, List.append_assoc, cut_join, ← List.append_assoc, cut_join]
  rw [hjoin]
  refine cut_frames ?_ (cut_rest _)
  intro f hf
  rcases List.mem_append.mp hf with hf | hf
  · exact cut_frame _ f hf
  · exact cut_frame _ f hf

theorem cut_flatten {fs : List (List α)} (hfs : ∀ f ∈ fs, Frame c f) :
    cut c fs.flatten = (fs,[]) := by
  have h := cut_frames hfs (uncut_nil (c := c))
  rwa [List.append_nil] at h

/-- A stream of frames that has come in part goes on with the frames that are still missing. -/
theorem cut_part {fs : List (List α)} (hfs : ∀ f ∈ fs, Frame c f) {s t : List α}
    (h : s ++ t = fs.flatten) (ht : t ≠ []) : ∃ gs, gs ≠ [] ∧ fs = (cut c s).1 ++ gs := by
  have hcut := cut_append (c := c) s t
  rw [h, cut_flatten hfs] at hcut
  refine ⟨_,?_,congrArg Prod.fst hcut⟩
  intro hnone
  have hfs' : fs = (cut c s).1 := by
    have := congrArg Prod.fst hcut
    rwa [hnone, List.append_nil] at this
  have hjoin := cut_join (c := c) s
  rw [← hfs', ← h] at hjoin
  have hlength := congrArg List.length hjoin
  simp only [List.length_append] at hlength
  exact ht (List.length_eq_zero_iff.mp (by omega))

theorem cut_part_valid (hempty : c.front [] ≠ .invalid) {fs : List (List α)}
    (hfs : ∀ f ∈ fs, Frame c f) {s t : List α} (h : s ++ t = fs.flatten) :
    c.front (cut c s).2 ≠ .invalid := by
  intro hinvalid
  have huncut : Uncut c ((cut c s).2 ++ t) := by
    intro n hn
    rw [c.stays _ t hinvalid] at hn
    cases hn
  have hcut := congrArg Prod.snd (cut_append (c := c) s t)
  rw [h, cut_flatten hfs, cut_uncut huncut] at hcut
  rw [(List.append_eq_nil_iff.mp hcut.symm).1] at hinvalid
  exact hempty hinvalid

def located : ℕ → List (List α) → List (ℕ × List α)
  | _, [] => []
  | base, f::fs => (base,f) :: located (base+f.length) fs

theorem located_append (base : ℕ) (fs gs : List (List α)) :
    located base (fs ++ gs) = located base fs ++ located (base+fs.flatten.length) gs := by
  induction fs generalizing base with
  | nil => simp [located]
  | cons f fs ih => simp [located, ih, Nat.add_assoc]

theorem located_frames (base : ℕ) (fs : List (List α)) : (located base fs).map Prod.snd = fs := by
  induction fs generalizing base with
  | nil => rfl
  | cons f fs ih => rw [located, List.map_cons, ih]

theorem located_bounds {base : ℕ} {fs : List (List α)} (hfs : ∀ f ∈ fs, Frame c f)
    {o : ℕ} (ho : o ∈ (located base fs).map Prod.fst) : base ≤ o ∧ o < base+fs.flatten.length := by
  induction fs generalizing base with
  | nil => simp [located] at ho
  | cons f fs ih =>
    have hpos := frame_pos (hfs f List.mem_cons_self)
    rw [List.flatten_cons, List.length_append]
    rcases List.mem_cons.mp ho with rfl | ho
    · omega
    · have := ih (fun g hg => hfs g (List.mem_cons_of_mem f hg)) ho
      omega

/-- No two frames lie at one place. -/
theorem located_nodup (base : ℕ) {fs : List (List α)} (hfs : ∀ f ∈ fs, Frame c f) :
    ((located base fs).map Prod.fst).Nodup := by
  induction fs generalizing base with
  | nil => exact List.nodup_nil
  | cons f fs ih =>
    have htail : ∀ g ∈ fs, Frame c g := fun g hg => hfs g (List.mem_cons_of_mem f hg)
    have hpos := frame_pos (hfs f List.mem_cons_self)
    refine List.nodup_cons.mpr ⟨?_,ih (base+f.length) htail⟩
    intro hmem
    have := located_bounds htail hmem
    omega

end Framing
