import Mathlib.Algebra.GroupWithZero.Nat
import Mathlib.Data.List.Basic

/-!
# Formats

A format writes a value as a list and reads a value off the front of a list. It reads
exactly what it writes, so what was read is found again and nothing else is taken for it.
Values that are written into a bounded room are those that still fit when their turn comes.
-/

set_option autoImplicit false

structure Format (α β : Type) where
  write : β → List α
  read : List α → Option (β × List α)
  read_iff : ∀ s x rest, read s = some (x,rest) ↔ s = write x ++ rest

namespace Format

variable {α β γ : Type}

theorem read_write (f : Format α β) (x : β) (rest : List α) :
    f.read (f.write x ++ rest) = some (x,rest) := (f.read_iff _ _ _).mpr rfl

def one : Format α α where
  write x := [x]
  read
    | [] => none
    | x::rest => some (x,rest)
  read_iff s x rest := by
    cases s with
    | nil => exact iff_of_false nofun nofun
    | cons y s =>
      show some (y,s) = some (x,rest) ↔ y::s = x::rest
      rw [Option.some.injEq, Prod.mk.injEq, List.cons.injEq]

def pair (f : Format α β) (g : Format α γ) : Format α (β × γ) where
  write x := f.write x.1 ++ g.write x.2
  read s := (f.read s).bind fun first => (g.read first.2).map fun second =>
    ((first.1,second.1),second.2)
  read_iff s x rest := by
    rw [Option.bind_eq_some_iff]
    constructor
    · rintro ⟨⟨first,middle⟩,hfirst,hsecond⟩
      rcases Option.map_eq_some_iff.mp hsecond with ⟨⟨second,last⟩,hread,hx⟩
      cases hx
      have hmiddle : middle = g.write second ++ last := (g.read_iff _ _ _).mp hread
      rw [(f.read_iff _ _ _).mp hfirst, hmiddle, List.append_assoc]
    · intro hs
      refine ⟨(x.1,g.write x.2 ++ rest),(f.read_iff _ _ _).mpr ?_,?_⟩
      · rw [hs, List.append_assoc]
      · rw [g.read_write]
        rfl

/-- A byte string that a byte can count. -/
abbrev Counted := {bytes : List UInt8 // bytes.length < 256}

theorem counted_length (x : Counted) : (UInt8.ofNat x.1.length).toNat = x.1.length :=
  UInt8.toNat_ofNat_of_lt' x.2

def counted : Format UInt8 Counted where
  write x := UInt8.ofNat x.1.length::x.1
  read
    | [] => none
    | length::rest =>
      if rest.length < length.toNat then none
      else some (⟨rest.take length.toNat,
        Nat.lt_of_le_of_lt (List.length_take_le _ _) length.toNat_lt⟩,rest.drop length.toNat)
  read_iff s x rest := by
    cases s with
    | nil => exact iff_of_false nofun nofun
    | cons length s =>
      dsimp only
      rw [List.cons_append, List.cons.injEq]
      constructor
      · intro hread
        by_cases hshort : s.length < length.toNat
        · rw [if_pos hshort] at hread
          cases hread
        · rw [if_neg hshort] at hread
          cases hread
          have htaken : (s.take length.toNat).length = length.toNat :=
            List.length_take_of_le (Nat.le_of_not_lt hshort)
          refine ⟨?_,(List.take_append_drop _ _).symm⟩
          show length = UInt8.ofNat (s.take length.toNat).length
          rw [htaken, UInt8.ofNat_toNat]
      · rintro ⟨rfl,rfl⟩
        have hcount := counted_length x
        have hlong : ¬ (x.1 ++ rest).length < (UInt8.ofNat x.1.length).toNat := by
          rw [hcount, List.length_append]
          omega
        rw [if_neg hlong]
        refine congrArg some (Prod.ext (Subtype.ext ?_) ?_)
        · show (x.1 ++ rest).take (UInt8.ofNat x.1.length).toNat = x.1
          rw [hcount, List.take_left]
        · show (x.1 ++ rest).drop (UInt8.ofNat x.1.length).toNat = rest
          rw [hcount, List.drop_left]

def writeMany (f : Format α β) (xs : List β) : List α := (xs.map f.write).flatten

def readMany (f : Format α β) : ℕ → List α → Option (List β × List α)
  | 0, s => some ([],s)
  | n+1, s => (f.read s).bind fun first => (f.readMany n first.2).map fun more =>
    (first.1::more.1,more.2)

theorem write_many_cons (f : Format α β) (x : β) (xs : List β) :
    f.writeMany (x::xs) = f.write x ++ f.writeMany xs := rfl

theorem read_many_succ (f : Format α β) (n : ℕ) (s : List α) :
    f.readMany (n+1) s = (f.read s).bind fun first => (f.readMany n first.2).map fun more =>
      (first.1::more.1,more.2) := rfl

theorem read_many_iff (f : Format α β) (n : ℕ) (s : List α) (xs : List β) (rest : List α) :
    f.readMany n s = some (xs,rest) ↔ xs.length = n ∧ s = f.writeMany xs ++ rest := by
  induction n generalizing s xs with
  | zero =>
    constructor
    · intro hread
      cases hread
      exact ⟨rfl,rfl⟩
    · rintro ⟨hlength,rfl⟩
      rw [List.length_eq_zero_iff.mp hlength]
      rfl
  | succ n ih =>
    rw [read_many_succ, Option.bind_eq_some_iff]
    constructor
    · rintro ⟨⟨first,middle⟩,hfirst,hmore⟩
      rcases Option.map_eq_some_iff.mp hmore with ⟨⟨more,last⟩,hread,hxs⟩
      cases hxs
      rcases (ih middle more).mp hread with ⟨hlength,hmiddle⟩
      refine ⟨congrArg (·+1) hlength,?_⟩
      rw [(f.read_iff _ _ _).mp hfirst, hmiddle, write_many_cons, List.append_assoc]
    · rintro ⟨hlength,hs⟩
      cases xs with
      | nil => cases hlength
      | cons x xs =>
        rw [write_many_cons, List.append_assoc] at hs
        refine ⟨(x,f.writeMany xs ++ rest),(f.read_iff _ _ _).mpr hs,?_⟩
        rw [(ih _ xs).mpr ⟨Nat.succ.inj hlength,rfl⟩]
        rfl

/-- The values that still fit into the room when their turn comes. -/
def fitting (size : β → ℕ) : ℕ → List β → List β
  | _, [] => []
  | room, x::xs =>
    if size x ≤ room then x::fitting size (room-size x) xs else fitting size room xs

theorem fitting_sublist (size : β → ℕ) (room : ℕ) (xs : List β) :
    (fitting size room xs).Sublist xs := by
  induction xs generalizing room with
  | nil => exact List.Sublist.refl _
  | cons x xs ih =>
    unfold fitting
    split
    · exact (ih _).cons_cons x
    · exact (ih _).cons x

theorem fitting_size (size : β → ℕ) (room : ℕ) (xs : List β) :
    ((fitting size room xs).map size).sum ≤ room := by
  induction xs generalizing room with
  | nil => exact Nat.zero_le _
  | cons x xs ih =>
    unfold fitting
    split
    · have hrest := ih (room-size x)
      rw [List.map_cons, List.sum_cons]
      omega
    · exact ih room

end Format
