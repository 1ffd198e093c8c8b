import Mathlib.Data.List.Perm.Basic

/-!
# Two chained queues

Waiting items are forwarded to an outbound queue of fixed capacity. The
forwarder takes an item before it knows whether there is room for it, so one
item is lost when the outbound queue fills up.
-/

set_option autoImplicit false

namespace Relay

variable {α : Type}

structure Lines (α : Type) where
  waiting : List α
  outbound : List α

def room (capacity : ℕ) (l : Lines α) : ℕ := capacity-l.outbound.length

def forward (capacity : ℕ) (l : Lines α) : Lines α where
  waiting := l.waiting.drop (room capacity l+1)
  outbound := l.outbound ++ l.waiting.take (room capacity l)

/-- The item taken that found no room. -/
def lost (capacity : ℕ) (l : Lines α) : List α := (l.waiting.drop (room capacity l)).take 1

def held (l : Lines α) : List α := l.outbound ++ l.waiting

theorem forward_held (capacity : ℕ) (l : Lines α) :
    List.Perm (held l) (held (forward capacity l) ++ lost capacity l) := by
  have hdrop : l.waiting.drop (room capacity l) =
      lost capacity l ++ l.waiting.drop (room capacity l+1) := by
    rw [← List.drop_drop]
    exact (List.take_append_drop 1 _).symm
  have hsplit : held l = l.outbound ++ (l.waiting.take (room capacity l) ++
      (lost capacity l ++ l.waiting.drop (room capacity l+1))) := by
    rw [← hdrop, List.take_append_drop]
    rfl
  rw [hsplit]
  simp only [held, forward, List.append_assoc]
  exact ((List.perm_append_comm).append_left _).append_left _

theorem lost_eq_nil (capacity : ℕ) (l : Lines α) :
    lost capacity l = [] ↔ l.waiting.length ≤ room capacity l := by
  simp [lost, List.take_eq_nil_iff, List.drop_eq_nil_iff]

/-- With room for everything that waits nothing waits on. -/
theorem forward_room (capacity : ℕ) (l : Lines α) (h : l.waiting.length ≤ room capacity l) :
    forward capacity l = ⟨[],l.outbound ++ l.waiting⟩ := by
  unfold forward
  rw [List.drop_eq_nil_of_le (by omega), List.take_of_length_le h]

end Relay
