import UciSim.General.Awaited
import UciSim.General.Runs

/-!
# A queue of timed entries and its ledger

Entries are put at the end of a queue, run down while time passes, and are dropped or
served; served is the first whose time is up. The ledger numbers the entries as they
come, so that each can be told from its equals for as long as the queue is used.
-/

set_option autoImplicit false

namespace TimedQueue

/-- An entry of the queue under its number. -/
structure Ticket (ε : Type) where
  number : ℕ
  entry : ε

/-- The tickets that wait, were served, each with its time, and were dropped, and all that was
put, with its time. -/
structure Ledger (ε : Type) where
  now : ℕ
  log : List (ε × ℕ)
  waiting : List (Ticket ε)
  served : List (Ticket ε × ℕ)
  dropped : List (Ticket ε)

inductive Op (ε κ : Type) where
  | put (e : ε)
  | drop (named : κ → Bool)
  | pass (elapsed : ℕ)
  | serve

/-- The operation drops the entries of the key. -/
def Op.names {ε κ : Type} : Op ε κ → κ → Bool
  | .drop named => named
  | _ => fun _ => false

def Op.serves {ε κ : Type} : Op ε κ → ℕ
  | .serve => 1
  | _ => 0

namespace Ledger

variable {ε κ : Type}

def empty : Ledger ε := ⟨0,[],[],[],[]⟩

def entries (l : Ledger ε) : List ε := l.waiting.map Ticket.entry

/-- All tickets that were ever given out. -/
def tickets (l : Ledger ε) : List (Ticket ε) :=
  l.waiting ++ (l.served.map Prod.fst ++ l.dropped)

section

variable (key : ε → κ) (left : ε → ℕ) (age : ℕ → ε → ε)

def step (l : Ledger ε) : Op ε κ → Ledger ε
  | .put e =>
    { l with
      log := l.log ++ [(e,l.now)]
      waiting := l.waiting ++ [⟨l.log.length,e⟩] }
  | .drop named =>
    { l with
      waiting := l.waiting.filter fun t => !named (key t.entry)
      dropped := l.dropped ++ l.waiting.filter fun t => named (key t.entry) }
  | .pass elapsed =>
    { l with
      now := l.now+elapsed
      waiting := l.waiting.map fun t => ⟨t.number,age elapsed t.entry⟩ }
  | .serve =>
    match l.waiting.find? fun t => left t.entry == 0 with
    | none => l
    | some t =>
      { l with
        waiting := l.waiting.eraseP fun t => left t.entry == 0
        served := l.served ++ [(t,l.now)] }

def run (l : Ledger ε) (ops : List (Op ε κ)) : Ledger ε := Runs.run (step key left age) l ops

/-- What runs down keeps its key and loses the time that passes. -/
structure Ages : Prop where
  key : ∀ elapsed e, key (age elapsed e) = key e
  left : ∀ elapsed e, left (age elapsed e) = left e-elapsed

/-- The ticket carries what was put under its number, less the time that has passed since. -/
def Carries (l : Ledger ε) (t : Ticket ε) (now : ℕ) : Prop :=
  ∃ e since, l.log[t.number]? = some (e,since) ∧ since ≤ now ∧ key t.entry = key e ∧
    left t.entry = left e-(now-since)

/-- The books are in order: every ticket carries what was put under its number, each number was
given out once, and those that wait stand in the order in which they were put. -/
structure Kept (l : Ledger ε) : Prop where
  waiting : ∀ t ∈ l.waiting, l.Carries key left t l.now
  served : ∀ s ∈ l.served, s.2 ≤ l.now ∧ left s.1.entry = 0 ∧ l.Carries key left s.1 s.2
  numbers : (l.tickets.map Ticket.number).Perm (List.range l.log.length)
  order : l.waiting.Pairwise fun t u => t.number < u.number

end

section

variable (key : ε → κ) (left : ε → ℕ) (age : ℕ → ε → ε) (l : Ledger ε)

theorem entries_put (e : ε) :
    (l.step key left age (.put e)).entries = l.entries ++ [e] := by
  unfold entries step
  rw [List.map_append]
  rfl

theorem entries_drop (named : κ → Bool) :
    (l.step key left age (.drop named)).entries = l.entries.filter fun e => !named (key e) := by
  unfold entries step
  rw [List.filter_map]
  rfl

theorem entries_pass (elapsed : ℕ) :
    (l.step key left age (.pass elapsed)).entries = l.entries.map (age elapsed) := by
  unfold entries step
  rw [List.map_map, List.map_map]
  rfl

theorem entries_find :
    l.entries.find? (fun e => left e == 0) =
      (l.waiting.find? fun t => left t.entry == 0).map Ticket.entry := by
  unfold entries
  rw [List.find?_map]
  rfl

variable {key left age l}

theorem serve_none (h : l.waiting.find? (fun t => left t.entry == 0) = none) :
    l.step key left age .serve = l := by
  rw [step, h]

theorem serve_some {t : Ticket ε} (h : l.waiting.find? (fun t => left t.entry == 0) = some t) :
    l.step key left age .serve =
      { l with
        waiting := l.waiting.eraseP fun t => left t.entry == 0
        served := l.served ++ [(t,l.now)] } := by
  rw [step, h]

variable (key left age l)

theorem entries_serve :
    (l.step key left age .serve).entries = l.entries.eraseP (fun e => left e == 0) ∧
      (l.step key left age .serve).served.map (fun s => s.1.entry) =
        l.served.map (fun s => s.1.entry) ++
          (l.entries.find? fun e => left e == 0).toList := by
  rw [entries_find]
  have herase : l.entries.eraseP (fun e => left e == 0) =
      (l.waiting.eraseP fun t => left t.entry == 0).map Ticket.entry := List.eraseP_map
  cases hfind : l.waiting.find? fun t => left t.entry == 0 with
  | none =>
    rw [serve_none hfind, herase, List.eraseP_of_forall_not (List.find?_eq_none.mp hfind)]
    exact ⟨rfl,(List.append_nil _).symm⟩
  | some t =>
    rw [serve_some hfind, herase]
    refine ⟨rfl,?_⟩
    rw [List.map_append]
    rfl

end

variable {key : ε → κ} {left : ε → ℕ} {age : ℕ → ε → ε} {l : Ledger ε}

theorem Carries.put {t : Ticket ε} {now : ℕ} (h : l.Carries key left t now) (e : ε) :
    (l.step key left age (.put e)).Carries key left t now := by
  rcases h with ⟨e',since,hlog,hrest⟩
  refine ⟨e',since,?_,hrest⟩
  show (l.log ++ [(e,l.now)])[t.number]? = _
  rw [List.getElem?_append_left (List.getElem?_eq_some_iff.mp hlog).1]
  exact hlog

theorem Kept.empty : (Ledger.empty : Ledger ε).Kept key left where
  waiting := nofun
  served := nofun
  numbers := List.Perm.refl _
  order := List.Pairwise.nil

theorem Kept.below (h : l.Kept key left) {t : Ticket ε} (ht : t ∈ l.tickets) :
    t.number < l.log.length :=
  List.mem_range.mp (h.numbers.subset (List.mem_map_of_mem ht))

theorem Kept.put (h : l.Kept key left) (e : ε) :
    (l.step key left age (.put e)).Kept key left where
  waiting := by
    intro t ht
    rcases List.mem_append.mp ht with ht | ht
    · exact (h.waiting t ht).put e
    · rw [List.mem_singleton.mp ht]
      refine ⟨e,l.now,List.getElem?_concat_length,Nat.le_refl _,rfl,?_⟩
      show left e = left e-(l.now-l.now)
      rw [Nat.sub_self, Nat.sub_zero]
  served := by
    intro s hs
    rcases h.served s hs with ⟨hnow,hleft,hcarries⟩
    exact ⟨hnow,hleft,hcarries.put e⟩
  numbers := by
    show (((l.waiting ++ [(⟨l.log.length,e⟩ : Ticket ε)]) ++
      (l.served.map Prod.fst ++ l.dropped)).map Ticket.number).Perm
        (List.range (l.log ++ [(e,l.now)]).length)
    rw [List.length_append, List.length_singleton, List.range_succ]
    have hmoved : ((l.waiting ++ [(⟨l.log.length,e⟩ : Ticket ε)]) ++
        (l.served.map Prod.fst ++ l.dropped)).Perm (l.tickets ++ [⟨l.log.length,e⟩]) := by
      unfold tickets
      rw [List.append_assoc, List.append_assoc]
      exact List.perm_append_comm.append_left l.waiting
    refine (hmoved.map Ticket.number).trans ?_
    rw [List.map_append]
    exact h.numbers.append_right _
  order := by
    refine List.pairwise_append.mpr ⟨h.order,List.pairwise_singleton _ _,?_⟩
    intro t ht u hu
    rw [List.mem_singleton.mp hu]
    exact h.below (List.mem_append_left _ ht)

theorem Kept.drop (h : l.Kept key left) (named : κ → Bool) :
    (l.step key left age (.drop named)).Kept key left where
  waiting := fun t ht => h.waiting t (List.mem_filter.mp ht).1
  served := h.served
  numbers := by
    refine List.Perm.trans (List.Perm.map _ ?_) h.numbers
    show ((l.waiting.filter fun t => !named (key t.entry)) ++ (l.served.map Prod.fst ++
      (l.dropped ++ l.waiting.filter fun t => named (key t.entry)))).Perm l.tickets
    have hsplit := List.filter_append_perm (fun t : Ticket ε => !named (key t.entry)) l.waiting
    simp only [Bool.not_not] at hsplit
    rw [← List.append_assoc (l.served.map Prod.fst)]
    refine (List.perm_append_comm.append_left _).trans ?_
    rw [← List.append_assoc]
    exact hsplit.append_right _
  order := h.order.sublist List.filter_sublist

theorem Kept.pass (hages : Ages key left age) (h : l.Kept key left) (elapsed : ℕ) :
    (l.step key left age (.pass elapsed : Op ε κ)).Kept key left where
  waiting := by
    intro t ht
    rcases List.mem_map.mp ht with ⟨u,hu,rfl⟩
    rcases h.waiting u hu with ⟨e,since,hlog,hsince,hkey,hleft⟩
    refine ⟨e,since,hlog,Nat.le_add_right_of_le hsince,(hages.key _ _).trans hkey,?_⟩
    rw [hages.left, hleft]
    show left e-(l.now-since)-elapsed = left e-(l.now+elapsed-since)
    omega
  served := by
    intro s hs
    rcases h.served s hs with ⟨hnow,hrest⟩
    exact ⟨Nat.le_add_right_of_le hnow,hrest⟩
  numbers := by
    have hsame : (l.step key left age (.pass elapsed : Op ε κ)).tickets.map Ticket.number =
        l.tickets.map Ticket.number := by
      show ((l.waiting.map fun t => (⟨t.number,age elapsed t.entry⟩ : Ticket ε)) ++
        (l.served.map Prod.fst ++ l.dropped)).map Ticket.number = _
      simp only [tickets, List.map_append, List.map_map]
      rfl
    rw [hsame]
    exact h.numbers
  order := List.pairwise_map.mpr h.order

theorem Kept.serve (h : l.Kept key left) :
    (l.step key left age .serve).Kept key left := by
  cases hfind : l.waiting.find? fun t => left t.entry == 0 with
  | none => rwa [serve_none hfind]
  | some t =>
    rw [serve_some hfind]
    have hmem := List.mem_of_find?_eq_some hfind
    constructor
    · exact fun u hu => h.waiting u (List.mem_of_mem_eraseP hu)
    · intro s hs
      rcases List.mem_append.mp hs with hs | hs
      · exact h.served s hs
      · rw [List.mem_singleton.mp hs]
        exact ⟨Nat.le_refl _,by simpa using List.find?_some hfind,h.waiting t hmem⟩
    · refine List.Perm.trans (List.Perm.map _ ?_) h.numbers
      rcases KeyedQueue.due_split hfind with ⟨before,after,hwaiting,herased⟩
      show ((l.waiting.eraseP fun t => left t.entry == 0) ++
        ((l.served ++ [(t,l.now)]).map Prod.fst ++ l.dropped)).Perm l.tickets
      unfold tickets
      rw [herased, hwaiting, List.map_append, List.append_assoc (l.served.map Prod.fst)]
      have hserved : (l.served.map Prod.fst ++ t::l.dropped).Perm
          (t::(l.served.map Prod.fst ++ l.dropped)) := List.perm_middle
      refine (hserved.append_left _).trans (List.perm_middle.trans ?_)
      exact (List.perm_middle.symm.append_right (l.served.map Prod.fst ++ l.dropped))
    · exact h.order.sublist List.eraseP_sublist

theorem Kept.step (hages : Ages key left age) (h : l.Kept key left) (op : Op ε κ) :
    (l.step key left age op).Kept key left := by
  cases op with
  | put e => exact h.put e
  | drop named => exact h.drop named
  | pass elapsed => exact h.pass hages elapsed
  | serve => exact h.serve

theorem Kept.run (hages : Ages key left age) (h : l.Kept key left) (ops : List (Op ε κ)) :
    (l.run key left age ops).Kept key left :=
  Runs.invariant_of_all_steps (fun _ op hl => hl.step hages op) l ops h

/-- What is dropped is named by an operation, and was waiting when it was. -/
theorem run_dropped (l : Ledger ε) (ops : List (Op ε κ)) :
    ∃ ts, (l.run key left age ops).dropped = l.dropped ++ ts ∧
      ∀ t ∈ ts, ∃ op ∈ ops, op.names (key t.entry) = true := by
  induction ops generalizing l with
  | nil => exact ⟨[],(List.append_nil _).symm,nofun⟩
  | cons op ops ih =>
    rcases ih (l.step key left age op) with ⟨ts,hdropped,hnamed⟩
    have hlater : ∀ t ∈ ts, ∃ op' ∈ op::ops, op'.names (key t.entry) = true := by
      intro t ht
      rcases hnamed t ht with ⟨op',hop,hname⟩
      exact ⟨op',List.mem_cons_of_mem op hop,hname⟩
    have hsame : (l.step key left age op).dropped = l.dropped →
        ∃ ts, (l.run key left age (op::ops)).dropped = l.dropped ++ ts ∧
          ∀ t ∈ ts, ∃ op' ∈ op::ops, op'.names (key t.entry) = true := by
      intro h
      rw [h] at hdropped
      exact ⟨ts,hdropped,hlater⟩
    cases op with
    | put e => exact hsame rfl
    | pass elapsed => exact hsame rfl
    | serve =>
      refine hsame ?_
      cases hfind : l.waiting.find? fun t => left t.entry == 0 with
      | none => rw [serve_none hfind]
      | some t => rw [serve_some hfind]
    | drop named =>
      refine ⟨(l.waiting.filter fun t => named (key t.entry)) ++ ts,?_,?_⟩
      · rw [← List.append_assoc]
        exact hdropped
      · intro t ht
        rcases List.mem_append.mp ht with ht | ht
        · exact ⟨.drop named,List.mem_cons_self,(List.mem_filter.mp ht).2⟩
        · exact hlater t ht

theorem step_served (l : Ledger ε) (op : Op ε κ) :
    ∃ more, (l.step key left age op).served = l.served ++ more := by
  cases op with
  | put e => exact ⟨[],(List.append_nil _).symm⟩
  | drop named => exact ⟨[],(List.append_nil _).symm⟩
  | pass elapsed => exact ⟨[],(List.append_nil _).symm⟩
  | serve =>
    cases hfind : l.waiting.find? fun t => left t.entry == 0 with
    | none => exact ⟨[],by rw [serve_none hfind, List.append_nil]⟩
    | some t => exact ⟨[(t,l.now)],by rw [serve_some hfind]⟩

theorem run_served (l : Ledger ε) (ops : List (Op ε κ)) :
    ∃ new, (l.run key left age ops).served = l.served ++ new := by
  induction ops generalizing l with
  | nil => exact ⟨[],(List.append_nil _).symm⟩
  | cons op ops ih =>
    rcases ih (l.step key left age op) with ⟨new,hserved⟩
    rcases step_served l op with ⟨more,hmore⟩
    refine ⟨more ++ new,?_⟩
    rw [← List.append_assoc, ← hmore]
    exact hserved

/-- A ticket by its number and the key of its entry. -/
def tag (key : ε → κ) (t : Ticket ε) : ℕ × κ := (t.number,key t.entry)

/-- The ticket waits with its time up, behind `place` others at most. -/
abbrev Due (key : ε → κ) (left : ε → ℕ) (l : Ledger ε) (t : Ticket ε) (place : ℕ) : Prop :=
  Awaited.Awaits (tag key) (fun u => left u.entry) (tag key t) 0 place l.waiting

theorem Kept.due (h : l.Kept key left) {before after : List (Ticket ε)} {t : Ticket ε}
    (hwaiting : l.waiting = before ++ t::after) (hdue : left t.entry = 0) :
    l.Due key left t before.length := by
  refine ⟨before,t,after,hwaiting,rfl,Nat.le_of_eq hdue,Nat.le_refl _,?_⟩
  intro u hu hsame
  have hnumber : u.number = t.number := congrArg Prod.fst hsame
  have horder := h.order
  rw [hwaiting] at horder
  rcases List.pairwise_append.mp horder with ⟨-,hafter,hbefore⟩
  rcases List.mem_append.mp hu with hu | hu
  · exact absurd hnumber (Nat.ne_of_lt (hbefore u hu t List.mem_cons_self))
  · exact absurd hnumber.symm (Nat.ne_of_lt ((List.pairwise_cons.mp hafter).1 u hu))

theorem Due.step {t : Ticket ε} {place : ℕ} (hages : Ages key left age)
    (hd : l.Due key left t place) (ht : t.number < l.log.length) {op : Op ε κ}
    (hop : op.names (key t.entry) = false) (hserves : op.serves = 0) :
    (l.step key left age op).Due key left t place ∧
      (l.step key left age op).served = l.served ∧
      t.number < (l.step key left age op).log.length := by
  cases op with
  | put e =>
    refine ⟨(Awaited.keeps_append fun hsame => ?_).1 0 place hd,rfl,?_⟩
    · exact absurd (congrArg Prod.fst hsame) (Nat.ne_of_gt ht)
    · show t.number < (l.log ++ [(e,l.now)]).length
      rw [List.length_append]
      exact Nat.lt_add_right _ ht
  | drop named =>
    refine ⟨(Awaited.keeps_filter fun u hu => ?_).1 0 place hd,rfl,ht⟩
    rw [show key u.entry = key t.entry from congrArg Prod.snd hu]
    exact congrArg not hop
  | pass elapsed =>
    have haged : Awaited.Awaits (tag key) (fun u => left u.entry) (tag key t) (0-elapsed) place
        (l.waiting.map fun u => ⟨u.number,age elapsed u.entry⟩) :=
      Awaited.awaits_aged (fun u => Prod.ext rfl (hages.key elapsed u.entry))
        (fun u => Nat.le_of_eq (hages.left elapsed u.entry)) hd
    rw [Nat.zero_sub] at haged
    exact ⟨haged,rfl,ht⟩
  | serve => cases hserves

/-- A ticket whose time is up is served before it has been passed over by more than those that
waited before it. -/
theorem Due.served {t : Ticket ε} {place : ℕ} (hages : Ages key left age)
    (hd : l.Due key left t place) (ht : t.number < l.log.length) {ops : List (Op ε κ)}
    (hops : ∀ op ∈ ops, op.names (key t.entry) = false)
    (hmany : place < (ops.map Op.serves).sum) :
    ∃ new s rest, (l.run key left age ops).served = l.served ++ (new ++ s::rest) ∧
      tag key s.1 = tag key t ∧ left s.1.entry = 0 ∧ new.length ≤ place := by
  induction ops generalizing l place with
  | nil => exact absurd hmany (Nat.not_lt_zero place)
  | cons op ops ih =>
    have hop := hops op List.mem_cons_self
    have hrest : ∀ op ∈ ops, op.names (key t.entry) = false :=
      fun op' hop' => hops op' (List.mem_cons_of_mem op hop')
    rw [List.map_cons, List.sum_cons] at hmany
    by_cases hserves : op.serves = 0
    · rcases hd.step hages ht hop hserves with ⟨hnext,hserved,hnumber⟩
      rw [← hserved]
      exact ih hnext hnumber hrest (by omega)
    have hserve : op = .serve := by
      cases op with
      | serve => rfl
      | put e => exact absurd rfl hserves
      | drop named => exact absurd rfl hserves
      | pass elapsed => exact absurd rfl hserves
    subst hserve
    have hzero : ∀ u : Ticket ε, left u.entry = 0 → (left u.entry == 0) = true :=
      fun u hu => beq_iff_eq.mpr hu
    rcases Option.ne_none_iff_exists'.mp (Awaited.awaits_found hzero hd) with ⟨u,hfind⟩
    by_cases hu : tag key u = tag key t
    · rcases run_served (l.step key left age .serve) ops with ⟨rest,hserved⟩
      refine ⟨[],(u,l.now),rest,?_,hu,by simpa using List.find?_some hfind,Nat.zero_le _⟩
      show (Ledger.run key left age (l.step key left age .serve) ops).served = _
      rw [hserved, serve_some hfind, List.append_assoc]
      rfl
    · rcases Awaited.awaits_turn hfind hu hzero hd with ⟨hpos,hturn⟩
      have hnext : (l.step key left age .serve).Due key left t (place-1) := by
        rw [serve_some hfind]
        exact hturn
      have hnumber : t.number < (l.step key left age .serve).log.length := by
        rwa [serve_some hfind]
      have hone : 1+(ops.map Op.serves).sum = (Op.serves (.serve : Op ε κ))+
        (ops.map Op.serves).sum := rfl
      rcases ih hnext hnumber hrest (by omega) with ⟨new,s,rest,hserved,hs,hleft,hlength⟩
      refine ⟨(u,l.now)::new,s,rest,?_,hs,hleft,?_⟩
      · show (Ledger.run key left age (l.step key left age .serve) ops).served = _
        rw [hserved, serve_some hfind, List.append_assoc]
        rfl
      · rw [List.length_cons]
        omega

/-- The ticket waits. -/
def Waits (key : ε → κ) (l : Ledger ε) (t : Ticket ε) : Prop :=
  ∃ u ∈ l.waiting, tag key u = tag key t

theorem Waits.step {t : Ticket ε} (hages : Ages key left age) (h : l.Waits key t) {op : Op ε κ}
    (hop : op.names (key t.entry) = false) :
    (l.step key left age op).Waits key t ∨
      ∃ s, (l.step key left age op).served = l.served ++ [s] ∧ tag key s.1 = tag key t := by
  rcases h with ⟨u,hu,htag⟩
  cases op with
  | put e => exact Or.inl ⟨u,List.mem_append_left _ hu,htag⟩
  | drop named =>
    refine Or.inl ⟨u,List.mem_filter.mpr ⟨hu,?_⟩,htag⟩
    rw [show key u.entry = key t.entry from congrArg Prod.snd htag]
    exact congrArg not hop
  | pass elapsed =>
    refine Or.inl ⟨_,List.mem_map_of_mem hu,?_⟩
    rw [← htag]
    exact Prod.ext rfl (hages.key elapsed u.entry)
  | serve =>
    cases hfind : l.waiting.find? fun t => left t.entry == 0 with
    | none => exact Or.inl ⟨u,by rwa [serve_none hfind],htag⟩
    | some v =>
      rw [serve_some hfind]
      by_cases hv : tag key v = tag key t
      · exact Or.inr ⟨(v,l.now),rfl,hv⟩
      · rcases KeyedQueue.due_split hfind with ⟨before,after,hwaiting,herased⟩
        refine Or.inl ⟨u,?_,htag⟩
        show u ∈ l.waiting.eraseP _
        rw [hwaiting] at hu
        rw [herased]
        rcases List.mem_append.mp hu with hu | hu
        · exact List.mem_append_left _ hu
        · rcases List.mem_cons.mp hu with rfl | hu
          · exact absurd htag hv
          · exact List.mem_append_right _ hu

theorem Waits.run {t : Ticket ε} (hages : Ages key left age) (h : l.Waits key t)
    {ops : List (Op ε κ)} (hops : ∀ op ∈ ops, op.names (key t.entry) = false) :
    (l.run key left age ops).Waits key t ∨
      ∃ new s rest, (l.run key left age ops).served = l.served ++ (new ++ s::rest) ∧
        tag key s.1 = tag key t := by
  induction ops generalizing l with
  | nil => exact Or.inl h
  | cons op ops ih =>
    rcases h.step hages (hops op List.mem_cons_self) with hwaits | ⟨s,hserved,hs⟩
    · rcases ih hwaits fun op' hop' => hops op' (List.mem_cons_of_mem op hop') with
        hlater | ⟨new,s,rest,hserved,hs⟩
      · exact Or.inl hlater
      · have hstep : ∃ more, (l.step key left age op).served = l.served ++ more := step_served l op
        rcases hstep with ⟨more,hmore⟩
        refine Or.inr ⟨more ++ new,s,rest,?_,hs⟩
        rw [List.append_assoc, ← List.append_assoc l.served, ← hmore]
        exact hserved
    · rcases run_served (l.step key left age op) ops with ⟨rest,hlater⟩
      refine Or.inr ⟨[],s,rest,?_,hs⟩
      show (Ledger.run key left age (l.step key left age op) ops).served = _
      rw [hlater, hserved, List.append_assoc]
      rfl

end Ledger

end TimedQueue
