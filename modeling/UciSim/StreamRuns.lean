import UciSim.General.Deadlines
import UciSim.StreamCalls
import UciSim.TransferScripts

/-!
# A stream along a run

In a run that lets time enough pass and does not interrupt it, a stream takes all the
measurements of its burst, unless the budget of the session is spent before.
-/

set_option autoImplicit false

namespace UciSim

theorem streaming_step {r : Run} {op : Op} (h : r.engine.device.FreeToStream)
    (hroom : r.Uncongested op) :
    (r.step op).engine.device.FreeToStream ∧
      ∃ ns, Called r.engine.device op ns (r.step op).engine.device ∧
        (r.step op).engine.device.pendingNotifications = [] := by
  obtain ⟨ns,hcalled,hpending,-⟩ :=
    r.step_called op (hroom.fits h.settled.quiet) h.settled.quiet
  obtain ⟨hsettled,⟨hprofile,hscenario⟩,-⟩ := called_path (g := fun _ _ => True) h.settled
    hcalled hpending (fun _ _ => trivial)
    (fun _ _ _ _ => Runs.along_of_forall (fun _ _ => trivial) _ _)
    (fun _ _ _ _ _ _ _ => trivial)
  exact ⟨⟨hsettled,hscenario.trans h.scenario,hprofile ▸ h.template⟩,ns,hcalled,hpending⟩

section

variable {r : Run} {i : Fin maxSessions} {sessionId base : UInt32}
  {burst made intervalMs time place : ℕ} {op : Op} {ops : List Op}

structure Run.Streaming (i : Fin maxSessions) (sessionId base : UInt32) (burst intervalMs : ℕ)
    (made time place : ℕ) (r : Run) : Prop where
  free : r.engine.device.FreeToStream
  ranges : r.engine.device.Ranges i sessionId base burst made intervalMs time place

/-- The stream has ended: it took its whole burst, or the budget of the session was spent. -/
structure Run.Streamed (i : Fin maxSessions) (sessionId base : UInt32) (burst : ℕ) (r : Run) :
    Prop where
  free : r.engine.device.FreeToStream
  ended : r.engine.device.StreamDone i sessionId (base+UInt32.ofNat burst) ∨
    ∃ taken ≤ burst, r.engine.device.BudgetDone i sessionId (base+UInt32.ofNat taken)

theorem streamed_onward {turns : ℕ} (hf : r.engine.device.FreeToStream)
    (h : r.engine.device.Streamed i sessionId base burst made intervalMs time place turns) :
    r.Streamed i sessionId base burst ∨
      r.Streaming i sessionId base burst intervalMs (made+1) intervalMs (maxScenarioEvents-1) ∨
      ∃ place', place' ≤ place ∧ (time = 0 → place'+turns ≤ place) ∧
        r.Streaming i sessionId base burst intervalMs made time place' := by
  cases h with
  | waits place' nearer turn still => exact Or.inr (Or.inr ⟨place',nearer,turn,hf,still⟩)
  | measures next => exact Or.inr (Or.inl ⟨hf,next⟩)
  | completes done => exact Or.inl ⟨hf,Or.inl done⟩
  | ends taken few done => exact Or.inl ⟨hf,Or.inr ⟨taken,few,done⟩⟩

theorem stream_progress (i : Fin maxSessions) (sessionId base : UInt32)
    (burst intervalMs : ℕ) :
    Deadlines.Progress Run.step (Run.LetsStream sessionId)
      (Run.Streamed i sessionId base burst)
      (Run.Streaming i sessionId base burst intervalMs) Op.elapsedMs Op.turns intervalMs
      (maxScenarioEvents-1) where
  mono h htime hplace := ⟨h.free,h.ranges.mono htime hplace⟩
  step h hop := by
    obtain ⟨hfree,ns,hcalled,hpending⟩ := streaming_step h.free hop.1
    exact streamed_onward hfree (called_streams h.free h.ranges hcalled hpending hop.2)

theorem started_ends {profile : Profile} {request : Packet} {after : List Op}
    (hf : r.engine.device.FreeToStream) (hprofile : r.engine.device.profile = profile)
    (hstarts : Starts r.engine.device request i) (hburst : profile.rangingStreamBurstCount ≠ 0)
    (hroom : r.engine.device.scheduledEvents.length < maxScenarioEvents)
    (hstale : ∀ event ∈ r.engine.device.scheduledEvents,
      event.key ≠ (.rangeData,readU32Le request.payload 0))
    (hinterval : ((r.engine.device.sessions i).getRangingIntervalMs profile).toNat ≤ intervalMs)
    (hops : Runs.Along Run.step (Run.LetsStream (readU32Le request.payload 0)) r
      (.submit request::after))
    (hrounds : Deadlines.Rounds Op.elapsedMs Op.turns intervalMs (maxScenarioEvents-1)
      profile.rangingStreamBurstCount.toNat after) :
    Runs.Reaches Run.step (Run.Streamed i (readU32Le request.payload 0)
      (r.engine.device.sessions i).rangingCount profile.rangingStreamBurstCount.toNat)
      (r.step (.submit request)) after := by
  subst hprofile
  obtain ⟨hop,hafter⟩ := hops
  obtain ⟨hfree,ns,hcalled,hpending⟩ := streaming_step hf hop.1
  have hprogress := stream_progress i (readU32Le request.payload 0)
    (r.engine.device.sessions i).rangingCount
    r.engine.device.profile.rangingStreamBurstCount.toNat intervalMs
  obtain hdone | hnext | ⟨place,hplace,-,hwaits⟩ := streamed_onward hfree
    (called_started hf hstarts hburst hroom hstale hinterval hcalled hpending)
  · exact ⟨[],after,rfl,hdone⟩
  · exact hprogress.finishes (fun h => h.ranges.unfinished) hrounds (Nat.le_add_left _ _) hnext
      hafter
  · exact hprogress.finishes (fun h => h.ranges.unfinished) hrounds (Nat.le_add_left _ _)
      (hprogress.mono hwaits (Nat.le_refl _) hplace) hafter

theorem done_later (hf : r.engine.device.FreeToStream)
    (hdone : r.engine.device.StreamDone i sessionId base)
    (hops : Runs.Along Run.step (Run.LetsStream sessionId) r ops) :
    (Runs.run Run.step r ops).engine.device.StreamDone i sessionId base := by
  refine (Runs.invariant_of_steps (I := fun r : Run => r.engine.device.FreeToStream ∧
    r.engine.device.StreamDone i sessionId base) ?_ r ops ⟨hf,hdone⟩ hops).2
  rintro r op ⟨hf,hdone⟩ hop
  obtain ⟨hfree,ns,hcalled,hpending⟩ := streaming_step hf hop.1
  exact ⟨hfree,called_stays_done hf.settled hdone hcalled hpending hop.2⟩

end

/-- In every uncongested run of the streaming scenario, a start that finds room in the event queue
while no earlier event of its session is left begins a stream that comes to its end: as long as
no reset and no stop, removal or setting of the session interrupts it, and as each of its intervals
passes and the events that are due are served, the session either takes exactly the measurements
of the burst, stays active and takes none beyond them, or goes idle with its budget spent after no
more of them. -/
theorem streams_come_to_their_end (profile : Profile) (hp : profile.StartStop)
    (ht : ¬ profile.BrokenTemplate) (before : List Op)
    (hbefore : Run.Along profile .rangingStream Run.Uncongested before) (request : Packet)
    (i : Fin maxSessions)
    (hstarts : Starts (Run.reached profile .rangingStream before).engine.device request i)
    (hburst : profile.rangingStreamBurstCount ≠ 0)
    (hroom : (Run.reached profile .rangingStream before).engine.device.scheduledEvents.length <
      maxScenarioEvents)
    (hstale : ∀ event ∈
      (Run.reached profile .rangingStream before).engine.device.scheduledEvents,
        event.key ≠ (.rangeData,readU32Le request.payload 0))
    (intervalMs : ℕ)
    (hinterval : (((Run.reached profile .rangingStream before).engine.device.sessions
      i).getRangingIntervalMs profile).toNat ≤ intervalMs)
    (after : List Op)
    (hafter : Runs.Along Run.step (Run.LetsStream (readU32Le request.payload 0))
      (Run.reached profile .rangingStream before) (.submit request::after))
    (hrounds : Deadlines.Rounds Op.elapsedMs Op.turns intervalMs (maxScenarioEvents-1)
      profile.rangingStreamBurstCount.toNat after) :
    ∃ made rest, after = made ++ rest ∧
      let start := Run.reached profile .rangingStream before
      let ended := Runs.run Run.step start (.submit request::made)
      let count := (start.engine.device.sessions i).rangingCount
      (∀ later, later <+: rest → (Runs.run Run.step ended later).engine.device.StreamDone i
          (readU32Le request.payload 0) (count+UInt32.ofNat profile.rangingStreamBurstCount.toNat)) ∨
        ∃ taken ≤ profile.rangingStreamBurstCount.toNat, ended.engine.device.BudgetDone i
          (readU32Le request.payload 0) (count+UInt32.ofNat taken) := by
  have hprofile : (Run.reached profile .rangingStream before).engine.device.profile = profile :=
    Run.reached_profile before
  have hscenario : (Run.reached profile .rangingStream before).engine.device.scenario =
      .rangingStream := Run.reached_scenario before
  have hfree : (Run.reached profile .rangingStream before).engine.device.FreeToStream :=
    ⟨reached_settled hp (by decide) hbefore,hscenario,by rwa [hprofile]⟩
  obtain ⟨made,rest,rfl,hstreamed⟩ := started_ends hfree hprofile hstarts hburst hroom hstale
    hinterval hafter hrounds
  refine ⟨made,rest,rfl,hstreamed.ended.imp ?_ id⟩
  rintro hdone later ⟨last,rfl⟩
  have hrest := hafter.2
  rw [Runs.along_append, Runs.along_append] at hrest
  exact done_later hstreamed.free hdone hrest.2.1

/-- A session is opened beside another that ranges. -/
def openedBeside : List Op :=
  [.submit (initRequest 2),.submit (startRequest 2)] ++ List.replicate 4 .dequeue ++
    [.submit (initRequest 1)] ++ List.replicate 2 .dequeue

def clearingTicks : List Op := servingTicks ++ servingTicks

/-- The other session is stopped and removed while the stream is under way. -/
def streamedThrice : List Op :=
  waitingTick ++ (clearingTicks ++
    ((.submit (stopRequest 2)::.dequeue::.dequeue::.dequeue::waitingTick) ++ (clearingTicks ++
      ((.submit (deinitRequest 2)::.dequeue::.dequeue::waitingTick) ++ (clearingTicks ++ [])))))

theorem streamed_thrice_rounds :
    Deadlines.Rounds Op.elapsedMs Op.turns 2000 (maxScenarioEvents-1) 3 streamedThrice :=
  .more _ _ _ (by decide) (by decide) (.more _ _ _ (by decide) (by decide)
    (.more _ _ _ (by decide) (by decide) (.done [])))

theorem stream_comes_to_its_end :
    ∃ made rest, streamedThrice = made ++ rest ∧
      let start := Run.reached defaultProfile .rangingStream openedBeside
      let ended := Runs.run Run.step start (.submit (startRequest 1)::made)
      let count := (start.engine.device.sessions 1).rangingCount
      (∀ later, later <+: rest →
          (Runs.run Run.step ended later).engine.device.StreamDone 1 1 (count+UInt32.ofNat 3)) ∨
        ∃ taken ≤ 3, ended.engine.device.BudgetDone 1 1 (count+UInt32.ofNat taken) := by
  have hbefore : Run.Along defaultProfile .rangingStream Run.Uncongested openedBeside := by
    decide +kernel
  have hstarts : Starts (Run.reached defaultProfile .rangingStream openedBeside).engine.device
    (startRequest 1) 1 := by decide +kernel
  have hroom : (Run.reached defaultProfile .rangingStream
    openedBeside).engine.device.scheduledEvents.length < maxScenarioEvents := by decide +kernel
  have hstale : ∀ event ∈ (Run.reached defaultProfile .rangingStream
    openedBeside).engine.device.scheduledEvents, event.key ≠ (.rangeData,1) := by decide +kernel
  have hinterval : (((Run.reached defaultProfile .rangingStream
    openedBeside).engine.device.sessions 1).getRangingIntervalMs defaultProfile).toNat ≤ 2000 := by
      decide +kernel
  have hafter : Runs.Along Run.step (Run.LetsStream 1) (Run.reached defaultProfile .rangingStream
    openedBeside) (.submit (startRequest 1)::streamedThrice) := by decide +kernel
  exact streams_come_to_their_end defaultProfile default_profile_start_stop (by decide) openedBeside
    hbefore (startRequest 1) 1 hstarts (by decide) hroom hstale 2000 hinterval streamedThrice
    hafter streamed_thrice_rounds

end UciSim
