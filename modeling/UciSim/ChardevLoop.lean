import UciSim.SameSubmissions
import UciSim.Servers

/-!
# The event loop of the chardev transport

A turn reads what the host has written, submits the packets that are complete,
writes everything outbound and ticks the engine by 50 ms. An input that fails ends
the loop, unless `errno` is EAGAIN by then: the loop goes on without a tick,
whatever has failed.
-/

set_option autoImplicit false

namespace UciSim

open Framing Recorder

/-- What a read of the PTY master returns; `failed` stands for its end as well. -/
inductive MasterRead where
  | available (bytes : List UInt8)
  | nothing
  | failed

def MasterRead.bytes : MasterRead → List UInt8
  | .available bytes => bytes
  | _ => []

/-- What the operating system decides in one turn: what the read returns, and whether `errno` is
EAGAIN when the input fails. -/
structure MasterTurn where
  read : MasterRead
  again : Bool

/-- The engine as the chardev calls it, its calls recorded. -/
def submitRecorded (calls : Recorded Run Op) (packet : Packet) : Rc × Recorded Run Op :=
  ((calls.machine.engine.submitPacket packet).rc,Recorder.call Run.step calls (.submit packet))

structure ChardevLoop where
  dev : Chardev (Recorded Run Op)
  connection : Connection
  running : Bool

namespace ChardevLoop

def tickMs : UInt32 := 50

def start (profile : Profile) (scenario : Scenario) : ChardevLoop where
  dev := .start ⟨Run.init profile scenario,[]⟩
  connection := ⟨[],0⟩
  running := true

def server (loop : ChardevLoop) : Server := ⟨loop.dev.engine,loop.connection⟩

def run (loop : ChardevLoop) : Run := loop.server.run

def stop (loop : ChardevLoop) : ChardevLoop := { loop with running := false }

/-- The loop with the calls and the connection of the server. -/
def withServer (loop : ChardevLoop) (server : Server) : ChardevLoop :=
  { loop with dev := { loop.dev with engine := server.calls }, connection := server.connection }

variable (takes : ℕ → ℕ)

def masterFlush (loop : ChardevLoop) : Rc × ChardevLoop :=
  ((loop.server.masterFlush takes).1,loop.withServer (loop.server.masterFlush takes).2)

def processInput (loop : ChardevLoop) : MasterRead → Rc × ChardevLoop
  | .failed => (.err,loop)
  | .nothing => loop.masterFlush takes
  | .available bytes =>
    match loop.dev.receive submitRecorded bytes with
    | (.err,dev) => (.err,{ loop with dev := dev })
    | (.ok,dev) => { loop with dev := dev }.masterFlush takes

/-- A tick that fails ends the loop. -/
def tick (loop : ChardevLoop) : ChardevLoop :=
  let ticked := loop.withServer (loop.server.call (.tick tickMs))
  match (loop.run.engine.tick tickMs).rc with
  | .ok => ticked
  | .err => ticked.stop

def turn (loop : ChardevLoop) (t : MasterTurn) : ChardevLoop :=
  if loop.running = false then loop
  else match loop.processInput takes t.read with
    | (.err,loop) => if t.again then loop else loop.stop
    | (.ok,loop) => loop.tick

abbrev served (profile : Profile) (scenario : Scenario) (turns : List MasterTurn) : ChardevLoop :=
  Runs.run (turn takes) (start profile scenario) turns

/-- The read fits the accumulator and completes two packets at most, and an input that fails
does not pass for one that finds nothing. -/
def Paced (loop : ChardevLoop) (t : MasterTurn) : Prop :=
  loop.dev.Fits t.read.bytes ∧ (loop.dev.append t.read.bytes).frames.length ≤ 2 ∧
    ((loop.processInput takes t.read).1 = .err → t.again = false)

instance (loop : ChardevLoop) (t : MasterTurn) : Decidable (loop.Paced takes t) :=
  inferInstanceAs (Decidable (_ ∧ _))

variable {takes} {loop : ChardevLoop} {t : MasterTurn}

theorem tick_running (h : loop.tick.running = true) :
    loop.running = true ∧ loop.tick = loop.withServer (loop.server.call (.tick tickMs)) := by
  unfold tick at h ⊢
  generalize (loop.run.engine.tick tickMs).rc = rc at h ⊢
  cases rc with
  | ok => exact ⟨h,rfl⟩
  | err => cases h

theorem turn_running (hpaced : loop.Paced takes t) (h : (loop.turn takes t).running = true) :
    loop.running = true ∧ ∃ next, loop.processInput takes t.read = (.ok,next) ∧
      loop.turn takes t = next.withServer (next.server.call (.tick tickMs)) := by
  have hfails := hpaced.2.2
  rw [turn] at h ⊢
  by_cases hended : loop.running = false
  · rw [if_pos hended, hended] at h
    cases h
  rw [if_neg hended] at h ⊢
  refine ⟨by simpa using hended,?_⟩
  generalize loop.processInput takes t.read = out at h hfails ⊢
  obtain ⟨rc,next⟩ := out
  cases rc with
  | err =>
    dsimp only at h
    rw [hfails rfl] at h
    cases h
  | ok => exact ⟨next,rfl,(tick_running h).2⟩

theorem ended_run (h : loop.running = false) (turns : List MasterTurn) :
    Runs.run (turn takes) loop turns = loop := by
  induction turns with
  | nil => rfl
  | cons t turns ih =>
    rw [Runs.run, turn, if_pos h]
    exact ih

theorem flush_ok {next : ChardevLoop} (h : loop.masterFlush takes = (.ok,next)) :
    (loop.server.masterFlush takes).1 = .ok ∧
      next = loop.withServer (loop.server.masterFlush takes).2 :=
  ⟨congrArg Prod.fst h,(congrArg Prod.snd h).symm⟩

theorem receive_ok {dev dev' : Chardev (Recorded Run Op)} {bytes : List UInt8}
    (h : dev.receive submitRecorded bytes = (.ok,dev')) :
    (offer submitRecorded dev.engine (dev.append bytes).batch).1 = .ok ∧
      dev'.engine = (offer submitRecorded dev.engine (dev.append bytes).batch).2.1 ∧
      dev'.stream = (dev.append bytes).rest := by
  rw [Chardev.receive, Chardev.stream_feed_eq] at h
  by_cases hcommits : (dev.append bytes).Commits submitRecorded
  · rw [if_pos hcommits] at h
    cases h
    exact ⟨hcommits.1,rfl,rfl⟩
  · rw [if_neg hcommits] at h
    cases h

/-- The loop once the bytes read are fed to the engine. -/
inductive Fed (loop : ChardevLoop) : List UInt8 → ChardevLoop → Prop where
  | nothing : Fed loop [] loop
  | submitted (bytes : List UInt8) (dev : Chardev (Recorded Run Op))
      (receives : loop.dev.receive submitRecorded bytes = (.ok,dev)) :
      Fed loop bytes { loop with dev := dev }

theorem process_input_ok {read : MasterRead} {next : ChardevLoop}
    (h : loop.processInput takes read = (.ok,next)) :
    ∃ fed, loop.Fed read.bytes fed ∧ fed.masterFlush takes = (.ok,next) := by
  cases read with
  | failed => cases h
  | nothing => exact ⟨loop,.nothing,h⟩
  | available bytes =>
    rw [processInput] at h
    rcases hreceive : loop.dev.receive submitRecorded bytes with ⟨rc,dev⟩
    rw [hreceive] at h
    cases rc with
    | err => cases h
    | ok => exact ⟨_,.submitted bytes dev hreceive,h⟩

end ChardevLoop

end UciSim
