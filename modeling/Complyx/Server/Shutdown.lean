import Complyx.Orchestrator.Monitor
import Complyx.Server.CommandLine
import Complyx.Transition.Await

namespace Complyx

open Transition

/-!
# Stopping the server

Each of the two servers serves until its own `shutdown_signal` has returned, and
when both have ended `main` tells the monitor to stop.  Both blocks of
`shutdown_signal` are compiled on unix: the second was meant for other systems,
and waits for one more interrupt after the first block has taken a signal.
-/

/-! ## The signals -/

inductive Signal where
  | terminate
  | interrupt
  deriving DecidableEq, Repr

/-- A listener for one kind of signal, which keeps no more than whether there was
one since it was created. -/
structure Listener (kind : Signal) where
  notified : Bool
  deriving DecidableEq

/-- `signal`. -/
def signal (kind : Signal) : Listener kind := ⟨false⟩

def Listener.deliver {kind : Signal} (delivered : Signal)
    (listener : Listener kind) : Listener kind :=
  ⟨listener.notified || decide (delivered = kind)⟩

/-- Where `shutdown_signal` stands: not polled yet, in its first block, or in its
second. -/
inductive ShutdownSignal where
  | unresumed
  | select (sigterm : Listener .terminate) (sigint : Listener .interrupt)
  | ctrlC (sigint : Listener .interrupt)
  deriving DecidableEq

namespace ShutdownSignal

def deliver (delivered : Signal) : ShutdownSignal -> ShutdownSignal
  | .unresumed => .unresumed
  | .select sigterm sigint =>
      .select (sigterm.deliver delivered) (sigint.deliver delivered)
  | .ctrlC sigint => .ctrlC (sigint.deliver delivered)

/-- `shutdown_signal` is polled, and returns or goes on waiting.  A listener that
has just been created has nothing to receive. -/
def poll : ShutdownSignal -> Option ShutdownSignal
  | .unresumed => some (.select (signal .terminate) (signal .interrupt))
  | .select sigterm sigint =>
      if sigterm.notified ||
        sigint.notified then some (.ctrlC (signal .interrupt))
        else some (.select sigterm sigint)
  | .ctrlC sigint => if sigint.notified then none else some (.ctrlC sigint)

end ShutdownSignal

/-! ## The servers, `main` and the monitor -/

/-- `serve_with_shutdown`: after the signal the open connections are brought to an
end. -/
inductive ServerTask where
  | serving (signal : ShutdownSignal)
  | draining
  | ended (result : Except String Unit)

namespace ServerTask

def deliver (delivered : Signal) : ServerTask -> ServerTask
  | .serving signal => .serving (signal.deliver delivered)
  | .draining => .draining
  | .ended result => .ended result

def poll : ServerTask -> ServerTask
  | .serving signal =>
      match signal.poll with
      | some signal => .serving signal
      | none => .draining
  | .draining => .draining
  | .ended result => .ended result

/-- The server fails, or comes to its end after the signal. -/
def finish (result : Except String Unit) : ServerTask -> ServerTask
  | .serving signal =>
      match result with
      | .ok () => .serving signal
      | .error failure => .ended (.error failure)
  | .draining => .ended result
  | .ended earlier => .ended earlier

end ServerTask

inductive ServerName where
  | agentServer
  | enrollServer
  deriving DecidableEq, Repr

inductive MainTask where
  | joining
  | returned (result : Except String Unit)

inductive MonitorTask where
  | running
  | stopped
  deriving DecidableEq, Repr

/-- The value in the channel, and whether the receiver has yet to see it. -/
structure WatchChannel where
  value : Bool
  changed : Bool
  deriving DecidableEq, Repr

structure ServerProcess where
  servers : ServerName -> ServerTask
  main : MainTask
  shutdownChannel : WatchChannel
  monitor : MonitorTask
  orchestrator : Orchestrator

/-- A signal is delivered, a server is polled or has a result to end with, and the
monitor's loop takes a tick or a change of the channel. -/
inductive ProcessLabel where
  | deliver (signal : Signal)
  | poll (server : ServerName)
  | finish (server : ServerName) (result : Except String Unit)
  | tick (now : Instant) (entries : List Uuid)
  | changed

namespace ServerProcess

def start (orchestrator : Orchestrator) : ServerProcess where
  servers := fun _ => .serving .unresumed
  main := .joining
  shutdownChannel := ⟨false, false⟩
  monitor := .running
  orchestrator := orchestrator

/-- `AppState::shutdown`.  Without a receiver nothing is sent. -/
def shutdown (process : ServerProcess) : ServerProcess :=
  match process.monitor with
  | .running => { process with shutdownChannel := ⟨true, true⟩ }
  | .stopped => process

/-- The rest of `main`, as soon as both servers have ended. -/
def proceed (process : ServerProcess) : ServerProcess :=
  match process.main, process.servers .agentServer,
      process.servers .enrollServer with
  | .joining, .ended agentServer, .ended enrollServer =>
      match joined agentServer enrollServer with
      | .ok () => { process.shutdown with main := .returned (.ok ()) }
      | .error failure => { process with main := .returned (.error failure) }
  | _, _, _ => process

/-- The loop of `spawn_monitor` takes a change of the channel, if there is one. -/
def takeChange (process : ServerProcess) : ServerProcess :=
  match process.monitor, process.shutdownChannel.changed with
  | .running, true =>
      { process with
        shutdownChannel := { process.shutdownChannel with changed := false }
        monitor := if process.shutdownChannel.value then .stopped else .running }
  | _, _ => process

def step (process : ServerProcess) : ProcessLabel -> ServerProcess
  | .deliver signal =>
      { process with
        servers := fun server => (process.servers server).deliver signal }
  | .poll server =>
      { process with
        servers :=
          Function.update process.servers server (process.servers server).poll }
  | .finish server result =>
      proceed { process with
        servers :=
          Function.update process.servers server
            ((process.servers server).finish result) }
  | .tick now entries =>
      match process.monitor with
      | .running =>
          { process with
            orchestrator := process.orchestrator.runCheck now entries }
      | .stopped => process
  | .changed => process.takeChange

end ServerProcess

/-! ## What is said of a run -/

namespace ProcessLabel

def polls (server : ServerName) : ProcessLabel -> Bool
  | .poll other => decide (other = server)
  | _ => false

def delivers : ProcessLabel -> Bool
  | .deliver _ => true
  | _ => false

def interrupts : ProcessLabel -> Bool
  | .deliver signal => decide (signal = .interrupt)
  | _ => false

def fails (server : ServerName) : ProcessLabel -> Bool
  | .finish other (.error _) => decide (other = server)
  | _ => false

/-- What is done without a signal, a tick or an error from outside. -/
def ownWork : ProcessLabel -> Bool
  | .poll _ => true
  | .finish _ (.ok ()) => true
  | .changed => true
  | _ => false

end ProcessLabel

/-- A signal is delivered after the server's `shutdown_signal` started waiting. -/
def Signalled (server : ServerName) (labels : List ProcessLabel) : Prop :=
  InOrder [ProcessLabel.polls server, ProcessLabel.delivers] labels

/-- When that signal has been taken, an interrupt is delivered. -/
def Interrupted (server : ServerName) (labels : List ProcessLabel) : Prop :=
  InOrder [ProcessLabel.polls server, ProcessLabel.delivers,
    ProcessLabel.polls server, ProcessLabel.interrupts] labels

/-- The server comes upon an error. -/
def Failed (server : ServerName) (labels : List ProcessLabel) : Prop :=
  Exists fun label => label ∈ labels ∧ label.fails server = true

namespace ServerProcess

/-- There is nothing left to do without a signal or a tick. -/
def Idle (process : ServerProcess) : Prop :=
  forall label, label.ownWork = true -> process.step label = process

/-- The run goes on without signals and ticks until there is nothing left to do. -/
structure RunsDown (first : ServerProcess)
    (labels rest : List ProcessLabel) : Prop where
  ownWork : forall label, label ∈ rest -> label.ownWork = true
  idle : (after step first (labels ++ rest)).Idle

/-- The monitor's loop has an event to take. -/
def Handles (process : ServerProcess) : ProcessLabel -> Prop
  | .tick _ _ => process.monitor = .running
  | .changed =>
      process.monitor = .running ∧ process.shutdownChannel.changed = true
  | _ => False

/-- After `AppState::shutdown` the monitor leaves its loop at the event it takes. -/
def Leaves (process : ServerProcess) (label : ProcessLabel) : Prop :=
  process.shutdownChannel.value = true -> process.Handles label ->
    (process.step label).monitor = .stopped

/-- After `AppState::shutdown` the monitor's loop takes no tick. -/
def Unticked (process : ServerProcess) : ProcessLabel -> Prop
  | .tick _ _ =>
      process.shutdownChannel.value = true -> process.monitor = .stopped
  | _ => True

/-- One signal is enough: once everything has run that can, a server whose
`shutdown_signal` was waiting when a signal was delivered has ended, and if that is
so of both and neither failed, `main` has come past `AppState::shutdown` and the
monitor has left its loop, which it does at the next event. -/
structure StopsAtFirstSignal (first : ServerProcess)
    (labels : List ProcessLabel) : Prop where
  servers : forall rest, RunsDown first labels rest -> forall server,
    Signalled server labels ->
    Exists fun result => (after step first (labels ++ rest)).servers server =
      .ended result
  main : forall rest, RunsDown first labels rest ->
    (forall server, Signalled server labels ∧ ¬ Failed server labels) ->
    (after step first (labels ++ rest)).main = .returned (.ok ())
  monitor : forall rest, RunsDown first labels rest ->
    (forall server, Signalled server labels ∧ ¬ Failed server labels) ->
    (after step first (labels ++ rest)).monitor = .stopped
  nextEvent : Meets step Leaves first labels

/-- A second signal has come, an interrupt, wherever there was a first and the
server did not fail, and the monitor took no tick in its last moments. -/
structure ConfirmedByInterrupt (first : ServerProcess)
    (labels : List ProcessLabel) : Prop where
  interrupted : forall server, Signalled server labels -> Failed server labels ∨
    Interrupted server labels
  unticked : Meets step Unticked first labels

end ServerProcess

/-! ## A server and its signals -/

/-- The events a server has to go through before it brings its connections to an
end. -/
def awaited (server : ServerName) : List (ProcessLabel -> Bool) :=
  [ProcessLabel.polls server, ProcessLabel.delivers, ProcessLabel.polls server,
    ProcessLabel.interrupts, ProcessLabel.polls server]

namespace ServerTask

/-- What a label does to one server. -/
def step (server : ServerName) (task : ServerTask) : ProcessLabel -> ServerTask
  | .deliver signal => task.deliver signal
  | .poll other => if other = server then task.poll else task
  | .finish other result => if other = server then task.finish result else task
  | .tick _ _ => task
  | .changed => task

/-- What it has still to go through. -/
def remaining (server : ServerName) : ServerTask -> List (ProcessLabel -> Bool)
  | .serving .unresumed => awaited server
  | .serving (.select sigterm sigint) =>
      if sigterm.notified || sigint.notified then (awaited server).drop 2
      else (awaited server).drop 1
  | .serving (.ctrlC sigint) =>
      if sigint.notified then (awaited server).drop 4 else (awaited server).drop 3
  | .draining => []
  | .ended _ => []

theorem remaining_deliver (server : ServerName) (delivered : Signal)
    (task : ServerTask) :
    (task.deliver delivered).remaining server =
      awaiting (task.remaining server) (.deliver delivered) := by
  cases task with
  | draining => rfl
  | ended result => rfl
  | serving waiting =>
      cases waiting with
      | unresumed => rfl
      | select sigterm sigint =>
          rcases sigterm with ⟨termNotified⟩
          rcases sigint with ⟨intNotified⟩
          cases termNotified <;> cases intNotified <;> cases delivered <;> rfl
      | ctrlC sigint =>
          rcases sigint with ⟨notified⟩
          cases notified <;> cases delivered <;> rfl

theorem remaining_poll (server : ServerName) (task : ServerTask) :
    task.poll.remaining server =
      awaiting (task.remaining server) (.poll server) := by
  have polled : ProcessLabel.polls server (.poll server) = true :=
    decide_eq_true rfl
  cases task with
  | draining => rfl
  | ended result => rfl
  | serving waiting =>
      cases waiting with
      | unresumed => exact (if_pos polled).symm
      | select sigterm sigint =>
          rcases sigterm with ⟨termNotified⟩
          rcases sigint with ⟨intNotified⟩
          cases termNotified with
          | true => exact (if_pos polled).symm
          | false =>
              cases intNotified with
              | true => exact (if_pos polled).symm
              | false => rfl
      | ctrlC sigint =>
          rcases sigint with ⟨notified⟩
          cases notified with
          | true => exact (if_pos polled).symm
          | false => rfl

/-- Nothing but a signal or a poll of the server is awaited. -/
theorem awaiting_remaining (server : ServerName) (task : ServerTask)
    {label : ProcessLabel} (unpolled : label.polls server = false)
    (undelivered : label.delivers = false) :
    awaiting (task.remaining server) label = task.remaining server := by
  have uninterrupted : label.interrupts = false := by
    cases label with
    | deliver signal => cases undelivered
    | _ => rfl
  cases task with
  | draining => rfl
  | ended result => rfl
  | serving waiting =>
      cases waiting with
      | unresumed =>
          simp only [remaining, awaited, awaiting, unpolled,
            Bool.false_eq_true, if_false]
      | select sigterm sigint =>
          simp only [remaining, awaited, List.drop]
          split <;>
            simp only [awaiting, unpolled, undelivered,
              Bool.false_eq_true, if_false]
      | ctrlC sigint =>
          simp only [remaining, awaited, List.drop]
          split <;>
            simp only [awaiting, unpolled, uninterrupted,
              Bool.false_eq_true, if_false]

/-- After a poll and an end there is nothing to do for a server. -/
theorem atRest (task : ServerTask) :
    (task.poll.finish (.ok ())).poll = task.poll.finish (.ok ()) ∧
      (task.poll.finish (.ok ())).finish (.ok ()) =
        task.poll.finish (.ok ()) := by
  cases task with
  | draining => exact ⟨rfl, rfl⟩
  | ended result => exact ⟨rfl, rfl⟩
  | serving waiting =>
      cases waiting with
      | unresumed => exact ⟨rfl, rfl⟩
      | select sigterm sigint =>
          rcases sigterm with ⟨termNotified⟩
          rcases sigint with ⟨intNotified⟩
          cases termNotified <;> cases intNotified <;> exact ⟨rfl, rfl⟩
      | ctrlC sigint =>
          rcases sigint with ⟨notified⟩
          cases notified <;> exact ⟨rfl, rfl⟩

theorem remaining_finish (server : ServerName) (task : ServerTask) :
    (task.finish (.ok ())).remaining server = task.remaining server := by
  cases task <;> rfl

/-- The list of what is awaited follows the server. -/
theorem remaining_step (server : ServerName) (task : ServerTask)
    {label : ProcessLabel} (unfailed : label.fails server = false) :
    (task.step server label).remaining server =
      awaiting (task.remaining server) label := by
  cases label with
  | deliver signal => exact remaining_deliver server signal task
  | poll other =>
      rw [step]
      split
      · next here =>
        rw [here]
        exact remaining_poll server task
      · next elsewhere =>
        have unpolled : ProcessLabel.polls server (.poll other) = false :=
          decide_eq_false elsewhere
        exact (awaiting_remaining server task unpolled rfl).symm
  | finish other result =>
      rw [awaiting_remaining server task rfl rfl, step]
      split
      · next here =>
        cases result with
        | ok value => exact remaining_finish server task
        | error failure => exact absurd here (of_decide_eq_false unfailed)
      · rfl
  | tick now entries => exact (awaiting_remaining server task rfl rfl).symm
  | changed => exact (awaiting_remaining server task rfl rfl).symm

/-- What has ended stays as it is. -/
theorem step_ended (server : ServerName) (result : Except String Unit)
    (label : ProcessLabel) :
    (ended result).step server label = ended result := by
  cases label with
  | poll other => exact ite_self _
  | finish other later => exact ite_self _
  | _ => rfl

theorem step_fails (server : ServerName) (task : ServerTask)
    {label : ProcessLabel} (fails : label.fails server = true) :
    Exists fun result => task.step server label = .ended result := by
  cases label with
  | finish other result =>
      cases result with
      | ok value => cases fails
      | error failure =>
          rw [step, if_pos (of_decide_eq_true fails)]
          cases task with
          | serving waiting => exact ⟨.error failure, rfl⟩
          | draining => exact ⟨.error failure, rfl⟩
          | ended earlier => exact ⟨earlier, rfl⟩
  | _ => cases fails

/-- A server ends at no signal and at no poll. -/
theorem ended_of_step {server : ServerName} {task : ServerTask}
    {label : ProcessLabel} {result : Except String Unit}
    (ended : task.step server label = .ended result) :
    task = .ended result ∨ label = .finish server result := by
  cases label with
  | deliver signal =>
      cases task with
      | serving waiting => cases ended
      | draining => cases ended
      | ended earlier => exact Or.inl ended
  | poll other =>
      rw [step] at ended
      split at ended
      · cases task with
        | serving waiting =>
            rw [poll] at ended
            split at ended <;> cases ended
        | draining => cases ended
        | ended earlier => exact Or.inl ended
      · exact Or.inl ended
  | finish other later =>
      rw [step] at ended
      split at ended
      · next here =>
        rw [here]
        cases task with
        | serving waiting =>
            cases later with
            | ok value => cases ended
            | error failure =>
                cases ended
                exact Or.inr rfl
        | draining =>
            cases ended
            exact Or.inr rfl
        | ended earlier => exact Or.inl ended
      · exact Or.inl ended
  | tick now entries => exact Or.inl ended
  | changed => exact Or.inl ended

/-- A server with nothing to do of its own has ended or awaits a signal. -/
theorem ended_iff_remaining {task : ServerTask} (server : ServerName)
    (polled : task.poll = task) (finished : task.finish (.ok ()) = task) :
    (Exists fun result => task = .ended result) <->
      (task.remaining server).length ≤ 1 := by
  cases task with
  | draining => cases finished
  | ended result => exact iff_of_true ⟨result, rfl⟩ (Nat.zero_le 1)
  | serving waiting =>
      refine iff_of_false ?_ ?_
      · rintro ⟨result, impossible⟩
        cases impossible
      · cases waiting with
        | unresumed => cases polled
        | select sigterm sigint =>
            rw [remaining]
            split
            · exact (by decide : ¬ 3 ≤ 1)
            · exact (by decide : ¬ 4 ≤ 1)
        | ctrlC sigint =>
            rcases sigint with ⟨notified⟩
            cases notified with
            | true => cases polled
            | false => exact (by decide : ¬ 2 ≤ 1)

end ServerTask

namespace ServerProcess

/-! ## Whole runs -/

theorem proceed_servers (process : ServerProcess) :
    process.proceed.servers = process.servers := by
  unfold proceed
  split
  · split
    · unfold shutdown
      split <;> rfl
    · rfl
  · rfl

/-- Each server goes its own way. -/
theorem step_servers (process : ServerProcess) (label : ProcessLabel)
    (server : ServerName) :
    (process.step label).servers server =
      (process.servers server).step server label := by
  cases label with
  | deliver signal => rfl
  | poll other =>
      rw [step, ServerTask.step]
      split
      · next here =>
        rw [here]
        exact Function.update_self _ _ _
      · next elsewhere => exact Function.update_of_ne (Ne.symm elsewhere) _ _
  | finish other result =>
      rw [step, proceed_servers, ServerTask.step]
      split
      · next here =>
        rw [here]
        exact Function.update_self _ _ _
      · next elsewhere => exact Function.update_of_ne (Ne.symm elsewhere) _ _
  | tick now entries =>
      rw [step]
      split <;> rfl
  | changed =>
      rw [step, takeChange]
      split <;> rfl

theorem ended_of_step {process : ServerProcess} {label : ProcessLabel}
    {server : ServerName} {result : Except String Unit}
    (ended : (process.step label).servers server = .ended result) :
    process.servers server = .ended result ∨ label = .finish server result := by
  rw [step_servers] at ended
  exact ServerTask.ended_of_step ended

/-- A monitor that goes on has seen what was sent. -/
theorem step_changed_seen (process : ServerProcess)
    (running : (process.step .changed).monitor = .running) :
    (process.step .changed).shutdownChannel.changed = false := by
  cases changed : process.shutdownChannel.changed with
  | false =>
      rw [step, takeChange]
      split
      · next impossible => cases changed.symm.trans impossible
      · exact changed
  | true =>
      cases monitor : process.monitor with
      | running => simp only [step, takeChange, monitor, changed]
      | stopped =>
          simp only [step, takeChange, monitor] at running
          cases running

theorem not_failed_iff {server : ServerName} {labels : List ProcessLabel} :
    ¬ Failed server labels <-> forall label, label ∈ labels ->
      label.fails server = false := by
  simp only [Failed, not_exists, not_and, Bool.not_eq_true]

theorem remaining_after {first : ServerProcess} {labels : List ProcessLabel}
    {server : ServerName} (unfailed : ¬ Failed server labels) :
    ((after step first labels).servers server).remaining server =
      after awaiting ((first.servers server).remaining server) labels := by
  have meets :
      Meets step (fun _ label => label.fails server = false) first labels :=
    meets_of_forall
      (fun label member _ => not_failed_iff.mp unfailed label member) first
  refine after_view
    (fun process : ServerProcess => (process.servers server).remaining server) ?_
    meets
  intro process label unfailed
  rw [step_servers]
  exact ServerTask.remaining_step server _ unfailed

theorem ended_of_failed {first : ServerProcess} {labels : List ProcessLabel}
    {server : ServerName} (failed : Failed server labels) :
    Exists fun result => (after step first labels).servers server =
      .ended result := by
  rcases failed with ⟨label, member, fails⟩
  rcases List.append_of_mem member with ⟨before, later, split⟩
  rw [split, after_append, after_cons]
  rcases ServerTask.step_fails server _ fails with ⟨result, ended⟩
  rw [← step_servers] at ended
  have stays : forall process : ServerProcess, forall label,
    process.servers server = .ended result ->
      (process.step label).servers server = .ended result := by
    intro process label ended
    rw [step_servers, ended]
    exact ServerTask.step_ended server result label
  exact ⟨result, (always_of_preserved stays ended later).last⟩

/-! ## Nothing left to do -/

theorem Idle.polled {process : ServerProcess} (idle : process.Idle)
    (server : ServerName) :
    (process.servers server).poll = process.servers server := by
  have same := step_servers process (.poll server) server
  rw [idle (.poll server) rfl, ServerTask.step, if_pos rfl] at same
  exact same.symm

theorem Idle.finished {process : ServerProcess} (idle : process.Idle)
    (server : ServerName) :
    (process.servers server).finish (.ok ()) = process.servers server := by
  have same := step_servers process (.finish server (.ok ())) server
  rw [idle (.finish server (.ok ())) rfl, ServerTask.step, if_pos rfl] at same
  exact same.symm

theorem Idle.unchanged {process : ServerProcess} (idle : process.Idle)
    (running : process.monitor = .running) :
    process.shutdownChannel.changed = false := by
  have same :=
    congrArg (fun next : ServerProcess => next.shutdownChannel.changed)
      (idle .changed rfl)
  cases changed : process.shutdownChannel.changed with
  | false => rfl
  | true =>
      simp only [step, takeChange, running, changed] at same
      cases same

theorem fails_of_ownWork {label : ProcessLabel} (own : label.ownWork = true)
    (server : ServerName) :
    label.fails server = false := by
  cases label with
  | finish other result =>
      cases result with
      | ok value => rfl
      | error failure => cases own
  | _ => rfl

theorem failed_append_iff {labels rest : List ProcessLabel}
    (ownWork : forall label, label ∈ rest -> label.ownWork = true)
    (server : ServerName) :
    Failed server (labels ++ rest) <-> Failed server labels := by
  constructor
  · intro failed
    rcases failed with ⟨label, member, fails⟩
    rcases List.mem_append.mp member with early | late
    · exact ⟨label, early, fails⟩
    · rw [fails_of_ownWork (ownWork label late)] at fails
      cases fails
  · intro failed
    rcases failed with ⟨label, member, fails⟩
    exact ⟨label, List.mem_append_left rest member, fails⟩

/-- A server ends exactly if it fails or an interrupt came after its first signal
was taken. -/
theorem ended_iff {orchestrator : Orchestrator} {labels rest : List ProcessLabel}
    (runs : RunsDown (start orchestrator) labels rest) (server : ServerName) :
    (Exists fun result =>
      (after step (start orchestrator) (labels ++ rest)).servers server =
        .ended result) <->
      Failed server labels ∨ Interrupted server labels := by
  by_cases failed : Failed server labels
  · refine iff_of_true ?_ (Or.inl failed)
    exact ended_of_failed ((failed_append_iff runs.ownWork server).mpr failed)
  · rw [or_iff_right failed]
    rw [ServerTask.ended_iff_remaining server (runs.idle.polled server)
      (runs.idle.finished server),
        remaining_after (mt (failed_append_iff runs.ownWork server).mp failed)]
    have passed := length_after_awaiting_le_iff
      [ProcessLabel.polls server, ProcessLabel.delivers,
        ProcessLabel.polls server, ProcessLabel.interrupts]
      [ProcessLabel.polls server] (labels ++ rest)
    refine passed.trans ⟨?_, fun interrupted => interrupted.append_right rest⟩
    apply inOrder_of_append [ProcessLabel.polls server, ProcessLabel.delivers,
      ProcessLabel.polls server]
    intro label member
    have own := runs.ownWork label member
    cases label with
    | deliver signal => cases own
    | _ => rfl

/-! ## What holds in every state -/

/-- What is sent stays in the channel, and is seen by a monitor that stops. -/
structure Sent (process : ServerProcess) : Prop where
  returned : process.main = .returned (.ok ()) ->
    process.shutdownChannel.value = true
  unseen : process.shutdownChannel.value = true -> process.monitor = .running ->
    process.shutdownChannel.changed = true
  stopped : process.monitor = .stopped -> process.shutdownChannel.value = true

/-- Moreover `main` waits no longer than for both servers. -/
structure Consistent (process : ServerProcess) : Prop extends process.Sent where
  joining : process.main = .joining -> Exists fun server => forall result,
    process.servers server ≠ .ended result

theorem consistent_start (orchestrator : Orchestrator) :
    (start orchestrator).Consistent := by
  refine ⟨⟨?_, ?_, ?_⟩, fun _ => ⟨.agentServer, ?_⟩⟩
  · intro impossible
    cases impossible
  · intro impossible
    cases impossible
  · intro impossible
    cases impossible
  · intro result impossible
    cases impossible

theorem Consistent.proceed_eq {process : ServerProcess}
    (consistent : process.Consistent) :
    process.proceed = process := by
  unfold proceed
  split
  · next agentServer enrollServer main agentEnded enrollEnded =>
    rcases consistent.joining main with ⟨server, unended⟩
    cases server with
    | agentServer => exact absurd agentEnded (unended agentServer)
    | enrollServer => exact absurd enrollEnded (unended enrollServer)
  · rfl

theorem sent_shutdown {process : ServerProcess} (sent : process.Sent) :
    ({ process.shutdown with main := .returned (.ok ()) } :
      ServerProcess).Sent := by
  unfold shutdown
  split
  · next running =>
    refine ⟨fun _ => rfl, fun _ _ => rfl, ?_⟩
    intro stopped
    cases running.symm.trans stopped
  · next stopped =>
      exact ⟨fun _ => sent.stopped stopped, sent.unseen, sent.stopped⟩

theorem consistent_proceed {process : ServerProcess} (sent : process.Sent) :
    process.proceed.Consistent := by
  unfold proceed
  split
  · split
    · refine ⟨sent_shutdown sent, ?_⟩
      intro impossible
      cases impossible
    · refine ⟨⟨?_, sent.unseen, sent.stopped⟩, ?_⟩
      · intro impossible
        cases impossible
      · intro impossible
        cases impossible
  · next unready =>
    refine ⟨sent, fun joining => ?_⟩
    cases agentServer : process.servers .agentServer with
    | ended first =>
        refine ⟨.enrollServer, fun second enrollServer => ?_⟩
        exact unready first second joining agentServer enrollServer
    | serving signal =>
        refine ⟨.agentServer, fun result ended => ?_⟩
        cases agentServer.symm.trans ended
    | draining =>
        refine ⟨.agentServer, fun result ended => ?_⟩
        cases agentServer.symm.trans ended

/-- A change of the servers under which none ends. -/
theorem Consistent.servers {process : ServerProcess}
    (consistent : process.Consistent) {servers : ServerName -> ServerTask}
    (unended : forall server result, servers server = .ended result ->
      process.servers server = .ended result) :
    ({ process with servers := servers } : ServerProcess).Consistent := by
  refine ⟨⟨consistent.returned, consistent.unseen, consistent.stopped⟩,
    fun joining => ?_⟩
  rcases consistent.joining joining with ⟨server, open_⟩
  exact ⟨server, fun result ended => open_ result (unended server result ended)⟩

theorem consistent_step (process : ServerProcess) (label : ProcessLabel)
    (consistent : process.Consistent) :
    (process.step label).Consistent := by
  cases label with
  | deliver signal =>
      apply consistent.servers
      intro server result ended
      have now :
          (process.step (.deliver signal)).servers server = .ended result := ended
      rcases ended_of_step now with already | impossible
      · exact already
      · cases impossible
  | poll polled =>
      apply consistent.servers
      intro server result ended
      have now : (process.step (.poll polled)).servers server = .ended result :=
        ended
      rcases ended_of_step now with already | impossible
      · exact already
      · cases impossible
  | finish server result =>
      exact consistent_proceed
        ⟨consistent.returned, consistent.unseen, consistent.stopped⟩
  | tick now entries =>
      rw [step]
      split
      · exact ⟨⟨consistent.returned, consistent.unseen, consistent.stopped⟩,
          consistent.joining⟩
      · exact consistent
  | changed =>
      rw [step, takeChange]
      split
      · refine ⟨⟨consistent.returned, fun sent running => ?_, fun stopped => ?_⟩,
          consistent.joining⟩
        · dsimp only at sent running
          rw [if_pos sent] at running
          cases running
        · by_contra unsent
          dsimp only at stopped unsent
          rw [if_neg unsent] at stopped
          cases stopped
      · exact consistent

/-- Where no server fails, every result is a success. -/
structure Succeeds (process : ServerProcess) : Prop where
  servers : forall server result, process.servers server = .ended result ->
    result = .ok ()
  main : forall result, process.main = .returned result -> result = .ok ()

theorem succeeds_proceed {process : ServerProcess} (succeeds : process.Succeeds) :
    process.proceed.Succeeds := by
  refine ⟨?_, ?_⟩
  · rw [proceed_servers]
    exact succeeds.servers
  · unfold proceed
    split
    · next agentServer enrollServer _ agentEnded enrollEnded =>
      rw [succeeds.servers _ _ agentEnded, succeeds.servers _ _ enrollEnded]
      intro result returned
      cases returned
      rfl
    · exact succeeds.main

theorem succeeds_step (process : ServerProcess) (label : ProcessLabel)
    (succeeds : process.Succeeds)
    (unfailed : forall server, label.fails server = false) :
    (process.step label).Succeeds := by
  have servers : forall server result, (process.step label).servers server =
      .ended result -> result = .ok () := by
    intro server result ended
    rcases ended_of_step ended with already | finished
    · exact succeeds.servers server result already
    · rw [finished] at unfailed
      cases result with
      | ok value => rfl
      | error failure => exact absurd rfl (of_decide_eq_false (unfailed server))
  refine ⟨servers, ?_⟩
  cases label with
  | deliver signal => exact succeeds.main
  | poll polled => exact succeeds.main
  | finish finished result =>
      rw [step, proceed_servers] at servers
      exact (succeeds_proceed ⟨servers, succeeds.main⟩).main
  | tick now entries =>
      rw [step]
      split <;> exact succeeds.main
  | changed =>
      rw [step, takeChange]
      split <;> exact succeeds.main

/-! ## The end of a run -/

/-- With the servers at rest and nothing in the channel, nothing is left to do. -/
theorem Consistent.idle {process : ServerProcess}
    (consistent : process.Consistent)
    (atRest : forall server,
      (process.servers server).poll = process.servers server ∧
      (process.servers server).finish (.ok ()) = process.servers server)
    (unchanged : process.monitor = .running ->
      process.shutdownChannel.changed = false) :
    process.Idle := by
  intro label own
  cases label with
  | deliver signal => cases own
  | tick now entries => cases own
  | poll server => rw [step, (atRest server).1, Function.update_eq_self]
  | finish server result =>
      cases result with
      | error failure => cases own
      | ok value =>
          rw [step, (atRest server).2, Function.update_eq_self,
            consistent.proceed_eq]
  | changed =>
      rw [step, takeChange]
      split
      · next running changed =>
        rw [unchanged running] at changed
        cases changed
      · rfl

theorem succeeds_after (orchestrator : Orchestrator) {labels : List ProcessLabel}
    (unfailed : forall server, ¬ Failed server labels) :
    (after step (start orchestrator) labels).Succeeds := by
  have first : (start orchestrator).Succeeds := by
    refine ⟨?_, ?_⟩
    · intro server result impossible
      cases impossible
    · intro result impossible
      cases impossible
  have meets :
      Meets step (fun _ label => forall server, label.fails server = false)
        (start orchestrator) labels :=
    meets_of_forall
      (fun label member _ server =>
        not_failed_iff.mp (unfailed server) label member) _
  exact (always_of_meets succeeds_step first meets).last

theorem consistent_after (orchestrator : Orchestrator)
    (labels : List ProcessLabel) :
    (after step (start orchestrator) labels).Consistent :=
  (always_of_preserved consistent_step (consistent_start orchestrator)
    labels).last

/-- A poll and an end for each server, and a turn of the monitor. -/
def settling : List ProcessLabel :=
  [.poll .agentServer, .poll .enrollServer, .finish .agentServer (.ok ()),
    .finish .enrollServer (.ok ()), .changed]

theorem settling_ownWork : forall label, label ∈ settling ->
      label.ownWork = true := by
  intro label member
  simp only [settling, List.mem_cons, List.not_mem_nil, or_false] at member
  rcases member with rfl | rfl | rfl | rfl | rfl <;> rfl

theorem after_settling_servers (process : ServerProcess) (server : ServerName) :
    (after step process settling).servers server =
      (process.servers server).poll.finish (.ok ()) := by
  simp only [settling, after_cons, after_nil, step_servers]
  cases server <;> rfl

/-- Every run can be gone on with until nothing is left to do. -/
theorem runsDown_settling (orchestrator : Orchestrator)
    (labels : List ProcessLabel) :
    RunsDown (start orchestrator) labels settling := by
  refine ⟨settling_ownWork, (consistent_after orchestrator _).idle ?_ ?_⟩
  · intro server
    rw [after_append, after_settling_servers]
    exact ServerTask.atRest _
  · rw [after_append]
    exact step_changed_seen _

/-- The monitor leaves at the event it takes unless that is a tick. -/
theorem leaves_iff_unticked (process : ServerProcess) (label : ProcessLabel) :
    process.Leaves label <-> process.Unticked label := by
  cases label with
  | deliver signal =>
      exact iff_of_true (fun _ impossible => impossible.elim) trivial
  | poll server => exact iff_of_true (fun _ impossible => impossible.elim) trivial
  | finish server result =>
      exact iff_of_true (fun _ impossible => impossible.elim) trivial
  | tick now entries =>
      constructor
      · intro leaves sent
        cases monitor : process.monitor with
        | stopped => rfl
        | running =>
            have left := leaves sent monitor
            simp only [step, monitor] at left
            cases left
      · intro unticked sent running
        cases (unticked sent).symm.trans running
  | changed =>
      refine iff_of_true ?_ trivial
      intro sent handles
      simp only [step, takeChange, handles.1, handles.2, sent, if_true]

theorem StopsAtFirstSignal.interrupted {orchestrator : Orchestrator}
    {labels : List ProcessLabel}
    (stops : StopsAtFirstSignal (start orchestrator) labels) (server : ServerName)
    (signalled : Signalled server labels) :
    Failed server labels ∨ Interrupted server labels := by
  have runs := runsDown_settling orchestrator labels
  exact (ended_iff runs server).mp (stops.servers settling runs server signalled)

/-- However often the server is told to terminate, it does not end without an
interrupt. -/
theorem unended_of_uninterrupted {orchestrator : Orchestrator}
    {labels rest : List ProcessLabel}
    (runs : RunsDown (start orchestrator) labels rest) {server : ServerName}
    (unfailed : ¬ Failed server labels)
    (uninterrupted : forall label, label ∈ labels -> label.interrupts = false)
    (result : Except String Unit) :
    (after step (start orchestrator) (labels ++ rest)).servers server ≠
      .ended result := by
  intro ended
  rcases (ended_iff runs server).mp ⟨result, ended⟩ with failed | interrupted
  · exact unfailed failed
  · have member :
        ProcessLabel.interrupts ∈ [ProcessLabel.polls server,
          ProcessLabel.delivers,
          ProcessLabel.polls server, ProcessLabel.interrupts] :=
            List.mem_of_getLast? rfl
    rcases interrupted.exists_of_mem member with ⟨label, member, interrupts⟩
    rw [uninterrupted label member] at interrupts
    cases interrupts

/-- One signal stops the server exactly if wherever there was a first signal an
interrupt came after it, and no tick got in between the end of `main` and that of
the monitor. -/
theorem stops_at_first_signal_iff (orchestrator : Orchestrator)
    (labels : List ProcessLabel) :
    StopsAtFirstSignal (start orchestrator) labels <->
      ConfirmedByInterrupt (start orchestrator) labels := by
  have events :=
    meets_iff_meets consistent_step
      (fun process label _ => leaves_iff_unticked process label)
      (consistent_start orchestrator) labels
  constructor
  · intro stops
    exact ⟨stops.interrupted, events.mp stops.nextEvent⟩
  · intro confirmed
    have ended : forall rest, RunsDown (start orchestrator) labels rest ->
      forall server, Signalled server labels ->
        Exists fun result =>
            (after step (start orchestrator) (labels ++ rest)).servers server =
              .ended result :=
      fun rest runs server signalled =>
        (ended_iff runs server).mpr (confirmed.interrupted server signalled)
    have main : forall rest, RunsDown (start orchestrator) labels rest ->
        (forall server, Signalled server labels ∧ ¬ Failed server labels) ->
        (after step (start orchestrator) (labels ++ rest)).main =
          .returned (.ok ()) := by
      intro rest runs signalled
      cases main : (after step (start orchestrator) (labels ++ rest)).main with
      | joining =>
          rcases (consistent_after orchestrator (labels ++ rest)).joining
            main with ⟨server, unended⟩
          rcases ended rest runs server (signalled server).1 with
            ⟨result, hasEnded⟩
          exact absurd hasEnded (unended result)
      | returned result =>
          have unfailed : forall server, ¬ Failed server (labels ++ rest) :=
            fun server =>
              mt (failed_append_iff runs.ownWork server).mp (signalled server).2
          rw [(succeeds_after orchestrator unfailed).main result main]
    refine ⟨ended, main, ?_, events.mpr confirmed.unticked⟩
    intro rest runs signalled
    have consistent := consistent_after orchestrator (labels ++ rest)
    have sent := consistent.returned (main rest runs signalled)
    cases monitor :
        (after step (start orchestrator) (labels ++ rest)).monitor with
    | stopped => rfl
    | running =>
        have changed := consistent.unseen sent monitor
        rw [runs.idle.unchanged monitor] at changed
        cases changed

/-- A single signal of either kind leaves both servers waiting for an interrupt. -/
theorem one_signal_leaves_waiting :
    ¬ StopsAtFirstSignal (start (Orchestrator.new 300))
        [.poll .agentServer, .poll .enrollServer, .deliver .terminate] ∧
      ¬ StopsAtFirstSignal (start (Orchestrator.new 300))
        [.poll .agentServer, .poll .enrollServer, .deliver .interrupt] := by
  constructor
  · intro stops
    have signalled :
        Signalled .agentServer [.poll .agentServer, .poll .enrollServer,
          .deliver .terminate] :=
      (after_awaiting_eq_nil_iff _ _).mp rfl
    have runs := runsDown_settling (Orchestrator.new 300)
      [.poll .agentServer, .poll .enrollServer, .deliver .terminate]
    rcases stops.servers settling runs .agentServer signalled with ⟨result, ended⟩
    exact unended_of_uninterrupted runs (not_failed_iff.mpr (by decide))
      (by decide) result ended
  · intro stops
    have signalled :
        Signalled .enrollServer [.poll .agentServer, .poll .enrollServer,
          .deliver .interrupt] :=
      (after_awaiting_eq_nil_iff _ _).mp rfl
    rcases stops.interrupted .enrollServer signalled with failed | interrupted
    · exact not_failed_iff.mpr (by decide) failed
    · cases (after_awaiting_eq_nil_iff _ _).mpr interrupted

end ServerProcess

end Complyx
