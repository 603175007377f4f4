import XoaProxy.Lifecycle.Deadline
import XoaProxy.Lifecycle.Shutdown

namespace XoaProxy
namespace Lifecycle

/-!
# The processes of one listening socket

The listening socket belongs to the service manager and outlives every process.
A client that connects while no process runs waits in its queue and has one
started; the process takes over the queue with a counter and an idle future of
its own, and leaves the queue behind when it exits.

The clock of these processes ends at `limit`.  A poll of the idle future that
would set a deadline behind it panics, and a shutdown future that panics has
ended as well as one that completes: the process drains.

A run of the host goes through any number of processes.  `Drains` is the moment
at which one of them begins to drain, and every client that the host loses was
accepted and unread at such a moment.
-/

/-- The socket without a process, or with one. -/
inductive Host where
  | listening (connections : List Connection) (clock : Nat)
  | running (server : Server)
deriving DecidableEq, Repr

inductive Happening where
  | occurs (occurrence : Occurrence)
  | start
deriving DecidableEq, Repr

/-- A new process on the queue. -/
def Server.launch (connections : List Connection) (clock : Nat) : Server where
  connections := connections
  tracker := Tracker.initial
  clock := clock
  mode := .serving

/-- The next poll opens an idle window, and its deadline does not fit. -/
def Server.Overflows (timeout limit : Nat) (server : Server) : Prop :=
  server.mode = .serving ∧ server.tracker.idle.restarts server.tracker.activity = true ∧
    server.tracker.activity.value = 0 ∧ limit ≤ server.clock + timeout

instance (timeout limit : Nat) (server : Server) : Decidable (server.Overflows timeout limit) :=
  inferInstanceAs (Decidable (_ ∧ _ ∧ _ ∧ _))

/-- A step of a socket-activated process on a clock that ends. -/
def Server.clockedStep (timeout limit : Nat) (server : Server) (occurrence : Occurrence) :
    Option Server :=
  if occurrence = .pollShutdown ∧ server.Overflows timeout limit then
    some { server with mode := .draining .panic }
  else
    server.step true timeout occurrence

/-- The poll that overflows is the one in which the idle future on the clock of
instants panics, when this clock has moved on from its beginning as the
process's has. -/
theorem overflows_iff_panicked {secs : Nat} (small : secs < UInt64.size) {server : Server}
    {clocked : ClockTracker} {beginning now : Instant}
    (activity : clocked.activity = server.tracker.activity)
    (idle : clocked.idle.plain = some server.tracker.idle)
    (passed : now.ticks = beginning.ticks + server.clock) (serving : server.mode = .serving) :
    server.Overflows (secs * nanosPerSec) (clockEnd - beginning.ticks) ↔
      (clocked.observe (.fromSecs secs small) (.poll now)).idle = .panicked := by
  have ends : forall future : ClockIdle, future = .panicked ↔ future.plain = none := by
    intro future
    cases future <;> simp [ClockIdle.plain]
  have late : clockEnd - beginning.ticks ≤ server.clock + secs * nanosPerSec ↔
      clockEnd ≤ now.ticks + secs * nanosPerSec := by
    omega
  change _ ↔ clocked.idle.poll (.fromSecs secs small) now clocked.activity = .panicked
  rw [ends, poll_plain idle]
  have same : clocked.Computes ∧ now.add (.fromSecs secs small) = none ↔
      server.Overflows (secs * nanosPerSec) (clockEnd - beginning.ticks) := by
    rw [add_fromSecs_eq_none_iff_ticks, ← late, ClockTracker.Computes,
      ClockIdle.restarts_plain idle, activity, and_assoc]
    exact ⟨fun computes => ⟨serving, computes⟩, fun overflows => overflows.2⟩
  constructor
  · intro overflows
    exact if_pos (same.mpr overflows)
  · intro panicked
    by_contra fits
    rw [if_neg (mt same.mp fits)] at panicked
    cases panicked

namespace Host

def initial : Host := .listening [] 0

def connections : Host -> List Connection
  | .listening connections _ => connections
  | .running server => server.connections

def clock : Host -> Nat
  | .listening _ clock => clock
  | .running server => server.clock

/-- A process that has exited leaves the socket behind. -/
def ofServer (server : Server) : Host :=
  match server.mode with
  | .exited _ => .listening server.connections server.clock
  | .serving | .draining _ => .running server

/-- Without a process only clients and the clock move, and a waiting client has
a process started. -/
def step (timeout limit : Nat) : Host -> Happening -> Option Host
  | .listening connections clock, .start =>
      if .queued ∈ connections then some (.running (Server.launch connections clock)) else none
  | .listening connections clock, .occurs .connect =>
      some (.listening (connections ++ [.queued]) clock)
  | .listening connections clock, .occurs (.tick elapsed) =>
      some (.listening connections (clock + elapsed))
  | .listening connections clock, .occurs (.act index .hangUp) =>
      if connections[index]? = some .queued then
        some (.listening (connections.set index .abandoned) clock)
      else
        none
  | .listening _ _, .occurs _ => none
  | .running server, .occurs occurrence =>
      (server.clockedStep timeout limit occurrence).map ofServer
  | .running _, .start => none

end Host

/-- The socket-activated proxy through all of its processes. -/
def host (timeout limit : Nat) : Machine Host Happening where
  initial := Host.initial
  step := Host.step timeout limit

/-- The process begins to drain for this cause. -/
def Drains (timeout limit : Nat) (server : Server) (happening : Happening) (cause : Cause) :
    Prop :=
  match cause with
  | .idle => happening = .occurs .pollShutdown ∧ Fires true timeout server ∧
      ¬ server.Overflows timeout limit
  | .signal => happening = .occurs .signal ∧ server.mode = .serving
  | .panic => happening = .occurs .pollShutdown ∧ server.Overflows timeout limit

/-- Somewhere in the run a process began to drain for this cause when it had
accepted the connection and had not read from it. -/
def LeftUnread (timeout limit : Nat) (run : List Happening) (index : Nat) (cause : Cause) : Prop :=
  Exists fun before => Exists fun happening => Exists fun later => Exists fun server =>
    run = before ++ happening :: later ∧
      (host timeout limit).run Host.initial before = some (.running server) ∧
      Drains timeout limit server happening cause ∧ server.connections[index]? = some .accepted

inductive HostStepped (timeout limit : Nat) : Host -> Happening -> Host -> Prop
  | connected (connections : List Connection) (clock : Nat) :
      HostStepped timeout limit (.listening connections clock) (.occurs .connect)
        (.listening (connections ++ [.queued]) clock)
  | ticked (connections : List Connection) (clock elapsed : Nat) :
      HostStepped timeout limit (.listening connections clock) (.occurs (.tick elapsed))
        (.listening connections (clock + elapsed))
  | withdrawn (connections : List Connection) (clock index : Nat)
      (found : connections[index]? = some .queued) :
      HostStepped timeout limit (.listening connections clock) (.occurs (.act index .hangUp))
        (.listening (connections.set index .abandoned) clock)
  | started (connections : List Connection) (clock : Nat) (waiting : .queued ∈ connections) :
      HostStepped timeout limit (.listening connections clock) .start
        (.running (Server.launch connections clock))
  | panicked (server : Server) (overflows : server.Overflows timeout limit) :
      HostStepped timeout limit (.running server) (.occurs .pollShutdown)
        (.running { server with mode := .draining .panic })
  | served (server next : Server) (occurrence : Occurrence)
      (fits : occurrence = .pollShutdown -> ¬ server.Overflows timeout limit)
      (step : server.step true timeout occurrence = some next) :
      HostStepped timeout limit (.running server) (.occurs occurrence) (Host.ofServer next)

theorem Host.stepped {timeout limit : Nat} {host next : Host} {happening : Happening}
    (step : host.step timeout limit happening = some next) :
    HostStepped timeout limit host happening next := by
  cases host with
  | running server =>
      cases happening with
      | start => cases step
      | occurs occurrence =>
          rw [Host.step, Option.map_eq_some_iff] at step
          rcases step with ⟨after, step, rfl⟩
          rw [Server.clockedStep] at step
          split at step
          · rename_i panics
            rcases panics with ⟨rfl, overflows⟩
            cases step
            exact .panicked server overflows
          · rename_i fits
            exact .served server after occurrence (fun same late => fits ⟨same, late⟩) step
  | listening connections clock =>
      cases happening with
      | start =>
          rw [Host.step] at step
          split at step
          · rename_i waiting
            cases step
            exact .started connections clock waiting
          · cases step
      | occurs occurrence =>
          cases occurrence with
          | connect => cases step; exact .connected connections clock
          | tick elapsed => cases step; exact .ticked connections clock elapsed
          | act index act =>
              cases act with
              | hangUp =>
                  rw [Host.step] at step
                  split at step
                  · rename_i found
                    cases step
                    exact .withdrawn connections clock index found
                  · cases step
              | accept | readHead | complete | reap => cases step
          | pollShutdown | signal | exit => cases step

/-! ## Lost clients -/

/-- The connection is lost, or the process drains for this cause and has not
read from it. -/
def Server.Doomed (server : Server) (index : Nat) (cause : Cause) : Prop :=
  server.connections[index]? = some (.lost cause) ∨
    server.mode = .draining cause ∧ server.connections[index]? = some .accepted

def Host.Doomed (host : Host) (index : Nat) (cause : Cause) : Prop :=
  match host with
  | .listening connections _ => connections[index]? = some (.lost cause)
  | .running server => server.Doomed index cause

theorem getElem?_connected {connections : List Connection} {index : Nat} {connection : Connection}
    (found : (connections ++ [.queued])[index]? = some connection)
    (other : connection ≠ .queued) : connections[index]? = some connection := by
  by_cases inside : index < connections.length
  · rw [List.getElem?_append_left inside] at found
    exact found
  · rw [List.getElem?_append_right (Nat.le_of_not_lt inside), List.getElem?_singleton] at found
    split at found
    · exact absurd (Option.some.inj found).symm other
    · cases found

theorem getElem?_moved {connections : List Connection} {position index : Nat}
    {next connection : Connection}
    (found : (connections.set position next)[index]? = some connection) :
    position = index ∧ next = connection ∨ connections[index]? = some connection := by
  by_cases same : position = index
  · subst same
    rw [List.getElem?_set_self'] at found
    left
    cases old : connections[position]? with
    | none => rw [old] at found; cases found
    | some before => rw [old] at found; exact ⟨rfl, Option.some.inj found⟩
  · rw [List.getElem?_set_ne same] at found
    exact Or.inr found

/-- Only where a process begins to drain does a connection become doomed. -/
theorem Server.Doomed.before {timeout limit : Nat} {server next : Server} {occurrence : Occurrence}
    (fits : occurrence = .pollShutdown -> ¬ server.Overflows timeout limit)
    (stepped : Stepped true timeout server occurrence next) {index : Nat} {cause : Cause}
    (doomed : next.Doomed index cause) :
    server.Doomed index cause ∨
      Drains timeout limit server (.occurs occurrence) cause ∧
        server.connections[index]? = some .accepted := by
  cases stepped with
  | connected =>
      left
      rcases doomed with lost | ⟨draining, waiting⟩
      · exact Or.inl (getElem?_connected lost nofun)
      · exact Or.inr ⟨draining, getElem?_connected waiting nofun⟩
  | ticked elapsed => exact Or.inl doomed
  | exited other draining settled =>
      rcases doomed with lost | ⟨impossible, _⟩
      · exact Or.inl (Or.inl lost)
      · cases impossible
  | signalled serving =>
      rcases doomed with lost | ⟨draining, waiting⟩
      · exact Or.inl (Or.inl lost)
      · cases draining
        exact Or.inr ⟨⟨rfl, serving⟩, waiting⟩
  | polled serving =>
      rw [Server.Doomed, pollShutdown_connections] at doomed
      rcases doomed with lost | ⟨draining, waiting⟩
      · exact Or.inl (Or.inl lost)
      · rcases @pollShutdown_mode true timeout server serving with mode | mode
        · rw [mode] at draining
          cases draining
        · rw [mode] at draining
          cases draining
          exact Or.inr ⟨⟨rfl, ⟨serving, mode⟩, fits rfl⟩, waiting⟩
  | acted position act connection after event running found acted =>
      left
      have mode := track_mode server timeout event
      have moved := Connection.moved acted
      rcases doomed with lost | ⟨draining, waiting⟩
      · rcases getElem?_moved lost with ⟨rfl, rfl⟩ | old
        · cases moved with
          | lost cause draining => exact Or.inr ⟨draining, found⟩
        · exact Or.inl old
      · have before : server.mode = .draining cause := mode.symm.trans draining
        rcases getElem?_moved waiting with ⟨rfl, rfl⟩ | old
        · cases moved with
          | accepted serving =>
              rw [serving] at before
              cases before
        · exact Or.inr ⟨before, old⟩

theorem Host.doomed_ofServer {server : Server} {index : Nat} {cause : Cause}
    (doomed : (Host.ofServer server).Doomed index cause) : server.Doomed index cause := by
  rw [Host.ofServer] at doomed
  split at doomed
  · exact Or.inl doomed
  · exact doomed
  · exact doomed

theorem Host.Doomed.before {timeout limit : Nat} {host next : Host} {happening : Happening}
    (stepped : HostStepped timeout limit host happening next) {index : Nat} {cause : Cause}
    (doomed : next.Doomed index cause) :
    host.Doomed index cause ∨ Exists fun server => host = .running server ∧
      Drains timeout limit server happening cause ∧
        server.connections[index]? = some .accepted := by
  cases stepped with
  | connected connections clock => exact Or.inl (getElem?_connected doomed nofun)
  | ticked connections clock elapsed => exact Or.inl doomed
  | withdrawn connections clock position found =>
      rcases getElem?_moved doomed with ⟨rfl, impossible⟩ | old
      · cases impossible
      · exact Or.inl old
  | started connections clock waiting =>
      rcases doomed with lost | ⟨impossible, _⟩
      · exact Or.inl lost
      · cases impossible
  | panicked server overflows =>
      rcases doomed with lost | ⟨draining, waiting⟩
      · exact Or.inl (Or.inl lost)
      · cases draining
        exact Or.inr ⟨server, rfl, ⟨rfl, overflows⟩, waiting⟩
  | served server after occurrence fits step =>
      rcases (Host.doomed_ofServer doomed).before fits (Server.stepped step) with old | drained
      · exact Or.inl old
      · exact Or.inr ⟨server, rfl, drained⟩

theorem LeftUnread.append {timeout limit index : Nat} {run : List Happening} {cause : Cause}
    (unread : LeftUnread timeout limit run index cause) (last : Happening) :
    LeftUnread timeout limit (run ++ [last]) index cause := by
  rcases unread with ⟨before, happening, later, server, rfl, executed, drained, waiting⟩
  refine ⟨before, happening, later ++ [last], server, ?_, executed, drained, waiting⟩
  rw [List.append_assoc, List.cons_append]

theorem doomed_unread {timeout limit : Nat} {run : List Happening} {final : Host} {index : Nat}
    {cause : Cause} (executed : (host timeout limit).run Host.initial run = some final)
    (doomed : final.Doomed index cause) : LeftUnread timeout limit run index cause := by
  induction run using List.reverseRecOn generalizing final with
  | nil =>
      cases executed
      cases doomed
  | append_singleton run last ih =>
      rcases ((host timeout limit).run_append_eq_some_iff).mp executed with ⟨middle, first, step⟩
      rw [(host timeout limit).run_singleton_eq_some_iff] at step
      rcases doomed.before (Host.stepped step) with old | ⟨server, rfl, drained, waiting⟩
      · exact (ih first old).append last
      · exact ⟨run, last, [], server, rfl, first, drained, waiting⟩

/-- The process has not exited, its counter counts its own requests and its
idle future saw all of their changes. -/
structure Server.Alive (timeout : Nat) (server : Server) : Prop where
  alive : forall cause, server.mode ≠ .exited cause
  counted : Counted server
  history : (activityMachine timeout).Reachable server.tracker
  waits : server.mode = .serving -> server.tracker.idle ≠ .returned

/-- Without a process, no connection waits for one that served it. -/
def Host.Sound (timeout : Nat) : Host -> Prop
  | .listening connections _ =>
      forall connection, connection ∈ connections -> connection.settled = true
  | .running server => server.Alive timeout

theorem total_active_settled {connections : List Connection}
    (settled : forall connection, connection ∈ connections -> connection.settled = true) :
    Custody.total Connection.active connections () = 0 := by
  induction connections with
  | nil => rfl
  | cons connection connections ih =>
      have rest := ih fun other member => settled other (List.mem_cons_of_mem _ member)
      have first := settled connection List.mem_cons_self
      rw [← List.singleton_append, Custody.total_append, rest]
      cases connection with
      | queued | closed | abandoned | lost => rfl
      | accepted | busy | answered => cases first

theorem Server.Alive.launch (timeout : Nat) {connections : List Connection} (clock : Nat)
    (settled : forall connection, connection ∈ connections -> connection.settled = true) :
    (Server.launch connections clock).Alive timeout := by
  refine ⟨nofun, ?_, (activityMachine timeout).reachable_initial, fun _ => nofun⟩
  intro request
  exact (total_active_settled settled).symm

/-- Between two polls the idle future does not change. -/
theorem track_idle {timeout : Nat} {server : Server} {connection next : Connection}
    {event : Option Event} (moved : Moved server.mode connection event next) :
    (server.track timeout event).tracker.idle = server.tracker.idle := by
  cases moved <;> rfl

/-- The poll that completes the idle future is the one that ends serving. -/
theorem pollShutdown_serving_iff (timeout : Nat) (server : Server) :
    (server.pollShutdown true timeout).mode = .serving ↔
      (server.pollShutdown true timeout).tracker.idle ≠ .returned := by
  change (if (server.pollShutdown true timeout).tracker.idle = .returned then Mode.draining .idle
    else .serving) = .serving ↔ _
  split
  · rename_i returned
    exact ⟨nofun, fun running => absurd returned running⟩
  · rename_i running
    exact ⟨fun _ => running, fun _ => rfl⟩

/-- A process goes on, or it exits without a connection that waits for it. -/
theorem Server.Alive.step {timeout : Nat} {server next : Server} {occurrence : Occurrence}
    (alive : server.Alive timeout) (stepped : Stepped true timeout server occurrence next)
    (step : server.step true timeout occurrence = some next) :
    (Host.ofServer next).Sound timeout := by
  have counted := alive.counted.step stepped
  rcases (serverRefinement true timeout).simulate server occurrence next step with
    ⟨events, observed⟩
  have history := alive.history.run observed
  have running : forall {mode : Mode}, next.mode = mode -> (forall cause, mode ≠ .exited cause) ->
      (next.mode = .serving -> next.tracker.idle ≠ .returned) ->
      (Host.ofServer next).Sound timeout := by
    intro mode same going waits
    have known : Host.ofServer next = .running next := by
      rw [Host.ofServer, same]
      cases mode with
      | serving | draining => rfl
      | exited cause => exact absurd rfl (going cause)
    rw [known]
    exact ⟨fun cause => same ▸ going cause, counted, history, waits⟩
  cases stepped with
  | connected => exact running rfl alive.alive alive.waits
  | ticked elapsed => exact running rfl alive.alive alive.waits
  | signalled serving => exact running rfl nofun nofun
  | exited cause draining settled => exact settled
  | polled serving =>
      have mode := @pollShutdown_mode true timeout server serving
      refine running rfl ?_ ?_
      · intro cause exited
        rcases mode with same | same <;> rw [same] at exited <;> cases exited
      · exact (pollShutdown_serving_iff timeout server).mp
  | acted index act connection last event going found acted =>
      have mode := track_mode server timeout event
      refine running (mode.trans rfl) alive.alive ?_
      intro serving
      exact (track_idle (Connection.moved acted)).symm ▸ alive.waits (mode.symm.trans serving)

theorem Host.Sound.step {timeout limit : Nat} {host next : Host} {happening : Happening}
    (sound : host.Sound timeout) (stepped : HostStepped timeout limit host happening next) :
    next.Sound timeout := by
  cases stepped with
  | connected connections clock =>
      intro connection listed
      rcases List.mem_append.mp listed with old | new
      · exact sound connection old
      · rw [List.mem_singleton.mp new]
        rfl
  | ticked connections clock elapsed => exact sound
  | withdrawn connections clock index found =>
      intro connection listed
      rcases List.mem_or_eq_of_mem_set listed with old | rfl
      · exact sound connection old
      · rfl
  | started connections clock waiting => exact Server.Alive.launch timeout clock sound
  | panicked server overflows =>
      exact ⟨nofun, sound.counted, sound.history, nofun⟩
  | served server after occurrence fits step =>
      exact Server.Alive.step sound (Server.stepped step) step

theorem host_sound {timeout limit : Nat} {state : Host}
    (reachable : (host timeout limit).Reachable state) : state.Sound timeout := by
  refine (host timeout limit).invariant (Host.Sound timeout) ?_ ?_ reachable
  · intro connection impossible
    cases impossible
  · intro before happening after held step
    exact held.step (Host.stepped step)

/-- A process that counts no request has none in progress. -/
theorem Server.Alive.not_busy {timeout : Nat} {server : Server} (alive : server.Alive timeout)
    (quiet : server.tracker.activity.value = 0) : .busy ∉ server.connections := by
  intro busy
  have none : Custody.total Connection.active server.connections () = 0 := by
    rw [← alive.counted ()]
    exact quiet
  rcases List.mem_iff_getElem?.mp busy with ⟨index, found⟩
  exact Custody.not_mem_of_total_eq_zero Connection.active none found List.mem_cons_self

/-- The idle poll that fires finds no request counted. -/
theorem Server.Alive.quiet_of_fires {timeout : Nat} {server : Server}
    (alive : server.Alive timeout) (fires : Fires true timeout server) :
    server.tracker.activity.value = 0 := by
  rcases exists_history alive.history with ⟨events, history⟩
  have quiet : Quiet timeout events server.clock := by
    have waits := alive.waits fires.1
    rw [history] at waits
    apply (poll_returned_iff waits server.clock).mp
    rw [Tracker.after_append, ← history]
    by_contra waiting
    have mode := (pollShutdown_serving_iff timeout server).mpr waiting
    rw [fires.2] at mode
    cases mode
  rw [history, (tracks_after timeout events).value]
  exact ((quiet_iff timeout events server.clock).mp quiet).1

/-- Over all processes of the socket, a client is lost only if a process had
accepted it and not read from it when it began to drain.  Neither an idle exit
nor a panic interrupts a request, and no connection waits for a process that is
gone. -/
theorem processes_keep_clients (timeout limit : Nat) (run : List Happening) (state : Host)
    (executed : (host timeout limit).run Host.initial run = some state) :
    (forall (index : Nat) (cause : Cause), state.connections[index]? = some (.lost cause) ->
        LeftUnread timeout limit run index cause) ∧
      (forall server happening cause, state = .running server ->
        Drains timeout limit server happening cause -> cause ≠ .signal ->
          .busy ∉ server.connections) ∧
      forall connections clock, state = .listening connections clock ->
        forall connection, connection ∈ connections -> connection.settled = true := by
  have held := host_sound ⟨run, executed⟩
  refine ⟨?_, ?_, ?_⟩
  · intro index cause lost
    apply doomed_unread executed
    cases state with
    | listening connections clock => exact lost
    | running server => exact Or.inl lost
  · rintro server happening cause rfl drains unsignalled
    cases cause with
    | idle => exact held.not_busy (held.quiet_of_fires drains.2.1)
    | signal => exact absurd rfl unsignalled
    | panic => exact held.not_busy drains.2.2.2.1
  · rintro connections clock rfl
    exact held

/-- The first of two clients is served and the idle exit follows.  The second
one is accepted by another process at the end of its minute and is lost. -/
theorem second_process_loses_client :
    let run := [.occurs .connect, .start, .occurs (.act 0 .accept), .occurs (.act 0 .readHead),
      .occurs (.act 0 (.complete false)), .occurs .pollShutdown, .occurs (.tick 60),
      .occurs .pollShutdown, .occurs .exit, .occurs .connect, .start, .occurs .pollShutdown,
      .occurs (.tick 60), .occurs (.act 1 .accept), .occurs .pollShutdown,
      .occurs (.act 1 .reap), .occurs .exit]
    LeftUnread 60 1000 run 1 .idle := by
  intro run
  exact (processes_keep_clients 60 1000 run (.listening [.closed, .lost .idle] 120)
    (by decide)).1 1 .idle rfl

/-- With a timeout that does not fit, the first poll of a process loses the
client that it has just accepted. -/
example : ((host 1000 1000).run Host.initial [.occurs .connect, .start,
    .occurs (.act 0 .accept), .occurs .pollShutdown, .occurs (.act 0 .reap)]).map
      Host.connections = some [.lost .panic] := by
  decide

/-! ## A waiting client can always be served -/

/-- What can lead to the answer for a client: what the processes and the service
manager do, the end of requests in progress, which is up to their upstreams and
clients, and the request head that the client itself sends. -/
def Happening.helps (client : Nat) : Happening -> Bool
  | .start | .occurs .pollShutdown | .occurs .exit => true
  | .occurs (.act _ .accept) | .occurs (.act _ .reap) | .occurs (.act _ (.complete _)) => true
  | .occurs (.act index .readHead) => index = client
  | .occurs (.act _ .hangUp) | .occurs .connect | .occurs (.tick _) | .occurs .signal => false

/-- Such a run, with a bound on its length. -/
def Leads (timeout limit client bound : Nat) (before after : Host) : Prop :=
  Exists fun run => (host timeout limit).run before run = some after ∧ run.length ≤ bound ∧
    run.all (Happening.helps client) = true

section Progress

variable {timeout limit client : Nat}

theorem Leads.refl (state : Host) : Leads timeout limit client 0 state state :=
  ⟨[], rfl, Nat.le_refl 0, rfl⟩

theorem Leads.step {bound : Nat} {before middle after : Host} (happening : Happening)
    (step : before.step timeout limit happening = some middle)
    (helps : happening.helps client = true) (rest : Leads timeout limit client bound middle after) :
    Leads timeout limit client (bound + 1) before after := by
  rcases rest with ⟨run, executed, short, all⟩
  refine ⟨happening :: run,
    ((host timeout limit).run_cons_eq_some_iff).mpr ⟨middle, step, executed⟩,
    Nat.succ_le_succ short, ?_⟩
  rw [List.all_cons, helps, all]
  rfl

theorem Leads.trans {first second : Nat} {before middle after : Host}
    (leads : Leads timeout limit client first before middle)
    (rest : Leads timeout limit client second middle after) :
    Leads timeout limit client (first + second) before after := by
  rcases leads with ⟨run, executed, short, all⟩
  rcases rest with ⟨later, went, brief, also⟩
  refine ⟨run ++ later,
    ((host timeout limit).run_append_eq_some_iff).mpr ⟨middle, executed, went⟩, ?_, ?_⟩
  · rw [List.length_append]
    exact Nat.add_le_add short brief
  · rw [List.all_append, all, also]
    rfl

theorem Leads.mono {bound most : Nat} {before after : Host}
    (leads : Leads timeout limit client bound before after) (within : bound ≤ most) :
    Leads timeout limit client most before after := by
  rcases leads with ⟨run, executed, short, all⟩
  exact ⟨run, executed, Nat.le_trans short within, all⟩

/-- A connection of a process that runs moves, and the process runs on. -/
theorem step_act {server : Server} {index : Nat} {act : Act} {connection next : Connection}
    {event : Option Event} (running : forall cause, server.mode ≠ .exited cause)
    (found : server.connections[index]? = some connection)
    (moved : connection.act server.mode act = some (next, event)) :
    Exists fun after =>
      (Host.running server).step timeout limit (.occurs (.act index act)) =
          some (.running after) ∧
        after.mode = server.mode ∧ after.clock = server.clock ∧
        after.connections = server.connections.set index next := by
  have acted : server.act timeout index act =
      some { server.track timeout event with
        connections := server.connections.set index next } := by
    rw [Server.act, found, Option.bind_eq_bind, Option.bind_some, moved]
    rfl
  have mode := track_mode server timeout event
  have clock : (server.track timeout event).clock = server.clock := by cases event <;> rfl
  refine ⟨{ server.track timeout event with connections := server.connections.set index next },
    ?_, mode, clock, rfl⟩
  rw [Host.step, Server.clockedStep, if_neg (fun poll => Occurrence.noConfusion poll.1),
    Server.step]
  cases same : server.mode with
  | exited cause => exact absurd same (running cause)
  | serving =>
      simp only [acted, Option.map_some, Host.ofServer, mode, same]
  | draining cause =>
      simp only [acted, Option.map_some, Host.ofServer, mode, same]

/-- A connection that keeps a draining process can be ended at once. -/
theorem unsettled_ends {cause : Cause} {connection : Connection}
    (held : connection.settled = false) :
    Exists fun act => Exists fun next => Exists fun event =>
      connection.act (.draining cause) act = some (next, event) ∧ next.settled = true ∧
        forall index, (Happening.occurs (.act index act)).helps client = true := by
  cases connection with
  | accepted => exact ⟨.reap, .lost cause, none, rfl, rfl, fun _ => rfl⟩
  | busy => exact ⟨.complete false, .closed, some .leave, rfl, rfl, fun _ => rfl⟩
  | answered => exact ⟨.reap, .closed, none, rfl, rfl, fun _ => rfl⟩
  | queued | closed | abandoned | lost => cases held

/-- A draining process exits when what it serves has come to its end.  The queue
stays. -/
theorem drain_exits {server : Server} {cause : Cause} (draining : server.mode = .draining cause) :
    Exists fun connections =>
      Leads timeout limit client (server.connections.countP (!·.settled) + 1) (.running server)
        (.listening connections server.clock) ∧
      forall index : Nat, server.connections[index]? = some .queued ->
        connections[index]? = some .queued := by
  generalize left : server.connections.countP (!·.settled) = held
  induction held generalizing server with
  | zero =>
      have settled : server.connections.all Connection.settled = true := by
        apply List.all_eq_true.mpr
        intro connection listed
        have none := List.countP_eq_zero.mp left connection listed
        rwa [Bool.not_eq_true', Bool.not_eq_false] at none
      refine ⟨server.connections, ?_, fun _ waiting => waiting⟩
      refine Leads.step (.occurs .exit) ?_ rfl (Leads.refl _)
      rw [Host.step, Server.clockedStep, if_neg (fun poll => Occurrence.noConfusion poll.1),
        Server.step]
      simp only [draining, settled, if_true, Option.map_some, Host.ofServer]
  | succ held ih =>
      have positive : 0 < server.connections.countP (!·.settled) := by
        rw [left]
        exact Nat.succ_pos held
      rcases List.countP_pos_iff.mp positive with ⟨connection, listed, waits⟩
      rw [Bool.not_eq_true'] at waits
      rcases List.mem_iff_getElem?.mp listed with ⟨index, found⟩
      rcases @unsettled_ends client cause connection waits with
        ⟨act, next, event, moved, settled, helps⟩
      have running : forall other, server.mode ≠ .exited other := by
        intro other exited
        rw [draining] at exited
        cases exited
      rcases @step_act timeout limit server index act connection next event running found
        (draining ▸ moved) with ⟨after, step, mode, clock, changed⟩
      have fewer : after.connections.countP (!·.settled) = held := by
        have inside := (List.getElem?_eq_some_iff.mp found).1
        have same := (List.getElem?_eq_some_iff.mp found).2
        rw [changed, List.countP_set inside, left, same, waits, settled]
        rfl
      rcases ih (mode.trans draining) fewer with ⟨connections, leads, stays⟩
      rw [clock] at leads
      refine ⟨connections, Leads.step _ step (helps index) leads, ?_⟩
      intro other waiting
      apply stays other
      have apart : index ≠ other := by
        rintro rfl
        rw [found] at waiting
        cases waiting
        cases waits
      rw [changed, List.getElem?_set_ne apart]
      exact waiting

/-- A serving process accepts a waiting client and answers its request. -/
theorem serving_answers {server : Server} (serving : server.mode = .serving)
    (waiting : server.connections[client]? = some .queued) :
    Exists fun final => Leads timeout limit client 3 (.running server) final ∧
      final.connections[client]? = some .closed := by
  have running : forall {other : Server}, other.mode = .serving ->
      forall cause, other.mode ≠ .exited cause := by
    intro other same cause exited
    rw [same] at exited
    cases exited
  have inside := (List.getElem?_eq_some_iff.mp waiting).1
  rcases @step_act timeout limit server client .accept _ .accepted none (running serving) waiting
    (by rw [serving]; rfl) with ⟨first, accepted, firstMode, _, firstChanged⟩
  have firstServing := firstMode.trans serving
  have firstFound : first.connections[client]? = some .accepted := by
    rw [firstChanged, List.getElem?_set_self inside]
  rcases @step_act timeout limit first client .readHead _ .busy (some .enter)
    (running firstServing) firstFound (by rw [firstServing]; rfl) with
    ⟨second, read, secondMode, _, secondChanged⟩
  have secondServing := secondMode.trans firstServing
  have secondFound : second.connections[client]? = some .busy := by
    rw [secondChanged, List.getElem?_set_self (List.getElem?_eq_some_iff.mp firstFound).1]
  rcases @step_act timeout limit second client (.complete false) _ .closed (some .leave)
    (running secondServing) secondFound (by rw [secondServing]; rfl) with
    ⟨third, completed, _, _, thirdChanged⟩
  have own : (Happening.occurs (.act client .readHead)).helps client = true := decide_eq_true rfl
  refine ⟨.running third, ?_, ?_⟩
  · exact Leads.step _ accepted rfl (Leads.step _ read own (Leads.step _ completed rfl
      (Leads.refl _)))
  · change third.connections[client]? = some .closed
    rw [thirdChanged, List.getElem?_set_self (List.getElem?_eq_some_iff.mp secondFound).1]

/-- The first poll of a new process sets a deadline, and the process serves. -/
theorem launch_polls (connections : List Connection) {clock : Nat} (positive : 0 < timeout)
    (fits : clock + timeout < limit) :
    Exists fun server => (Host.running (Server.launch connections clock)).step timeout limit
          (.occurs .pollShutdown) = some (.running server) ∧
      server.mode = .serving ∧ server.connections = connections := by
  have early : ¬ (Server.launch connections clock).Overflows timeout limit :=
    fun overflows => absurd overflows.2.2.2 (Nat.not_le_of_gt fits)
  have sets : (Tracker.initial.observe timeout (.poll clock)).idle =
      .selecting 0 (clock + timeout) :=
    if_neg (show ¬ clock + timeout ≤ clock by omega)
  have polled : (Server.launch connections clock).step true timeout .pollShutdown =
      some { Server.launch connections clock with
        tracker := Tracker.initial.observe timeout (.poll clock) } := by
    simp only [Server.step, Server.launch, Server.pollShutdown, sets, if_true, reduceCtorEq,
      if_false]
  refine ⟨{ Server.launch connections clock with
    tracker := Tracker.initial.observe timeout (.poll clock) }, ?_, rfl, rfl⟩
  rw [Host.step, Server.clockedStep, if_neg (fun poll => early poll.2), polled]
  rfl

/-- The service manager starts a process for a waiting client. -/
theorem listening_answers {connections : List Connection} {clock : Nat} (positive : 0 < timeout)
    (fits : clock + timeout < limit) (waiting : connections[client]? = some .queued) :
    Exists fun final => Leads timeout limit client 5 (.listening connections clock) final ∧
      final.connections[client]? = some .closed := by
  rcases launch_polls connections positive fits with ⟨server, polled, serving, same⟩
  rw [← same] at waiting
  rcases @serving_answers timeout limit client server serving waiting with
    ⟨final, leads, answered⟩
  refine ⟨final, Leads.step .start ?_ rfl (Leads.step _ polled rfl leads), answered⟩
  rw [same] at waiting
  rw [Host.step, if_pos (List.mem_of_getElem? waiting)]

end Progress

/-- Whatever has happened, a client that waits in the queue can still be
answered, in at most one step for each connection and six more.  No client
leaves for it or comes, no signal arrives and no time passes.  The requests in
progress have to come to their end, and the client sends its own. -/
theorem waiting_client_can_be_served (timeout limit : Nat) (positive : 0 < timeout)
    (run : List Happening) (state : Host)
    (executed : (host timeout limit).run Host.initial run = some state)
    (fits : state.clock + timeout < limit) (client : Nat)
    (waiting : state.connections[client]? = some .queued) :
    Exists fun later => Exists fun final => (host timeout limit).run state later = some final ∧
      final.connections[client]? = some .closed ∧
      later.length ≤ state.connections.length + 6 ∧
      later.all (Happening.helps client) = true := by
  have served : Exists fun final =>
      Leads timeout limit client (state.connections.length + 6) state final ∧
        final.connections[client]? = some .closed := by
    cases state with
    | listening connections clock =>
        rcases listening_answers positive fits waiting with ⟨final, leads, answered⟩
        exact ⟨final, leads.mono (by omega), answered⟩
    | running server =>
        cases mode : server.mode with
        | exited cause => exact absurd mode ((host_sound ⟨run, executed⟩).alive cause)
        | serving =>
            rcases serving_answers mode waiting with ⟨final, leads, answered⟩
            exact ⟨final, leads.mono (by omega), answered⟩
        | draining cause =>
            rcases drain_exits mode with ⟨connections, drained, stays⟩
            rcases listening_answers positive fits (stays client waiting) with
              ⟨final, leads, answered⟩
            have bound := @List.countP_le_length _ (!·.settled) server.connections
            refine ⟨final, (drained.trans leads).mono ?_, answered⟩
            change _ ≤ server.connections.length + 6
            omega
  rcases served with ⟨final, ⟨later, went, short, helps⟩, answered⟩
  exact ⟨later, final, went, answered, short, helps⟩

/-- A client waits while a process drains for a signal. -/
theorem client_of_draining_process_can_be_served :
    Exists fun later => Exists fun final =>
      (host 60 1000).run (.running ⟨[.accepted, .queued], Tracker.initial, 0, .draining .signal⟩)
          later = some final ∧
        final.connections[1]? = some .closed ∧ later.length ≤ 8 ∧
        later.all (Happening.helps 1) = true :=
  waiting_client_can_be_served 60 1000 (by decide)
    [.occurs .connect, .start, .occurs (.act 0 .accept), .occurs .signal, .occurs .connect] _
    (by decide) (by decide) 1 rfl

/-! ## Processes are a timeout apart -/

/-- A process that was started at `began` does not return from its idle future
before a timeout has passed. -/
structure Server.Patient (timeout began : Nat) (server : Server) : Prop where
  past : began ≤ server.clock
  deadline : forall seen deadline, server.tracker.idle = .selecting seen deadline ->
    began + timeout ≤ deadline
  drained : server.mode ≠ .serving -> began + timeout ≤ server.clock

/-- Behind this many starts. -/
def Host.Paced (timeout starts : Nat) : Host -> Prop
  | .listening _ clock => starts * timeout ≤ clock
  | .running server => Exists fun began => starts * timeout ≤ began + timeout ∧
      server.Patient timeout began

section Pace

variable {timeout began : Nat}

theorem settle_deadline {now seen deadline : Nat} {activity : Activity}
    (selecting : settle timeout now activity = .selecting seen deadline) :
    deadline = now + timeout := by
  rw [settle] at selecting
  split at selecting
  · split at selecting
    · cases selecting
    · cases selecting
      rfl
  · cases selecting

/-- The idle future keeps its deadline or sets one that is a timeout ahead. -/
theorem poll_deadline {now : Nat} {activity : Activity} {idle : Idle} (late : began ≤ now)
    (known : forall seen deadline, idle = .selecting seen deadline -> began + timeout ≤ deadline)
    {seen deadline : Nat} (selecting : idle.poll timeout now activity = .selecting seen deadline) :
    began + timeout ≤ deadline := by
  have fresh : forall {deadline : Nat}, deadline = now + timeout -> began + timeout ≤ deadline := by
    intro deadline same
    omega
  cases idle with
  | unpolled => exact fresh (settle_deadline selecting)
  | returned => cases selecting
  | changing old =>
      rw [Idle.poll] at selecting
      split at selecting
      · exact fresh (settle_deadline selecting)
      · cases selecting
  | selecting old due =>
      rw [Idle.poll] at selecting
      split at selecting
      · exact fresh (settle_deadline selecting)
      · split at selecting
        · cases selecting
        · cases selecting
          exact known seen deadline rfl

theorem settle_returned {now : Nat} {activity : Activity}
    (returned : settle timeout now activity = .returned) : timeout = 0 := by
  rw [settle] at returned
  split at returned
  · split at returned
    · omega
    · cases returned
  · cases returned

theorem poll_late {now : Nat} {activity : Activity} {idle : Idle} (late : began ≤ now)
    (known : forall seen deadline, idle = .selecting seen deadline -> began + timeout ≤ deadline)
    (waits : idle ≠ .returned) (returned : idle.poll timeout now activity = .returned) :
    began + timeout ≤ now := by
  have fresh : timeout = 0 -> began + timeout ≤ now := by
    intro zero
    omega
  cases idle with
  | unpolled => exact fresh (settle_returned returned)
  | returned => exact absurd rfl waits
  | changing old =>
      rw [Idle.poll] at returned
      split at returned
      · exact fresh (settle_returned returned)
      · cases returned
  | selecting old due =>
      rw [Idle.poll] at returned
      split at returned
      · exact fresh (settle_returned returned)
      · split at returned
        · rename_i due
          exact Nat.le_trans (known _ _ rfl) due
        · cases returned

theorem Server.Patient.step {server next : Server} {occurrence : Occurrence}
    (patient : server.Patient timeout began) (alive : server.Alive timeout)
    (unsignalled : occurrence ≠ .signal) (stepped : Stepped true timeout server occurrence next) :
    next.Patient timeout began := by
  cases stepped with
  | connected => exact ⟨patient.past, patient.deadline, patient.drained⟩
  | ticked elapsed =>
      refine ⟨?_, patient.deadline, ?_⟩
      · exact Nat.le_trans patient.past (Nat.le_add_right _ _)
      · intro drained
        exact Nat.le_trans (patient.drained drained) (Nat.le_add_right _ _)
  | signalled serving => exact absurd rfl unsignalled
  | exited cause draining settled =>
      refine ⟨patient.past, patient.deadline, ?_⟩
      intro _
      apply patient.drained
      rw [draining]
      nofun
  | polled serving =>
      refine ⟨patient.past, ?_, ?_⟩
      · intro seen deadline selecting
        exact poll_deadline patient.past patient.deadline selecting
      · intro drained
        have returned := mt (pollShutdown_serving_iff timeout server).mpr drained
        rw [not_not] at returned
        exact poll_late patient.past patient.deadline (alive.waits serving) returned
  | acted index act connection last event running found acted =>
      have idle := @track_idle timeout server connection last event (Connection.moved acted)
      have mode := track_mode server timeout event
      have clock : (server.track timeout event).clock = server.clock := by cases event <;> rfl
      refine ⟨?_, ?_, ?_⟩
      · exact Nat.le_trans patient.past (Nat.le_of_eq clock.symm)
      · intro seen deadline selecting
        exact patient.deadline seen deadline (idle.symm.trans selecting)
      · intro drained
        have full := patient.drained fun serving => drained (mode.trans serving)
        exact Nat.le_trans full (Nat.le_of_eq clock.symm)

theorem Host.Paced.ofServer {starts : Nat} {server : Server}
    (due : starts * timeout ≤ began + timeout) (patient : server.Patient timeout began) :
    (Host.ofServer server).Paced timeout starts := by
  rw [Host.ofServer]
  split
  · rename_i exited
    refine Nat.le_trans due (patient.drained ?_)
    rw [exited]
    nofun
  · exact ⟨began, due, patient⟩
  · exact ⟨began, due, patient⟩

theorem Host.Paced.step {starts limit : Nat} {host next : Host} {happening : Happening}
    (paced : host.Paced timeout starts) (sound : host.Sound timeout)
    (unsignalled : happening ≠ .occurs .signal) (fits : host.clock + timeout < limit)
    (stepped : HostStepped timeout limit host happening next) :
    next.Paced timeout (starts + if happening = .start then 1 else 0) := by
  cases stepped with
  | connected connections clock => exact paced
  | ticked connections clock elapsed => exact Nat.le_trans paced (Nat.le_add_right _ _)
  | withdrawn connections clock index found => exact paced
  | started connections clock waiting =>
      refine ⟨clock, ?_, Nat.le_refl _, nofun, fun drained => absurd rfl drained⟩
      rw [if_pos rfl, Nat.add_mul, Nat.one_mul]
      exact Nat.add_le_add_right paced timeout
  | panicked server overflows => exact absurd overflows.2.2.2 (Nat.not_le_of_gt fits)
  | served server after occurrence _ step =>
      rcases paced with ⟨began, due, patient⟩
      have other : occurrence ≠ .signal := fun same => unsignalled (congrArg _ same)
      exact Host.Paced.ofServer due (patient.step sound other (Server.stepped step))

theorem Host.clock_ofServer (server : Server) : (Host.ofServer server).clock = server.clock := by
  rw [Host.ofServer]
  split <;> rfl

/-- The clock does not go back. -/
theorem HostStepped.clock_le {limit : Nat} {host next : Host} {happening : Happening}
    (stepped : HostStepped timeout limit host happening next) : host.clock ≤ next.clock := by
  cases stepped with
  | connected | withdrawn | started | panicked => exact Nat.le_refl _
  | ticked connections clock elapsed => exact Nat.le_add_right _ _
  | served server after occurrence _ step =>
      rw [Host.clock_ofServer]
      change server.clock ≤ after.clock
      cases Server.stepped step with
      | connected | signalled | exited | polled => exact Nat.le_refl _
      | ticked elapsed => exact Nat.le_add_right _ _
      | acted index act connection last event running found acted =>
          cases event <;> exact Nat.le_refl _

end Pace

/-- Processes that nobody signals are started at most once in each timeout, as
long as the clock can count it: every one of them is there for a full timeout. -/
theorem starts_are_a_timeout_apart (timeout limit : Nat) (run : List Happening) (state : Host)
    (executed : (host timeout limit).run Host.initial run = some state)
    (unsignalled : .occurs .signal ∉ run) (fits : state.clock + timeout < limit) :
    run.count .start * timeout ≤ state.clock + timeout := by
  have paced : state.Paced timeout (run.count .start) := by
    induction run using List.reverseRecOn generalizing state with
    | nil =>
        cases executed
        exact Nat.le_of_eq (Nat.zero_mul timeout)
    | append_singleton run last ih =>
        rcases ((host timeout limit).run_append_eq_some_iff).mp executed with
          ⟨middle, first, step⟩
        rw [(host timeout limit).run_singleton_eq_some_iff] at step
        have stepped := Host.stepped step
        have early : middle.clock + timeout < limit :=
          Nat.lt_of_le_of_lt (Nat.add_le_add_right stepped.clock_le timeout) fits
        have before := ih middle first (fun listed => unsignalled (List.mem_append_left _ listed))
          early
        have other : last ≠ .occurs .signal := by
          rintro rfl
          exact unsignalled (List.mem_append_right _ List.mem_cons_self)
        have after := before.step (host_sound ⟨run, first⟩) other early stepped
        rw [List.count_append, List.count_singleton]
        simp only [beq_iff_eq]
        exact after
  cases state with
  | listening connections clock => exact Nat.le_trans paced (Nat.le_add_right _ _)
  | running server =>
      rcases paced with ⟨began, due, patient⟩
      exact Nat.le_trans due (Nat.add_le_add_right patient.past timeout)

/-- Two clients, each of whom finds no process. -/
theorem second_start_a_minute_later :
    [.occurs .connect, .start, .occurs (.act 0 .accept), .occurs (.act 0 .hangUp),
      .occurs .pollShutdown, .occurs (.tick 60), .occurs .pollShutdown, .occurs .exit,
      .occurs .connect, Happening.start].count .start * 60 ≤ 60 + 60 :=
  starts_are_a_timeout_apart 60 1000 _
    (.running ⟨[.abandoned, .queued], Tracker.initial, 60, .serving⟩) (by decide) (by decide)
    (by decide)

end Lifecycle
end XoaProxy
