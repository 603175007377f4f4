import XoaProxy.Foundation.Ownership
import XoaProxy.Lifecycle.IdleWindow

namespace XoaProxy
namespace Lifecycle

/-!
# Shutdown of a socket-activated process

The server accepts connections from the listening queue, reads request heads
and completes requests until its shutdown future completes.  From then on it
stops accepting, lets requests in progress finish, and closes every connection
on which no request is in progress.

Activity counts requests, shutdown closes connections.  A connection that was
accepted and has not sent its request head yet is seen by neither: an idle poll
that fires in this gap closes it unanswered.  `Considerate` runs are those in
which no idle poll does.
-/

/-- What ended the shutdown future: a branch of its `select`, or a panic, which
there is only on a clock that ends. -/
inductive Cause where
  | idle
  | signal
  | panic
deriving DecidableEq, Repr

inductive Mode where
  | serving
  | draining (cause : Cause)
  | exited (cause : Cause)
deriving DecidableEq, Repr

/-- A client's connection.  `answered` is kept alive behind an answer, and only
such a connection becomes `closed`; `abandoned` was given up by its client, and
`lost` was closed by the server before its first request was read. -/
inductive Connection where
  | queued
  | accepted
  | busy
  | answered
  | closed
  | abandoned
  | lost (cause : Cause)
deriving DecidableEq, Repr

/-- What happens on one connection. -/
inductive Act where
  | accept
  | readHead
  | complete (keepAlive : Bool)
  | hangUp
  | reap
deriving DecidableEq, Repr

/-- The next state of a connection, and what `track` makes of it.  The server
reaps idle connections only while it drains. -/
def Connection.act (mode : Mode) : Connection -> Act -> Option (Connection × Option Event)
  | .queued, .accept => if mode = .serving then some (.accepted, none) else none
  | .accepted, .readHead => if mode = .serving then some (.busy, some .enter) else none
  | .answered, .readHead => if mode = .serving then some (.busy, some .enter) else none
  | .busy, .complete keepAlive => some (if keepAlive then .answered else .closed, some .leave)
  | .queued, .hangUp => some (.abandoned, none)
  | .accepted, .hangUp => some (.abandoned, none)
  | .busy, .hangUp => some (.abandoned, some .leave)
  | .answered, .hangUp => some (.closed, none)
  | .accepted, .reap =>
      match mode with
      | .draining cause => some (.lost cause, none)
      | .serving | .exited _ => none
  | .answered, .reap =>
      match mode with
      | .draining _ => some (.closed, none)
      | .serving | .exited _ => none
  | _, _ => none

/-- A connection that does not keep a draining process from exiting. -/
def Connection.settled : Connection -> Bool
  | .queued | .closed | .abandoned | .lost _ => true
  | .accepted | .busy | .answered => false

structure Server where
  connections : List Connection
  tracker : Tracker
  clock : Nat
  mode : Mode
deriving DecidableEq, Repr

inductive Occurrence where
  | connect
  | act (index : Nat) (act : Act)
  | tick (elapsed : Nat)
  | pollShutdown
  | signal
  | exit
deriving DecidableEq, Repr

namespace Server

def initial : Server where
  connections := []
  tracker := Tracker.initial
  clock := 0
  mode := .serving

variable (activated : Bool) (timeout : Nat)

def track (server : Server) : Option Event -> Server
  | none => server
  | some event => { server with tracker := server.tracker.observe timeout event }

/-- A poll of the shutdown future.  Only a socket-activated process waits for
the idle future as well. -/
def pollShutdown (server : Server) : Server :=
  if activated then
    let tracker := server.tracker.observe timeout (.poll server.clock)
    { server with
      tracker := tracker
      mode := if tracker.idle = .returned then .draining .idle else .serving }
  else
    server

def act (server : Server) (index : Nat) (act : Act) : Option Server := do
  let connection ← server.connections[index]?
  let (next, event) ← connection.act server.mode act
  return { server.track timeout event with
    connections := server.connections.set index next }

def step (server : Server) : Occurrence -> Option Server
  | .connect => some { server with connections := server.connections ++ [.queued] }
  | .tick elapsed => some { server with clock := server.clock + elapsed }
  | .act index act =>
      match server.mode with
      | .exited _ => none
      | .serving | .draining _ => server.act timeout index act
  | .pollShutdown =>
      if server.mode = .serving then some (server.pollShutdown activated timeout) else none
  | .signal =>
      if server.mode = .serving then some { server with mode := .draining .signal } else none
  | .exit =>
      match server.mode with
      | .draining cause =>
          if server.connections.all Connection.settled then
            some { server with mode := .exited cause }
          else
            none
      | .serving | .exited _ => none

end Server

/-- The process, with or without socket activation. -/
def server (activated : Bool) (timeout : Nat) : Machine Server Occurrence where
  initial := Server.initial
  step := Server.step activated timeout

/-- The next poll of the shutdown future completes its idle branch. -/
def Fires (activated : Bool) (timeout : Nat) (state : Server) : Prop :=
  state.mode = .serving ∧ (state.pollShutdown activated timeout).mode = .draining .idle

/-- Every idle poll that fires in the run finds no accepted connection whose
first request is still to be read. -/
def Considerate (activated : Bool) (timeout : Nat) : Server -> List Occurrence -> Prop
  | _, [] => True
  | state, occurrence :: later =>
      (occurrence = .pollShutdown -> Fires activated timeout state ->
        .accepted ∉ state.connections) ∧
      forall next, state.step activated timeout occurrence = some next ->
        Considerate activated timeout next later

instance (activated : Bool) (timeout : Nat) (state : Server) :
    Decidable (Fires activated timeout state) :=
  inferInstanceAs (Decidable (_ ∧ _))

instance decidableConsiderate (activated : Bool) (timeout : Nat) :
    forall (run : List Occurrence) (state : Server),
      Decidable (Considerate activated timeout state run)
  | [], _ => .isTrue trivial
  | occurrence :: later, state =>
      have rest : Decidable (forall next, state.step activated timeout occurrence = some next ->
          Considerate activated timeout next later) :=
        match state.step activated timeout occurrence with
        | none => .isTrue fun _ impossible => nomatch impossible
        | some next =>
            have := decidableConsiderate activated timeout later next
            decidable_of_iff (Considerate activated timeout next later)
              ⟨fun holds _ same => Option.some.inj same ▸ holds, fun all => all next rfl⟩
      @instDecidableAnd _ _ inferInstance rest

/-- No connection is lost to the idle exit, and a process that has exited for
it left its connections in the queue or served them, unless the client gave up. -/
structure ClientsKept (state : Server) : Prop where
  kept : .lost .idle ∉ state.connections
  served : state.mode = .exited .idle -> forall connection, connection ∈ state.connections ->
    connection = .queued ∨ connection = .closed ∨ connection = .abandoned

/-! ## What a step is -/

/-- Every move of a connection. -/
inductive Moved (mode : Mode) : Connection -> Option Event -> Connection -> Prop
  | accepted (serving : mode = .serving) : Moved mode .queued none .accepted
  | started (serving : mode = .serving) : Moved mode .accepted (some .enter) .busy
  | resumed (serving : mode = .serving) : Moved mode .answered (some .enter) .busy
  | kept : Moved mode .busy (some .leave) .answered
  | completed : Moved mode .busy (some .leave) .closed
  | withdrawn : Moved mode .queued none .abandoned
  | silent : Moved mode .accepted none .abandoned
  | cancelled : Moved mode .busy (some .leave) .abandoned
  | left : Moved mode .answered none .closed
  | lost (cause : Cause) (draining : mode = .draining cause) :
      Moved mode .accepted none (.lost cause)
  | reaped (cause : Cause) (draining : mode = .draining cause) : Moved mode .answered none .closed

theorem Connection.moved {mode : Mode} {connection next : Connection} {act : Act}
    {event : Option Event} (acted : connection.act mode act = some (next, event)) :
    Moved mode connection event next := by
  cases connection with
  | queued =>
      cases act with
      | accept =>
          simp only [Connection.act] at acted
          split at acted
          · rename_i serving
            cases acted
            exact .accepted serving
          · cases acted
      | hangUp => cases acted; exact .withdrawn
      | readHead | complete | reap => cases acted
  | accepted =>
      cases act with
      | readHead =>
          simp only [Connection.act] at acted
          split at acted
          · rename_i serving
            cases acted
            exact .started serving
          · cases acted
      | hangUp => cases acted; exact .silent
      | reap => cases mode <;> cases acted; exact .lost _ rfl
      | accept | complete => cases acted
  | busy =>
      cases act with
      | complete keepAlive =>
          cases keepAlive with
          | true => cases acted; exact .kept
          | false => cases acted; exact .completed
      | hangUp => cases acted; exact .cancelled
      | accept | readHead | reap => cases acted
  | answered =>
      cases act with
      | readHead =>
          simp only [Connection.act] at acted
          split at acted
          · rename_i serving
            cases acted
            exact .resumed serving
          · cases acted
      | hangUp => cases acted; exact .left
      | reap => cases mode <;> cases acted; exact .reaped _ rfl
      | accept | complete => cases acted
  | closed | abandoned | lost => cases act <;> cases acted

inductive Stepped (activated : Bool) (timeout : Nat) (state : Server) :
    Occurrence -> Server -> Prop
  | connected : Stepped activated timeout state .connect
      { state with connections := state.connections ++ [.queued] }
  | ticked (elapsed : Nat) : Stepped activated timeout state (.tick elapsed)
      { state with clock := state.clock + elapsed }
  | acted (index : Nat) (act : Act) (connection next : Connection) (event : Option Event)
      (running : forall cause, state.mode ≠ .exited cause)
      (found : state.connections[index]? = some connection)
      (moved : connection.act state.mode act = some (next, event)) :
      Stepped activated timeout state (.act index act)
        { state.track timeout event with connections := state.connections.set index next }
  | polled (serving : state.mode = .serving) :
      Stepped activated timeout state .pollShutdown (state.pollShutdown activated timeout)
  | signalled (serving : state.mode = .serving) :
      Stepped activated timeout state .signal { state with mode := .draining .signal }
  | exited (cause : Cause) (draining : state.mode = .draining cause)
      (settled : forall connection, connection ∈ state.connections ->
        connection.settled = true) :
      Stepped activated timeout state .exit { state with mode := .exited cause }

theorem Server.stepped {activated : Bool} {timeout : Nat} {state next : Server}
    {occurrence : Occurrence}
    (step : state.step activated timeout occurrence = some next) :
    Stepped activated timeout state occurrence next := by
  have acts : forall {index : Nat} {act : Act}, (forall cause, state.mode ≠ .exited cause) ->
      state.act timeout index act = some next ->
      Stepped activated timeout state (.act index act) next := by
    intro index act running acted
    simp only [Server.act, Option.bind_eq_bind, Option.bind_eq_some_iff] at acted
    rcases acted with ⟨connection, found, moved, act, committed⟩
    cases committed
    exact .acted index _ connection moved.1 moved.2 running found act
  cases occurrence with
  | connect => cases step; exact .connected
  | tick elapsed => cases step; exact .ticked elapsed
  | act index act =>
      cases mode : state.mode with
      | exited cause => simp only [Server.step, mode, reduceCtorEq] at step
      | serving =>
          simp only [Server.step, mode] at step
          exact acts (by simp [mode]) step
      | draining cause =>
          simp only [Server.step, mode] at step
          exact acts (by simp [mode]) step
  | pollShutdown =>
      by_cases serving : state.mode = .serving
      · simp only [Server.step, serving, if_true, Option.some.injEq] at step
        exact step ▸ .polled serving
      · simp only [Server.step, serving, if_false, reduceCtorEq] at step
  | signal =>
      by_cases serving : state.mode = .serving
      · simp only [Server.step, serving, if_true, Option.some.injEq] at step
        exact step ▸ .signalled serving
      · simp only [Server.step, serving, if_false, reduceCtorEq] at step
  | exit =>
      cases mode : state.mode with
      | serving => simp only [Server.step, mode, reduceCtorEq] at step
      | exited cause => simp only [Server.step, mode, reduceCtorEq] at step
      | draining cause =>
          cases settled : state.connections.all Connection.settled with
          | false => simp [Server.step, mode, settled] at step
          | true =>
              simp only [Server.step, mode, settled, if_true, Option.some.injEq] at step
              exact step ▸ .exited cause mode (List.all_eq_true.mp settled)

/-- A busy connection has one active request. -/
def Connection.active : Connection -> List Unit
  | .busy => [()]
  | .queued | .accepted | .answered | .closed | .abandoned | .lost _ => []

/-- The counter is the number of requests in progress. -/
def Counted (state : Server) : Prop :=
  Custody.Balanced Connection.active (fun _ => state.tracker.activity.value) state.connections

/-- The counter behind an event of `track`. -/
def countAfter (value : Nat) : Option Event -> Nat
  | some .enter => value + 1
  | some .leave => value - 1
  | some (.poll _) | none => value

theorem track_value (state : Server) (timeout : Nat) (event : Option Event) :
    (state.track timeout event).tracker.activity.value =
      countAfter state.tracker.activity.value event := by
  cases event with
  | none => rfl
  | some event => cases event <;> rfl

theorem track_mode (state : Server) (timeout : Nat) (event : Option Event) :
    (state.track timeout event).mode = state.mode := by
  cases event <;> rfl

theorem Moved.transfer {mode : Mode} {connection next : Connection} {event : Option Event}
    (moved : Moved mode connection event next) {value : Nat}
    (counted : connection.active.length ≤ value) :
    Custody.Transfer connection.active next.active (fun _ => value)
      (fun _ => countAfter value event) := by
  intro request
  cases moved with
  | accepted | withdrawn | silent | left | lost | reaped => rfl
  | started | resumed => simp [Connection.active, countAfter]
  | kept | completed | cancelled =>
      have positive : 1 ≤ value := counted
      simp [Connection.active, countAfter]
      omega

theorem Counted.step {activated : Bool} {timeout : Nat} {state next : Server}
    {occurrence : Occurrence} (counted : Counted state)
    (stepped : Stepped activated timeout state occurrence next) : Counted next := by
  cases stepped with
  | connected => exact Custody.Balanced.arrive counted rfl
  | ticked elapsed => exact counted
  | signalled serving => exact counted
  | exited cause draining settled => exact counted
  | polled serving =>
      unfold Server.pollShutdown
      cases activated <;> exact counted
  | acted index act connection next event running found acted =>
      have known : connection.active.length ≤ state.tracker.activity.value := by
        have books : state.tracker.activity.value =
            Custody.total Connection.active state.connections () := counted ()
        have bound := Custody.count_le_total Connection.active found ()
        cases connection <;> simp [Connection.active] at bound ⊢
        omega
      have books := Custody.Balanced.transfer counted found
        ((Connection.moved acted).transfer known)
      intro request
      change (state.track timeout event).tracker.activity.value = _
      rw [track_value]
      exact books request

/-- What the counter sees of a run of the server is a run of the counter. -/
def serverRefinement (activated : Bool) (timeout : Nat) :
    Machine.Refinement (server activated timeout) (activityMachine timeout) where
  map := Server.tracker
  initial_map := rfl
  simulate := by
    intro state occurrence next step
    cases Server.stepped step with
    | connected | ticked | signalled | exited => exact ⟨[], rfl⟩
    | polled serving =>
        unfold Server.pollShutdown
        cases activated with
        | true => exact ⟨[.poll state.clock], rfl⟩
        | false => exact ⟨[], rfl⟩
    | acted index act connection next event running found acted =>
        cases event with
        | none => exact ⟨[], rfl⟩
        | some event => exact ⟨[event], rfl⟩

theorem counted {activated : Bool} {timeout : Nat} {state : Server}
    (reachable : (server activated timeout).Reachable state) : Counted state := by
  apply (server activated timeout).invariant Counted _ _ reachable
  · intro request
    rfl
  · intro before occurrence after held step
    exact held.step (Server.stepped step)

/-- A serving process has not seen its idle future return. -/
theorem idle_running {activated : Bool} {timeout : Nat} {state : Server}
    (reachable : (server activated timeout).Reachable state) (serving : state.mode = .serving) :
    state.tracker.idle ≠ .returned := by
  refine (server activated timeout).invariant
    (fun state => state.mode = .serving -> state.tracker.idle ≠ .returned) ?_ ?_ reachable serving
  · intro _ impossible
    cases impossible
  · intro before occurrence after held step serving
    cases Server.stepped step with
    | connected => exact held serving
    | ticked elapsed => exact held serving
    | signalled => cases serving
    | exited => cases serving
    | polled running =>
        unfold Server.pollShutdown at serving ⊢
        cases activated with
        | false => exact held running
        | true =>
            simp only [if_true] at serving ⊢
            intro returned
            rw [if_pos returned] at serving
            cases serving
    | acted index act connection next event running found acted =>
        cases event with
        | none => exact held serving
        | some event =>
            have same : (before.track timeout (some event)).mode = before.mode := rfl
            have running := held serving
            cases event with
            | enter => exact running
            | leave => exact running
            | poll now => cases Connection.moved acted

/-- What the counter and the idle future of a reachable process have seen. -/
theorem exists_events {activated : Bool} {timeout : Nat} {state : Server}
    (reachable : (server activated timeout).Reachable state) :
    Exists fun events => state.tracker = Tracker.after timeout events :=
  exists_history ((serverRefinement activated timeout).reachable reachable)

/-- The idle branch completes exactly in a socket-activated process that serves
and has been quiet for the timeout. -/
theorem fires_iff_quiet {activated : Bool} {timeout : Nat} {state : Server} {events : List Event}
    (reachable : (server activated timeout).Reachable state)
    (history : state.tracker = Tracker.after timeout events) :
    Fires activated timeout state ↔
      activated = true ∧ state.mode = .serving ∧ Quiet timeout events state.clock := by
  have quiet : state.mode = .serving ->
      ((state.tracker.observe timeout (.poll state.clock)).idle = .returned ↔
        Quiet timeout events state.clock) := by
    intro serving
    have running := idle_running reachable serving
    rw [history] at running ⊢
    rw [← Tracker.after_append, poll_returned_iff running]
  constructor
  · rintro ⟨serving, fired⟩
    cases activated with
    | false =>
        rw [Server.pollShutdown, if_neg Bool.false_ne_true, serving] at fired
        cases fired
    | true =>
        refine ⟨rfl, serving, (quiet serving).mp ?_⟩
        by_contra running
        simp [Server.pollShutdown, running] at fired
  · rintro ⟨rfl, serving, silent⟩
    refine ⟨serving, ?_⟩
    rw [Server.pollShutdown, if_pos rfl]
    exact if_pos ((quiet serving).mpr silent)

/-- The idle branch completes only when no request is active. -/
theorem Fires.value_eq_zero {activated : Bool} {timeout : Nat} {state : Server}
    (reachable : (server activated timeout).Reachable state)
    (fires : Fires activated timeout state) : state.tracker.activity.value = 0 := by
  rcases exists_events reachable with ⟨events, history⟩
  rcases (fires_iff_quiet reachable history).mp fires with ⟨_, _, quiet⟩
  rw [history, (tracks_after timeout events).value]
  exact ((quiet_iff timeout events state.clock).mp quiet).1

/-- The idle exit interrupts no request in progress. -/
theorem Fires.not_busy {activated : Bool} {timeout : Nat} {state : Server}
    (reachable : (server activated timeout).Reachable state)
    (fires : Fires activated timeout state) : .busy ∉ state.connections := by
  intro busy
  rcases List.mem_iff_getElem?.mp busy with ⟨index, found⟩
  have none : Custody.total Connection.active state.connections () = 0 := by
    rw [← counted reachable ()]
    exact fires.value_eq_zero reachable
  exact Custody.not_mem_of_total_eq_zero Connection.active none found List.mem_cons_self

/-! ## The invariant of considerate runs -/

/-- While the server drains for the idle exit, no accepted connection waits for
its first request. -/
structure IdleDrain (state : Server) : Prop where
  kept : .lost .idle ∉ state.connections
  drained : state.mode = .draining .idle -> .accepted ∉ state.connections
  exited : state.mode = .exited .idle -> forall connection, connection ∈ state.connections ->
    connection.settled = true
  others : forall cause, .lost cause ∈ state.connections -> state.mode = .draining cause ∨
    state.mode = .exited cause

section Steps

variable {activated : Bool} {timeout : Nat} {state : Server}

/-- A client that connects waits in the queue. -/
theorem IdleDrain.connected (drain : IdleDrain state) :
    IdleDrain { state with connections := state.connections ++ [.queued] } := by
  have known : forall connection, connection ∈ state.connections ++ [.queued] ->
      connection ≠ .queued -> connection ∈ state.connections := by
    intro connection listed other
    rcases List.mem_append.mp listed with old | new
    · exact old
    · exact absurd (List.mem_singleton.mp new) other
  refine ⟨?_, ?_, ?_, ?_⟩
  · intro listed
    exact drain.kept (known _ listed nofun)
  · intro draining listed
    exact drain.drained draining (known _ listed nofun)
  · intro exited connection listed
    by_cases queued : connection = .queued
    · rw [queued]
      rfl
    · exact drain.exited exited connection (known _ listed queued)
  · intro cause listed
    exact drain.others cause (known _ listed nofun)

theorem IdleDrain.signal (drain : IdleDrain state) (serving : state.mode = .serving) :
    IdleDrain { state with mode := .draining .signal } := by
  refine ⟨drain.kept, nofun, nofun, ?_⟩
  intro cause listed
  rcases drain.others cause listed with impossible | impossible <;>
    rw [serving] at impossible <;> cases impossible

/-- The process exits for the cause that it drains for. -/
theorem IdleDrain.exit (drain : IdleDrain state) {cause : Cause}
    (draining : state.mode = .draining cause)
    (settled : forall connection, connection ∈ state.connections ->
      connection.settled = true) :
    IdleDrain { state with mode := .exited cause } := by
  refine ⟨drain.kept, nofun, fun _ => settled, ?_⟩
  intro other listed
  rcases drain.others other listed with same | impossible
  · rw [draining] at same
    cases same
    exact Or.inr rfl
  · rw [draining] at impossible
    cases impossible

theorem pollShutdown_connections (activated : Bool) (timeout : Nat) (state : Server) :
    (state.pollShutdown activated timeout).connections = state.connections := by
  unfold Server.pollShutdown
  cases activated <;> rfl

/-- A poll of the shutdown future does not exit the process. -/
theorem pollShutdown_mode (serving : state.mode = .serving) :
    (state.pollShutdown activated timeout).mode = .serving ∨
      (state.pollShutdown activated timeout).mode = .draining .idle := by
  unfold Server.pollShutdown
  split
  · dsimp only
    split
    · exact Or.inr rfl
    · exact Or.inl rfl
  · exact Or.inl serving

theorem IdleDrain.polled (drain : IdleDrain state) (serving : state.mode = .serving)
    (careful : Fires activated timeout state -> .accepted ∉ state.connections) :
    IdleDrain (state.pollShutdown activated timeout) := by
  have same := pollShutdown_connections activated timeout state
  refine ⟨?_, ?_, ?_, ?_⟩
  · rw [same]
    exact drain.kept
  · intro fired
    rw [same]
    exact careful ⟨serving, fired⟩
  · intro exited
    rcases pollShutdown_mode serving with mode | mode <;> rw [mode] at exited <;> cases exited
  · rw [same]
    intro cause listed
    rcases drain.others cause listed with impossible | impossible <;>
      rw [serving] at impossible <;> cases impossible

/-- A move of one connection. -/
theorem IdleDrain.acted (drain : IdleDrain state) {index : Nat} {connection last : Connection}
    {event : Option Event} (running : forall cause, state.mode ≠ .exited cause)
    (known : connection ∈ state.connections)
    (moved : Moved state.mode connection event last) :
    IdleDrain { state.track timeout event with
      connections := state.connections.set index last } := by
  have mode := track_mode state timeout event
  refine ⟨?_, ?_, ?_, ?_⟩
  · intro listed
    rcases List.mem_or_eq_of_mem_set listed with old | rfl
    · exact drain.kept old
    · cases moved with
      | lost cause draining => exact drain.drained draining known
  · intro draining listed
    have before : state.mode = .draining .idle := mode.symm.trans draining
    rcases List.mem_or_eq_of_mem_set listed with old | rfl
    · exact drain.drained before old
    · cases moved with
      | accepted serving =>
          rw [serving] at before
          cases before
  · intro exited
    exact absurd (mode.symm.trans exited) (running .idle)
  · intro cause listed
    change (state.track timeout event).mode = _ ∨ (state.track timeout event).mode = _
    rw [mode]
    rcases List.mem_or_eq_of_mem_set listed with old | rfl
    · exact drain.others cause old
    · cases moved with
      | lost cause draining => exact Or.inl draining

theorem IdleDrain.step {next : Server} {occurrence : Occurrence} (drain : IdleDrain state)
    (careful : occurrence = .pollShutdown -> Fires activated timeout state ->
      .accepted ∉ state.connections)
    (stepped : Stepped activated timeout state occurrence next) : IdleDrain next := by
  cases stepped with
  | connected => exact drain.connected
  | ticked elapsed => exact ⟨drain.kept, drain.drained, drain.exited, drain.others⟩
  | signalled serving => exact drain.signal serving
  | exited cause draining settled => exact drain.exit draining settled
  | polled serving => exact drain.polled serving (careful rfl)
  | acted index act connection last event running found acted =>
      exact drain.acted running (List.mem_of_getElem? found) (Connection.moved acted)

end Steps

/-- The invariant holds behind every considerate run. -/
theorem IdleDrain.run {activated : Bool} {timeout : Nat} {state final : Server}
    {run : List Occurrence} (drain : IdleDrain state)
    (considerate : Considerate activated timeout state run)
    (executed : (server activated timeout).run state run = some final) : IdleDrain final := by
  induction run generalizing state with
  | nil =>
      cases executed
      exact drain
  | cons occurrence later ih =>
      rcases ((server activated timeout).run_cons_eq_some_iff).mp executed with
        ⟨next, step, rest⟩
      exact ih (drain.step considerate.1 (Server.stepped step)) (considerate.2 next step) rest

theorem IdleDrain.clientsKept {state : Server} (drain : IdleDrain state) : ClientsKept state := by
  refine ⟨drain.kept, ?_⟩
  intro exited connection listed
  have settled := drain.exited exited connection listed
  cases connection with
  | queued => exact Or.inl rfl
  | closed => exact Or.inr (Or.inl rfl)
  | abandoned => exact Or.inr (Or.inr rfl)
  | accepted | busy | answered => cases settled
  | lost cause =>
      rcases drain.others cause listed with impossible | same
      · rw [exited] at impossible
        cases impossible
      · rw [exited] at same
        cases same
        exact absurd listed drain.kept

/-- An idle poll that fires closes every connection that waits for its first
request. -/
theorem Fires.loses {activated : Bool} {timeout index : Nat} {state : Server}
    (fires : Fires activated timeout state)
    (waiting : state.connections[index]? = some .accepted) :
    Exists fun final =>
      (server activated timeout).run state [.pollShutdown, .act index .reap] = some final ∧
        .lost .idle ∈ final.connections := by
  have same := pollShutdown_connections activated timeout state
  have polled : state.step activated timeout .pollShutdown =
      some (state.pollShutdown activated timeout) := by
    rw [Server.step, if_pos fires.1]
  have reaped : (state.pollShutdown activated timeout).step activated timeout (.act index .reap) =
      some { state.pollShutdown activated timeout with
        connections := state.connections.set index (.lost .idle) } := by
    simp only [Server.step, fires.2, Server.act, same, waiting, Option.bind_eq_bind,
      Option.bind_some, Connection.act, Server.track]
    rfl
  refine ⟨_, ((server activated timeout).run_cons_eq_some_iff).mpr
    ⟨_, polled, ((server activated timeout).run_singleton_eq_some_iff).mpr reaped⟩, ?_⟩
  exact List.mem_set (List.getElem?_eq_some_iff.mp waiting).1 _

/-- The idle exit keeps every client in a considerate run.  It never interrupts
a request in progress, and where a poll fires while a connection waits for its
first request, the drain that follows loses it. -/
theorem considerate_run_keeps_clients (activated : Bool) (timeout : Nat)
    (run : List Occurrence) (state : Server)
    (executed : (server activated timeout).run Server.initial run = some state) :
    (Considerate activated timeout Server.initial run -> ClientsKept state) ∧
      (Fires activated timeout state -> .busy ∉ state.connections ∧
        forall index : Nat, state.connections[index]? = some .accepted ->
          Exists fun final =>
            (server activated timeout).run state [.pollShutdown, .act index .reap] =
                some final ∧
              ¬ ClientsKept final) := by
  constructor
  · intro considerate
    have start : IdleDrain Server.initial := by
      refine ⟨List.not_mem_nil, ?_, ?_, fun _ listed => absurd listed List.not_mem_nil⟩
      · intro impossible
        cases impossible
      · intro impossible
        cases impossible
    exact (start.run considerate executed).clientsKept
  · intro fires
    refine ⟨fires.not_busy ⟨run, executed⟩, ?_⟩
    intro index waiting
    rcases fires.loses waiting with ⟨final, ran, lost⟩
    exact ⟨final, ran, fun kept => kept.kept lost⟩

/-- A client is served, and the process exits after a quiet minute. -/
theorem considerate_run_exits :
    ClientsKept ⟨[.closed], ⟨⟨0, 2⟩, .returned⟩, 60, .exited .idle⟩ :=
  (considerate_run_keeps_clients true 60
    [.connect, .act 0 .accept, .act 0 .readHead, .act 0 (.complete false), .pollShutdown,
      .tick 60, .pollShutdown, .exit] _ (by decide)).1 (by decide)

/-- A client connects and is accepted at the moment at which a minute without
requests is over.  The poll of that moment closes its connection. -/
theorem accepted_connection_lost :
    Exists fun state =>
      (server true 60).run Server.initial
          [.pollShutdown, .tick 60, .connect, .act 0 .accept, .pollShutdown, .act 0 .reap] =
            some state ∧
        state.connections = [.lost .idle] ∧ ¬ ClientsKept state := by
  refine ⟨⟨[.lost .idle], ⟨⟨0, 0⟩, .returned⟩, 60, .draining .idle⟩, by decide, rfl, ?_⟩
  intro kept
  exact kept.kept List.mem_cons_self

end Lifecycle
end XoaProxy
