import XoaProxy.Lifecycle.Shutdown
import XoaProxy.Service.Progress

namespace XoaProxy
namespace Service

open Lifecycle (Act Cause Connection Mode Occurrence Server)
open Streaming

/-!
# Requests on their connections

The theorems on shutdown see connections, with `busy` for a request in progress
and an event of `track` wherever one begins or ends.  The theorems on the proxy
see requests, which arrive and are dropped at any time.  `serving` is the
process as `main` puts it together: a connection carries the request that was
read from it, and the requests take their turns.  The requests are GET requests;
a poll of the shutdown future that panics drains the process as a signal does
and has no move of its own here.

Seen from its connections the process is the server of the shutdown theorems,
which is a fact about the handlers: of all their turns the first one enters the
counter, the drop leaves it, and no turn in between touches it.
-/

variable {decoder : GzipDecoder}

/-- A connection, with the number of the request that it carries. -/
inductive Link where
  | queued
  | accepted
  | busy (request : Nat)
  | answered
  | closed
  | abandoned
  | lost (cause : Cause)
deriving DecidableEq, Repr

def Link.connection : Link -> Connection
  | .queued => .queued
  | .accepted => .accepted
  | .busy _ => .busy
  | .answered => .answered
  | .closed => .closed
  | .abandoned => .abandoned
  | .lost cause => .lost cause

/-- A connection that carries this request if it carries one. -/
def Link.of (request : Nat) : Connection -> Link
  | .queued => .queued
  | .accepted => .accepted
  | .busy => .busy request
  | .answered => .answered
  | .closed => .closed
  | .abandoned => .abandoned
  | .lost cause => .lost cause

@[simp] theorem Link.connection_of (request : Nat) (connection : Connection) :
    (Link.of request connection).connection = connection := by
  cases connection <;> rfl

theorem Link.of_ne_busy {connection : Connection} (idle : connection ≠ .busy)
    (request carried : Nat) : Link.of request connection ≠ .busy carried := by
  intro same
  apply idle
  rw [← Link.connection_of request connection, same]
  rfl

/-- The server has written the whole body. -/
def Request.finished (request : Request decoder) : Bool :=
  match request.phase with
  | .responded (.error _) => true
  | .responded (.ok response) => response.body.inner.isNone
  | .arrived | .handling _ | .dropping _ => false

structure Serving (decoder : GzipDecoder) where
  proxy : ProxyState decoder
  links : List Link
  clock : Nat
  mode : Mode

/-- What happens on a connection or in the process, the head of a request that
is read, or a step from outside of the request that a connection carries. -/
inductive Move where
  | occurs (occurrence : Occurrence)
  | readHead (index : Nat) (route : Route)
  | input (index : Nat) (input : Input)

/-- What the server of the shutdown theorems sees of a move. -/
def Move.occurrence : Move -> Option Occurrence
  | .occurs occurrence => some occurrence
  | .readHead index _ => some (.act index .readHead)
  | .input _ _ => none

namespace Serving

def initial : Serving decoder where
  proxy := ProxyState.initial
  links := []
  clock := 0
  mode := .serving

/-- The process seen from its connections. -/
def server (state : Serving decoder) : Server where
  connections := state.links.map Link.connection
  tracker := state.proxy.tracker
  clock := state.clock
  mode := state.mode

variable (net : Reqwest) (activated : Bool) (timeout : Nat)

/-- The body of a request was written, so that its connection may go on. -/
def written (state : Serving decoder) (request : Nat) : Bool :=
  (state.proxy.requests[request]?).any Request.finished

/-- What a move of a connection makes of the requests.  The request is dropped
with its connection, and with its body when that is written. -/
def dropped (state : Serving decoder) (link : Link) : Act -> Option (ProxyState decoder)
  | .accept | .reap => some state.proxy
  | .readHead => none
  | .complete _ =>
      match link with
      | .busy request =>
          if state.written request then
            state.proxy.turn net timeout (.input request .drop)
          else
            none
      | _ => none
  | .hangUp =>
      match link with
      | .busy request => state.proxy.turn net timeout (.input request .drop)
      | _ => some state.proxy

/-- A connection moves, and the requests with it. -/
def act (state : Serving decoder) (index : Nat) (act : Act)
    (requests : Link -> Option (ProxyState decoder)) : Option (Serving decoder) := do
  let link ← state.links[index]?
  let (next, _) ← link.connection.act state.mode act
  let proxy ← requests link
  return { state with
    proxy := proxy
    links := state.links.set index (.of state.proxy.requests.length next) }

/-- A poll of the shutdown future. -/
def pollShutdown (state : Serving decoder) : Serving decoder :=
  if activated then
    let proxy := state.proxy.pollIdle timeout state.clock
    { state with
      proxy := proxy
      mode := if proxy.tracker.idle = .returned then .draining .idle else .serving }
  else
    state

def running (state : Serving decoder) : Bool :=
  match state.mode with
  | .exited _ => false
  | .serving | .draining _ => true

def step (state : Serving decoder) : Move -> Option (Serving decoder)
  | .occurs .connect => some { state with links := state.links ++ [.queued] }
  | .occurs (.tick elapsed) => some { state with clock := state.clock + elapsed }
  | .occurs (.act index act) =>
      if state.running then
        state.act index act fun link => state.dropped net timeout link act
      else
        none
  | .occurs .pollShutdown =>
      if state.mode = .serving then some (state.pollShutdown activated timeout) else none
  | .occurs .signal =>
      if state.mode = .serving then some { state with mode := .draining .signal } else none
  | .occurs .exit =>
      match state.mode with
      | .draining cause =>
          if state.links.all fun link => link.connection.settled then
            some { state with mode := .exited cause }
          else
            none
      | .serving | .exited _ => none
  | .readHead index route =>
      if state.running then
        state.act index .readHead fun _ => state.proxy.turn net timeout (.arrive route)
      else
        none
  | .input _ .drop => none
  | .input index input =>
      match state.running, state.links[index]? with
      | true, some (.busy request) =>
          (state.proxy.turn net timeout (.input request input)).map fun proxy =>
            { state with proxy := proxy }
      | _, _ => none

end Serving

/-- The process of `main`, with or without socket activation. -/
def serving (decoder : GzipDecoder) (net : Reqwest) (activated : Bool) (timeout : Nat) :
    Machine (Serving decoder) Move where
  initial := Serving.initial
  step := Serving.step net activated timeout

/-- The request awaits an answer of the upstream or a poll of its body. -/
def Waiting : Phase decoder -> Prop
  | .handling (.probing _ _) | .handling (.fetching _ _ _) | .responded _ => True
  | .arrived | .handling _ | .dropping _ => False

/-- The request has entered the counter and is not dropped. -/
def Inside : Phase decoder -> Prop
  | .handling _ | .responded _ => True
  | .arrived | .dropping _ => False

theorem Waiting.inside {phase : Phase decoder} (waiting : Waiting phase) : Inside phase := by
  cases phase with
  | arrived | dropping => exact waiting
  | handling | responded => trivial

theorem Waiting.droppable {phase : Phase decoder} (waiting : Waiting phase) :
    Request.droppable phase = true := by
  cases phase with
  | arrived | responded => rfl
  | dropping => exact waiting.elim
  | handling frame => cases frame <;> first | rfl | exact waiting.elim

/-- A request that is in the counter and cannot go on is waiting. -/
theorem Inside.waiting {net : Reqwest} {locked : Bool} {request : Request decoder}
    (inside : Inside request.phase) (stuck : request.advance net locked = none) :
    Waiting request.phase := by
  rw [Request.advance] at stuck
  cases here : request.phase with
  | arrived | dropping =>
      rw [here] at inside
      exact inside.elim
  | responded result => trivial
  | handling frame =>
      rw [here] at stuck
      cases frame with
      | probing | fetching => trivial
      | received params =>
          simp only [Request.advanceFrame] at stuck
          split at stuck
          · cases stuck
          · split at stuck <;> cases stuck
      | detecting | locking =>
          simp only [Request.advanceFrame] at stuck
          split at stuck <;> cases stuck
      | connecting | failing | refused => cases stuck

/-- Until its drop a request changes the counter only where it enters it. -/
theorem Inside.advance {net : Reqwest} {locked : Bool} {request next : Request decoder}
    {effect : Effect} (inside : Inside request.phase)
    (step : request.advance net locked = some (next, effect)) :
    Inside next.phase ∧ effect ≠ .acquired .activeRequest ∧
      effect ≠ .released .activeRequest := by
  cases Request.advanced step with
  | entered here | released _ _ _ here =>
      rw [here] at inside
      exact inside.elim
  | missing | accepted | rejected | named | ambiguous | busy | locked | connected | failed
  | refused => exact ⟨trivial, nofun, nofun⟩

theorem inside_input {request next : Request decoder} {input : Input} {effect : Effect}
    (step : request.input input = some (next, effect)) (other : input ≠ .drop) :
    Inside next.phase ∧ effect ≠ .acquired .activeRequest ∧
      effect ≠ .released .activeRequest := by
  cases Request.received step with
  | unprobed | probed | unreachable | turnedAway | streaming => exact ⟨trivial, nofun, nofun⟩
  | polledText room error here =>
      rw [here]
      exact ⟨trivial, nofun, nofun⟩
  | polled room response here =>
      refine ⟨trivial, ?_⟩
      split <;> exact ⟨nofun, nofun⟩
  | dropped loose => exact absurd rfl other

/-- The share of the counter is the last thing that is released. -/
theorem nothing_behind_activeRequest {left : List Resource}
    (suffix : Resource.activeRequest :: left <:+ releaseOrder) : left = [] := by
  rcases suffix with ⟨released, split⟩
  match released with
  | [] | [_] => cases split
  | [_, _] =>
      cases split
      rfl
  | _ :: _ :: _ :: rest => cases rest <;> cases split

/-- A request that has entered the counter has its share of it. -/
theorem Inside.held {phase : Phase decoder} (inside : Inside phase) :
    .activeRequest ∈ phase.held := by
  cases phase with
  | arrived | dropping => exact inside.elim
  | handling frame =>
      rw [frame.held_eq]
      exact List.mem_append_right _ List.mem_cons_self
  | responded result =>
      cases result with
      | error error => exact List.mem_cons_self
      | ok response =>
          rw [Phase.held_ok]
          split <;> simp [releaseOrder]

/-- The counter behind an effect that is not about it. -/
theorem perform_tracker {timeout index : Nat} {state : ProxyState decoder} {effect : Effect}
    (entered : effect ≠ .acquired .activeRequest) (left : effect ≠ .released .activeRequest) :
    (state.perform timeout index effect).tracker = state.tracker := by
  cases effect with
  | none => rfl
  | acquired resource =>
      cases resource with
      | activeRequest => exact absurd rfl entered
      | upstream | importGuard => rfl
  | released resource =>
      cases resource with
      | activeRequest => exact absurd rfl left
      | upstream | importGuard => rfl

section Turns

variable {net : Reqwest} {timeout index : Nat}

theorem advance_inv {state next : ProxyState decoder}
    (step : state.step timeout net (.advance index) = some next) :
    Exists fun request => Exists fun moved : Request decoder × Effect =>
      state.requests[index]? = some request ∧
        request.advance net state.importLock = some moved ∧
        next = state.commit timeout index moved := by
  simp only [ProxyState.step, Option.bind_eq_bind, Option.bind_eq_some_iff] at step
  rcases step with ⟨request, found, moved, advanced, committed⟩
  cases committed
  exact ⟨request, moved, found, advanced, rfl⟩

/-- What every step of a request keeps, its turn keeps. -/
theorem settle_preserves (property : ProxyState decoder -> Prop)
    (kept : forall before after, property before ->
      before.step timeout net (.advance index) = some after -> property after)
    (fuel : Nat) {state : ProxyState decoder} (start : property state) :
    property (settle net timeout index fuel state) := by
  induction fuel generalizing state with
  | zero => exact start
  | succ fuel ih =>
      rw [settle]
      split
      · rename_i next step
        exact ih (kept state next start step)
      · exact start

/-- A turn of the request at an index leaves the others alone, and the counter
has seen this event of it. -/
structure Turned (timeout index : Nat) (event : Option Lifecycle.Event)
    (before after : ProxyState decoder) : Prop where
  tracker : after.tracker =
    event.elim before.tracker fun event => before.tracker.observe timeout event
  others : forall other, other ≠ index -> after.requests[other]? = before.requests[other]?

/-- In the middle of a turn that has entered the counter. -/
structure Underway (index : Nat) (tracker : Lifecycle.Tracker)
    (others : Nat -> Option (Request decoder)) (state : ProxyState decoder) : Prop where
  inside : Exists fun request => state.requests[index]? = some request ∧ Inside request.phase
  tracker : state.tracker = tracker
  others : forall other, other ≠ index -> state.requests[other]? = others other

theorem Underway.step {tracker : Lifecycle.Tracker} {others : Nat -> Option (Request decoder)}
    {before after : ProxyState decoder} (underway : Underway index tracker others before)
    (step : before.step timeout net (.advance index) = some after) :
    Underway index tracker others after := by
  rcases underway.inside with ⟨request, found, inside⟩
  rcases advance_inv step with ⟨same, moved, foundSame, advanced, rfl⟩
  cases Option.some.inj (found.symm.trans foundSame)
  rcases inside.advance advanced with ⟨kept, entered, left⟩
  refine ⟨⟨moved.1, getElem?_commit_self found timeout moved, kept⟩, ?_, ?_⟩
  · exact (perform_tracker entered left).trans underway.tracker
  · intro other distinct
    rw [getElem?_commit_other (Ne.symm distinct)]
    exact underway.others other distinct

/-- The rest of such a turn takes the request to where it waits. -/
theorem Underway.settle {tracker : Lifecycle.Tracker} {others : Nat -> Option (Request decoder)}
    {state : ProxyState decoder} {request : Request decoder} {fuel : Nat}
    (underway : Underway index tracker others state)
    (found : state.requests[index]? = some request) (enough : rank request.phase ≤ fuel) :
    (Exists fun last => (settle net timeout index fuel state).requests[index]? = some last ∧
        Waiting last.phase) ∧
      Underway index tracker others (settle net timeout index fuel state) := by
  have settled := @settle_preserves decoder net timeout index (Underway index tracker others)
    (fun _ _ held step => held.step step) fuel state underway
  rcases settle_waits net timeout index found enough with ⟨last, foundLast, stuck⟩
  rcases settled.inside with ⟨same, foundSame, inside⟩
  cases Option.some.inj (foundLast.symm.trans foundSame)
  exact ⟨⟨last, foundLast, inside.waiting stuck⟩, settled⟩

/-- The turn of a new request enters the counter and ends where it waits. -/
theorem turn_arrive {state next : ProxyState decoder} {route : Route}
    (turn : state.turn net timeout (.arrive route) = some next) :
    Turned timeout state.requests.length (some .enter) state next ∧
      Exists fun last => next.requests[state.requests.length]? = some last ∧
        Waiting last.phase := by
  have new := getElem?_arrive_new state route
  have entered : (Request.new route : Request decoder).advance net (state.arrive route).importLock =
      some (Request.goto (.new route) (Request.start route) [], .acquired .activeRequest) := rfl
  have begun := getElem?_commit_self new timeout
    (Request.goto (.new route) (Request.start route) [], .acquired .activeRequest)
  have enough : rank (Phase.handling (Request.start route) : Phase decoder) ≤ 6 := by
    cases route <;> simp [Request.start, rank]
  have underway : Underway state.requests.length (state.tracker.observe timeout .enter)
      (fun other => state.requests[other]?)
      ((state.arrive route).commit timeout state.requests.length
        (Request.goto (.new route) (Request.start route) [], .acquired .activeRequest)) := by
    refine ⟨⟨_, begun, trivial⟩, rfl, ?_⟩
    intro other distinct
    rw [getElem?_commit_other (Ne.symm distinct), ProxyState.arrive,
      List.getElem?_append]
    split
    · rfl
    · rename_i behind
      rw [List.getElem?_eq_none (Nat.le_of_not_lt behind), List.getElem?_singleton,
        if_neg (by omega)]
  rcases @Underway.settle decoder net timeout _ _ _ _ _ _ underway begun enough with
    ⟨last, settled⟩
  cases turn
  rw [longestTurn, settle_succ net timeout _ new entered]
  exact ⟨⟨settled.tracker, settled.others⟩, last⟩

/-- A turn in which the request is not dropped does not touch the counter. -/
theorem turn_input {state next : ProxyState decoder} {input : Input}
    (other : input ≠ .drop) (turn : state.turn net timeout (.input index input) = some next) :
    Turned timeout index none state next ∧
      Exists fun last => next.requests[index]? = some last ∧ Waiting last.phase := by
  simp only [ProxyState.turn, ProxyState.step, Option.bind_eq_bind, Option.map_eq_some_iff,
    Option.bind_eq_some_iff] at turn
  rcases turn with ⟨received, ⟨request, found, moved, step, committed⟩, rfl⟩
  cases committed
  rcases inside_input step other with ⟨inside, entered, left⟩
  have begun := getElem?_commit_self found timeout moved
  have underway : Underway index state.tracker (fun other => state.requests[other]?)
      (state.commit timeout index moved) := by
    refine ⟨⟨_, begun, inside⟩, perform_tracker entered left, ?_⟩
    intro other distinct
    exact getElem?_commit_other (Ne.symm distinct) state timeout moved
  rcases @Underway.settle decoder net timeout _ _ _ _ _ _ underway begun
    (rank_le_longestTurn moved.1.phase) with ⟨last, settled⟩
  exact ⟨⟨settled.tracker, settled.others⟩, last⟩

/-- In the middle of a drop, before or behind the share of the counter. -/
structure Leaving (timeout index : Nat) (first : Request decoder) (tracker : Lifecycle.Tracker)
    (others : Nat -> Option (Request decoder)) (state : ProxyState decoder) : Prop where
  left : Exists fun request => Exists fun teardown =>
    state.requests[index]? = some request ∧ request.phase = .dropping teardown ∧
      (request.route = first.route ∧ request.answer = first.answer) ∧
      ((.activeRequest ∈ teardown.left ∧ state.tracker = tracker) ∨
        (teardown.left = [] ∧ state.tracker = tracker.observe timeout .leave))
  others : forall other, other ≠ index -> state.requests[other]? = others other

theorem Leaving.step {first : Request decoder} {tracker : Lifecycle.Tracker}
    {others : Nat -> Option (Request decoder)} {before after : ProxyState decoder}
    (leaving : Leaving timeout index first tracker others before)
    (step : before.step timeout net (.advance index) = some after) :
    Leaving timeout index first tracker others after := by
  rcases leaving.left with ⟨request, teardown, found, here, known, counted⟩
  rcases advance_inv step with ⟨same, moved, foundSame, advanced, rfl⟩
  cases Option.some.inj (found.symm.trans foundSame)
  refine ⟨?_, fun other distinct => ?_⟩
  · rcases teardown with ⟨_ | ⟨resource, left⟩, suffix⟩
    · rw [Request.advance, here] at advanced
      cases advanced
    · rw [Request.advance, here] at advanced
      cases advanced
      refine ⟨_, _, getElem?_commit_self found timeout _, rfl, known, ?_⟩
      rcases counted with ⟨active, unchanged⟩ | ⟨impossible, _⟩
      · by_cases last : resource = .activeRequest
        · subst last
          right
          exact ⟨nothing_behind_activeRequest suffix,
            congrArg (fun tracker => Lifecycle.Tracker.observe timeout tracker .leave) unchanged⟩
        · left
          refine ⟨(List.mem_cons.mp active).resolve_left (Ne.symm last), ?_⟩
          have kept : (before.perform timeout index (.released resource)).tracker =
              before.tracker := by
            apply perform_tracker
            · intro impossible
              cases impossible
            · intro same
              exact last (Effect.released.inj same)
          exact kept.trans unchanged
      · cases impossible
  · rw [getElem?_commit_other (Ne.symm distinct)]
    exact leaving.others other distinct

/-- The rest of such a turn releases everything. -/
theorem Leaving.settle {first : Request decoder} {tracker : Lifecycle.Tracker}
    {others : Nat -> Option (Request decoder)} {state : ProxyState decoder}
    (leaving : Leaving timeout index first tracker others state) :
    (settle net timeout index longestTurn state).tracker = tracker.observe timeout .leave ∧
      (forall other, other ≠ index ->
        (settle net timeout index longestTurn state).requests[other]? = others other) ∧
      Exists fun last =>
        (settle net timeout index longestTurn state).requests[index]? = some last ∧ Gone last ∧
          last.route = first.route ∧ last.answer = first.answer := by
  have settled := @settle_preserves decoder net timeout index
    (Leaving timeout index first tracker others) (fun _ _ held step => held.step step)
    longestTurn state leaving
  rcases leaving.left with ⟨request, _, found, _⟩
  rcases settle_waits net timeout index found (rank_le_longestTurn request.phase) with
    ⟨last, foundLast, stuck⟩
  rcases settled.left with ⟨same, teardown, foundSame, here, known, counted⟩
  cases Option.some.inj (foundLast.symm.trans foundSame)
  have empty : teardown.left = [] := by
    rcases teardown with ⟨_ | ⟨resource, left⟩, suffix⟩
    · rfl
    · rw [Request.advance, here] at stuck
      cases stuck
  rcases counted with ⟨active, _⟩ | ⟨_, left⟩
  · rw [empty] at active
    cases active
  · exact ⟨left, settled.others, last, foundLast, ⟨teardown, here, empty⟩, known⟩

/-- The turn of a drop releases everything, the share of the counter last. -/
theorem turn_drop {state next : ProxyState decoder} {request : Request decoder}
    (found : state.requests[index]? = some request) (waiting : Waiting request.phase)
    (turn : state.turn net timeout (.input index .drop) = some next) :
    Turned timeout index (some .leave) state next ∧
      Exists fun last => next.requests[index]? = some last ∧ Gone last ∧
        last.route = request.route ∧ last.answer = request.answer := by
  simp only [ProxyState.turn, ProxyState.step, Option.bind_eq_bind, Option.map_eq_some_iff,
    Option.bind_eq_some_iff, found, Option.some.injEq, exists_eq_left', Request.input,
    Request.drop, waiting.droppable, if_true] at turn
  rcases turn with ⟨dropped, committed, rfl⟩
  cases committed
  have begun := getElem?_commit_self found timeout
    ({ request with phase := .dropping ⟨request.held, request.phase.held_suffix⟩ }, .none)
  have leaving : Leaving timeout index request state.tracker
      (fun other => state.requests[other]?)
      (state.commit timeout index
        ({ request with phase := .dropping ⟨request.held, request.phase.held_suffix⟩ },
          .none)) := by
    refine ⟨⟨_, _, begun, rfl, ⟨rfl, rfl⟩, Or.inl ⟨waiting.inside.held, rfl⟩⟩, ?_⟩
    intro other distinct
    exact getElem?_commit_other (Ne.symm distinct) state timeout _
  rcases @Leaving.settle decoder net timeout index _ _ _ _ leaving with ⟨left, others, last⟩
  exact ⟨⟨left, others⟩, last⟩

end Turns

/-! ## What a move is -/

/-- Every move of the process. -/
inductive Proceeded (net : Reqwest) (activated : Bool) (timeout : Nat) (state : Serving decoder) :
    Move -> Serving decoder -> Prop
  | connected : Proceeded net activated timeout state (.occurs .connect)
      { state with links := state.links ++ [.queued] }
  | ticked (elapsed : Nat) : Proceeded net activated timeout state (.occurs (.tick elapsed))
      { state with clock := state.clock + elapsed }
  | polled (serving : state.mode = .serving) :
      Proceeded net activated timeout state (.occurs .pollShutdown)
        (state.pollShutdown activated timeout)
  | signalled (serving : state.mode = .serving) :
      Proceeded net activated timeout state (.occurs .signal)
        { state with mode := .draining .signal }
  | exited (cause : Cause) (draining : state.mode = .draining cause)
      (settled : forall link, link ∈ state.links -> link.connection.settled = true) :
      Proceeded net activated timeout state (.occurs .exit) { state with mode := .exited cause }
  | moved (index : Nat) (act : Act) (link : Link) (next : Connection)
      (running : state.running = true) (found : state.links[index]? = some link)
      (acted : link.connection.act state.mode act = some (next, none)) :
      Proceeded net activated timeout state (.occurs (.act index act))
        { state with links := state.links.set index (.of state.proxy.requests.length next) }
  | begun (index : Nat) (route : Route) (link : Link) (proxy : ProxyState decoder)
      (running : state.running = true) (found : state.links[index]? = some link)
      (acted : link.connection.act state.mode .readHead = some (.busy, some .enter))
      (turn : state.proxy.turn net timeout (.arrive route) = some proxy) :
      Proceeded net activated timeout state (.readHead index route)
        { state with
          proxy := proxy
          links := state.links.set index (.busy state.proxy.requests.length) }
  | ended (index request : Nat) (act : Act) (next : Connection) (proxy : ProxyState decoder)
      (running : state.running = true) (found : state.links[index]? = some (.busy request))
      (acted : Connection.act state.mode .busy act = some (next, some .leave))
      (reason : act = .hangUp ∨ state.written request = true)
      (turn : state.proxy.turn net timeout (.input request .drop) = some proxy) :
      Proceeded net activated timeout state (.occurs (.act index act))
        { state with
          proxy := proxy
          links := state.links.set index (.of state.proxy.requests.length next) }
  | received (index request : Nat) (input : Input) (proxy : ProxyState decoder)
      (running : state.running = true) (found : state.links[index]? = some (.busy request))
      (other : input ≠ .drop)
      (turn : state.proxy.turn net timeout (.input request input) = some proxy) :
      Proceeded net activated timeout state (.input index input) { state with proxy := proxy }

theorem act_readHead {mode : Mode} {connection : Connection}
    {moved : Connection × Option Lifecycle.Event}
    (acted : connection.act mode .readHead = some moved) : moved = (.busy, some .enter) := by
  cases connection with
  | accepted | answered =>
      simp only [Connection.act] at acted
      split at acted
      · cases acted
        rfl
      · cases acted
  | queued | busy | closed | abandoned | lost => cases acted

/-- Nothing but a head that is read and the end of a busy connection is an
event of a request. -/
theorem act_idle {mode : Mode} {connection next : Connection} {act : Act}
    {event : Option Lifecycle.Event} (idle : connection ≠ .busy) (other : act ≠ .readHead)
    (acted : connection.act mode act = some (next, event)) : event = none := by
  cases Connection.moved acted with
  | accepted | withdrawn | silent | left | lost | reaped => rfl
  | kept | completed | cancelled => exact absurd rfl idle
  | started | resumed =>
      cases act with
      | readHead => exact absurd rfl other
      | accept | complete | hangUp => cases acted
      | reap => cases mode <;> cases acted

/-- A move of a connection other than the reading of a head. -/
theorem Proceeded.of_act {net : Reqwest} {activated : Bool} {timeout index : Nat}
    {state : Serving decoder} {act : Act} {link : Link} {next : Connection}
    {event : Option Lifecycle.Event} {proxy : ProxyState decoder}
    (running : state.running = true) (found : state.links[index]? = some link)
    (acted : link.connection.act state.mode act = some (next, event))
    (dropped : state.dropped net timeout link act = some proxy) :
    Proceeded net activated timeout state (.occurs (.act index act))
      { state with
        proxy := proxy
        links := state.links.set index (.of state.proxy.requests.length next) } := by
  have idle : link.connection ≠ .busy -> act ≠ .readHead -> proxy = state.proxy ->
      Proceeded net activated timeout state (.occurs (.act index act))
        { state with
          proxy := proxy
          links := state.links.set index (.of state.proxy.requests.length next) } := by
    rintro free other rfl
    cases act_idle free other acted
    exact .moved index act link next running found acted
  cases act with
  | readHead => cases dropped
  | accept =>
      cases dropped
      exact idle (by rintro busy; rw [busy] at acted; cases acted) nofun rfl
  | reap =>
      cases dropped
      exact idle (by rintro busy; rw [busy] at acted; cases acted) nofun rfl
  | complete keepAlive =>
      cases link with
      | busy request =>
          simp only [Serving.dropped] at dropped
          split at dropped
          · rename_i written
            cases keepAlive <;> cases acted <;>
              exact .ended index request _ _ proxy running found rfl (Or.inr written) dropped
          · cases dropped
      | queued | accepted | answered | closed | abandoned | lost => cases dropped
  | hangUp =>
      cases link with
      | busy request =>
          cases acted
          exact .ended index request _ _ proxy running found rfl (Or.inl rfl) dropped
      | queued | accepted | answered | closed | abandoned | lost =>
          cases dropped
          exact idle nofun nofun rfl

theorem Serving.proceeded {net : Reqwest} {activated : Bool} {timeout : Nat}
    {state next : Serving decoder} {move : Move}
    (step : state.step net activated timeout move = some next) :
    Proceeded net activated timeout state move next := by
  cases move with
  | input index input =>
      cases input with
      | drop => cases step
      | headAnswered | getAnswered | pollBody =>
          simp only [Serving.step] at step
          split at step
          · rename_i request running found
            rw [Option.map_eq_some_iff] at step
            rcases step with ⟨proxy, turn, rfl⟩
            exact .received index request _ proxy running found nofun turn
          · cases step
  | readHead index route =>
      simp only [Serving.step] at step
      split at step
      · rename_i running
        simp only [Serving.act, Option.bind_eq_bind, Option.bind_eq_some_iff] at step
        rcases step with ⟨link, found, moved, acted, proxy, turn, committed⟩
        cases committed
        cases act_readHead acted
        exact .begun index route link proxy running found acted turn
      · cases step
  | occurs occurrence =>
      cases occurrence with
      | connect => cases step; exact .connected
      | tick elapsed => cases step; exact .ticked elapsed
      | pollShutdown =>
          simp only [Serving.step] at step
          split at step
          · rename_i serving
            cases step
            exact .polled serving
          · cases step
      | signal =>
          simp only [Serving.step] at step
          split at step
          · rename_i serving
            cases step
            exact .signalled serving
          · cases step
      | exit =>
          simp only [Serving.step] at step
          split at step
          · rename_i cause draining
            split at step
            · rename_i settled
              cases step
              exact .exited cause draining (List.all_eq_true.mp settled)
            · cases step
          · cases step
          · cases step
      | act index act =>
          simp only [Serving.step] at step
          split at step
          · rename_i running
            simp only [Serving.act, Option.bind_eq_bind, Option.bind_eq_some_iff] at step
            rcases step with ⟨link, found, moved, acted, proxy, dropped, committed⟩
            cases committed
            exact .of_act running found acted dropped
          · cases step

/-! ## Which connection carries which request -/

/-- Every request is waiting, on the one connection that carries it, or gone. -/
structure Linked (requests : List (Request decoder)) (links : List Link) : Prop where
  waiting : forall (index request : Nat), links[index]? = some (.busy request) ->
    Exists fun standing => requests[request]? = some standing ∧ Waiting standing.phase
  alone : forall (first second request : Nat), links[first]? = some (.busy request) ->
    links[second]? = some (.busy request) -> first = second
  others : forall (request : Nat) (standing : Request decoder),
    requests[request]? = some standing ->
      (Exists fun index : Nat => links[index]? = some (.busy request)) ∨ Gone standing

theorem getElem?_of_set {links : List Link} {position index : Nat} {next link : Link}
    (found : (links.set position next)[index]? = some link) :
    (position = index ∧ next = link) ∨ (position ≠ index ∧ links[index]? = some link) := by
  rw [List.getElem?_set] at found
  split at found
  · rename_i same
    split at found
    · exact Or.inl ⟨same, Option.some.inj found⟩
    · cases found
  · rename_i distinct
    exact Or.inr ⟨distinct, found⟩

namespace Linked

variable {requests after : List (Request decoder)} {links other : List Link}
  {index request : Nat} {link next : Link}

/-- It matters only which requests are carried, and where. -/
theorem congr (linked : Linked requests links)
    (same : forall (index request : Nat), other[index]? = some (.busy request) ↔
      links[index]? = some (.busy request)) : Linked requests other := by
  refine ⟨?_, ?_, ?_⟩
  · intro index request busy
    exact linked.waiting index request ((same index request).mp busy)
  · intro first second request one two
    exact linked.alone first second request ((same first request).mp one)
      ((same second request).mp two)
  · intro request standing found
    rcases linked.others request standing found with ⟨index, busy⟩ | gone
    · exact Or.inl ⟨index, (same index request).mpr busy⟩
    · exact Or.inr gone

/-- A connection that carries nothing moves. -/
theorem move (linked : Linked requests links) (found : links[index]? = some link)
    (free : forall request, link ≠ .busy request) (idle : forall request, next ≠ .busy request) :
    Linked requests (links.set index next) := by
  apply linked.congr
  intro position request
  constructor
  · intro busy
    rcases getElem?_of_set busy with ⟨_, same⟩ | ⟨_, old⟩
    · exact absurd same (idle request)
    · exact old
  · intro busy
    have distinct : index ≠ position := by
      rintro rfl
      exact free request (Option.some.inj (found.symm.trans busy))
    rw [List.getElem?_set_ne distinct]
    exact busy

/-- A head is read, and the connection carries the new request. -/
theorem begin (linked : Linked requests links) (found : links[index]? = some link)
    (free : forall request, link ≠ .busy request)
    (new : Exists fun standing => after[requests.length]? = some standing ∧
      Waiting standing.phase)
    (kept : forall other, other ≠ requests.length -> after[other]? = requests[other]?) :
    Linked after (links.set index (.busy requests.length)) := by
  have old : forall position request : Nat, links[position]? = some (.busy request) ->
      request ≠ requests.length := by
    rintro position request busy rfl
    rcases linked.waiting position _ busy with ⟨standing, impossible, _⟩
    rw [List.getElem?_eq_none (Nat.le_refl _)] at impossible
    cases impossible
  refine ⟨?_, ?_, ?_⟩
  · intro position request busy
    rcases getElem?_of_set busy with ⟨_, same⟩ | ⟨_, carried⟩
    · cases same
      exact new
    · rw [kept request (old position request carried)]
      exact linked.waiting position request carried
  · intro first second request one two
    rcases getElem?_of_set one with ⟨rfl, same⟩ | ⟨_, left⟩
    · rcases getElem?_of_set two with ⟨here, _⟩ | ⟨_, right⟩
      · exact here
      · cases same
        exact absurd rfl (old second _ right)
    · rcases getElem?_of_set two with ⟨_, same⟩ | ⟨_, right⟩
      · cases same
        exact absurd rfl (old first _ left)
      · exact linked.alone first second request left right
  · intro request standing known
    have inside : index < links.length := (List.getElem?_eq_some_iff.mp found).1
    by_cases here : request = requests.length
    · subst here
      exact Or.inl ⟨index, List.getElem?_set_self inside⟩
    · rw [kept request here] at known
      rcases linked.others request standing known with ⟨position, busy⟩ | gone
      · have distinct : index ≠ position := by
          rintro rfl
          exact free request (Option.some.inj (found.symm.trans busy))
        exact Or.inl ⟨position, (List.getElem?_set_ne distinct).trans busy⟩
      · exact Or.inr gone

/-- The request of a connection is dropped, and the connection goes on. -/
theorem finish (linked : Linked requests links) (found : links[index]? = some (.busy request))
    (idle : forall request, next ≠ .busy request)
    (last : Exists fun standing => after[request]? = some standing ∧ Gone standing)
    (kept : forall other, other ≠ request -> after[other]? = requests[other]?) :
    Linked after (links.set index next) := by
  have elsewhere : forall position carried : Nat,
      (links.set index next)[position]? = some (.busy carried) ->
        links[position]? = some (.busy carried) ∧ carried ≠ request := by
    intro position carried busy
    rcases getElem?_of_set busy with ⟨_, same⟩ | ⟨distinct, old⟩
    · exact absurd same (idle carried)
    · refine ⟨old, ?_⟩
      rintro rfl
      exact distinct (linked.alone index position carried found old)
  refine ⟨?_, ?_, ?_⟩
  · intro position carried busy
    rcases elsewhere position carried busy with ⟨old, other⟩
    rw [kept carried other]
    exact linked.waiting position carried old
  · intro first second carried one two
    exact linked.alone first second carried (elsewhere first carried one).1
      (elsewhere second carried two).1
  · intro other standing known
    by_cases here : other = request
    · subst here
      rcases last with ⟨same, foundSame, gone⟩
      cases Option.some.inj (known.symm.trans foundSame)
      exact Or.inr gone
    · rw [kept other here] at known
      rcases linked.others other standing known with ⟨position, busy⟩ | gone
      · have distinct : index ≠ position := by
          rintro rfl
          exact here (Link.busy.inj (Option.some.inj (busy.symm.trans found)))
        exact Or.inl ⟨position, (List.getElem?_set_ne distinct).trans busy⟩
      · exact Or.inr gone

/-- The request of a connection takes a turn. -/
theorem progress (linked : Linked requests links)
    (found : links[index]? = some (.busy request))
    (last : Exists fun standing => after[request]? = some standing ∧ Waiting standing.phase)
    (kept : forall other, other ≠ request -> after[other]? = requests[other]?) :
    Linked after links := by
  refine ⟨?_, linked.alone, ?_⟩
  · intro position carried busy
    by_cases here : carried = request
    · subst here
      exact last
    · rw [kept carried here]
      exact linked.waiting position carried busy
  · intro other standing known
    by_cases here : other = request
    · subst here
      exact Or.inl ⟨index, found⟩
    · rw [kept other here] at known
      exact linked.others other standing known

end Linked

/-! ## The process is a server -/

/-- What holds in every state of the process. -/
structure Serving.Sound (state : Serving decoder) : Prop where
  linked : Linked state.proxy.requests state.links
  settled : forall cause, state.mode = .exited cause ->
    forall link, link ∈ state.links -> link.connection.settled = true

/-- A connection that moves without an event carries no request, before and
after. -/
theorem idle_of_act {mode : Mode} {connection next : Connection} {act : Act}
    (acted : connection.act mode act = some (next, none)) :
    connection ≠ .busy ∧ next ≠ .busy := by
  cases Connection.moved acted with
  | accepted | withdrawn | silent | left | lost | reaped => exact ⟨nofun, nofun⟩

theorem Serving.running_iff {state : Serving decoder} :
    state.running = true ↔ forall cause, state.mode ≠ .exited cause := by
  rw [Serving.running]
  cases state.mode with
  | serving | draining => simp
  | exited cause => simp

/-- A move of a connection is the move that the server sees, if the counter
sees its event. -/
theorem Serving.server_act {activated : Bool} {timeout index : Nat} {state : Serving decoder}
    {link : Link} {act : Act} {next : Connection} {event : Option Lifecycle.Event}
    {proxy : ProxyState decoder} (running : state.running = true)
    (found : state.links[index]? = some link)
    (acted : link.connection.act state.mode act = some (next, event))
    (counted : proxy.tracker = event.elim state.proxy.tracker fun event =>
      state.proxy.tracker.observe timeout event) (request : Nat) :
    (Lifecycle.server activated timeout).step state.server (.act index act) =
      some (Serving.server { state with
        proxy := proxy
        links := state.links.set index (.of request next) }) := by
  have there : state.server.connections[index]? = some link.connection := by
    rw [Serving.server, List.getElem?_map, found]
    rfl
  have same : state.server.act timeout index act = some (Serving.server { state with
      proxy := proxy
      links := state.links.set index (.of request next) }) := by
    rw [Server.act, there]
    change (link.connection.act state.mode act).bind _ = _
    rw [acted, Option.bind_some]
    simp only [Serving.server, List.map_set, Link.connection_of, counted]
    cases event <;> rfl
  have alive := Serving.running_iff.mp running
  change state.server.step activated timeout (.act index act) = _
  rw [Server.step]
  split
  · rename_i cause exited
    exact absurd exited (alive cause)
  · exact same
  · exact same

theorem Serving.Sound.proceed {net : Reqwest} {activated : Bool} {timeout : Nat}
    {state next : Serving decoder} {move : Move} (sound : state.Sound)
    (proceeded : Proceeded net activated timeout state move next) : next.Sound := by
  cases proceeded with
  | ticked elapsed => exact ⟨sound.linked, sound.settled⟩
  | signalled serving => exact ⟨sound.linked, nofun⟩
  | exited cause draining settled => exact ⟨sound.linked, fun _ _ => settled⟩
  | connected =>
      refine ⟨sound.linked.congr ?_, ?_⟩
      · intro index request
        rw [List.getElem?_append]
        split
        · exact Iff.rfl
        · rename_i behind
          rw [List.getElem?_eq_none (Nat.le_of_not_lt behind), List.getElem?_singleton]
          split <;> exact ⟨nofun, nofun⟩
      · intro cause exited link listed
        rcases List.mem_append.mp listed with old | new
        · exact sound.settled cause exited link old
        · cases List.mem_singleton.mp new
          rfl
  | polled serving =>
      cases activated with
      | false => exact sound
      | true =>
          refine ⟨sound.linked, ?_⟩
          intro cause exited
          simp only [Serving.pollShutdown, if_true] at exited
          split at exited <;> cases exited
  | moved index act link after running found acted =>
      have idle := idle_of_act acted
      refine ⟨sound.linked.move found ?_ (Link.of_ne_busy idle.2 _), ?_⟩
      · rintro request rfl
        exact idle.1 rfl
      · intro cause exited
        exact absurd exited (Serving.running_iff.mp running cause)
  | begun index route link proxy running found acted turn =>
      rcases turn_arrive turn with ⟨turned, last⟩
      refine ⟨sound.linked.begin found ?_ last turned.others, ?_⟩
      · rintro request rfl
        cases acted
      · intro cause exited
        exact absurd exited (Serving.running_iff.mp running cause)
  | ended index request act after proxy running found acted reason turn =>
      rcases sound.linked.waiting index request found with ⟨standing, known, waiting⟩
      rcases turn_drop known waiting turn with ⟨turned, last, foundLast, gone, _⟩
      refine ⟨sound.linked.finish found ?_ ⟨last, foundLast, gone⟩ turned.others, ?_⟩
      · apply Link.of_ne_busy
        cases Connection.moved acted with
        | kept | completed | cancelled => exact nofun
      · intro cause exited
        exact absurd exited (Serving.running_iff.mp running cause)
  | received index request input proxy running found other turn =>
      rcases turn_input other turn with ⟨turned, last⟩
      refine ⟨sound.linked.progress found last turned.others, ?_⟩
      intro cause exited
      exact absurd exited (Serving.running_iff.mp running cause)

/-- Every move is the one that the server sees of it. -/
theorem Serving.Sound.simulates {net : Reqwest} {activated : Bool} {timeout : Nat}
    {state next : Serving decoder} {move : Move} (sound : state.Sound)
    (proceeded : Proceeded net activated timeout state move next) :
    (Lifecycle.server activated timeout).run state.server move.occurrence.toList =
      some next.server := by
  cases proceeded with
  | received index request input proxy running found other turn =>
      rcases turn_input other turn with ⟨turned, _⟩
      have same : proxy.tracker = state.proxy.tracker := turned.tracker
      change some state.server = some (Serving.server { state with proxy := proxy })
      simp only [Serving.server, same]
  | connected =>
      apply ((Lifecycle.server activated timeout).run_singleton_eq_some_iff).mpr
      change some _ = some _
      simp only [Serving.server, List.map_append]
      rfl
  | ticked elapsed => rfl
  | polled serving =>
      apply ((Lifecycle.server activated timeout).run_singleton_eq_some_iff).mpr
      change state.server.step activated timeout .pollShutdown = _
      have mode : state.server.mode = .serving := serving
      rw [Server.step, if_pos mode]
      cases activated <;> rfl
  | signalled serving =>
      apply ((Lifecycle.server activated timeout).run_singleton_eq_some_iff).mpr
      change state.server.step activated timeout .signal = _
      have mode : state.server.mode = .serving := serving
      rw [Server.step, if_pos mode]
      rfl
  | exited cause draining settled =>
      apply ((Lifecycle.server activated timeout).run_singleton_eq_some_iff).mpr
      change state.server.step activated timeout .exit = _
      have mode : state.server.mode = .draining cause := draining
      have all : state.server.connections.all Connection.settled = true := by
        rw [Serving.server, List.all_map]
        exact List.all_eq_true.mpr settled
      simp only [Server.step, mode, all, if_true]
      rfl
  | moved index act link after running found acted =>
      apply ((Lifecycle.server activated timeout).run_singleton_eq_some_iff).mpr
      exact Serving.server_act running found acted rfl _
  | begun index route link proxy running found acted turn =>
      apply ((Lifecycle.server activated timeout).run_singleton_eq_some_iff).mpr
      exact Serving.server_act running found acted (turn_arrive turn).1.tracker _
  | ended index request act after proxy running found acted reason turn =>
      rcases sound.linked.waiting index request found with ⟨standing, known, waiting⟩
      apply ((Lifecycle.server activated timeout).run_singleton_eq_some_iff).mpr
      exact Serving.server_act running found acted (turn_drop known waiting turn).1.tracker _

/-- The requests of the process take turns. -/
def servingRefinement (decoder : GzipDecoder) (net : Reqwest) (activated : Bool)
    (timeout : Nat) :
    Machine.Refinement (serving decoder net activated timeout) (process decoder net timeout) where
  map := Serving.proxy
  initial_map := rfl
  simulate := by
    intro state move next step
    cases Serving.proceeded step with
    | connected | ticked | signalled | exited | moved => exact ⟨[], rfl⟩
    | polled serving =>
        unfold Serving.pollShutdown
        cases activated with
        | true => exact ⟨[.pollIdle state.clock], rfl⟩
        | false => exact ⟨[], rfl⟩
    | begun index route link proxy running found acted turn =>
        exact ⟨[.arrive route],
          ((process decoder net timeout).run_singleton_eq_some_iff).mpr turn⟩
    | ended index request act after proxy running found acted reason turn =>
        exact ⟨[.input request .drop],
          ((process decoder net timeout).run_singleton_eq_some_iff).mpr turn⟩
    | received index request input proxy running found other turn =>
        exact ⟨[.input request input],
          ((process decoder net timeout).run_singleton_eq_some_iff).mpr turn⟩

section Runs

variable {net : Reqwest} {activated : Bool} {timeout : Nat} {state : Serving decoder}

theorem reachable_proxy (reachable : (serving decoder net activated timeout).Reachable state) :
    (proxy decoder net timeout).Reachable state.proxy :=
  (processRefinement decoder net timeout).reachable
    ((servingRefinement decoder net activated timeout).reachable reachable)

theorem Serving.sound_initial : (Serving.initial : Serving decoder).Sound := by
  refine ⟨⟨?_, ?_, ?_⟩, ?_⟩
  · intro index request busy
    cases busy
  · intro first second request busy
    cases busy
  · intro request standing found
    cases found
  · intro cause exited
    cases exited

/-- A run of the process is a run of the server, move by move. -/
theorem Serving.run_server {run : List Move}
    (executed : (serving decoder net activated timeout).run Serving.initial run = some state) :
    state.Sound ∧ (Lifecycle.server activated timeout).run Server.initial
      (run.filterMap Move.occurrence) = some state.server := by
  apply Machine.run_simulates Serving.server Move.occurrence Serving.Sound _
    Serving.sound_initial executed
  intro before move after sound step
  have proceeded := Serving.proceeded step
  exact ⟨sound.proceed proceeded, sound.simulates proceeded⟩

end Runs

/-- Nothing of any request is left. -/
structure Unoccupied (state : ProxyState decoder) : Prop where
  gone : forall request, request ∈ state.requests -> Gone request
  counter : state.tracker.activity.value = 0
  lock : state.importLock = false
  downloads : state.downloads = 0

/-- Requests that are gone have given everything back. -/
theorem Unoccupied.of_gone {state : ProxyState decoder} (books : state.Balanced)
    (gone : forall request, request ∈ state.requests -> Gone request) : Unoccupied state := by
  have returned : forall resource, state.ledger resource = 0 := by
    intro resource
    rw [books resource, Custody.total]
    apply List.sum_eq_zero
    intro count listed
    rcases List.mem_map.mp listed with ⟨request, member, rfl⟩
    rw [(gone request member).held]
    rfl
  refine ⟨gone, returned .activeRequest, ?_, returned .upstream⟩
  have lock := returned .importGuard
  cases held : state.importLock with
  | false => rfl
  | true =>
      rw [ProxyState.ledger, held] at lock
      cases lock

/-- Without a request in progress on a connection there is none at all. -/
theorem Linked.all_gone {requests : List (Request decoder)} {links : List Link}
    (linked : Linked requests links)
    (idle : forall link, link ∈ links -> link.connection ≠ .busy) :
    forall request, request ∈ requests -> Gone request := by
  intro request listed
  rcases List.mem_iff_getElem?.mp listed with ⟨number, found⟩
  rcases linked.others number request found with ⟨index, busy⟩ | gone
  · exact absurd rfl (idle _ (List.mem_of_getElem? busy))
  · exact gone

/-- Seen from its connections, a run of the process is a run of the server of
the shutdown theorems.  The idle branch completes, and the process exits, only
when nothing of any request is left. -/
theorem process_leaves_nothing (decoder : GzipDecoder) (net : Reqwest) (activated : Bool)
    (timeout : Nat) (run : List Move) (state : Serving decoder)
    (executed : (serving decoder net activated timeout).run Serving.initial run = some state) :
    (Lifecycle.server activated timeout).run Server.initial (run.filterMap Move.occurrence) =
        some state.server ∧
      (Lifecycle.Fires activated timeout state.server ∨
          (Exists fun cause => state.mode = .exited cause) ->
        Unoccupied state.proxy) := by
  rcases Serving.run_server executed with ⟨sound, seen⟩
  refine ⟨seen, ?_⟩
  intro ended
  apply Unoccupied.of_gone (balanced (reachable_proxy ⟨run, executed⟩))
  apply sound.linked.all_gone
  intro link listed busy
  rcases ended with fires | ⟨cause, exited⟩
  · apply fires.not_busy ⟨_, seen⟩
    rw [← busy]
    exact List.mem_map_of_mem listed
  · have settled := sound.settled cause exited link listed
    rw [busy] at settled
    cases settled

/-- An import is streamed to its end, and a minute later the process exits. -/
def servedImport : List Move :=
  [.occurs .connect, .occurs (.act 0 .accept), .readHead 0 rawImport,
    .input 0 (.getAnswered (.ok ⟨StatusCode.ok, ⟨[[1, 2]], .eof, []⟩⟩)), .input 0 (.pollBody 8),
    .input 0 (.pollBody 8), .occurs (.act 0 (.complete true)), .occurs .pollShutdown,
    .occurs (.tick 60), .occurs .pollShutdown, .occurs (.act 0 .reap), .occurs .exit]

theorem process_exits_behind_import :
    Exists fun state : Serving storedGzip =>
      (serving storedGzip rawUpstream true 60).run Serving.initial servedImport = some state ∧
        state.mode = .exited .idle ∧ Unoccupied state.proxy :=
  ⟨_, rfl, rfl, (process_leaves_nothing storedGzip rawUpstream true 60 servedImport _ rfl).2
    (Or.inr ⟨.idle, rfl⟩)⟩

end Service
end XoaProxy
