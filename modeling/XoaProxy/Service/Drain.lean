import XoaProxy.Service.Completion

namespace XoaProxy
namespace Service

open Lifecycle (Act Cause Connection Occurrence)
open Streaming

/-!
# A draining process comes to its end

Graceful shutdown waits for the requests in progress, so it ends only if these
do.  They do, whatever the upstream answers: a handler awaits two answers at
most, and every poll of a body hands out something of what is left of it.  No
client has to leave for it, and it cuts off no answer.
-/

variable {decoder : GzipDecoder}

/-- How many answers of the upstream may still be awaited. -/
def awaited : Phase decoder -> Nat
  | .arrived => 2
  | .handling (.received _) | .handling (.detecting _ _) | .handling (.probing _ _) => 2
  | .handling (.locking _ _ _) | .handling (.connecting _ _ _) => 1
  | .handling (.fetching _ _ _) => 1
  | .handling (.failing _) | .handling (.refused _) | .responded _ | .dropping _ => 0

theorem advance_awaited {net : Reqwest} {locked : Bool} {request next : Request decoder}
    {effect : Effect} (step : request.advance net locked = some (next, effect)) :
    awaited next.phase ≤ awaited request.phase := by
  cases Request.advanced step with
  | entered here =>
      rw [here]
      change awaited (.handling (Request.start request.route) : Phase decoder) ≤ 2
      cases request.route <;> exact Nat.le_of_ble_eq_true rfl
  | missing _ here | accepted _ _ here | rejected _ _ here | named _ _ _ here
  | ambiguous _ _ here | busy _ _ _ here | locked _ _ _ here | connected _ _ _ here
  | failed _ here | refused _ here | released _ _ _ here =>
      rw [here]
      exact Nat.le_of_ble_eq_true rfl

/-- What the client is still to be sent. -/
def unsent : Phase decoder -> Nat
  | .responded (.ok response) =>
      leftover (pipeline decoder response.body.format) response.body.inner
  | .arrived | .handling _ | .responded (.error _) | .dropping _ => 0

theorem finished_of_unsent {request : Request decoder}
    {result : Except ProxyError (Response decoder)}
    (here : request.phase = .responded result) (sent : unsent request.phase = 0) :
    request.finished = true := by
  rw [Request.finished, here]
  rw [here] at sent
  cases result with
  | error error => rfl
  | ok response => exact Option.isNone_iff_eq_none.mpr (leftover_eq_zero_iff.mp sent)

/-- Every poll sends something of it. -/
theorem pollBody_unsent {request : Request decoder}
    {result : Except ProxyError (Response decoder)} {room : Nat} (readable : 0 < room)
    (here : request.phase = .responded result) (left : unsent request.phase ≠ 0) :
    Exists fun next => Exists fun effect => Exists fun later =>
      request.input (.pollBody room) = some (next, effect) ∧
        next.phase = .responded later ∧ unsent next.phase < unsent request.phase := by
  rw [here] at left ⊢
  cases result with
  | error error => exact absurd rfl left
  | ok response =>
      rw [Request.input, Request.pollBody, here]
      refine ⟨_, _, _, rfl, rfl, ?_⟩
      cases held : response.body.inner with
      | none => exact absurd (leftover_eq_zero_iff.mpr held) left
      | some state =>
          have less := leftover_pollNext (pipeline decoder response.body.format) readable state
          rw [← held] at less
          exact less

/-- The moves while a process drains: it writes bodies and ends connections,
upstreams answer what was asked for the request of a connection, and clients
take what is written. -/
def Winding (room : Nat) (heads : Nat -> Except String HeadResponse)
    (gets : Nat -> Except String GetResponse) : Move -> Prop
  | .input index (.headAnswered result) => result = heads index
  | .input index (.getAnswered result) => result = gets index
  | .input _ (.pollBody size) => size = room
  | .occurs (.act _ (.complete _)) | .occurs (.act _ .reap) | .occurs .exit => True
  | .input _ .drop | .occurs _ | .readHead _ _ => False

section Steps

variable {net : Reqwest} {activated : Bool} {timeout index number : Nat} {state : Serving decoder}

/-- What a turn keeps of what is awaited. -/
theorem settle_awaited {state : ProxyState decoder} {request : Request decoder} (fuel bound : Nat)
    (found : state.requests[index]? = some request) (below : awaited request.phase ≤ bound) :
    Exists fun last =>
      (settle net timeout index fuel state).requests[index]? = some last ∧
        awaited last.phase ≤ bound := by
  apply @settle_preserves decoder net timeout index
    (fun state => Exists fun last => state.requests[index]? = some last ∧
      awaited last.phase ≤ bound) _ fuel state ⟨request, found, below⟩
  rintro before after ⟨held, known, low⟩ step
  rcases advance_inv step with ⟨same, moved, foundSame, advanced, rfl⟩
  cases Option.some.inj (known.symm.trans foundSame)
  exact ⟨moved.1, getElem?_commit_self known timeout moved,
    Nat.le_trans (advance_awaited advanced) low⟩

/-- A step from outside reaches the request of a connection. -/
theorem step_input {request next : Request decoder} {input : Input} {effect : Effect}
    (running : state.running = true) (busy : state.links[index]? = some (.busy number))
    (found : state.proxy.requests[number]? = some request) (other : input ≠ .drop)
    (received : request.input input = some (next, effect)) :
    state.step net activated timeout (.input index input) = some { state with
      proxy := settle net timeout number longestTurn
        (state.proxy.commit timeout number (next, effect)) } := by
  have turn : state.proxy.turn net timeout (.input number input) =
      some (settle net timeout number longestTurn
        (state.proxy.commit timeout number (next, effect))) := by
    simp only [ProxyState.turn, ProxyState.step, found, Option.bind_eq_bind, Option.bind_some,
      received]
    rfl
  cases input with
  | drop => exact absurd rfl other
  | headAnswered | getAnswered | pollBody => simp only [Serving.step, running, busy, turn,
      Option.map_some]

/-- The connection still carries a request that waits, for that much. -/
structure Carries (state : Serving decoder) (links : List Link) (mode : Lifecycle.Mode)
    (index number : Nat) (request : Request decoder) : Prop where
  sound : state.Sound
  links : state.links = links
  mode : state.mode = mode
  busy : state.links[index]? = some (.busy number)
  found : state.proxy.requests[number]? = some request
  waiting : Waiting request.phase

/-- It does so behind a step from outside. -/
theorem Carries.input {links : List Link} {mode : Lifecycle.Mode} {request next : Request decoder}
    {input : Input} {effect : Effect} (carries : Carries state links mode index number request)
    (running : state.running = true) (other : input ≠ .drop)
    (received : request.input input = some (next, effect)) :
    Exists fun after => Exists fun last =>
      state.step net activated timeout (.input index input) = some after ∧
        Carries after links mode index number last ∧ awaited last.phase ≤ awaited next.phase ∧
        forall result, next.phase = .responded result -> last = next := by
  have step := @step_input decoder net activated timeout index number state request next input
    effect running carries.busy carries.found other received
  have begun := getElem?_commit_self carries.found timeout (next, effect)
  rcases @settle_awaited decoder net timeout number _ _ longestTurn _ begun (Nat.le_refl _) with
    ⟨last, found, below⟩
  have sound := carries.sound.proceed (Serving.proceeded step)
  rcases sound.linked.waiting index number carries.busy with ⟨same, foundSame, waiting⟩
  cases Option.some.inj (found.symm.trans foundSame)
  refine ⟨_, last, step, ⟨sound, carries.links, carries.mode, carries.busy, found, waiting⟩,
    below, ?_⟩
  intro result here
  have stuck : next.advance net (state.proxy.commit timeout number (next, effect)).importLock =
      none := by
    rw [Request.advance, here]
  rw [settle_waiting net timeout number longestTurn begun stuck] at found
  exact Option.some.inj (found.symm.trans begun)

end Steps

/-- Whatever the answer to a HEAD request, at most one more is awaited. -/
theorem headAnswered_awaited {request : Request decoder} {client : Client} {src : String}
    (here : request.phase = .handling (.probing client src))
    (result : Except String HeadResponse) :
    Exists fun next => Exists fun effect =>
      request.input (.headAnswered result) = some (next, effect) ∧ awaited next.phase ≤ 1 := by
  rw [Request.input, Request.headAnswered, here]
  cases result with
  | error reason => exact ⟨_, _, rfl, Nat.zero_le 1⟩
  | ok response => exact ⟨_, _, rfl, Nat.le_refl 1⟩

/-- Whatever the answer to a GET request, no more is awaited. -/
theorem getAnswered_awaited {request : Request decoder} {client : Client} {src : String}
    {format : ImageFormat} (here : request.phase = .handling (.fetching client src format))
    (result : Except String GetResponse) :
    Exists fun next => Exists fun effect =>
      request.input (.getAnswered result) = some (next, effect) ∧ awaited next.phase = 0 := by
  rw [Request.input, Request.getAnswered, here]
  cases result with
  | error reason => exact ⟨_, _, rfl, rfl⟩
  | ok response =>
      dsimp only
      split
      · exact ⟨_, _, rfl, rfl⟩
      · exact ⟨_, _, rfl, rfl⟩

section Ends

variable (net : Reqwest) (activated : Bool) (timeout room : Nat)
  (heads : Nat -> Except String HeadResponse) (gets : Nat -> Except String GetResponse)

/-- The process goes on by itself until this connection is closed. -/
def Closes (state : Serving decoder) (index : Nat) : Prop :=
  Exists fun after =>
    (serving decoder net activated timeout).Leads (Winding room heads gets) state after ∧
      after.Sound ∧ after.links = state.links.set index .closed ∧ after.mode = state.mode

variable {net activated timeout room heads gets} {state : Serving decoder} {index number : Nat}
  {links : List Link} {mode : Lifecycle.Mode} {request : Request decoder}

/-- A move that leaves the connections as they are can come first. -/
theorem Closes.behind {move : Move} {after : Serving decoder}
    (step : state.step net activated timeout move = some after)
    (allowed : Winding room heads gets move) (links : after.links = state.links)
    (mode : after.mode = state.mode)
    (closes : Closes net activated timeout room heads gets after index) :
    Closes net activated timeout room heads gets state index := by
  rcases closes with ⟨last, leads, sound, closed, same⟩
  have first :
      (serving decoder net activated timeout).Leads (Winding room heads gets) state after :=
    Machine.Leads.single step allowed
  exact ⟨last, first.trans leads, sound, links ▸ closed, same.trans mode⟩

/-- When the body is written, the connection ends. -/
theorem finished_closes (carries : Carries state links mode index number request)
    (running : state.running = true) (finished : request.finished = true) :
    Closes net activated timeout room heads gets state index := by
  have written : state.written number = true := by
    rw [Serving.written, carries.found]
    exact finished
  have turn : Exists fun proxy =>
      state.proxy.turn net timeout (.input number .drop) = some proxy := by
    simp only [ProxyState.turn, ProxyState.step, carries.found, Option.bind_eq_bind,
      Option.bind_some, Request.input, Request.drop, carries.waiting.droppable, if_true]
    exact ⟨_, rfl⟩
  rcases turn with ⟨proxy, turn⟩
  have step : state.step net activated timeout (.occurs (.act index (.complete false))) =
      some { state with proxy := proxy, links := state.links.set index .closed } := by
    simp only [Serving.step, running, if_true, Serving.act, carries.busy, Option.bind_eq_bind,
      Option.bind_some, Link.connection, Connection.act, Serving.dropped, written, turn]
    rfl
  have moved : (serving decoder net activated timeout).step state
      (.occurs (.act index (.complete false))) =
        some { state with proxy := proxy, links := state.links.set index .closed } := step
  exact ⟨_, Machine.Leads.single moved trivial, carries.sound.proceed (Serving.proceeded step),
    rfl, rfl⟩

/-- A body is written to its end. -/
theorem responded_closes {result : Except ProxyError (Response decoder)}
    (readable : 0 < room) (carries : Carries state links mode index number request)
    (running : state.running = true) (here : request.phase = .responded result) :
    Closes net activated timeout room heads gets state index := by
  generalize left : unsent request.phase = size
  induction size using Nat.strongRecOn generalizing state request result with
  | ind size ih =>
      by_cases sent : unsent request.phase = 0
      · exact finished_closes carries running (finished_of_unsent here sent)
      · rcases pollBody_unsent readable here sent with ⟨next, effect, later, received, there, less⟩
        rcases @Carries.input decoder net activated timeout index number state links mode request
          next (.pollBody room) effect carries running nofun received with
          ⟨after, last, step, still, _, same⟩
        cases same later there
        have alive : after.running = true := by
          rw [Serving.running, still.mode, ← carries.mode]
          exact running
        apply Closes.behind step rfl (still.links.trans carries.links.symm)
          (still.mode.trans carries.mode.symm)
        exact ih _ (left ▸ less) still alive there rfl

/-- A request in progress is answered, and its connection ends. -/
theorem busy_closes (readable : 0 < room)
    (carries : Carries state links mode index number request)
    (running : state.running = true) :
    Closes net activated timeout room heads gets state index := by
  generalize left : awaited request.phase = count
  induction count using Nat.strongRecOn generalizing state request with
  | ind count ih =>
      have next : forall {input : Input} {moved : Request decoder} {effect : Effect},
          input ≠ .drop -> Winding room heads gets (.input index input) ->
          request.input input = some (moved, effect) ->
          awaited moved.phase < awaited request.phase ->
          Closes net activated timeout room heads gets state index := by
        intro input moved effect other allowed received less
        rcases @Carries.input decoder net activated timeout index number state links mode request
          moved input effect carries running other received with
          ⟨after, last, step, still, below, _⟩
        have alive : after.running = true := by
          rw [Serving.running, still.mode, ← carries.mode]
          exact running
        apply Closes.behind step allowed (still.links.trans carries.links.symm)
          (still.mode.trans carries.mode.symm)
        exact ih _ (left ▸ Nat.lt_of_le_of_lt below less) still alive rfl
      have waiting := carries.waiting
      cases here : request.phase with
      | arrived | dropping =>
          rw [here] at waiting
          exact waiting.elim
      | responded result => exact responded_closes readable carries running here
      | handling frame =>
          rw [here] at waiting
          cases frame with
          | probing client src =>
              rcases headAnswered_awaited here (heads index) with ⟨moved, effect, received, low⟩
              refine @next (.headAnswered (heads index)) moved effect Input.noConfusion rfl
                received ?_
              rw [here]
              exact Nat.lt_succ_of_le low
          | fetching client src format =>
              rcases getAnswered_awaited here (gets index) with ⟨moved, effect, received, none⟩
              refine @next (.getAnswered (gets index)) moved effect Input.noConfusion rfl
                received ?_
              rw [here, none]
              exact Nat.one_pos
          | received | detecting | locking | connecting | failing | refused =>
              exact waiting.elim

end Ends

/-! ## The end of a draining process -/

section Drain

variable {net : Reqwest} {activated : Bool} {timeout room : Nat} {state : Serving decoder}
  (readable : 0 < room) (heads : Nat -> Except String HeadResponse)
  (gets : Nat -> Except String GetResponse)

include readable

/-- A connection that the process waits for comes to an end. -/
theorem unsettled_settles {cause : Cause} {index : Nat} {link : Link} (sound : state.Sound)
    (draining : state.mode = .draining cause) (found : state.links[index]? = some link)
    (waits : link.connection.settled = false) :
    Exists fun after => Exists fun last : Link =>
      (serving decoder net activated timeout).Leads (Winding room heads gets) state after ∧
        after.Sound ∧ after.links = state.links.set index last ∧ after.mode = state.mode ∧
        last.connection.settled = true := by
  have running : state.running = true := by rw [Serving.running, draining]
  have reaped : forall next : Connection, next.settled = true ->
      link.connection.act state.mode .reap = some (next, none) ->
      Exists fun after => Exists fun last : Link =>
        (serving decoder net activated timeout).Leads (Winding room heads gets) state after ∧
          after.Sound ∧ after.links = state.links.set index last ∧ after.mode = state.mode ∧
          last.connection.settled = true := by
    intro next settled acted
    have step : state.step net activated timeout (.occurs (.act index .reap)) =
        some { state with
          links := state.links.set index (.of state.proxy.requests.length next) } := by
      simp only [Serving.step, running, if_true, Serving.act, found, Option.bind_eq_bind,
        Option.bind_some, acted, Serving.dropped]
      rfl
    have moved : (serving decoder net activated timeout).step state (.occurs (.act index .reap)) =
        some { state with
          links := state.links.set index (.of state.proxy.requests.length next) } := step
    refine ⟨_, .of state.proxy.requests.length next, Machine.Leads.single moved trivial,
      sound.proceed (Serving.proceeded step), rfl, rfl, ?_⟩
    rw [Link.connection_of]
    exact settled
  cases link with
  | accepted =>
      apply reaped (.lost cause) rfl
      rw [draining]
      rfl
  | answered =>
      apply reaped .closed rfl
      rw [draining]
      rfl
  | busy number =>
      rcases sound.linked.waiting index number found with ⟨request, known, waiting⟩
      rcases @busy_closes decoder net activated timeout room heads gets state index number
        state.links state.mode request readable ⟨sound, rfl, rfl, found, known, waiting⟩
        running with ⟨after, leads, still, links, mode⟩
      exact ⟨after, .closed, leads, still, links, mode, rfl⟩
  | queued | closed | abandoned | lost => cases waits

/-- One connection after the other ends, and then the process exits. -/
theorem draining_exits {cause : Cause} (sound : state.Sound)
    (draining : state.mode = .draining cause) :
    Exists fun final =>
      (serving decoder net activated timeout).Leads (Winding room heads gets) state final ∧
        final.mode = .exited cause := by
  generalize left : state.links.countP (fun link => !link.connection.settled) = waited
  induction waited generalizing state with
  | zero =>
      have settled : (state.links.all fun link => link.connection.settled) = true := by
        apply List.all_eq_true.mpr
        intro link listed
        have none := List.countP_eq_zero.mp left link listed
        rwa [Bool.not_eq_true', Bool.not_eq_false] at none
      have step : (serving decoder net activated timeout).step state (.occurs .exit) =
          some { state with mode := .exited cause } := by
        change state.step net activated timeout (.occurs .exit) = _
        simp only [Serving.step, draining, settled, if_true]
      exact ⟨_, Machine.Leads.single step trivial, rfl⟩
  | succ waited ih =>
      have positive : 0 < state.links.countP (fun link => !link.connection.settled) := by
        rw [left]
        exact Nat.succ_pos waited
      rcases List.countP_pos_iff.mp positive with ⟨link, listed, waits⟩
      rw [Bool.not_eq_true'] at waits
      rcases List.mem_iff_getElem?.mp listed with ⟨index, found⟩
      rcases unsettled_settles readable heads gets sound draining found waits with
        ⟨after, last, leads, still, links, mode, settled⟩
      have fewer : after.links.countP (fun link => !link.connection.settled) = waited := by
        have inside := (List.getElem?_eq_some_iff.mp found).1
        have same := (List.getElem?_eq_some_iff.mp found).2
        rw [links, List.countP_set inside, left, same, waits, settled]
        rfl
      rcases ih still (mode.trans draining) fewer with ⟨final, rest, exited⟩
      exact ⟨final, leads.trans rest, exited⟩

end Drain

/-- Requests stay in the books. -/
theorem request_stays {net : Reqwest} {activated : Bool} {timeout number : Nat}
    {state final : Serving decoder} {moves : List Move} (sound : state.Sound)
    (present : Exists fun request => state.proxy.requests[number]? = some request)
    (executed : (serving decoder net activated timeout).run state moves = some final) :
    Exists fun request => final.proxy.requests[number]? = some request := by
  have kept : final.Sound ∧ Exists fun request =>
      final.proxy.requests[number]? = some request := by
    refine (serving decoder net activated timeout).run_preserves
      (fun state => state.Sound ∧ Exists fun request =>
        state.proxy.requests[number]? = some request) ?_ ⟨sound, present⟩ executed
    rintro before move after ⟨sound, request, known⟩ step
    have proceeded := Serving.proceeded step
    refine ⟨sound.proceed proceeded, ?_⟩
    have turned : forall {changed : Nat} {proxy : ProxyState decoder},
        (forall other, other ≠ changed ->
          proxy.requests[other]? = before.proxy.requests[other]?) ->
        (Exists fun last => proxy.requests[changed]? = some last) ->
        Exists fun request => proxy.requests[number]? = some request := by
      intro changed proxy others last
      by_cases here : number = changed
      · subst here
        exact last
      · exact ⟨request, (others number here).trans known⟩
    cases proceeded with
    | connected | ticked | signalled | exited | moved => exact ⟨request, known⟩
    | polled serving =>
        unfold Serving.pollShutdown
        cases activated <;> exact ⟨request, known⟩
    | begun index route link proxy running found acted turn =>
        rcases turn_arrive turn with ⟨turn, last, foundLast, _⟩
        exact turned turn.others ⟨last, foundLast⟩
    | ended index carried act next proxy running found acted reason turn =>
        rcases sound.linked.waiting index carried found with ⟨standing, old, waiting⟩
        rcases turn_drop old waiting turn with ⟨turn, last, foundLast, _⟩
        exact turned turn.others ⟨last, foundLast⟩
    | received index carried input proxy running found other turn =>
        rcases turn_input other turn with ⟨turn, last, foundLast, _⟩
        exact turned turn.others ⟨last, foundLast⟩
  exact kept.2

/-- A process that drains can always come to its exit, whatever the upstreams
answer and however much is read at a time, without a client that leaves, and
every GET request in progress is answered in full on the way. -/
theorem drain_answers_everyone (decoder : GzipDecoder) (net : Reqwest) (activated : Bool)
    (timeout : Nat) (run : List Move) (state : Serving decoder) (cause : Cause)
    (executed : (serving decoder net activated timeout).run Serving.initial run = some state)
    (draining : state.mode = .draining cause)
    (positive : forall index room, .input index (.pollBody room) ∈ run -> 0 < room)
    (room : Nat) (readable : 0 < room) (heads : Nat -> Except String HeadResponse)
    (gets : Nat -> Except String GetResponse) :
    Exists fun moves => Exists fun final =>
      (serving decoder net activated timeout).run state moves = some final ∧
        final.mode = .exited cause ∧ (forall move, move ∈ moves -> Winding room heads gets move) ∧
        forall index number : Nat, state.links[index]? = some (.busy number) ->
          Exists fun request => final.proxy.requests[number]? = some request ∧
            AnsweredInFull net request
              (said (hearing decoder net activated timeout number (run ++ moves))) := by
  have sound := (Serving.run_server executed).1
  rcases draining_exits readable heads gets sound draining with
    ⟨final, ⟨moves, went, winding⟩, exited⟩
  refine ⟨moves, final, went, exited, winding, ?_⟩
  intro index number busy
  have whole : (serving decoder net activated timeout).run Serving.initial (run ++ moves) =
      some final :=
    ((serving decoder net activated timeout).run_append_eq_some_iff).mpr ⟨state, executed, went⟩
  rcases sound.linked.waiting index number busy with ⟨standing, known, waiting⟩
  rcases request_stays sound ⟨standing, known⟩ went with ⟨request, found⟩
  refine ⟨request, found, ?_⟩
  have account : Accounted net number final
      (hearing decoder net activated timeout number (run ++ moves)) := accounted whole
  have stayed : .hungUp ∉ hearing decoder net activated timeout number (run ++ moves) := by
    intro listed
    rw [hearing, Machine.observed_append executed] at listed
    rcases List.mem_append.mp listed with early | late
    · rcases (accounted executed).left early with ⟨same, foundSame, gone⟩
      exact sound.linked.not_gone busy foundSame gone
    · rcases Machine.label_of_mem_observed late with ⟨before, move, member, taken⟩
      rcases hangUp_of_overheard taken with ⟨other, rfl⟩
      exact winding _ member
  have gone : Gone request := by
    rcases account.sound.linked.others number request found with ⟨other, still⟩ | gone
    · have settled := account.sound.settled cause exited _ (List.mem_of_getElem? still)
      cases settled
    · exact gone
  have sizes : forall index size, .input index (.pollBody size) ∈ run ++ moves -> 0 < size := by
    intro other size listed
    rcases List.mem_append.mp listed with early | late
    · exact positive other size early
    · have same : size = room := winding _ late
      exact same ▸ readable
  exact ((account.settled request found gone).resolve_left stayed).answeredInFull sizes

/-- A signal arrives while an import waits for the answer to its GET. -/
def interruptedImport : List Move :=
  [.occurs .connect, .occurs (.act 0 .accept), .readHead 0 rawImport, .occurs .signal]

theorem interrupted_import_answered :
    Exists fun state : Serving storedGzip =>
      (serving storedGzip rawUpstream true 60).run Serving.initial interruptedImport = some state ∧
        state.links[0]? = some (.busy 0) ∧
        Exists fun moves => Exists fun final =>
          (serving storedGzip rawUpstream true 60).run state moves = some final ∧
            final.mode = .exited .signal ∧
            Exists fun request => final.proxy.requests[0]? = some request ∧
              AnsweredInFull rawUpstream request
                (said (hearing storedGzip rawUpstream true 60 0 (interruptedImport ++ moves))) := by
  refine ⟨_, rfl, rfl, ?_⟩
  have positive : forall index room,
      .input index (.pollBody room) ∈ interruptedImport -> 0 < room := by
    intro index room listed
    simp [interruptedImport] at listed
  rcases drain_answers_everyone storedGzip rawUpstream true 60 interruptedImport _ .signal rfl rfl
    positive 4096 (by decide) (fun _ => .error "no answer")
    (fun _ => .ok ⟨StatusCode.ok, ⟨[[1, 2]], .eof, []⟩⟩) with
    ⟨moves, final, went, exited, _, answered⟩
  exact ⟨moves, final, went, exited, answered 0 0 rfl⟩

end Service
end XoaProxy
