import XoaProxy.Foundation.Ownership
import XoaProxy.Service.Handler

namespace XoaProxy
namespace Service

open Streaming

/-!
# One request between its steps

A request is the future of the middleware `track`, then the response body that
the server writes, then a value being dropped.  Between two steps its phase
says where it is, and what it owns follows from the declarations of the source:
locals of a suspended function and fields of a structure.

`advance` is the next step that needs nothing from outside; it has none where
the source awaits.  `input` is a step from outside: an answer of the upstream,
a poll of the body, or the drop of the future or body.  Every step reports its
effect on what requests share, and an effect is one acquired or released
resource at most.
-/

/-- What dropping a request can release: the upstream connection of its GET,
the import lock, and its share of the activity counter. -/
inductive Resource where
  | upstream
  | importGuard
  | activeRequest
deriving DecidableEq, Repr

/-- The order in which a request releases what it owns. -/
def releaseOrder : List Resource := [.upstream, .importGuard, .activeRequest]

/-- What is still to be released of a value that is being dropped. -/
structure Teardown where
  left : List Resource
  suffix : left <:+ releaseOrder

/-- The handler that the router selects for a GET request. -/
inductive Route where
  | image (params : ImageParams)
  | fallback (path : String)

/-- The handler between two of its steps.  The future of `fetchXvaStream` is
part of it from `connecting` to `failing`. -/
inductive Frame where
  | received (params : ImageParams)
  | detecting (client : Client) (src : String)
  | probing (client : Client) (src : String)
  | locking (client : Client) (src : String) (format : ImageFormat)
  | connecting (client : Client) (src : String) (format : ImageFormat)
  | fetching (client : Client) (src : String) (format : ImageFormat)
  | failing (reason : String)
  | refused (error : ProxyError)

/-- A request: its middleware future before the first poll, its handler, its
response with the body that `track` returned, and its end. -/
inductive Phase (decoder : GzipDecoder) where
  | arrived
  | handling (frame : Frame)
  | responded (result : Except ProxyError (Response decoder))
  | dropping (teardown : Teardown)

/-- A request with a record of what it did and how it was answered. -/
structure Request (decoder : GzipDecoder) where
  route : Route
  phase : Phase decoder
  events : List Event
  answer : Option (Except ProxyError StatusCode)

inductive Effect where
  | none
  | acquired (resource : Resource)
  | released (resource : Resource)
deriving DecidableEq, Repr

/-- A step from outside the request. -/
inductive Input where
  | headAnswered (result : Except String HeadResponse)
  | getAnswered (result : Except String GetResponse)
  | pollBody (room : Nat)
  | drop

variable {decoder : GzipDecoder}

/-! ## Ownership -/

/-- The handler owns something only inside `fetchXvaStream`, which has the
guard as its last parameter and the pending request as a later temporary. -/
def Frame.owned : Frame -> Owned Resource
  | .connecting _ _ _ => Owned.scope [.leaf .importGuard]
  | .fetching _ _ _ => Owned.scope [.leaf .importGuard, .leaf .upstream]
  | .failing _ => Owned.scope [.leaf .importGuard]
  | .received _ | .detecting _ _ | .probing _ _ | .locking _ _ _ | .refused _ => .nothing

/-- The fields `inner`, `_guard`, `bytes_sent`, `src_url` and `format`.  The
pipeline gives the upstream up when it reports its end. -/
def guardedStreamOwned (stream : GuardedStream decoder) : Owned Resource :=
  Owned.struct [if stream.inner.isSome then .leaf .upstream else .nothing,
    .leaf .importGuard, .nothing, .nothing, .nothing]

/-- The fields `inner` and `_guard` of `ActiveBody`. -/
def activeBodyOwned : Except ProxyError (Response decoder) -> Owned Resource
  | .error _ => Owned.struct [.nothing, .leaf .activeRequest]
  | .ok response => Owned.struct [guardedStreamOwned response.body, .leaf .activeRequest]

/-- The locals of `track` are its guard and, later, the handler's future. -/
def Phase.held : Phase decoder -> List Resource
  | .arrived => []
  | .handling frame => (Owned.scope [.leaf .activeRequest, frame.owned]).dropOrder
  | .responded result => (activeBodyOwned result).dropOrder
  | .dropping teardown => teardown.left

def Request.held (request : Request decoder) : List Resource :=
  request.phase.held

theorem Frame.held_eq (frame : Frame) :
    (Phase.handling frame : Phase decoder).held =
      frame.owned.dropOrder ++ [.activeRequest] := by
  simp only [Phase.held, Owned.dropOrder_scope, List.reverse_cons, List.reverse_nil,
    List.nil_append, List.singleton_append, List.flatMap_cons, List.flatMap_nil, List.append_nil,
    Owned.dropOrder]

theorem Phase.held_error (error : ProxyError) :
    (Phase.responded (.error error) : Phase decoder).held = [.activeRequest] :=
  rfl

theorem Phase.held_ok (response : Response decoder) :
    (Phase.responded (.ok response)).held =
      if response.body.inner.isSome then releaseOrder else [.importGuard, .activeRequest] := by
  simp only [Phase.held, activeBodyOwned, guardedStreamOwned, Owned.dropOrder_struct,
    List.flatMap_cons, List.flatMap_nil, Owned.dropOrder, List.append_nil]
  cases response.body.inner.isSome <;> rfl

theorem activeRequest_suffix : [.activeRequest] <:+ releaseOrder :=
  List.suffix_append [Resource.upstream, .importGuard] _

theorem importGuard_suffix : [.importGuard, .activeRequest] <:+ releaseOrder :=
  List.suffix_append [Resource.upstream] _

/-- Everything a request owns is released in the one order, whatever it has
released already. -/
theorem Phase.held_suffix (phase : Phase decoder) : phase.held <:+ releaseOrder := by
  cases phase with
  | arrived => exact List.nil_suffix
  | handling frame =>
      cases frame with
      | received | detecting | probing | locking | refused => exact activeRequest_suffix
      | connecting | failing => exact importGuard_suffix
      | fetching => exact List.suffix_rfl
  | responded result =>
      cases result with
      | error error => exact activeRequest_suffix
      | ok response =>
          rw [Phase.held_ok]
          split
          · exact List.suffix_rfl
          · exact importGuard_suffix
  | dropping teardown => exact teardown.suffix

theorem releaseOrder_nodup : releaseOrder.Nodup := by decide

theorem upstream_split :
    releaseOrder = [] ++ Resource.upstream :: [.importGuard, .activeRequest] := rfl

theorem importGuard_split :
    releaseOrder = [.upstream] ++ Resource.importGuard :: [.activeRequest] := rfl

/-- The guard outlives the download. -/
theorem Phase.importGuard_of_upstream {phase : Phase decoder} (holds : .upstream ∈ phase.held) :
    .importGuard ∈ phase.held :=
  Custody.mem_of_suffix phase.held_suffix upstream_split (by decide) List.mem_cons_self holds

/-- The request stays active as long as it has the guard. -/
theorem Phase.activeRequest_of_importGuard {phase : Phase decoder}
    (holds : .importGuard ∈ phase.held) : .activeRequest ∈ phase.held :=
  Custody.mem_of_suffix phase.held_suffix importGuard_split (by decide) List.mem_cons_self holds

namespace Request

def new (route : Route) : Request decoder where
  route := route
  phase := .arrived
  events := []
  answer := none

/-- Go on in the handler. -/
def goto (request : Request decoder) (frame : Frame) (events : List Event) : Request decoder :=
  { request with phase := .handling frame, events := request.events ++ events }

/-- The status of a result, and the error it was made from. -/
def statusOrError : Except ProxyError (Response decoder) -> Except ProxyError StatusCode
  | .error error => .error error
  | .ok response => .ok response.status

/-- The handler returns and `track` wraps the body. -/
def respond (request : Request decoder) (result : Except ProxyError (Response decoder)) :
    Request decoder :=
  { request with phase := .responded result, answer := some (statusOrError result) }

/-- The event of a released resource. -/
def releaseEvents : Resource -> List Event
  | .importGuard => [.lockReleased]
  | .upstream | .activeRequest => []

/-- The handler that a route runs. -/
def start : Route -> Frame
  | .image params => .received params
  | .fallback path =>
      .refused (.notFound ("Unknown path '" ++ path ++ "'. Expected /image.xva"))

/-- The next step of the handler. -/
def advanceFrame (net : Reqwest) (locked : Bool) (request : Request decoder) :
    Frame -> Option (Request decoder × Effect)
  | .received params =>
      match params.src with
      | none => some (request.goto (.refused missingSrc) [], .none)
      | some src =>
          if schemeAccepted src then
            some (request.goto (.detecting (selectClient params.verifySsl) src) [], .none)
          else
            some (request.goto (.refused (badScheme src)) [], .none)
  | .detecting client src =>
      match detectFormatFromExtension net src with
      | some format => some (request.goto (.locking client src format) [], .none)
      | none => some (request.goto (.probing client src) [.headSent], .none)
  | .probing _ _ => none
  | .locking client src format =>
      if locked then
        some (request.goto (.refused .importInProgress) [], .none)
      else
        some (request.goto (.connecting client src format) [.lockAcquired],
          .acquired .importGuard)
  | .connecting client src format =>
      some (request.goto (.fetching client src format) [.getSent], .acquired .upstream)
  | .fetching _ _ _ => none
  | .failing reason =>
      some (request.goto
        (.refused (.upstreamFailed ("Failed to fetch upstream image: " ++ reason)))
        [.lockReleased], .released .importGuard)
  | .refused error => some (request.respond (.error error), .none)

/-- The next step that needs nothing from outside. -/
def advance (net : Reqwest) (locked : Bool) (request : Request decoder) :
    Option (Request decoder × Effect) :=
  match request.phase with
  | .arrived => some (request.goto (start request.route) [], .acquired .activeRequest)
  | .handling frame => request.advanceFrame net locked frame
  | .responded _ => none
  | .dropping ⟨[], _⟩ => none
  | .dropping ⟨resource :: left, suffix⟩ =>
      some ({ request with
        phase := .dropping ⟨left, (List.suffix_cons resource left).trans suffix⟩
        events := request.events ++ releaseEvents resource }, .released resource)

/-- The HEAD request is answered or fails. -/
def headAnswered (request : Request decoder) (result : Except String HeadResponse) :
    Option (Request decoder × Effect) :=
  match request.phase with
  | .handling (.probing client src) =>
      match result with
      | .error reason =>
          some (request.goto (.refused (.probeFailed ("HEAD request failed: " ++ reason))) [],
            .none)
      | .ok response =>
          some (request.goto (.locking client src (formatOfHead response)) [], .none)
  | _ => none

/-- The GET request is answered or fails.  A refused answer is closed. -/
def getAnswered (request : Request decoder) (result : Except String GetResponse) :
    Option (Request decoder × Effect) :=
  match request.phase with
  | .handling (.fetching _ src format) =>
      match result with
      | .error _ =>
          some (request.goto (.failing "Failed to connect to upstream") [], .released .upstream)
      | .ok response =>
          match response.errorForStatus with
          | .error _ =>
              some (request.goto (.failing "Upstream returned non-2xx status") [],
                .released .upstream)
          | .ok response =>
              some (request.respond
                (.ok (Response.image (GuardedStream.new format response.body ⟨⟩ src))), .none)
  | _ => none

/-- The server polls the body.  A text body owns nothing that a poll changes. -/
def pollBody (request : Request decoder) (room : Nat) : Option (Request decoder × Effect) :=
  match request.phase with
  | .responded (.error _) => some (request, .none)
  | .responded (.ok response) =>
      let stream := (response.body.pollNext room).2
      some ({ request with phase := .responded (.ok { response with body := stream }) },
        if response.body.inner.isSome && stream.inner.isNone then .released .upstream else .none)
  | _ => none

/-- A future can be dropped where it is suspended or not yet polled, a body
between two polls. -/
def droppable : Phase decoder -> Bool
  | .arrived | .handling (.probing _ _) | .handling (.fetching _ _ _) | .responded _ => true
  | .handling _ | .dropping _ => false

def drop (request : Request decoder) : Option (Request decoder × Effect) :=
  if droppable request.phase then
    some ({ request with phase := .dropping ⟨request.held, request.phase.held_suffix⟩ }, .none)
  else
    none

def input (request : Request decoder) : Input -> Option (Request decoder × Effect)
  | .headAnswered result => request.headAnswered result
  | .getAnswered result => request.getAnswered result
  | .pollBody room => request.pollBody room
  | .drop => request.drop

/-- A step of a request, of either kind. -/
inductive Moves (net : Reqwest) (locked : Bool) (request next : Request decoder)
    (effect : Effect) : Prop
  | advanced (step : request.advance net locked = some (next, effect))
  | received (input : Input) (step : request.input input = some (next, effect))

/-! ## What a step is -/

/-- Every step that a request takes on its own. -/
inductive Advanced (net : Reqwest) (locked : Bool) (request : Request decoder) :
    Request decoder -> Effect -> Prop
  | entered (here : request.phase = .arrived) :
      Advanced net locked request (request.goto (start request.route) [])
        (.acquired .activeRequest)
  | missing (params : ImageParams) (here : request.phase = .handling (.received params))
      (absent : params.src = none) :
      Advanced net locked request (request.goto (.refused missingSrc) []) .none
  | accepted (params : ImageParams) (src : String)
      (here : request.phase = .handling (.received params)) (given : params.src = some src)
      (scheme : schemeAccepted src = true) :
      Advanced net locked request
        (request.goto (.detecting (selectClient params.verifySsl) src) []) .none
  | rejected (params : ImageParams) (src : String)
      (here : request.phase = .handling (.received params)) (given : params.src = some src)
      (scheme : schemeAccepted src = false) :
      Advanced net locked request (request.goto (.refused (badScheme src)) []) .none
  | named (client : Client) (src : String) (format : ImageFormat)
      (here : request.phase = .handling (.detecting client src))
      (decided : detectFormatFromExtension net src = some format) :
      Advanced net locked request (request.goto (.locking client src format) []) .none
  | ambiguous (client : Client) (src : String)
      (here : request.phase = .handling (.detecting client src))
      (undecided : detectFormatFromExtension net src = none) :
      Advanced net locked request (request.goto (.probing client src) [.headSent]) .none
  | busy (client : Client) (src : String) (format : ImageFormat)
      (here : request.phase = .handling (.locking client src format)) (held : locked = true) :
      Advanced net locked request (request.goto (.refused .importInProgress) []) .none
  | locked (client : Client) (src : String) (format : ImageFormat)
      (here : request.phase = .handling (.locking client src format)) (free : locked = false) :
      Advanced net locked request (request.goto (.connecting client src format) [.lockAcquired])
        (.acquired .importGuard)
  | connected (client : Client) (src : String) (format : ImageFormat)
      (here : request.phase = .handling (.connecting client src format)) :
      Advanced net locked request (request.goto (.fetching client src format) [.getSent])
        (.acquired .upstream)
  | failed (reason : String) (here : request.phase = .handling (.failing reason)) :
      Advanced net locked request
        (request.goto
          (.refused (.upstreamFailed ("Failed to fetch upstream image: " ++ reason)))
          [.lockReleased])
        (.released .importGuard)
  | refused (error : ProxyError) (here : request.phase = .handling (.refused error)) :
      Advanced net locked request (request.respond (.error error)) .none
  | released (resource : Resource) (left : List Resource)
      (suffix : resource :: left <:+ releaseOrder)
      (here : request.phase = .dropping ⟨resource :: left, suffix⟩) :
      Advanced net locked request
        { request with
          phase := .dropping ⟨left, (List.suffix_cons resource left).trans suffix⟩
          events := request.events ++ releaseEvents resource }
        (.released resource)

theorem advanced {net : Reqwest} {locked : Bool} {request next : Request decoder} {effect : Effect}
    (step : request.advance net locked = some (next, effect)) :
    Advanced net locked request next effect := by
  unfold advance at step
  split at step
  · rename_i here
    cases step
    exact .entered here
  · rename_i frame here
    cases frame with
    | received params =>
        simp only [advanceFrame] at step
        split at step
        · rename_i absent
          cases step
          exact .missing params here absent
        · rename_i src given
          split at step
          · rename_i scheme
            cases step
            exact .accepted params src here given scheme
          · rename_i scheme
            cases step
            exact .rejected params src here given (eq_false_of_ne_true scheme)
    | detecting client src =>
        simp only [advanceFrame] at step
        split at step
        · rename_i format decided
          cases step
          exact .named client src format here decided
        · rename_i undecided
          cases step
          exact .ambiguous client src here undecided
    | locking client src format =>
        simp only [advanceFrame] at step
        split at step
        · rename_i held
          cases step
          exact .busy client src format here held
        · rename_i free
          cases step
          exact .locked client src format here (eq_false_of_ne_true free)
    | connecting client src format =>
        cases step
        exact .connected client src format here
    | failing reason =>
        cases step
        exact .failed reason here
    | refused error =>
        cases step
        exact .refused error here
    | probing | fetching => cases step
  · cases step
  · cases step
  · rename_i resource left suffix here
    cases step
    exact .released resource left suffix here

/-- Every step that a request takes from outside. -/
inductive Received (request : Request decoder) : Input -> Request decoder -> Effect -> Prop
  | unprobed (client : Client) (src reason : String)
      (here : request.phase = .handling (.probing client src)) :
      Received request (.headAnswered (.error reason))
        (request.goto (.refused (.probeFailed ("HEAD request failed: " ++ reason))) []) .none
  | probed (client : Client) (src : String) (response : HeadResponse)
      (here : request.phase = .handling (.probing client src)) :
      Received request (.headAnswered (.ok response))
        (request.goto (.locking client src (formatOfHead response)) []) .none
  | unreachable (client : Client) (src : String) (format : ImageFormat) (reason : String)
      (here : request.phase = .handling (.fetching client src format)) :
      Received request (.getAnswered (.error reason))
        (request.goto (.failing "Failed to connect to upstream") []) (.released .upstream)
  | turnedAway (client : Client) (src : String) (format : ImageFormat) (response : GetResponse)
      (here : request.phase = .handling (.fetching client src format))
      (status : response.status.isError = true) :
      Received request (.getAnswered (.ok response))
        (request.goto (.failing "Upstream returned non-2xx status") []) (.released .upstream)
  | streaming (client : Client) (src : String) (format : ImageFormat) (response : GetResponse)
      (here : request.phase = .handling (.fetching client src format))
      (status : response.status.isError = false) :
      Received request (.getAnswered (.ok response))
        (request.respond
          (.ok (Response.image (GuardedStream.new format response.body ⟨⟩ src)))) .none
  | polledText (room : Nat) (error : ProxyError)
      (here : request.phase = .responded (.error error)) :
      Received request (.pollBody room) request .none
  | polled (room : Nat) (response : Response decoder)
      (here : request.phase = .responded (.ok response)) :
      Received request (.pollBody room)
        { request with
          phase := .responded (.ok { response with body := (response.body.pollNext room).2 }) }
        (if response.body.inner.isSome && (response.body.pollNext room).2.inner.isNone then
          .released .upstream else .none)
  | dropped (loose : droppable request.phase = true) :
      Received request .drop
        { request with phase := .dropping ⟨request.held, request.phase.held_suffix⟩ } .none

theorem received {request next : Request decoder} {input : Input} {effect : Effect}
    (step : request.input input = some (next, effect)) : Received request input next effect := by
  cases input with
  | headAnswered result =>
      simp only [Request.input, headAnswered] at step
      split at step
      · rename_i client src here
        cases result with
        | error reason =>
            cases step
            exact .unprobed client src reason here
        | ok response =>
            cases step
            exact .probed client src response here
      · cases step
  | getAnswered result =>
      simp only [Request.input, getAnswered] at step
      split at step
      · rename_i client src format here
        cases result with
        | error reason =>
            cases step
            exact .unreachable client src format reason here
        | ok response =>
            simp only [GetResponse.errorForStatus] at step
            cases status : response.status.isError with
            | true =>
                simp only [status, if_true] at step
                cases step
                exact .turnedAway client src format response here status
            | false =>
                simp only [status, Bool.false_eq_true, if_false] at step
                cases step
                exact .streaming client src format response here status
      · cases step
  | pollBody room =>
      simp only [Request.input, pollBody] at step
      split at step
      · rename_i error here
        cases step
        exact .polledText room error here
      · rename_i response here
        cases step
        exact .polled room response here
      · cases step
  | drop =>
      simp only [Request.input, drop] at step
      split at step
      · rename_i loose
        cases step
        exact .dropped loose
      · cases step

/-- Resources are a stack: an effect pushes or pops one of them. -/
def Stacked (before after : List Resource) : Effect -> Prop
  | .none => after = before
  | .acquired resource => after = resource :: before
  | .released resource => before = resource :: after

theorem held_goto (request : Request decoder) (frame : Frame) (events : List Event) :
    (request.goto frame events).held = frame.owned.dropOrder ++ [.activeRequest] :=
  frame.held_eq

theorem owned_start (route : Route) : (start route).owned.dropOrder = [] := by
  cases route <;> rfl

theorem Advanced.stacked {net : Reqwest} {locked : Bool} {request next : Request decoder}
    {effect : Effect} (advanced : Advanced net locked request next effect) :
    Stacked request.held next.held effect := by
  cases advanced with
  | entered here =>
      change _ = _ :: _
      rw [held_goto, owned_start, held, here]
      rfl
  | missing _ here | accepted _ _ here | rejected _ _ here | named _ _ _ here
  | ambiguous _ _ here | busy _ _ _ here | locked _ _ _ here | connected _ _ _ here
  | failed _ here | refused _ here | released _ _ _ here =>
      rw [held, here]
      rfl

/-- A pipeline that has ended stays ended. -/
theorem inner_pollNext_of_none {stream : GuardedStream decoder} (ended : stream.inner = none)
    (room : Nat) : (stream.pollNext room).2.inner = none := by
  rw [GuardedStream.pollNext, ended]
  rfl

theorem Received.stacked {request next : Request decoder} {input : Input} {effect : Effect}
    (received : Received request input next effect) :
    Stacked request.held next.held effect := by
  cases received with
  | unprobed _ _ _ here | probed _ _ _ here | unreachable _ _ _ _ here
  | turnedAway _ _ _ _ here | streaming _ _ _ _ here =>
      rw [held, here]
      rfl
  | polledText room error here => rfl
  | polled room response here =>
      have after : forall body : GuardedStream decoder,
          held { request with phase := .responded (.ok { response with body := body }) } =
            if body.inner.isSome then releaseOrder else [.importGuard, .activeRequest] :=
        fun body => Phase.held_ok { response with body := body }
      rw [after, held, here, Phase.held_ok]
      cases before : response.body.inner with
      | none => simp [Stacked, inner_pollNext_of_none before]
      | some state =>
          cases (response.body.pollNext room).2.inner <;>
            simp [Stacked, releaseOrder]
  | dropped loose => rfl

/-- What a step does to the resources of a request. -/
theorem Moves.stacked {net : Reqwest} {locked : Bool} {request next : Request decoder}
    {effect : Effect} (moves : Moves net locked request next effect) :
    Stacked request.held next.held effect := by
  cases moves with
  | advanced step => exact (Request.advanced step).stacked
  | received input step => exact (Request.received step).stacked

/-- Nothing from outside makes a request acquire the import lock. -/
theorem Received.not_acquired {request next : Request decoder} {input : Input}
    (received : Received request input next (.acquired .importGuard)) : False := by
  generalize acquired : Effect.acquired .importGuard = effect at received
  cases received with
  | polled room response here =>
      split at acquired <;> cases acquired
  | _ => cases acquired

/-- The import lock is acquired only when it is free. -/
theorem Moves.free {net : Reqwest} {locked : Bool} {request next : Request decoder}
    (moves : Moves net locked request next (.acquired .importGuard)) : locked = false := by
  cases moves with
  | received input step => exact (Request.received step).not_acquired.elim
  | advanced step =>
      cases Request.advanced step with
      | locked client src format here free => exact free

end Request

end Service
end XoaProxy
