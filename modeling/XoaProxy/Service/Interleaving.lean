import XoaProxy.Service.Outcomes
import XoaProxy.Service.Proxy

namespace XoaProxy
namespace Service

open Streaming

/-!
# Interleaved requests answer as the handler does

`handleImageXva` is the source of the handler in one piece, and a request of
the proxy goes through it step by step while other requests move.  The
invariant `Faithful` connects the two: where a request stands is where a run of
the handler alone has come to, for some answers of the upstream and for the
lock as it was found.

It carries the results about single runs over to every interleaving.  An
answered request has the result and the events of such a run, and a response
that is being written is the stream of the run after some polls.
-/

variable {decoder : GzipDecoder}

/-- An upstream with the same address parser and other answers. -/
def Reqwest.answering (net : Reqwest) (head : Client -> String -> Except String HeadResponse)
    (get : Client -> String -> Except String GetResponse) : Reqwest where
  parse := net.parse
  head := head
  get := get

section Answering

variable (net : Reqwest) (head : Client -> String -> Except String HeadResponse)
  (get : Client -> String -> Except String GetResponse)

@[simp] theorem detectFormatFromExtension_answering (src : String) :
    detectFormatFromExtension (net.answering head get) src = detectFormatFromExtension net src :=
  rfl

@[simp] theorem probeEvents_answering (src : String) :
    probeEvents (net.answering head get) src = probeEvents net src :=
  rfl

@[simp] theorem answering_head : (net.answering head get).head = head := rfl

@[simp] theorem answering_get : (net.answering head get).get = get := rfl

end Answering

/-- A run of the route's handler alone has this result and these events, for
some answers of the upstream and some state of the lock. -/
def Ran (decoder : GzipDecoder) (net : Reqwest)
    (result : Except ProxyError (Response decoder)) (events : List Event) : Route -> Prop
  | .image params => Exists fun head => Exists fun get => Exists fun lock => Exists fun after =>
      runHandler decoder (net.answering head get) params lock = (result, ⟨after, events⟩)
  | .fallback path =>
      result = .error (.notFound ("Unknown path '" ++ path ++ "'. Expected /image.xva")) ∧
        events = []

/-- The handler of the route has accepted this source. -/
structure Accepted (route : Route) (client : Client) (src : String) : Prop where
  accepted : schemeAccepted src = true
  image : Exists fun params =>
    route = .image params ∧ params.src = some src ∧ client = selectClient params.verifySsl

/-- The format is decided, by the extension or by some answer to the HEAD. -/
def Decides (net : Reqwest) (client : Client) (src : String) (format : ImageFormat) : Prop :=
  Exists fun head => forall get,
    decideFormat (net.answering head get) client src = .ok format

theorem decides_of_extension {net : Reqwest} {src : String} {format : ImageFormat}
    (decided : detectFormatFromExtension net src = some format) (client : Client) :
    Decides net client src format := by
  refine ⟨net.head, ?_⟩
  intro get
  simp only [decideFormat, detectFormatFromExtension_answering, decided]

theorem decides_of_head {net : Reqwest} {src : String}
    (ambiguous : detectFormatFromExtension net src = none) (client : Client)
    (response : HeadResponse) : Decides net client src (formatOfHead response) := by
  refine ⟨fun _ _ => .ok response, ?_⟩
  intro get
  simp only [decideFormat, detectFormatFromExtension_answering, ambiguous, answering_head]

section Ran

variable {net : Reqwest} {route : Route} {client : Client} {src : String}

theorem ran_unprobed (decoder : GzipDecoder) (accepted : Accepted route client src)
    (ambiguous : detectFormatFromExtension net src = none) (reason : String) :
    Ran decoder net (.error (.probeFailed ("HEAD request failed: " ++ reason))) [.headSent]
      route := by
  rcases accepted with ⟨accepted, params, rfl, given, rfl⟩
  refine ⟨fun _ _ => .error reason, net.get, false, false, ?_⟩
  rw [runHandler_accepted decoder _ params false given accepted]
  simp only [decideFormat, probeEvents, detectFormatFromExtension_answering, ambiguous,
    answering_head, Option.isSome_none, Bool.false_eq_true, if_false]

theorem ran_locked (decoder : GzipDecoder) (accepted : Accepted route client src)
    {format : ImageFormat} (decides : Decides net client src format) :
    Ran decoder net (.error .importInProgress) (probeEvents net src) route := by
  rcases accepted with ⟨accepted, params, rfl, given, rfl⟩
  rcases decides with ⟨head, decided⟩
  refine ⟨head, net.get, true, true, ?_⟩
  rw [runHandler_accepted decoder _ params true given accepted]
  simp only [decided net.get, if_true, probeEvents_answering]

/-- Behind the lock, a failing answer to the GET request ends the run. -/
theorem ran_failed (decoder : GzipDecoder) (accepted : Accepted route client src)
    {format : ImageFormat} (decides : Decides net client src format)
    (get : Client -> String -> Except String GetResponse) {reason : String}
    (failed : forall head, fetchImage (net.answering head get) client src = .error reason) :
    Ran decoder net (.error (.upstreamFailed ("Failed to fetch upstream image: " ++ reason)))
      (probeEvents net src ++ [.lockAcquired, .getSent, .lockReleased]) route := by
  rcases accepted with ⟨accepted, params, rfl, given, rfl⟩
  rcases decides with ⟨head, decided⟩
  refine ⟨head, get, false, false, ?_⟩
  rw [runHandler_accepted decoder _ params false given accepted]
  simp only [decided get, failed head, Bool.false_eq_true, if_false, probeEvents_answering]

/-- A GET response that is no error becomes the body of the run's response. -/
theorem ran_streaming (decoder : GzipDecoder) (accepted : Accepted route client src)
    {format : ImageFormat} (decides : Decides net client src format) {response : GetResponse}
    (plain : response.status.isError = false) :
    Ran decoder net (.ok (Response.image (GuardedStream.new format response.body ⟨⟩ src)))
      (probeEvents net src ++ [.lockAcquired, .getSent]) route := by
  rcases accepted with ⟨accepted, params, rfl, given, rfl⟩
  rcases decides with ⟨head, decided⟩
  refine ⟨head, fun _ _ => .ok response, false, true, ?_⟩
  rw [runHandler_accepted decoder _ params false given accepted]
  simp only [decided, fetchImage, answering_get, GetResponse.errorForStatus, plain,
    Bool.false_eq_true, if_false, probeEvents_answering]

end Ran

/-! ## The invariant of a request -/

/-- Where the handler stands is where a run alone has come to. -/
def Frame.Faithful (decoder : GzipDecoder) (net : Reqwest) (route : Route)
    (events : List Event) : Frame -> Prop
  | .received params => route = .image params ∧ events = []
  | .detecting client src => Accepted route client src ∧ events = []
  | .probing client src => Accepted route client src ∧
      detectFormatFromExtension net src = none ∧ events = [.headSent]
  | .locking client src format => Accepted route client src ∧
      Decides net client src format ∧ events = probeEvents net src
  | .connecting client src format => Accepted route client src ∧
      Decides net client src format ∧ events = probeEvents net src ++ [.lockAcquired]
  | .fetching client src format => Accepted route client src ∧
      Decides net client src format ∧ events = probeEvents net src ++ [.lockAcquired, .getSent]
  | .failing reason =>
      Ran decoder net (.error (.upstreamFailed ("Failed to fetch upstream image: " ++ reason)))
        (events ++ [.lockReleased]) route
  | .refused error => Ran decoder net (.error error) events route

/-- A result whose body has been polled. -/
def polledResult (rooms : List Nat) :
    Except ProxyError (Response decoder) -> Except ProxyError (Response decoder)
  | .error error => .error error
  | .ok response => .ok { response with body := (response.body.polls rooms).2 }

/-- Where a request stands, and what it was answered. -/
def Request.Faithful (net : Reqwest) (request : Request decoder) : Prop :=
  match request.phase with
  | .arrived => request.events = [] ∧ request.answer = none
  | .handling frame =>
      frame.Faithful decoder net request.route request.events ∧ request.answer = none
  | .responded result => Exists fun first => Exists fun rooms =>
      Ran decoder net first request.events request.route ∧
        request.answer = some (Request.statusOrError first) ∧ result = polledResult rooms first
  | .dropping teardown => forall answer, request.answer = some answer ->
      Exists fun first => Exists fun events =>
        Ran decoder net first events request.route ∧ answer = Request.statusOrError first ∧
          (request.events = events ∨
            (request.events = events ++ [.lockReleased] ∧ .importGuard ∉ teardown.left))

theorem polledResult_concat (rooms : List Nat) (room : Nat) (first : Response decoder) :
    polledResult (rooms ++ [room]) (.ok first) =
      .ok { first with body := ((first.body.polls rooms).2.pollNext room).2 } := by
  rw [polledResult, GuardedStream.polls_concat]

namespace Request

variable {net : Reqwest} {locked : Bool} {request next : Request decoder} {frame : Frame}
  {effect : Effect}

theorem faithful_goto (unanswered : request.answer = none) {events : List Event}
    (faithful : frame.Faithful decoder net request.route (request.events ++ events)) :
    (request.goto frame events).Faithful net :=
  ⟨faithful, unanswered⟩

theorem faithful_respond {result : Except ProxyError (Response decoder)}
    (ran : Ran decoder net result request.events request.route) :
    (request.respond result).Faithful net := by
  refine ⟨result, [], ran, rfl, ?_⟩
  cases result <;> rfl

/-- The next step of the handler is the next step of the run. -/
theorem faithful_advance (faithful : request.Faithful net)
    (step : request.advance net locked = some (next, effect)) : next.Faithful net := by
  unfold Faithful at faithful
  cases advanced step with
  | entered here =>
      rw [here] at faithful
      rcases faithful with ⟨silent, unanswered⟩
      apply faithful_goto unanswered
      rw [silent]
      cases request.route with
      | image params => exact ⟨rfl, rfl⟩
      | fallback path => exact ⟨rfl, rfl⟩
  | missing params here absent =>
      rw [here] at faithful
      rcases faithful with ⟨⟨image, silent⟩, unanswered⟩
      apply faithful_goto unanswered
      rw [image, silent]
      exact ⟨net.head, net.get, false, false, runHandler_missing decoder _ params false absent⟩
  | accepted params src here given scheme =>
      rw [here] at faithful
      rcases faithful with ⟨⟨image, silent⟩, unanswered⟩
      apply faithful_goto unanswered
      rw [silent]
      exact ⟨⟨scheme, params, image, given, rfl⟩, rfl⟩
  | rejected params src here given scheme =>
      rw [here] at faithful
      rcases faithful with ⟨⟨image, silent⟩, unanswered⟩
      apply faithful_goto unanswered
      rw [image, silent]
      exact ⟨net.head, net.get, false, false,
        runHandler_badScheme decoder _ params false given scheme⟩
  | named client src format here decided =>
      rw [here] at faithful
      rcases faithful with ⟨⟨accepted, silent⟩, unanswered⟩
      apply faithful_goto unanswered
      refine ⟨accepted, decides_of_extension decided client, ?_⟩
      simp only [silent, probeEvents, decided, Option.isSome_some, if_true, List.append_nil]
  | ambiguous client src here undecided =>
      rw [here] at faithful
      rcases faithful with ⟨⟨accepted, silent⟩, unanswered⟩
      apply faithful_goto unanswered
      rw [silent]
      exact ⟨accepted, undecided, rfl⟩
  | busy client src format here held =>
      rw [here] at faithful
      rcases faithful with ⟨⟨accepted, decides, same⟩, unanswered⟩
      apply faithful_goto unanswered
      rw [same, List.append_nil]
      exact ran_locked decoder accepted decides
  | locked client src format here free =>
      rw [here] at faithful
      rcases faithful with ⟨⟨accepted, decides, same⟩, unanswered⟩
      apply faithful_goto unanswered
      rw [same]
      exact ⟨accepted, decides, rfl⟩
  | connected client src format here =>
      rw [here] at faithful
      rcases faithful with ⟨⟨accepted, decides, same⟩, unanswered⟩
      apply faithful_goto unanswered
      rw [same, List.append_assoc]
      exact ⟨accepted, decides, rfl⟩
  | failed reason here =>
      rw [here] at faithful
      exact faithful_goto faithful.2 faithful.1
  | refused error here =>
      rw [here] at faithful
      exact faithful_respond faithful.1
  | released resource left suffix here =>
      rw [here] at faithful
      intro answer answered
      rcases faithful answer answered with ⟨first, events, ran, same, recorded⟩
      refine ⟨first, events, ran, same, ?_⟩
      have distinct : (resource :: left).Nodup := suffix.sublist.nodup releaseOrder_nodup
      rcases recorded with recorded | ⟨recorded, gone⟩
      · rw [recorded]
        cases resource with
        | importGuard => exact Or.inr ⟨rfl, (List.nodup_cons.mp distinct).1⟩
        | upstream | activeRequest => exact Or.inl (List.append_nil _)
      · rw [recorded]
        have later : .importGuard ∉ left := fun listed => gone (List.mem_cons_of_mem _ listed)
        cases resource with
        | importGuard => exact absurd List.mem_cons_self gone
        | upstream | activeRequest => exact Or.inr ⟨List.append_nil _, later⟩

/-- An answer of the upstream, a poll or a drop goes on in the same run. -/
theorem faithful_input {input : Input} (faithful : request.Faithful net)
    (step : request.input input = some (next, effect)) : next.Faithful net := by
  unfold Faithful at faithful
  have joined : forall src, request.events = probeEvents net src ++ [.lockAcquired, .getSent] ->
      (request.events ++ []) ++ [Event.lockReleased] =
        probeEvents net src ++ [.lockAcquired, .getSent, .lockReleased] := by
    intro src same
    rw [same, List.append_nil, List.append_assoc]
    rfl
  cases received step with
  | unprobed client src reason here =>
      rw [here] at faithful
      rcases faithful with ⟨⟨accepted, ambiguous, same⟩, unanswered⟩
      apply faithful_goto unanswered
      rw [same]
      exact ran_unprobed decoder accepted ambiguous reason
  | probed client src response here =>
      rw [here] at faithful
      rcases faithful with ⟨⟨accepted, ambiguous, same⟩, unanswered⟩
      apply faithful_goto unanswered
      refine ⟨accepted, decides_of_head ambiguous client response, ?_⟩
      simp only [same, probeEvents, ambiguous, Option.isSome_none, Bool.false_eq_true, if_false,
        List.append_nil]
  | unreachable client src format reason here =>
      rw [here] at faithful
      rcases faithful with ⟨⟨accepted, decides, same⟩, unanswered⟩
      apply faithful_goto unanswered
      change Ran decoder net _ _ _
      rw [joined src same]
      apply ran_failed decoder accepted decides fun _ _ => .error reason
      intro head
      rfl
  | turnedAway client src format response here status =>
      rw [here] at faithful
      rcases faithful with ⟨⟨accepted, decides, same⟩, unanswered⟩
      apply faithful_goto unanswered
      change Ran decoder net _ _ _
      rw [joined src same]
      apply ran_failed decoder accepted decides fun _ _ => .ok response
      intro head
      simp only [fetchImage, answering_get, GetResponse.errorForStatus, status, if_true]
  | streaming client src format response here status =>
      rw [here] at faithful
      rcases faithful with ⟨⟨accepted, decides, same⟩, unanswered⟩
      apply faithful_respond
      rw [same]
      exact ran_streaming decoder accepted decides status
  | polledText room error here => exact faithful
  | polled room response here =>
      rw [here] at faithful
      rcases faithful with ⟨first, rooms, ran, answered, polled⟩
      refine ⟨first, rooms ++ [room], ran, answered, ?_⟩
      cases first with
      | error error => cases polled
      | ok first =>
          cases polled
          exact (polledResult_concat rooms room first).symm
  | dropped loose =>
      intro answer answered
      change request.answer = some answer at answered
      split at faithful
      · rw [faithful.2] at answered
        cases answered
      · rw [faithful.2] at answered
        cases answered
      · rcases faithful with ⟨first, rooms, ran, known, _⟩
        rw [known] at answered
        exact ⟨first, request.events, ran, (Option.some.inj answered).symm, Or.inl rfl⟩
      · rename_i here
        rw [here] at loose
        cases loose

theorem Faithful.moves (faithful : request.Faithful net)
    (moves : request.Moves net locked next effect) : next.Faithful net := by
  cases moves with
  | advanced step => exact faithful_advance faithful step
  | received input step => exact faithful_input faithful step

end Request

section Reachable

variable {net : Reqwest} {timeout index : Nat} {state : ProxyState decoder}
  {request : Request decoder}

/-- In every reachable state, every request stands where a run of its handler
alone has come to. -/
theorem faithful (reachable : (proxy decoder net timeout).Reachable state)
    (found : state.requests[index]? = some request) : request.Faithful net := by
  refine (proxy decoder net timeout).invariant
    (fun state => forall index request, state.requests[index]? = some request ->
      request.Faithful net) ?_ ?_ reachable index request found
  · intro index request impossible
    cases impossible
  · intro before action after held step index request found
    cases stepped step with
    | polled now => exact held index request found
    | arrived route =>
        rcases List.mem_append.mp (List.mem_of_getElem? found) with old | new
        · rcases List.mem_iff_getElem?.mp old with ⟨earlier, known⟩
          exact held earlier request known
        · rw [List.mem_singleton.mp new]
          exact ⟨rfl, rfl⟩
    | moved mover moving next effect foundMover moves =>
        by_cases same : mover = index
        · subst same
          rw [getElem?_commit_self foundMover] at found
          cases found
          exact (held mover moving foundMover).moves moves
        · rw [getElem?_commit_other same] at found
          exact held index request found

/-- An answered request has the result of a run of the handler alone, and the
events of it up to the release of the lock with the body. -/
theorem answered_as_handler (reachable : (proxy decoder net timeout).Reachable state)
    (found : state.requests[index]? = some request) {answer : Except ProxyError StatusCode}
    (answered : request.answer = some answer) :
    Exists fun first => Exists fun events =>
      Ran decoder net first events request.route ∧ answer = Request.statusOrError first ∧
        (request.events = events ∨ request.events = events ++ [.lockReleased]) := by
  have held := faithful reachable found
  unfold Request.Faithful at held
  split at held
  · rw [held.2] at answered
    cases answered
  · rw [held.2] at answered
    cases answered
  · rcases held with ⟨first, rooms, ran, known, _⟩
    rw [known] at answered
    exact ⟨first, request.events, ran, (Option.some.inj answered).symm, Or.inl rfl⟩
  · rcases held answer answered with ⟨first, events, ran, same, recorded⟩
    exact ⟨first, events, ran, same, recorded.imp_right And.left⟩

/-- A response that is being written is the response of such a run after some
polls of its body. -/
theorem streaming_as_handler (reachable : (proxy decoder net timeout).Reachable state)
    (found : state.requests[index]? = some request) {response : Response decoder}
    (streaming : request.phase = .responded (.ok response)) :
    Exists fun first => Exists fun rooms =>
      Ran decoder net (.ok first) request.events request.route ∧
        response = { first with body := (first.body.polls rooms).2 } := by
  have held := faithful reachable found
  unfold Request.Faithful at held
  rw [streaming] at held
  rcases held with ⟨first, rooms, ran, _, polled⟩
  cases first with
  | error error => cases polled
  | ok first => exact ⟨first, rooms, ran, Except.ok.inj polled⟩

end Reachable

theorem getSent_not_mem_probeEvents (net : Reqwest) (src : String) :
    .getSent ∉ probeEvents net src := by
  unfold probeEvents
  cases (detectFormatFromExtension net src).isSome <;> decide

/-- A run of the import handler ends with one of the documented kinds of
result, and a GET request is only ever sent behind the lock. -/
theorem Ran.image {net : Reqwest} {result : Except ProxyError (Response decoder)}
    {events : List Event} {params : ImageParams}
    (ran : Ran decoder net result events (.image params)) :
    (Exists fun verdict => verdictOf result = some verdict ∧ statusOf result = verdict.status) ∧
      (.getSent ∈ events -> .lockAcquired ∈ events) := by
  rcases ran with ⟨head, get, lock, after, executed⟩
  have probing := getSent_not_mem_probeEvents (net.answering head get)
  cases runShape decoder (net.answering head get) params lock with
  | rejected message verdict unanswered run =>
      cases executed.symm.trans run
      exact ⟨⟨_, rfl, rfl⟩, fun sent => absurd sent List.not_mem_nil⟩
  | unprobed src message given verdict unanswered run =>
      cases executed.symm.trans run
      exact ⟨⟨_, rfl, rfl⟩, fun sent => absurd sent (probing src)⟩
  | locked src given held verdict unanswered run =>
      cases executed.symm.trans run
      exact ⟨⟨_, rfl, rfl⟩, fun sent => absurd sent (probing src)⟩
  | unreachable src message given free verdict unanswered run =>
      cases executed.symm.trans run
      exact ⟨⟨_, rfl, rfl⟩, fun _ => List.mem_append_right _ List.mem_cons_self⟩
  | answered src format response given free decided verdict only run =>
      cases fails : response.status.isError with
      | true =>
          simp only [fails, if_true] at run
          cases executed.symm.trans run
          exact ⟨⟨_, rfl, rfl⟩, fun _ => List.mem_append_right _ List.mem_cons_self⟩
      | false =>
          simp only [fails, Bool.false_eq_true, if_false] at run
          cases executed.symm.trans run
          exact ⟨⟨_, rfl, rfl⟩, fun _ => List.mem_append_right _ List.mem_cons_self⟩

/-- However requests interleave, an answered import request is answered with a
documented kind of result, and has sent a GET only behind the lock. -/
theorem answered_image {net : Reqwest} {timeout index : Nat} {state : ProxyState decoder}
    {request : Request decoder} (reachable : (proxy decoder net timeout).Reachable state)
    (found : state.requests[index]? = some request) {params : ImageParams}
    (image : request.route = .image params) {answer : Except ProxyError StatusCode}
    (answered : request.answer = some answer) :
    (Exists fun result : Except ProxyError (Response decoder) => Exists fun verdict =>
        answer = Request.statusOrError result ∧ verdictOf result = some verdict ∧
          statusOf result = verdict.status) ∧
      (.getSent ∈ request.events -> .lockAcquired ∈ request.events) := by
  rcases answered_as_handler reachable found answered with ⟨first, events, ran, same, recorded⟩
  rw [image] at ran
  rcases ran.image with ⟨⟨verdict, kind, status⟩, locked⟩
  refine ⟨⟨first, verdict, same, kind, status⟩, ?_⟩
  rcases recorded with recorded | recorded
  · rw [recorded]
    exact locked
  · rw [recorded]
    intro sent
    rcases List.mem_append.mp sent with before | released
    · exact List.mem_append_left _ (locked before)
    · cases List.mem_singleton.mp released

end Service
end XoaProxy
