import XoaProxy.Service.Handler

namespace XoaProxy
namespace Service

open Streaming

/-!
# Outcomes of the import handler

The documentation of the handler gives one outcome for every query, state of
the lock and behaviour of the upstream.  `documentedVerdict` states it;
`Documented` adds what it says about the lock.  The two theorems that compare
it with `runHandler` are equivalences: they name the answers of the upstream
for which the program does what is documented.

Both gaps come from a status that nothing looks at.  A GET answered with a
status that is neither a success nor an error is streamed as an image, and a
HEAD answered with an error still decides the format.
-/

inductive Verdict where
  | badRequest
  | probeFailed
  | importInProgress
  | upstreamFailed
  | image
deriving DecidableEq, Repr

def Verdict.status : Verdict -> StatusCode
  | .badRequest => StatusCode.badRequest
  | .probeFailed => StatusCode.badGateway
  | .importInProgress => StatusCode.conflict
  | .upstreamFailed => StatusCode.badGateway
  | .image => StatusCode.ok

variable {decoder : GzipDecoder}

/-- The kind of a result, when it is one that the import handler may return. -/
def verdictOf : Except ProxyError (Response decoder) -> Option Verdict
  | .error (.badRequest _) => some .badRequest
  | .error (.notFound _) => none
  | .error .importInProgress => some .importInProgress
  | .error (.upstreamFailed _) => some .upstreamFailed
  | .error (.probeFailed _) => some .probeFailed
  | .ok _ => some .image

/-- The status line that a result is sent with. -/
def statusOf : Except ProxyError (Response decoder) -> StatusCode
  | .error error => error.intoResponse.1
  | .ok response => response.status

/-- The path extension is ambiguous and the HEAD request is not completed. -/
def probeFails (net : Reqwest) (client : Client) (src : String) : Bool :=
  match detectFormatFromExtension net src, net.head client src with
  | none, .error _ => true
  | _, _ => false

/-- The outcome documented for the handler. -/
def documentedVerdict (net : Reqwest) (params : ImageParams) (lock : Bool) : Verdict :=
  match params.src with
  | none => .badRequest
  | some src =>
      if !schemeAccepted src then .badRequest
      else if probeFails net (selectClient params.verifySsl) src then .probeFailed
      else if lock then .importInProgress
      else
        match net.get (selectClient params.verifySsl) src with
        | .error _ => .upstreamFailed
        | .ok response => if response.status.isSuccess then .image else .upstreamFailed

/-- The run of a handler is the documented one: its kind, its status, and what
it leaves of the lock.  A request that is refused holds no guard and leaves the
lock as it found it; a successful one holds the guard in its body. -/
structure Documented (decoder : GzipDecoder) (net : Reqwest) (params : ImageParams)
    (lock : Bool) : Prop where
  verdict : verdictOf (runHandler decoder net params lock).1 =
    some (documentedVerdict net params lock)
  status : statusOf (runHandler decoder net params lock).1 =
    (documentedVerdict net params lock).status
  refused : forall error, (runHandler decoder net params lock).1 = .error error ->
    (runHandler decoder net params lock).2.importLock = lock ∧
      (runHandler decoder net params lock).2.events.count .lockAcquired =
        (runHandler decoder net params lock).2.events.count .lockReleased
  streaming : forall response, (runHandler decoder net params lock).1 = .ok response ->
    lock = false ∧ (runHandler decoder net params lock).2.importLock = true ∧
      (runHandler decoder net params lock).2.events.count .lockAcquired =
        (runHandler decoder net params lock).2.events.count .lockReleased + 1

/-- The GET request is reached and answered with this response. -/
def GetAnswered (net : Reqwest) (params : ImageParams) (lock : Bool)
    (response : GetResponse) : Prop :=
  Exists fun src => params.src = some src ∧ schemeAccepted src = true ∧
    probeFails net (selectClient params.verifySsl) src = false ∧ lock = false ∧
      net.get (selectClient params.verifySsl) src = .ok response

/-- An answer to the GET request, if there is one, has a status that is a
success, a client error or a server error. -/
def GetStatusSettled (net : Reqwest) (params : ImageParams) (lock : Bool) : Prop :=
  forall response, GetAnswered net params lock response ->
    response.status.isSuccess = true ∨ response.status.isError = true

theorem probeEvents_count (net : Reqwest) (src : String) :
    (probeEvents net src).count .lockAcquired = 0 ∧
      (probeEvents net src).count .lockReleased = 0 := by
  unfold probeEvents
  cases (detectFormatFromExtension net src).isSome <;> decide

/-- The format is decided unless the probe fails, and then for that reason. -/
theorem decideFormat_cases (net : Reqwest) (client : Client) (src : String) :
    (probeFails net client src = true ∧
      Exists fun message => decideFormat net client src = .error (.probeFailed message)) ∨
    (probeFails net client src = false ∧
      Exists fun format => decideFormat net client src = .ok format) := by
  unfold probeFails decideFormat
  cases detectFormatFromExtension net src with
  | some format => exact Or.inr ⟨rfl, format, rfl⟩
  | none =>
      cases net.head client src with
      | error reason => exact Or.inl ⟨rfl, _, rfl⟩
      | ok response => exact Or.inr ⟨rfl, _, rfl⟩

theorem runHandler_missing (decoder : GzipDecoder) (net : Reqwest) (params : ImageParams)
    (lock : Bool) (given : params.src = none) :
    runHandler decoder net params lock = (.error missingSrc, ⟨lock, []⟩) := by
  rw [runHandler, handleImageXva, given]
  rfl

theorem runHandler_badScheme (decoder : GzipDecoder) (net : Reqwest)
    (params : ImageParams) (lock : Bool) {src : String} (given : params.src = some src)
    (rejected : schemeAccepted src = false) :
    runHandler decoder net params lock = (.error (badScheme src), ⟨lock, []⟩) := by
  rw [runHandler, handleImageXva]
  simp only [given, rejected, Bool.false_eq_true, if_false]
  rfl

/-- Every way a run can end.  The events list what the request itself did. -/
inductive RunShape (decoder : GzipDecoder) (net : Reqwest) (params : ImageParams)
    (lock : Bool) : Prop
  | rejected (message : String)
      (verdict : documentedVerdict net params lock = .badRequest)
      (unanswered : forall response, ¬ GetAnswered net params lock response)
      (run : runHandler decoder net params lock = (.error (.badRequest message), ⟨lock, []⟩))
  | unprobed (src message : String) (given : params.src = some src)
      (verdict : documentedVerdict net params lock = .probeFailed)
      (unanswered : forall response, ¬ GetAnswered net params lock response)
      (run : runHandler decoder net params lock =
        (.error (.probeFailed message), ⟨lock, probeEvents net src⟩))
  | locked (src : String) (given : params.src = some src) (held : lock = true)
      (verdict : documentedVerdict net params lock = .importInProgress)
      (unanswered : forall response, ¬ GetAnswered net params lock response)
      (run : runHandler decoder net params lock =
        (.error .importInProgress, ⟨lock, probeEvents net src⟩))
  | unreachable (src message : String) (given : params.src = some src) (free : lock = false)
      (verdict : documentedVerdict net params lock = .upstreamFailed)
      (unanswered : forall response, ¬ GetAnswered net params lock response)
      (run : runHandler decoder net params lock = (.error (.upstreamFailed message),
        ⟨false, probeEvents net src ++ [.lockAcquired, .getSent, .lockReleased]⟩))
  | answered (src : String) (format : ImageFormat) (response : GetResponse)
      (given : params.src = some src) (free : lock = false)
      (decided : decideFormat net (selectClient params.verifySsl) src = .ok format)
      (verdict : documentedVerdict net params lock =
        if response.status.isSuccess then .image else .upstreamFailed)
      (only : forall other, GetAnswered net params lock other ↔ other = response)
      (run : runHandler decoder net params lock =
        if response.status.isError then
          (.error (.upstreamFailed
              "Failed to fetch upstream image: Upstream returned non-2xx status"),
            ⟨false, probeEvents net src ++ [.lockAcquired, .getSent, .lockReleased]⟩)
        else
          (.ok (Response.image (GuardedStream.new format response.body ⟨⟩ src)),
            ⟨true, probeEvents net src ++ [.lockAcquired, .getSent]⟩))

theorem runShape (decoder : GzipDecoder) (net : Reqwest) (params : ImageParams)
    (lock : Bool) : RunShape decoder net params lock := by
  cases given : params.src with
  | none =>
      refine .rejected _ ?_ ?_ (runHandler_missing decoder net params lock given)
      · simp only [documentedVerdict, given]
      · rintro response ⟨src, found, _⟩
        rw [given] at found
        cases found
  | some src =>
      have same : forall {other : String}, params.src = some other -> other = src := by
        intro other found
        exact Option.some.inj (found.symm.trans given)
      cases accepted : schemeAccepted src with
      | false =>
          refine .rejected _ ?_ ?_ (runHandler_badScheme decoder net params lock given accepted)
          · simp only [documentedVerdict, given, accepted, Bool.not_false, if_true]
          · rintro response ⟨other, found, admitted, _⟩
            rw [same found, accepted] at admitted
            cases admitted
      | true =>
          have run := runHandler_accepted decoder net params lock given accepted
          have verdict : documentedVerdict net params lock =
              if probeFails net (selectClient params.verifySsl) src then .probeFailed
              else if lock then .importInProgress
              else
                match net.get (selectClient params.verifySsl) src with
                | .error _ => .upstreamFailed
                | .ok response =>
                    if response.status.isSuccess then .image else .upstreamFailed := by
            simp only [documentedVerdict, given, accepted, Bool.not_true, Bool.false_eq_true,
              if_false]
          rcases decideFormat_cases net (selectClient params.verifySsl) src with
            ⟨fails, message, decided⟩ | ⟨succeeds, format, decided⟩
          · simp only [decided, fails, if_true] at run verdict
            refine .unprobed src message given verdict ?_ run
            rintro response ⟨other, found, _, probed, _⟩
            rw [same found, fails] at probed
            cases probed
          · simp only [decided, succeeds, Bool.false_eq_true, if_false] at run verdict
            cases lock with
            | true =>
                refine .locked src given rfl verdict ?_ run
                rintro response ⟨_, _, _, _, free, _⟩
                cases free
            | false =>
                simp only [Bool.false_eq_true, if_false] at run verdict
                cases answer : net.get (selectClient params.verifySsl) src with
                | error reason =>
                    simp only [fetchImage, answer] at run verdict
                    refine .unreachable src _ given rfl verdict ?_ run
                    rintro response ⟨other, found, _, _, _, got⟩
                    rw [same found, answer] at got
                    cases got
                | ok response =>
                    simp only [fetchImage, answer, GetResponse.errorForStatus] at run verdict
                    refine .answered src format response given rfl decided verdict ?_ ?_
                    · intro other
                      constructor
                      · rintro ⟨found, origin, _, _, _, got⟩
                        rw [same origin, answer] at got
                        exact (Except.ok.inj got).symm
                      · rintro rfl
                        exact ⟨src, given, accepted, succeeds, rfl, answer⟩
                    · rw [run]
                      cases response.status.isError <;> rfl

/-! ## Exactly when the documented outcome is met -/

/-- The kind of a result fixes its status. -/
theorem statusOf_eq_of_verdictOf {result : Except ProxyError (Response decoder)}
    {verdict : Verdict} (kind : verdictOf result = some verdict)
    (plain : forall response, result = .ok response -> response.status = StatusCode.ok) :
    statusOf result = verdict.status := by
  cases result with
  | ok response =>
      cases kind
      exact plain response rfl
  | error error => cases error <;> cases kind <;> rfl

theorem Documented.of_error {net : Reqwest} {params : ImageParams} {lock : Bool}
    {error : ProxyError} {events : List Event}
    (run : runHandler decoder net params lock = (.error error, ⟨lock, events⟩))
    (kind : verdictOf (.error error : Except ProxyError (Response decoder)) =
      some (documentedVerdict net params lock))
    (released : events.count .lockAcquired = events.count .lockReleased) :
    Documented decoder net params lock where
  verdict := by rw [run]; exact kind
  status := by
    rw [run]
    exact statusOf_eq_of_verdictOf kind fun _ impossible => by cases impossible
  refused := by
    intro found _
    rw [run]
    exact ⟨rfl, released⟩
  streaming := by
    intro response impossible
    rw [run] at impossible
    cases impossible

theorem count_released (net : Reqwest) (src : String) :
    let events := probeEvents net src ++ [Event.lockAcquired, .getSent, .lockReleased]
    events.count .lockAcquired = events.count .lockReleased := by
  simp only [List.count_append, (probeEvents_count net src).1, (probeEvents_count net src).2]
  decide

theorem Documented.of_ok {net : Reqwest} {params : ImageParams} {stream : GuardedStream decoder}
    {src : String}
    (run : runHandler decoder net params false =
      (.ok (Response.image stream), ⟨true, probeEvents net src ++ [.lockAcquired, .getSent]⟩))
    (kind : documentedVerdict net params false = .image) :
    Documented decoder net params false where
  verdict := by rw [run, kind]; rfl
  status := by rw [run, kind]; rfl
  refused := by
    intro error impossible
    rw [run] at impossible
    cases impossible
  streaming := by
    intro response _
    rw [run]
    refine ⟨rfl, rfl, ?_⟩
    simp only [List.count_append, (probeEvents_count net src).1, (probeEvents_count net src).2]
    decide

/-- The handler does what is documented exactly when no GET answer has a
status between success and error, whatever the query, the lock and the
upstream are otherwise. -/
theorem documented_iff_getStatusSettled (decoder : GzipDecoder) (net : Reqwest)
    (params : ImageParams) (lock : Bool) :
    Documented decoder net params lock ↔ GetStatusSettled net params lock := by
  cases runShape decoder net params lock with
  | rejected message verdict unanswered run =>
      refine ⟨fun _ response answered => absurd answered (unanswered response), fun _ => ?_⟩
      exact Documented.of_error run (verdict ▸ rfl) rfl
  | unprobed src message given verdict unanswered run =>
      refine ⟨fun _ response answered => absurd answered (unanswered response), fun _ => ?_⟩
      apply Documented.of_error run (verdict ▸ rfl)
      exact (probeEvents_count net src).1.trans (probeEvents_count net src).2.symm
  | locked src given held verdict unanswered run =>
      refine ⟨fun _ response answered => absurd answered (unanswered response), fun _ => ?_⟩
      apply Documented.of_error run (verdict ▸ rfl)
      exact (probeEvents_count net src).1.trans (probeEvents_count net src).2.symm
  | unreachable src message given free verdict unanswered run =>
      refine ⟨fun _ response answered => absurd answered (unanswered response), fun _ => ?_⟩
      subst free
      exact Documented.of_error run (verdict ▸ rfl) (count_released net src)
  | answered src format response given free decided verdict only run =>
      subst free
      constructor
      · intro documented other answered
        cases (only other).mp answered
        have kind := documented.verdict
        rw [run, verdict] at kind
        cases fails : response.status.isError with
        | true => exact Or.inr rfl
        | false =>
            left
            cases success : response.status.isSuccess with
            | true => rfl
            | false => simp [fails, success, verdictOf] at kind
      · intro settled
        cases fails : response.status.isError with
        | true =>
            have failure : response.status.isSuccess = false := by
              cases success : response.status.isSuccess with
              | false => rfl
              | true =>
                  rw [StatusCode.not_isError_of_isSuccess success] at fails
                  cases fails
            simp only [fails, if_true] at run
            simp only [failure, Bool.false_eq_true, if_false] at verdict
            exact Documented.of_error run (verdict ▸ rfl) (count_released net src)
        | false =>
            rcases settled response ((only response).mpr rfl) with success | impossible
            · simp only [fails, Bool.false_eq_true, if_false] at run
              simp only [success, if_true] at verdict
              exact Documented.of_ok run verdict
            · rw [fails] at impossible
              cases impossible

def notModified : StatusCode := ⟨304, by decide, by decide⟩

/-- A GET answered with 304 becomes a 200 response whose image is its body. -/
theorem notModified_streamed :
    let net := constantUpstream "/vm.xva".toList (by decide) (.error "no HEAD is sent")
      (.ok ⟨notModified, ⟨[], .eof, []⟩⟩)
    let params : ImageParams := ⟨some "http://host/vm.xva", none⟩
    documentedVerdict net params false = .upstreamFailed ∧
      statusOf (runHandler storedGzip net params false).1 = StatusCode.ok ∧
      ¬ Documented storedGzip net params false := by
  intro net params
  have expected : documentedVerdict net params false = .upstreamFailed := by decide
  refine ⟨expected, by decide, ?_⟩
  intro documented
  have kind := documented.verdict
  rw [expected] at kind
  cases kind

/-! ## Exactly when a failed probe is respected -/

/-- The HEAD request failed or was answered with an error status. -/
def probeRejected : Except String HeadResponse -> Bool
  | .error _ => true
  | .ok response => response.status.isError

/-- The documented answer to a rejected probe: an error of its own kind, with
no GET sent and the lock not touched. -/
def ProbeRespected (decoder : GzipDecoder) (net : Reqwest) (params : ImageParams)
    (lock : Bool) : Prop :=
  forall src, params.src = some src -> schemeAccepted src = true ->
    detectFormatFromExtension net src = none ->
    probeRejected (net.head (selectClient params.verifySsl) src) = true ->
      (Exists fun message =>
        (runHandler decoder net params lock).1 = .error (.probeFailed message)) ∧
      .getSent ∉ (runHandler decoder net params lock).2.events ∧
      .lockAcquired ∉ (runHandler decoder net params lock).2.events

/-- No HEAD request that the handler sends is answered with an error status. -/
def HeadStatusSettled (net : Reqwest) (params : ImageParams) : Prop :=
  forall src, params.src = some src -> schemeAccepted src = true ->
    detectFormatFromExtension net src = none ->
    forall response, net.head (selectClient params.verifySsl) src = .ok response ->
      response.status.isError = false

/-- A probe is reported as failed only when its request was not completed. -/
theorem head_of_probeFailed {net : Reqwest} {params : ImageParams} {lock : Bool}
    {src message : String} (given : params.src = some src)
    (accepted : schemeAccepted src = true)
    (failed : (runHandler decoder net params lock).1 = .error (.probeFailed message)) :
    Exists fun reason => net.head (selectClient params.verifySsl) src = .error reason := by
  rw [runHandler_accepted decoder net params lock given accepted] at failed
  rcases decideFormat_cases net (selectClient params.verifySsl) src with
    ⟨fails, _⟩ | ⟨_, format, decided⟩
  · unfold probeFails at fails
    split at fails
    · rename_i reason _ head
      exact ⟨reason, head⟩
    · cases fails
  · simp only [decided] at failed
    cases lock with
    | true => cases failed
    | false =>
        simp only [Bool.false_eq_true, if_false] at failed
        cases answer : fetchImage net (selectClient params.verifySsl) src <;>
          simp only [answer] at failed <;> cases failed

/-- A failed probe decides no format exactly when it failed as a transport
error: the handler reads the headers of an error response like any other. -/
theorem probeRespected_iff_headStatusSettled (decoder : GzipDecoder) (net : Reqwest)
    (params : ImageParams) (lock : Bool) :
    ProbeRespected decoder net params lock ↔ HeadStatusSettled net params := by
  constructor
  · intro respected src given accepted ambiguous response head
    cases status : response.status.isError with
    | false => rfl
    | true =>
        have rejected : probeRejected (net.head (selectClient params.verifySsl) src) = true := by
          rw [head]
          exact status
        rcases respected src given accepted ambiguous rejected with ⟨⟨message, failed⟩, _⟩
        rcases head_of_probeFailed given accepted failed with ⟨reason, broken⟩
        rw [head] at broken
        cases broken
  · intro settled src given accepted ambiguous rejected
    have run := runHandler_accepted decoder net params lock given accepted
    cases head : net.head (selectClient params.verifySsl) src with
    | ok response =>
        rw [head] at rejected
        rw [probeRejected, settled src given accepted ambiguous response head] at rejected
        cases rejected
    | error reason =>
        simp only [decideFormat, probeEvents, ambiguous, head, Option.isSome_none,
          Bool.false_eq_true, if_false] at run
        have silent : .getSent ∉ [Event.headSent] ∧ .lockAcquired ∉ [Event.headSent] := by decide
        rw [run]
        exact ⟨⟨_, rfl⟩, silent⟩

def methodNotAllowed : StatusCode := ⟨405, by decide, by decide⟩

/-- An upstream that rejects HEAD but answers GET has its gzip image streamed
as it is, in a 200 response. -/
theorem rejectedProbe_streams_gzip_as_raw :
    let net := constantUpstream "/vm".toList (by decide) (.ok ⟨methodNotAllowed, none, none⟩)
      (.ok ⟨StatusCode.ok, ⟨[memberA], .eof, []⟩⟩)
    let params : ImageParams := ⟨some "http://host/vm", none⟩
    ¬ ProbeRespected storedGzip net params false ∧
      Exists fun response =>
        (runHandler storedGzip net params false).1 = .ok response ∧
          response.status = StatusCode.ok ∧
          okBytes (items (response.body.polls [64, 64]).1) = memberA := by
  intro net params
  refine ⟨?_, ⟨_, rfl, rfl, by decide⟩⟩
  intro respected
  rcases respected _ rfl (by decide) (by decide) (by decide) with ⟨⟨message, failed⟩, _⟩
  rcases head_of_probeFailed rfl (by decide) failed with ⟨reason, broken⟩
  cases broken

end Service
end XoaProxy
