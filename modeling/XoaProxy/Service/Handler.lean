import XoaProxy.Streaming.StoredGzip

namespace XoaProxy
namespace Service

open Streaming

/-!
# The import handler

`handleImageXva` is the handler of `GET /image.xva` as a program over the
shared state: the import lock and the requests sent to the upstream.  It is
written in the order of its source, with every early return; a guard that goes
out of scope on the way is released where it does.

The lock is read once, by `tryLockOwned`.  The state a run starts from is
therefore the state found at that step, whatever other requests did while a
HEAD probe was pending.
-/

/-- What a request does to the lock and sends to the upstream. -/
inductive Event where
  | headSent
  | getSent
  | lockAcquired
  | lockReleased
deriving DecidableEq, Repr

/-- The shared state, with the events of one request. -/
structure AppState where
  importLock : Bool
  events : List Event
deriving DecidableEq, Repr

abbrev HandlerM (Result : Type) := ExceptT ProxyError (StateM AppState) Result

def record (event : Event) : StateM AppState Unit :=
  modify fun state => { state with events := state.events ++ [event] }

/-- `Mutex::try_lock_owned`: fails at once when the lock is held. -/
def tryLockOwned : HandlerM OwnedMutexGuard := do
  let state ← get
  if state.importLock then
    throw .importInProgress
  else
    set { state with importLock := true }
    record .lockAcquired
    return ⟨⟩

/-- The end of a guard's life. -/
def dropGuard (_guard : OwnedMutexGuard) : StateM AppState Unit := do
  modify fun state => { state with importLock := false }
  record .lockReleased

/-- Fall back to a HEAD request.  Only a transport error fails the probe; the
status of an answer is not looked at. -/
def detectFormatViaHead (net : Reqwest) (client : Client) (src : String) :
    HandlerM ImageFormat := do
  record .headSent
  match net.head client src with
  | .error reason => throw (.probeFailed ("HEAD request failed: " ++ reason))
  | .ok response => return formatOfHead response

/-- Detect the image format: extension first, HEAD probe as fallback. -/
def detectFormat (net : Reqwest) (client : Client) (src : String) : HandlerM ImageFormat :=
  match detectFormatFromExtension net src with
  | some format => return format
  | none => detectFormatViaHead net client src

/-- Connect to the upstream and put the pipeline of the format over its body.
The guard is an argument: every failing return drops it. -/
def fetchXvaStream (decoder : GzipDecoder) (net : Reqwest) (client : Client)
    (src : String) (format : ImageFormat) (guard : OwnedMutexGuard) :
    ExceptT String (StateM AppState) (GuardedStream decoder) := do
  record .getSent
  match net.get client src with
  | .error _ =>
      dropGuard guard
      throw "Failed to connect to upstream"
  | .ok response =>
      match response.errorForStatus with
      | .error _ =>
          dropGuard guard
          throw "Upstream returned non-2xx status"
      | .ok response => return GuardedStream.new format response.body guard src

inductive Version where
  | http10
  | http11
deriving DecidableEq, Repr

/-- A successful response; its body is the guarded stream. -/
structure Response (decoder : GzipDecoder) where
  version : Version
  status : StatusCode
  headers : List (String × String)
  body : GuardedStream decoder

/-- The streaming response.  It is HTTP/1.0, so that the body bytes are written
without chunk framing. -/
def Response.image {decoder : GzipDecoder} (stream : GuardedStream decoder) :
    Response decoder where
  version := .http10
  status := StatusCode.ok
  headers := [("Content-Type", "application/octet-stream"), ("Connection", "close")]
  body := stream

/-- The handler of `GET /image.xva`. -/
def handleImageXva (decoder : GzipDecoder) (net : Reqwest) (params : ImageParams) :
    HandlerM (Response decoder) := do
  match params.src with
  | none => throw missingSrc
  | some src =>
      if schemeAccepted src then
        let client := selectClient params.verifySsl
        let format ← detectFormat net client src
        let guard ← tryLockOwned
        match ← (fetchXvaStream decoder net client src format guard).run with
        | .error reason =>
            throw (.upstreamFailed ("Failed to fetch upstream image: " ++ reason))
        | .ok stream => return Response.image stream
      else
        throw (badScheme src)

/-- Run the handler alone, from the given state of the lock. -/
def runHandler (decoder : GzipDecoder) (net : Reqwest) (params : ImageParams)
    (lock : Bool) : Except ProxyError (Response decoder) × AppState :=
  (handleImageXva decoder net params).run.run ⟨lock, []⟩

/-- The format of a source, as a value. -/
def decideFormat (net : Reqwest) (client : Client) (src : String) :
    Except ProxyError ImageFormat :=
  match detectFormatFromExtension net src with
  | some format => .ok format
  | none =>
      match net.head client src with
      | .error reason => .error (.probeFailed ("HEAD request failed: " ++ reason))
      | .ok response => .ok (formatOfHead response)

/-- The requests sent before the lock is tried. -/
def probeEvents (net : Reqwest) (src : String) : List Event :=
  if (detectFormatFromExtension net src).isSome then [] else [.headSent]

/-- The upstream's answer to the GET request, as a value. -/
def fetchImage (net : Reqwest) (client : Client) (src : String) : Except String GetResponse :=
  match net.get client src with
  | .error _ => .error "Failed to connect to upstream"
  | .ok response =>
      match response.errorForStatus with
      | .error _ => .error "Upstream returned non-2xx status"
      | .ok response => .ok response

theorem detectFormat_run (net : Reqwest) (client : Client) (src : String) (state : AppState) :
    (detectFormat net client src).run.run state =
      (decideFormat net client src,
        { state with events := state.events ++ probeEvents net src }) := by
  cases extension : detectFormatFromExtension net src with
  | some format =>
      simp only [detectFormat, decideFormat, probeEvents, extension, Option.isSome_some, if_true,
        List.append_nil]
      rfl
  | none =>
      cases probe : net.head client src <;>
        simp only [detectFormat, detectFormatViaHead, decideFormat, probeEvents, extension, probe,
          Option.isSome_none, Bool.false_eq_true, if_false] <;>
        rfl

theorem tryLockOwned_run (state : AppState) :
    tryLockOwned.run.run state =
      if state.importLock then (.error .importInProgress, state)
      else (.ok ⟨⟩, ⟨true, state.events ++ [.lockAcquired]⟩) := by
  rcases state with ⟨lock, events⟩
  cases lock <;> rfl

theorem fetchXvaStream_run (decoder : GzipDecoder) (net : Reqwest) (client : Client)
    (src : String) (format : ImageFormat) (guard : OwnedMutexGuard) (state : AppState) :
    (fetchXvaStream decoder net client src format guard).run.run state =
      match fetchImage net client src with
      | .error reason => (.error reason, ⟨false, state.events ++ [.getSent, .lockReleased]⟩)
      | .ok response =>
          (.ok (GuardedStream.new format response.body guard src),
            { state with events := state.events ++ [.getSent] }) := by
  have joined : (state.events ++ [Event.getSent]) ++ [Event.lockReleased] =
      state.events ++ [.getSent, .lockReleased] := by
    rw [List.append_assoc, List.singleton_append]
  cases answer : net.get client src with
  | error reason =>
      simp only [fetchXvaStream, fetchImage, answer, ← joined]
      rfl
  | ok response =>
      cases accepted : response.errorForStatus <;>
        simp only [fetchXvaStream, fetchImage, answer, accepted, ← joined] <;>
        rfl

/-- Sequencing: an error skips the rest and keeps the state it left. -/
theorem run_bind {First Second : Type} (first : HandlerM First)
    (rest : First -> HandlerM Second) (state : AppState) :
    (first >>= rest).run.run state =
      match first.run.run state with
      | (.ok value, next) => (rest value).run.run next
      | (.error error, next) => (.error error, next) := by
  rcases ran : first.run.run state with ⟨result, next⟩
  simp only [ExceptT.run_bind, StateT.run_bind, ran]
  cases result <;> rfl

/-- An action on the shared state that cannot fail. -/
theorem run_liftM {Result : Type} (action : StateM AppState Result) (state : AppState) :
    (liftM action : HandlerM Result).run.run state =
      (.ok (action.run state).1, (action.run state).2) :=
  rfl

/-- The result of a source that passes the scheme check. -/
theorem runHandler_accepted (decoder : GzipDecoder) (net : Reqwest)
    (params : ImageParams) (lock : Bool) {src : String} (given : params.src = some src)
    (accepted : schemeAccepted src = true) :
    runHandler decoder net params lock =
      match decideFormat net (selectClient params.verifySsl) src with
      | .error error => (.error error, ⟨lock, probeEvents net src⟩)
      | .ok format =>
          if lock then (.error .importInProgress, ⟨lock, probeEvents net src⟩)
          else
            match fetchImage net (selectClient params.verifySsl) src with
            | .error reason =>
                (.error (.upstreamFailed ("Failed to fetch upstream image: " ++ reason)),
                  ⟨false, probeEvents net src ++ [.lockAcquired, .getSent, .lockReleased]⟩)
            | .ok response =>
                (.ok (Response.image (GuardedStream.new format response.body ⟨⟩ src)),
                  ⟨true, probeEvents net src ++ [.lockAcquired, .getSent]⟩) := by
  rw [runHandler, handleImageXva]
  simp only [given, accepted, if_true]
  rw [run_bind, detectFormat_run, List.nil_append]
  cases decided : decideFormat net (selectClient params.verifySsl) src with
  | error error => rfl
  | ok format =>
      simp only []
      rw [run_bind, tryLockOwned_run]
      cases lock with
      | true => rfl
      | false =>
          simp only [Bool.false_eq_true, if_false]
          rw [run_bind, run_liftM, fetchXvaStream_run]
          have joined : (probeEvents net src ++ [Event.lockAcquired]) ++ [Event.getSent] =
              probeEvents net src ++ [.lockAcquired, .getSent] := by
            rw [List.append_assoc, List.singleton_append]
          cases fetched : fetchImage net (selectClient params.verifySsl) src with
          | error reason =>
              simp only [List.append_assoc, List.singleton_append]
              rfl
          | ok response =>
              simp only [joined]
              rfl

end Service
end XoaProxy
