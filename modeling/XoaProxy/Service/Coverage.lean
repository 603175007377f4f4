import XoaProxy.Lifecycle.IdleWindow
import XoaProxy.Service.ImportLock

namespace XoaProxy
namespace Service

open Streaming

/-!
# Activity covers every import

The activity counter and the import lock are two mechanisms of two modules.
What relates them is nesting alone: `track` enters before it runs the handler,
and its guard is released last by every teardown.  A held lock therefore always
shows in the counter, also between the single drops of a teardown, and the idle
future cannot return meanwhile.
-/

variable {decoder : GzipDecoder}

/-- The number of live `ActiveRequest` values. -/
def liveGuards (state : ProxyState decoder) : Nat :=
  Custody.total Request.held state.requests .activeRequest

/-- What the counter of the proxy sees of a run is a run of the counter. -/
def trackerRefinement (decoder : GzipDecoder) (net : Reqwest) (timeout : Nat) :
    Machine.Refinement (proxy decoder net timeout) (Lifecycle.activityMachine timeout) where
  map := ProxyState.tracker
  initial_map := rfl
  simulate := by
    intro state action next step
    cases stepped step with
    | arrived route => exact ⟨[], rfl⟩
    | polled now => exact ⟨[.poll now], rfl⟩
    | moved index request next effect found moves =>
        cases effect with
        | none => exact ⟨[], rfl⟩
        | acquired resource =>
            cases resource with
            | activeRequest => exact ⟨[.enter], rfl⟩
            | upstream | importGuard => exact ⟨[], rfl⟩
        | released resource =>
            cases resource with
            | activeRequest => exact ⟨[.leave], rfl⟩
            | upstream | importGuard => exact ⟨[], rfl⟩

/-- The idle future does not return at a poll that finds active requests. -/
theorem not_returned_of_active {net : Reqwest} {timeout : Nat} {state : ProxyState decoder}
    (reachable : (proxy decoder net timeout).Reachable state)
    (busy : 0 < state.tracker.activity.value) (running : state.tracker.idle ≠ .returned)
    (now : Nat) : (state.pollIdle timeout now).tracker.idle ≠ .returned := by
  rcases Lifecycle.exists_history ((trackerRefinement decoder net timeout).reachable reachable) with
    ⟨events, history⟩
  change state.tracker = Lifecycle.Tracker.after timeout events at history
  rw [history] at busy running
  rw [ProxyState.pollIdle, history, ← Lifecycle.Tracker.after_append,
    Ne, Lifecycle.poll_returned_iff running, Lifecycle.quiet_iff]
  rw [(Lifecycle.tracks_after timeout events).value] at busy
  rintro ⟨quiet, _⟩
  omega

/-- The last thing that a request releases is its share of the counter. -/
theorem last_released {request next : Request decoder}
    (popped : request.held = .activeRequest :: next.held) : .importGuard ∉ request.held := by
  intro holds
  rw [popped] at holds
  have later : .importGuard ∈ next.held := by
    cases holds with
    | tail _ later => exact later
  have again : .activeRequest ∈ next.held := Phase.activeRequest_of_importGuard later
  have distinct : request.held.Nodup :=
    releaseOrder_nodup.sublist request.phase.held_suffix.sublist
  rw [popped] at distinct
  exact (List.nodup_cons.mp distinct).1 again

/-- What the activity counter guarantees in a state. -/
structure ActivityCovers (net : Reqwest) (timeout : Nat) (state : ProxyState decoder) : Prop where
  counted : state.tracker.activity.value = liveGuards state
  /-- No end of an `ActiveRequest` takes the counter below zero. -/
  decrements : forall (index : Nat) (request next : Request decoder),
    state.requests[index]? = some request ->
      request.Moves net state.importLock next (.released .activeRequest) ->
        0 < state.tracker.activity.value
  covered : state.importLock = true -> 1 ≤ state.tracker.activity.value
  /-- A request gives back the lock before its share of the counter. -/
  ordered : forall (index : Nat) (request next : Request decoder),
    state.requests[index]? = some request ->
      request.Moves net state.importLock next (.released .activeRequest) ->
        ¬ OwnsGuard state index
  reads : state.importLock = true -> state.tracker.activity.borrowAndUpdate.1 ≠ 0
  waits : state.importLock = true -> state.tracker.idle ≠ .returned ->
    forall now, (state.pollIdle timeout now).tracker.idle ≠ .returned

/-- Activity covers every import, in every state of every run. -/
theorem activity_covers (decoder : GzipDecoder) (net : Reqwest) (timeout : Nat)
    (state : ProxyState decoder) (reachable : (proxy decoder net timeout).Reachable state) :
    ActivityCovers net timeout state := by
  have books := balanced reachable
  have covered : state.importLock = true -> 1 ≤ state.tracker.activity.value := by
    intro locked
    rcases (importLock_iff books).mp locked with ⟨owner, request, found, owns⟩
    exact books.out found (Phase.activeRequest_of_importGuard owns)
  refine ⟨books .activeRequest, ?_, covered, ?_, ?_, ?_⟩
  · intro index request next found moves
    have popped : request.held = .activeRequest :: next.held := moves.stacked
    exact books.out found (popped ▸ List.mem_cons_self)
  · rintro index request next found moves ⟨owner, foundOwner, owns⟩
    cases Option.some.inj (found.symm.trans foundOwner)
    exact last_released moves.stacked owns
  · intro locked
    exact Nat.ne_of_gt (covered locked)
  · intro locked running now
    exact not_returned_of_active reachable (covered locked) running now

/-- The same two requests, up to the middle of the teardown of the first one:
its download is closed, and the lock is still held. -/
theorem activity_covers_teardown :
    Exists fun state : ProxyState storedGzip =>
      state.importLock = true ∧ state.downloads = 0 ∧ ActivityCovers rawUpstream 60 state :=
  ⟨_, rfl, rfl, activity_covers storedGzip rawUpstream 60 _
    ⟨startImport ++ [.input 0 .drop, .advance 0], rfl⟩⟩

end Service
end XoaProxy
