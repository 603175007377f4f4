import XoaProxy.Foundation.Machine
import XoaProxy.Lifecycle.Activity
import XoaProxy.Service.Request

namespace XoaProxy
namespace Service

open Streaming

/-!
# All requests of a process

The state of the proxy is the list of its requests, in the order of their
arrival, with the import lock and the activity counter that they share.  A
step is taken by one request, by the arrival of a new one, or by a poll of the
idle future.  Requests are never removed from the list, so an index names a
request for the whole run.

Two components only record what happened: the number of open downloads, and
who acquired and released the lock.
-/

structure ProxyState (decoder : GzipDecoder) where
  requests : List (Request decoder)
  importLock : Bool
  tracker : Lifecycle.Tracker
  downloads : Nat
  lockLog : List (Nat × Bool)

inductive Action where
  | arrive (route : Route)
  | advance (index : Nat)
  | input (index : Nat) (input : Input)
  | pollIdle (now : Nat)

variable {decoder : GzipDecoder}

namespace ProxyState

def initial : ProxyState decoder where
  requests := []
  importLock := false
  tracker := Lifecycle.Tracker.initial
  downloads := 0
  lockLog := []

variable (timeout : Nat)

def acquire (index : Nat) (state : ProxyState decoder) : Resource -> ProxyState decoder
  | .upstream => { state with downloads := state.downloads + 1 }
  | .importGuard =>
      { state with importLock := true, lockLog := state.lockLog ++ [(index, true)] }
  | .activeRequest => { state with tracker := state.tracker.observe timeout .enter }

def release (index : Nat) (state : ProxyState decoder) : Resource -> ProxyState decoder
  | .upstream => { state with downloads := state.downloads - 1 }
  | .importGuard =>
      { state with importLock := false, lockLog := state.lockLog ++ [(index, false)] }
  | .activeRequest => { state with tracker := state.tracker.observe timeout .leave }

def perform (index : Nat) (state : ProxyState decoder) : Effect -> ProxyState decoder
  | .none => state
  | .acquired resource => state.acquire timeout index resource
  | .released resource => state.release timeout index resource

/-- The request at an index takes a step. -/
def commit (index : Nat) (state : ProxyState decoder) (moved : Request decoder × Effect) :
    ProxyState decoder :=
  { state.perform timeout index moved.2 with requests := state.requests.set index moved.1 }

def arrive (state : ProxyState decoder) (route : Route) : ProxyState decoder :=
  { state with requests := state.requests ++ [Request.new route] }

def pollIdle (state : ProxyState decoder) (now : Nat) : ProxyState decoder :=
  { state with tracker := state.tracker.observe timeout (.poll now) }

def step (net : Reqwest) (state : ProxyState decoder) : Action -> Option (ProxyState decoder)
  | .arrive route => some (state.arrive route)
  | .advance index => do
      let request ← state.requests[index]?
      let moved ← request.advance net state.importLock
      return state.commit timeout index moved
  | .input index input => do
      let request ← state.requests[index]?
      let moved ← request.input input
      return state.commit timeout index moved
  | .pollIdle now => some (state.pollIdle timeout now)

end ProxyState

/-- The proxy, for the given decoder, address parser and idle timeout. -/
def proxy (decoder : GzipDecoder) (net : Reqwest) (timeout : Nat) :
    Machine (ProxyState decoder) Action where
  initial := ProxyState.initial
  step := ProxyState.step timeout net

/-- Every step of the proxy. -/
inductive Stepped (net : Reqwest) (timeout : Nat) (state : ProxyState decoder) :
    ProxyState decoder -> Prop
  | arrived (route : Route) : Stepped net timeout state (state.arrive route)
  | polled (now : Nat) : Stepped net timeout state (state.pollIdle timeout now)
  | moved (index : Nat) (request next : Request decoder) (effect : Effect)
      (found : state.requests[index]? = some request)
      (moves : request.Moves net state.importLock next effect) :
      Stepped net timeout state (state.commit timeout index (next, effect))

/-- A request after its own step. -/
theorem getElem?_commit_self {state : ProxyState decoder} {index : Nat}
    {request : Request decoder} (found : state.requests[index]? = some request) (timeout : Nat)
    (moved : Request decoder × Effect) :
    (state.commit timeout index moved).requests[index]? = some moved.1 :=
  List.getElem?_set_self (List.getElem?_eq_some_iff.mp found).1

/-- The other requests are not touched by a step. -/
theorem getElem?_commit_other {index other : Nat} (distinct : index ≠ other)
    (state : ProxyState decoder) (timeout : Nat) (moved : Request decoder × Effect) :
    (state.commit timeout index moved).requests[other]? = state.requests[other]? :=
  List.getElem?_set_ne distinct

theorem getElem?_arrive {state : ProxyState decoder} {index : Nat} {request : Request decoder}
    (found : state.requests[index]? = some request) (route : Route) :
    (state.arrive route).requests[index]? = some request :=
  (List.getElem?_append_left (List.getElem?_eq_some_iff.mp found).1).trans found

theorem getElem?_arrive_new (state : ProxyState decoder) (route : Route) :
    (state.arrive route).requests[state.requests.length]? = some (Request.new route) :=
  List.getElem?_concat_length

theorem step_advance {net : Reqwest} {timeout index : Nat} {state : ProxyState decoder}
    {request : Request decoder} {moved : Request decoder × Effect}
    (found : state.requests[index]? = some request)
    (advanced : request.advance net state.importLock = some moved) :
    state.step timeout net (.advance index) = some (state.commit timeout index moved) := by
  simp only [ProxyState.step, found, Option.bind_eq_bind, Option.bind_some, advanced]
  rfl

theorem stepped {net : Reqwest} {timeout : Nat} {state next : ProxyState decoder} {action : Action}
    (step : (proxy decoder net timeout).step state action = some next) :
    Stepped net timeout state next := by
  change state.step timeout net action = some next at step
  cases action with
  | arrive route =>
      cases step
      exact .arrived route
  | pollIdle now =>
      cases step
      exact .polled now
  | advance index =>
      simp only [ProxyState.step, Option.bind_eq_bind, Option.bind_eq_some_iff] at step
      rcases step with ⟨request, found, moved, advanced, committed⟩
      cases committed
      exact .moved index request moved.1 moved.2 found (.advanced advanced)
  | input index input =>
      simp only [ProxyState.step, Option.bind_eq_bind, Option.bind_eq_some_iff] at step
      rcases step with ⟨request, found, moved, received, committed⟩
      cases committed
      exact .moved index request moved.1 moved.2 found (.received input received)

namespace ProxyState

/-- How often each resource is out. -/
def ledger (state : ProxyState decoder) : Resource -> Nat
  | .upstream => state.downloads
  | .importGuard => if state.importLock then 1 else 0
  | .activeRequest => state.tracker.activity.value

/-- The request at an index owns a resource. -/
def Holds (state : ProxyState decoder) (index : Nat) (resource : Resource) : Prop :=
  Exists fun request => state.requests[index]? = some request ∧ resource ∈ request.held

/-- The shared state agrees with what the requests own. -/
def Balanced (state : ProxyState decoder) : Prop :=
  Custody.Balanced Request.held state.ledger state.requests

variable {timeout : Nat} {index : Nat} {state : ProxyState decoder}

theorem ledger_acquire {resource : Resource}
    (free : resource = .importGuard -> state.importLock = false) (other : Resource) :
    (state.acquire timeout index resource).ledger other =
      state.ledger other + if resource == other then 1 else 0 := by
  cases resource with
  | importGuard => cases other <;> simp [acquire, ledger, free rfl]
  | upstream => cases other <;> rfl
  | activeRequest => cases other <;> rfl

theorem ledger_release (timeout index : Nat) {resource : Resource}
    (out : 0 < state.ledger resource) (other : Resource) :
    (state.release timeout index resource).ledger other + (if resource == other then 1 else 0) =
      state.ledger other := by
  cases resource with
  | importGuard =>
      have locked : state.importLock = true := by
        cases lock : state.importLock with
        | true => rfl
        | false => simp [ledger, lock] at out
      cases other <;> simp [release, ledger, locked]
  | upstream =>
      cases other with
      | upstream => exact Nat.sub_add_cancel out
      | importGuard => rfl
      | activeRequest => rfl
  | activeRequest =>
      cases other with
      | activeRequest => exact Nat.sub_add_cancel out
      | upstream => rfl
      | importGuard => rfl

/-- A step of a request moves its resources and the books alike. -/
theorem perform_transfer {before after : List Resource} {effect : Effect}
    (stacked : Request.Stacked before after effect)
    (free : effect = .acquired .importGuard -> state.importLock = false)
    (out : forall resource, effect = .released resource -> 0 < state.ledger resource) :
    Custody.Transfer before after state.ledger (state.perform timeout index effect).ledger := by
  intro resource
  cases effect with
  | none =>
      cases stacked
      rfl
  | acquired pushed =>
      cases stacked
      rw [perform, ledger_acquire (fun same => free (congrArg Effect.acquired same)),
        List.count_cons]
      omega
  | released popped =>
      cases stacked
      have books := ledger_release timeout index (out popped rfl) resource
      rw [perform, List.count_cons]
      omega

theorem Balanced.out {index : Nat} {request : Request decoder} (balanced : state.Balanced)
    (found : state.requests[index]? = some request) {resource : Resource}
    (holds : resource ∈ request.held) : 0 < state.ledger resource := by
  rw [balanced resource]
  exact Nat.lt_of_lt_of_le (List.count_pos_iff.mpr holds)
    (Custody.count_le_total Request.held found resource)

theorem Balanced.step {net : Reqwest} {timeout : Nat} {next : ProxyState decoder}
    (balanced : state.Balanced) (stepped : Stepped net timeout state next) : next.Balanced := by
  cases stepped with
  | arrived route => exact Custody.Balanced.arrive balanced rfl
  | polled now =>
      intro resource
      have books := balanced resource
      cases resource <;> exact books
  | moved index request next effect found moves =>
      have moved : Custody.Transfer request.held next.held state.ledger
          (state.perform timeout index effect).ledger := by
        apply perform_transfer moves.stacked
        · rintro rfl
          exact moves.free
        · rintro resource rfl
          apply balanced.out found
          have popped : request.held = resource :: next.held := moves.stacked
          rw [popped]
          exact List.mem_cons_self
      have books := Custody.Balanced.transfer balanced found moved
      intro resource
      have entry := books resource
      cases resource <;> exact entry

end ProxyState

/-- In every reachable state the books agree with the requests. -/
theorem balanced {net : Reqwest} {timeout : Nat} {state : ProxyState decoder}
    (reachable : (proxy decoder net timeout).Reachable state) : state.Balanced := by
  apply (proxy decoder net timeout).invariant ProxyState.Balanced _ _ reachable
  · intro resource
    cases resource <;> rfl
  · intro before action after held step
    exact held.step (stepped step)

end Service
end XoaProxy
