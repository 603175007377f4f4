import XoaProxy.Service.ImportLock

namespace XoaProxy
namespace Service

open Streaming

/-!
# Admission during an import

The process runs on a single thread, so a request that is polled goes on until
it waits for something from outside.  `process` is the machine of these turns;
it refines `proxy`, in which the steps of all requests interleave freely.

A request that finds the lock held is refused within its first turn exactly
when its path decides the format.  An ambiguous path makes it send a HEAD
request first, whose answer it awaits before it looks at the lock.
-/

variable {decoder : GzipDecoder}

/-- A bound on the steps that a request takes before it waits. -/
def rank : Phase decoder -> Nat
  | .arrived => 7
  | .handling (.received _) => 6
  | .handling (.detecting _ _) => 5
  | .handling (.locking _ _ _) => 4
  | .handling (.connecting _ _ _) => 3
  | .handling (.failing _) => 2
  | .handling (.refused _) => 1
  | .handling (.probing _ _) | .handling (.fetching _ _ _) | .responded _ => 0
  | .dropping teardown => teardown.left.length

def longestTurn : Nat := 7

theorem rank_le_longestTurn (phase : Phase decoder) : rank phase ≤ longestTurn := by
  cases phase with
  | arrived => exact Nat.le_refl _
  | handling frame => cases frame <;> simp [rank, longestTurn]
  | responded result => exact Nat.zero_le _
  | dropping teardown =>
      have short : teardown.left.length ≤ releaseOrder.length := teardown.suffix.length_le
      exact Nat.le_trans short (by decide)

theorem advance_rank {net : Reqwest} {locked : Bool} {request next : Request decoder}
    {effect : Effect} (step : request.advance net locked = some (next, effect)) :
    rank next.phase < rank request.phase := by
  cases Request.advanced step with
  | entered here =>
      rw [here]
      change rank (.handling (Request.start request.route)) < _
      cases request.route <;> simp [Request.start, rank]
  | missing _ here | accepted _ _ here | rejected _ _ here | named _ _ _ here
  | ambiguous _ _ here | busy _ _ _ here | locked _ _ _ here | connected _ _ _ here
  | failed _ here =>
      simp [here, Request.goto, rank]
  | refused error here => simp [here, Request.respond, rank]
  | released resource left suffix here =>
      rw [here]
      exact Nat.lt_succ_self _

section Turns

variable (net : Reqwest) (timeout index : Nat)

/-- Let a request go on until it waits. -/
def settle : Nat -> ProxyState decoder -> ProxyState decoder
  | 0, state => state
  | fuel + 1, state =>
      match state.step timeout net (.advance index) with
      | some next => settle fuel next
      | none => state

/-- A turn is a run of the proxy. -/
theorem settle_run (fuel : Nat) (state : ProxyState decoder) :
    Exists fun actions =>
      (proxy decoder net timeout).run state actions =
        some (settle net timeout index fuel state) := by
  induction fuel generalizing state with
  | zero => exact ⟨[], rfl⟩
  | succ fuel ih =>
      cases step : state.step timeout net (.advance index) with
      | none =>
          rw [settle, step]
          exact ⟨[], rfl⟩
      | some next =>
          rcases ih next with ⟨actions, executed⟩
          rw [settle, step]
          exact ⟨.advance index :: actions,
            ((proxy decoder net timeout).run_cons_eq_some_iff).mpr ⟨next, step, executed⟩⟩

/-- One step of a turn. -/
theorem settle_succ {fuel : Nat} {state : ProxyState decoder} {request : Request decoder}
    {moved : Request decoder × Effect} (found : state.requests[index]? = some request)
    (advanced : request.advance net state.importLock = some moved) :
    settle net timeout index (fuel + 1) state =
      settle net timeout index fuel (state.commit timeout index moved) := by
  rw [settle, step_advance found advanced]

/-- A request that waits does not move within its turn. -/
theorem settle_waiting (fuel : Nat) {state : ProxyState decoder} {request : Request decoder}
    (found : state.requests[index]? = some request)
    (waits : request.advance net state.importLock = none) :
    settle net timeout index fuel state = state := by
  cases fuel with
  | zero => rfl
  | succ fuel =>
      have stuck : state.step timeout net (.advance index) = none := by
        simp only [ProxyState.step, found, Option.bind_eq_bind, Option.bind_some, waits,
          Option.bind_none]
      rw [settle, stuck]

/-- With fuel for its rank, a turn ends where the request waits. -/
theorem settle_waits {fuel : Nat} {state : ProxyState decoder} {request : Request decoder}
    (found : state.requests[index]? = some request) (enough : rank request.phase ≤ fuel) :
    Exists fun last =>
      (settle net timeout index fuel state).requests[index]? = some last ∧
        last.advance net (settle net timeout index fuel state).importLock = none := by
  induction fuel generalizing state request with
  | zero =>
      refine ⟨request, found, ?_⟩
      rw [settle]
      cases advanced : request.advance net state.importLock with
      | none => rfl
      | some moved =>
          have lower := advance_rank advanced
          omega
  | succ fuel ih =>
      cases advanced : request.advance net state.importLock with
      | none =>
          rw [settle_waiting net timeout index (fuel + 1) found advanced]
          exact ⟨request, found, advanced⟩
      | some moved =>
          have lower := advance_rank advanced
          rw [settle_succ net timeout index found advanced]
          exact ih (getElem?_commit_self found timeout moved) (by omega)

end Turns

/-- What happens to the process from outside. -/
inductive Turn where
  | arrive (route : Route)
  | input (index : Nat) (input : Input)
  | pollIdle (now : Nat)

/-- The requests of a process take turns. -/
def ProxyState.turn (net : Reqwest) (timeout : Nat) (state : ProxyState decoder) :
    Turn -> Option (ProxyState decoder)
  | .arrive route =>
      some (settle net timeout state.requests.length longestTurn (state.arrive route))
  | .input index input =>
      (state.step timeout net (.input index input)).map (settle net timeout index longestTurn)
  | .pollIdle now => some (state.pollIdle timeout now)

def process (decoder : GzipDecoder) (net : Reqwest) (timeout : Nat) :
    Machine (ProxyState decoder) Turn where
  initial := ProxyState.initial
  step := ProxyState.turn net timeout

/-- Every turn is a run of the proxy. -/
theorem turn_run {net : Reqwest} {timeout : Nat} {state next : ProxyState decoder} {turn : Turn}
    (step : (process decoder net timeout).step state turn = some next) :
    Exists fun actions => (proxy decoder net timeout).run state actions = some next := by
  change state.turn net timeout turn = some next at step
  cases turn with
  | arrive route =>
      cases step
      rcases settle_run net timeout state.requests.length longestTurn (state.arrive route) with
        ⟨actions, executed⟩
      exact ⟨.arrive route :: actions,
        ((proxy decoder net timeout).run_cons_eq_some_iff).mpr ⟨_, rfl, executed⟩⟩
  | pollIdle now =>
      cases step
      exact ⟨[.pollIdle now], rfl⟩
  | input index input =>
      simp only [ProxyState.turn, Option.map_eq_some_iff] at step
      rcases step with ⟨received, first, rfl⟩
      rcases settle_run net timeout index longestTurn received with ⟨actions, executed⟩
      exact ⟨.input index input :: actions,
        ((proxy decoder net timeout).run_cons_eq_some_iff).mpr ⟨received, first, executed⟩⟩

def processRefinement (decoder : GzipDecoder) (net : Reqwest) (timeout : Nat) :
    Machine.Refinement (process decoder net timeout) (proxy decoder net timeout) where
  map := id
  initial_map := rfl
  simulate := fun _ _ _ step => turn_run step

/-! ## Refusal -/

/-- The request was refused because of the lock, has sent nothing to the
upstream, and owns nothing of an import. -/
structure Refused (request : Request decoder) : Prop where
  answered : request.answer = some (.error .importInProgress)
  silent : request.events = []
  finished : match request.phase with
    | .responded (.error _) => True
    | .dropping teardown => .importGuard ∉ teardown.left
    | .arrived | .handling _ | .responded (.ok _) => False

/-- The phase of a refused request is behind its handler. -/
theorem Refused.not_handling {request : Request decoder} (refused : Refused request) :
    request.phase ≠ .arrived ∧ forall frame, request.phase ≠ .handling frame := by
  have finished := refused.finished
  constructor
  · intro here
    rw [here] at finished
    exact finished
  · intro frame here
    rw [here] at finished
    exact finished

/-- A refused request stays refused. -/
theorem Refused.moves {net : Reqwest} {locked : Bool} {request next : Request decoder}
    {effect : Effect} (refused : Refused request)
    (moves : request.Moves net locked next effect) : Refused next := by
  have behind := refused.not_handling
  rcases refused with ⟨answered, silent, finished⟩
  cases moves with
  | advanced step =>
      cases Request.advanced step with
      | entered here => exact absurd here behind.1
      | missing _ here | accepted _ _ here | rejected _ _ here | named _ _ _ here
      | ambiguous _ _ here | busy _ _ _ here | locked _ _ _ here | connected _ _ _ here
      | failed _ here | refused _ here => exact absurd here (behind.2 _)
      | released resource left suffix here =>
          rw [here] at finished
          have kept : .importGuard ∉ resource :: left := finished
          refine ⟨answered, ?_, fun later => kept (List.mem_cons_of_mem resource later)⟩
          cases resource with
          | importGuard => exact absurd List.mem_cons_self kept
          | upstream | activeRequest => exact (List.append_nil _).trans silent
  | received input step =>
      cases Request.received step with
      | unprobed _ _ _ here | probed _ _ _ here | unreachable _ _ _ _ here
      | turnedAway _ _ _ _ here | streaming _ _ _ _ here => exact absurd here (behind.2 _)
      | polledText room error here => exact ⟨answered, silent, finished⟩
      | polled room response here =>
          rw [here] at finished
          exact finished.elim
      | dropped loose =>
          refine ⟨answered, silent, ?_⟩
          change .importGuard ∉ request.phase.held
          rw [guardInside_iff]
          unfold GuardInside
          split at finished
          · rename_i here
            rw [here]
            exact not_false
          · rename_i teardown here
            rw [here]
            exact finished
          all_goals exact False.elim finished

/-- Whatever happens later in the process, a refused request stays refused. -/
theorem refused_run {net : Reqwest} {timeout index : Nat} {state final : ProxyState decoder}
    {turns : List Turn}
    (refused : Exists fun request =>
      state.requests[index]? = some request ∧ Refused request)
    (executed : (process decoder net timeout).run state turns = some final) :
    Exists fun request => final.requests[index]? = some request ∧ Refused request := by
  refine (process decoder net timeout).run_preserves
    (fun state => Exists fun request => state.requests[index]? = some request ∧ Refused request)
    ?_ refused executed
  intro before turn after held step
  rcases turn_run step with ⟨actions, ran⟩
  refine (proxy decoder net timeout).run_preserves
    (fun state => Exists fun request => state.requests[index]? = some request ∧ Refused request)
    ?_ held ran
  rintro before action after ⟨request, found, known⟩ step
  cases stepped step with
  | arrived route => exact ⟨request, getElem?_arrive found route, known⟩
  | polled now => exact ⟨request, found, known⟩
  | moved other mover next effect foundMover moves =>
      by_cases same : other = index
      · subst same
        cases Option.some.inj (found.symm.trans foundMover)
        exact ⟨next, getElem?_commit_self found timeout (next, effect), known.moves moves⟩
      · exact ⟨request, (getElem?_commit_other same before timeout _).trans found, known⟩

section Arrival

variable {net : Reqwest} (timeout : Nat) {params : ImageParams} {src : String}

theorem advance_received (decoder : GzipDecoder) (net : Reqwest) (locked : Bool)
    (given : params.src = some src) (accepted : schemeAccepted src = true) :
    (Request.goto (.new (.image params)) (.received params) [] : Request decoder).advance net
        locked =
      some ((Request.goto (.new (.image params)) (.received params) []).goto
        (.detecting (selectClient params.verifySsl) src) [], .none) := by
  simp only [Request.advance, Request.goto, Request.advanceFrame, given, accepted, if_true]

/-- A source that passes the scheme check is looked at without waiting. -/
theorem settle_detecting (state : ProxyState decoder) (given : params.src = some src)
    (accepted : schemeAccepted src = true) (fuel : Nat) :
    Exists fun middle => Exists fun request : Request decoder =>
      settle net timeout state.requests.length (fuel + 2) (state.arrive (.image params)) =
          settle net timeout state.requests.length fuel middle ∧
        middle.requests[state.requests.length]? = some request ∧
        request.phase = .handling (.detecting (selectClient params.verifySsl) src) ∧
        request.events = [] ∧ request.answer = none ∧ middle.importLock = state.importLock := by
  have new := getElem?_arrive_new state (.image params)
  have entered : (Request.new (.image params) : Request decoder).advance net
      (state.arrive (.image params)).importLock =
      some (Request.goto (.new (.image params)) (.received params) [],
        .acquired .activeRequest) := rfl
  have received := getElem?_commit_self new timeout
    (Request.goto (.new (.image params)) (.received params) [], .acquired .activeRequest)
  have checked := advance_received decoder net state.importLock given accepted
  have detecting := getElem?_commit_self received timeout
    ((Request.goto (.new (.image params)) (.received params) []).goto
      (.detecting (selectClient params.verifySsl) src) [], .none)
  refine ⟨_, _, ?_, detecting, rfl, rfl, rfl, rfl⟩
  rw [settle_succ net timeout _ new entered]
  exact settle_succ net timeout _ received checked

/-- A decided format takes the request to the lock in its first turn. -/
theorem refused_of_extension (state : ProxyState decoder) (given : params.src = some src)
    (accepted : schemeAccepted src = true) {format : ImageFormat}
    (decided : detectFormatFromExtension net src = some format)
    (locked : state.importLock = true) :
    Exists fun next => state.turn net timeout (.arrive (.image params)) = some next ∧
      Exists fun request => next.requests[state.requests.length]? = some request ∧
        Refused request := by
  rcases settle_detecting timeout state given accepted 5 with
    ⟨middle, request, turned, found, here, silent, unanswered, same⟩
  refine ⟨_, rfl, ?_⟩
  have detected : request.advance net middle.importLock =
      some (request.goto (.locking (selectClient params.verifySsl) src format) [], .none) := by
    simp only [Request.advance, here, Request.advanceFrame, decided]
  have locking := getElem?_commit_self found timeout
    (request.goto (.locking (selectClient params.verifySsl) src format) [], .none)
  have refusal : (request.goto (.locking (selectClient params.verifySsl) src format) []).advance
      net middle.importLock = some ((request.goto (.locking (selectClient params.verifySsl) src
        format) []).goto (.refused .importInProgress) [], .none) := by
    rw [same, locked]
    rfl
  have refused := getElem?_commit_self locking timeout
    ((request.goto (.locking (selectClient params.verifySsl) src format) []).goto
      (.refused .importInProgress) [], .none)
  rw [longestTurn, turned, settle_succ net timeout _ found detected,
    settle_succ net timeout _ locking refusal, settle_succ net timeout _ refused rfl,
    settle_waiting net timeout _ _ (getElem?_commit_self refused timeout _) rfl]
  refine ⟨_, getElem?_commit_self refused timeout _, rfl, ?_, trivial⟩
  simp [Request.respond, Request.goto, silent]

/-- An ambiguous path makes the request wait for a HEAD answer, whatever the
state of the lock. -/
theorem probing_of_ambiguous (state : ProxyState decoder) (given : params.src = some src)
    (accepted : schemeAccepted src = true) (ambiguous : detectFormatFromExtension net src = none) :
    Exists fun next => state.turn net timeout (.arrive (.image params)) = some next ∧
      Exists fun request => next.requests[state.requests.length]? = some request ∧
        request.events = [.headSent] ∧ request.answer = none := by
  rcases settle_detecting timeout state given accepted 5 with
    ⟨middle, request, turned, found, here, silent, unanswered, same⟩
  refine ⟨_, rfl, ?_⟩
  have detected : request.advance net middle.importLock =
      some (request.goto (.probing (selectClient params.verifySsl) src) [.headSent], .none) := by
    simp only [Request.advance, here, Request.advanceFrame, ambiguous]
  rw [longestTurn, turned, settle_succ net timeout _ found detected,
    settle_waiting net timeout _ _ (getElem?_commit_self found timeout _) rfl]
  refine ⟨_, getElem?_commit_self found timeout _, ?_, unanswered⟩
  simp [Request.goto, silent]

end Arrival

/-- An import request that arrives is answered with 409 within its first turn,
and nothing is ever sent to the upstream for it, whatever happens later. -/
def RefusedAtOnce (net : Reqwest) (timeout : Nat) (state : ProxyState decoder)
    (params : ImageParams) : Prop :=
  forall next, state.turn net timeout (.arrive (.image params)) = some next ->
    forall turns final, (process decoder net timeout).run next turns = some final ->
      Exists fun request => final.requests[state.requests.length]? = some request ∧
        request.answer = some (.error .importInProgress) ∧ request.events = []

/-- During an import, a request whose source passes the scheme check is refused
at once if and only if the extension of its path decides the format. -/
theorem refusedAtOnce_iff_extension (decoder : GzipDecoder) (net : Reqwest) (timeout : Nat)
    (state : ProxyState decoder) (locked : state.importLock = true) (params : ImageParams)
    (src : String) (given : params.src = some src) (accepted : schemeAccepted src = true) :
    RefusedAtOnce net timeout state params ↔ detectFormatFromExtension net src ≠ none := by
  constructor
  · intro refused ambiguous
    rcases probing_of_ambiguous timeout state given accepted ambiguous with
      ⟨next, turned, request, found, _, unanswered⟩
    rcases refused next turned [] next rfl with ⟨same, foundSame, answered, _⟩
    cases Option.some.inj (found.symm.trans foundSame)
    rw [unanswered] at answered
    cases answered
  · intro named next turned turns final executed
    rcases Option.ne_none_iff_exists'.mp named with ⟨format, decided⟩
    rcases refused_of_extension timeout state given accepted decided locked with
      ⟨first, turnedFirst, request⟩
    cases Option.some.inj (turned.symm.trans turnedFirst)
    rcases refused_run request executed with ⟨last, found, refused⟩
    exact ⟨last, found, refused.answered, refused.silent⟩

/-- A second request for the same `.xva` address, during the import of it. -/
theorem refusedAtOnce_named :
    Exists fun state : ProxyState storedGzip =>
      (process storedGzip rawUpstream 60).Reachable state ∧
        (RefusedAtOnce rawUpstream 60 state ⟨some "http://host/vm.xva", none⟩ ↔
          detectFormatFromExtension rawUpstream "http://host/vm.xva" ≠ none) :=
  ⟨_, ⟨[.arrive rawImport], rfl⟩, refusedAtOnce_iff_extension storedGzip rawUpstream 60 _ rfl
    ⟨some "http://host/vm.xva", none⟩ "http://host/vm.xva" rfl (by decide)⟩

/-- An upstream at an ambiguous address. -/
def ambiguousUpstream : Reqwest :=
  constantUpstream "/vm".toList (by decide) (.error "not asked") (.error "not asked")

def ambiguousParams : ImageParams := ⟨some "http://host/vm", none⟩

/-- An import whose HEAD request was answered is waiting for its GET. -/
def probedImport : List Turn :=
  [.arrive (.image ambiguousParams), .input 0 (.headAnswered (.ok ⟨StatusCode.ok, none, none⟩))]

/-- A request for an ambiguous address sends a HEAD request during an import,
and is not answered in its first turn. -/
theorem ambiguous_probed_during_import :
    Exists fun state : ProxyState storedGzip =>
      (process storedGzip ambiguousUpstream 60).Reachable state ∧ state.importLock = true ∧
        ¬ RefusedAtOnce ambiguousUpstream 60 state ambiguousParams ∧
        Exists fun next => Exists fun request =>
          state.turn ambiguousUpstream 60 (.arrive (.image ambiguousParams)) = some next ∧
            next.requests[state.requests.length]? = some request ∧
            request.events = [.headSent] ∧ request.answer = none := by
  refine ⟨_, ⟨probedImport, rfl⟩, rfl, ?_, _, _, rfl, rfl, rfl, rfl⟩
  intro refused
  rcases refused _ rfl [] _ rfl with ⟨request, found, answered, _⟩
  cases Option.some.inj found
  cases answered

end Service
end XoaProxy
