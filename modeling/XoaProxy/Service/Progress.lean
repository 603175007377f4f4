import XoaProxy.Service.Admission

namespace XoaProxy
namespace Service

open Streaming

/-!
# The import lock can always be had again

No request waits for another one: the lock is tried and never awaited.  So a
client that goes away takes its request with it in a bounded number of steps of
that request alone, whatever the upstream and the other requests do.

When the owner of the guard has gone, the next import that needs no HEAD
request comes to its download on its own.
-/

variable {decoder : GzipDecoder}

/-- A bound on the steps until nothing of a request is left, when its client
goes away. -/
def departure (phase : Phase decoder) : Nat :=
  match phase with
  | .handling (.received _) => 8
  | .handling (.detecting _ _) => 7
  | .handling (.locking _ _ _) => 6
  | .handling (.connecting _ _ _) => 5
  | .handling (.failing _) => 4
  | .handling (.refused _) => 3
  | .dropping teardown => teardown.left.length
  | .arrived | .handling _ | .responded _ => phase.held.length + 1

theorem departure_le (phase : Phase decoder) : departure phase ≤ 8 := by
  have short : phase.held.length ≤ releaseOrder.length := phase.held_suffix.length_le
  have three : releaseOrder.length = 3 := rfl
  cases phase with
  | arrived | responded => exact Nat.succ_le_of_lt (by omega)
  | dropping teardown =>
      change teardown.left.length ≤ 8
      have left : teardown.left.length ≤ releaseOrder.length := teardown.suffix.length_le
      omega
  | handling frame => cases frame <;> simp only [departure] <;> omega

/-- The steps that lead out. -/
def Outward (index : Nat) (action : Action) : Prop :=
  action = .advance index ∨ action = .input index .drop

/-- Nothing of the request is left. -/
def Gone (request : Request decoder) : Prop :=
  Exists fun teardown => request.phase = .dropping teardown ∧ teardown.left = []

theorem gone_of_departure {request : Request decoder} (departed : departure request.phase = 0) :
    Gone request := by
  cases here : request.phase with
  | dropping teardown =>
      rw [here] at departed
      exact ⟨teardown, here, List.length_eq_zero_iff.mp departed⟩
  | arrived | responded =>
      rw [here] at departed
      cases departed
  | handling frame =>
      rw [here] at departed
      cases frame <;> cases departed

theorem Gone.held {request : Request decoder} (gone : Gone request) : request.held = [] := by
  rcases gone with ⟨teardown, here, empty⟩
  rw [Request.held, here]
  exact empty

namespace Request

variable {net : Reqwest} {locked : Bool} {request next : Request decoder} {effect : Effect}

/-- Every step of its own brings a request closer to its end, if it is not
between two polls. -/
theorem advance_departure (step : request.advance net locked = some (next, effect))
    (busy : droppable request.phase = false) :
    departure next.phase < departure request.phase := by
  cases advanced step with
  | entered here =>
      rw [here] at busy
      cases busy
  | missing _ here | accepted _ _ here | rejected _ _ here | named _ _ _ here
  | ambiguous _ _ here | busy _ _ _ here | locked _ _ _ here | connected _ _ _ here
  | failed _ here | refused _ here =>
      rw [here]
      exact Nat.le_of_ble_eq_true rfl
  | released resource left suffix here =>
      rw [here]
      exact Nat.lt_succ_self _

/-- Between two polls a request waits, otherwise it can go on. -/
theorem advances_unless_droppable (net : Reqwest) (locked : Bool) (request : Request decoder)
    (busy : droppable request.phase = false) (left : departure request.phase ≠ 0) :
    (request.advance net locked).isSome = true := by
  rw [advance]
  cases here : request.phase with
  | arrived | responded =>
      rw [here] at busy
      cases busy
  | dropping teardown =>
      rw [here] at left
      rcases teardown with ⟨_ | ⟨resource, others⟩, suffix⟩
      · exact absurd rfl left
      · rfl
  | handling frame =>
      rw [here] at busy
      cases frame with
      | probing | fetching => cases busy
      | received params =>
          simp only [advanceFrame]
          split
          · rfl
          · split <;> rfl
      | detecting client src =>
          simp only [advanceFrame]
          split <;> rfl
      | locking client src format =>
          simp only [advanceFrame]
          split <;> rfl
      | connecting | failing | refused => rfl

/-- Between two polls a request can be dropped, otherwise it goes on, unless
nothing of it is left. -/
theorem drops_or_advances (net : Reqwest) (locked : Bool) (request : Request decoder)
    (left : departure request.phase ≠ 0) :
    (Exists fun moved => request.input .drop = some moved ∧
        departure moved.1.phase < departure request.phase) ∨
      Exists fun moved => request.advance net locked = some moved ∧
        departure moved.1.phase < departure request.phase := by
  cases loose : droppable request.phase with
  | true =>
      refine Or.inl ⟨_, if_pos loose, ?_⟩
      change request.phase.held.length < departure request.phase
      cases here : request.phase with
      | arrived | responded => exact Nat.lt_succ_self _
      | dropping =>
          rw [here] at loose
          cases loose
      | handling frame =>
          rw [here] at loose
          cases frame with
          | probing | fetching => exact Nat.lt_succ_self _
          | received | detecting | locking | connecting | failing | refused => cases loose
  | false =>
      have goes := advances_unless_droppable net locked request loose left
      rcases Option.isSome_iff_exists.mp goes with ⟨moved, advanced⟩
      exact Or.inr ⟨moved, advanced, advance_departure advanced loose⟩

end Request

section Ends

variable {net : Reqwest} {timeout index : Nat} {state : ProxyState decoder}
  {request : Request decoder}

theorem outward_step (found : state.requests[index]? = some request)
    (left : departure request.phase ≠ 0) :
    Exists fun action => Outward index action ∧ Exists fun moved : Request decoder × Effect =>
      state.step timeout net action = some (state.commit timeout index moved) ∧
        departure moved.1.phase < departure request.phase := by
  rcases Request.drops_or_advances net state.importLock request left with
    ⟨moved, dropped, lower⟩ | ⟨moved, advanced, lower⟩
  · refine ⟨.input index .drop, Or.inr rfl, moved, ?_, lower⟩
    simp only [ProxyState.step, found, Option.bind_eq_bind, Option.bind_some, dropped]
    rfl
  · exact ⟨.advance index, Or.inl rfl, moved, step_advance found advanced, lower⟩

/-- What is left of the proxy when a request has gone on its own. -/
structure Left (net : Reqwest) (timeout index : Nat) (state : ProxyState decoder)
    (actions : List Action) (final : ProxyState decoder) : Prop where
  executed : (proxy decoder net timeout).run state actions = some final
  outward : forall action, action ∈ actions -> Outward index action
  others : forall other, other ≠ index -> final.requests[other]? = state.requests[other]?
  count : final.requests.length = state.requests.length
  gone : Exists fun request => final.requests[index]? = some request ∧ Gone request

/-- A request that is left by its client ends in a bounded number of steps, all
of them its own, and the others do not move. -/
theorem leaves (net : Reqwest) (timeout : Nat)
    (found : state.requests[index]? = some request) {bound : Nat}
    (enough : departure request.phase ≤ bound) :
    Exists fun actions => Exists fun final => actions.length ≤ bound ∧
      Left net timeout index state actions final := by
  induction bound generalizing state request with
  | zero =>
      have departed : departure request.phase = 0 := Nat.le_zero.mp enough
      exact ⟨[], state, Nat.le_refl 0, rfl, nofun, fun _ _ => rfl, rfl, request, found,
        gone_of_departure departed⟩
  | succ bound ih =>
      by_cases departed : departure request.phase = 0
      · exact ⟨[], state, Nat.zero_le _, rfl, nofun, fun _ _ => rfl, rfl, request, found,
          gone_of_departure departed⟩
      · rcases @outward_step _ net timeout _ _ _ found departed with
          ⟨action, outward, moved, step, lower⟩
        rcases ih (getElem?_commit_self found timeout moved) (by omega) with
          ⟨actions, final, short, left⟩
        refine ⟨action :: actions, final, Nat.succ_le_succ short, ?_, ?_, ?_, ?_, left.gone⟩
        · exact Machine.run_cons_eq_some_iff _ |>.mpr ⟨_, step, left.executed⟩
        · intro listed member
          cases member with
          | head => exact outward
          | tail _ later => exact left.outward listed later
        · intro other differs
          rw [left.others other differs]
          exact getElem?_commit_other (Ne.symm differs) state timeout moved
        · rw [left.count]
          exact List.length_set

/-- When the owner of the guard has gone, the lock is free. -/
theorem Left.unlocked {actions : List Action} {final : ProxyState decoder}
    (left : Left net timeout index state actions final)
    (reachable : (proxy decoder net timeout).Reachable state) (owns : OwnsGuard state index) :
    final.importLock = false := by
  have books := balanced reachable
  have finalBooks := balanced (reachable.run left.executed)
  cases lock : final.importLock with
  | false => rfl
  | true =>
      rcases (importLock_iff finalBooks).mp lock with ⟨owner, request, found, holds⟩
      by_cases same : owner = index
      · subst same
        rcases left.gone with ⟨gone, foundGone, empty⟩
        cases Option.some.inj (found.symm.trans foundGone)
        rw [empty.held] at holds
        cases holds
      · rw [left.others owner same] at found
        exact absurd (ownsGuard_unique books ⟨request, found, holds⟩ owns) same

end Ends

/-! ## The next import -/

section Next

variable {net : Reqwest} {timeout index : Nat} {state : ProxyState decoder}
  {request : Request decoder} {params : ImageParams} {src : String} {format : ImageFormat}

theorem run_advance {moved : Request decoder × Effect} {actions : List Action}
    {final : ProxyState decoder} (found : state.requests[index]? = some request)
    (advanced : request.advance net state.importLock = some moved)
    (rest : (proxy decoder net timeout).run (state.commit timeout index moved) actions =
      some final) :
    (proxy decoder net timeout).run state (.advance index :: actions) = some final :=
  Machine.run_cons_eq_some_iff _ |>.mpr ⟨_, step_advance found advanced, rest⟩

/-- The handler from the scheme check to the GET request. -/
theorem detecting_fetches (client : Client)
    (found : state.requests[index]? = some request)
    (here : request.phase = .handling (.detecting client src))
    (decided : detectFormatFromExtension net src = some format)
    (free : state.importLock = false) :
    Exists fun final => Exists fun last : Request decoder =>
      (proxy decoder net timeout).run state [.advance index, .advance index, .advance index] =
          some final ∧
        final.requests[index]? = some last ∧
        last.phase = .handling (.fetching client src format) ∧
        forall other, other ≠ index -> final.requests[other]? = state.requests[other]? := by
  have detected : request.advance net state.importLock =
      some (request.goto (.locking client src format) [], .none) := by
    simp only [Request.advance, here, Request.advanceFrame, decided]
  have locking := getElem?_commit_self found timeout
    (request.goto (.locking client src format) [], .none)
  have locked : (request.goto (.locking client src format) []).advance net
      state.importLock = some ((request.goto (.locking client src format) []).goto
        (.connecting client src format) [.lockAcquired], .acquired .importGuard) := by
    rw [free]
    rfl
  have connecting := getElem?_commit_self locking timeout
    ((request.goto (.locking client src format) []).goto
      (.connecting client src format) [.lockAcquired], .acquired .importGuard)
  refine ⟨_, _, run_advance found detected (run_advance locking locked
    (run_advance connecting rfl rfl)), getElem?_commit_self connecting timeout _, rfl, ?_⟩
  intro other differs
  rw [getElem?_commit_other (Ne.symm differs), getElem?_commit_other (Ne.symm differs),
    getElem?_commit_other (Ne.symm differs)]

/-- With the lock free, an arriving import whose format is decided comes to its
download on its own. -/
theorem arrival_fetches (timeout : Nat) (given : params.src = some src)
    (accepted : schemeAccepted src = true)
    (decided : detectFormatFromExtension net src = some format)
    (free : state.importLock = false) :
    Exists fun final => Exists fun last : Request decoder =>
      (proxy decoder net timeout).run state
          (.arrive (.image params) :: List.replicate 5 (.advance state.requests.length)) =
          some final ∧
        final.requests[state.requests.length]? = some last ∧
        last.phase = .handling (.fetching (selectClient params.verifySsl) src format) ∧
        forall other, other < state.requests.length ->
          final.requests[other]? = state.requests[other]? := by
  have new := getElem?_arrive_new state (.image params)
  have received := getElem?_commit_self new timeout
    (Request.goto (.new (.image params)) (.received params) [], .acquired .activeRequest)
  have checked := advance_received decoder net state.importLock given accepted
  have detecting := getElem?_commit_self received timeout
    ((Request.goto (.new (.image params)) (.received params) []).goto
      (.detecting (selectClient params.verifySsl) src) [], .none)
  rcases @detecting_fetches _ net timeout _ _ _ src format _ detecting rfl decided free with
    ⟨final, last, executed, found, here, others⟩
  refine ⟨final, last, ?_, found, here, ?_⟩
  · exact Machine.run_cons_eq_some_iff _ |>.mpr ⟨_, rfl,
      run_advance new rfl (run_advance received checked executed)⟩
  · intro other earlier
    have differs : state.requests.length ≠ other := (Nat.ne_of_lt earlier).symm
    rw [others other differs.symm, getElem?_commit_other differs, getElem?_commit_other differs]
    exact List.getElem?_append_left earlier

end Next

/-- An action on the way to the next import: a step out of the owner of the
guard, the arrival, or a step of the request that has arrived. -/
def OnTheWay (state : ProxyState decoder) (params : ImageParams) (action : Action) : Prop :=
  (Exists fun owner => OwnsGuard state owner ∧ Outward owner action) ∨
    action = .arrive (.image params) ∨ action = .advance state.requests.length

/-- The import lock is never lost.  From every reachable state an import whose
format is decided comes to its download when only the owner of the guard goes
away, after a bounded number of steps and with all other requests untouched. -/
theorem next_import_comes_through (decoder : GzipDecoder) (net : Reqwest) (timeout : Nat)
    (state : ProxyState decoder) (reachable : (proxy decoder net timeout).Reachable state)
    (params : ImageParams) (src : String) (format : ImageFormat)
    (given : params.src = some src) (accepted : schemeAccepted src = true)
    (decided : detectFormatFromExtension net src = some format) :
    Exists fun actions => Exists fun final => Exists fun last : Request decoder =>
      (proxy decoder net timeout).run state actions = some final ∧
        (forall action, action ∈ actions -> OnTheWay state params action) ∧
        actions.length ≤ 14 ∧
        final.requests[state.requests.length]? = some last ∧
        last.phase = .handling (.fetching (selectClient params.verifySsl) src format) ∧
        forall other, other < state.requests.length -> ¬ OwnsGuard state other ->
          final.requests[other]? = state.requests[other]? := by
  have freed : Exists fun actions => Exists fun free : ProxyState decoder =>
      (proxy decoder net timeout).run state actions = some free ∧
        (forall action, action ∈ actions -> OnTheWay state params action) ∧
        actions.length ≤ 8 ∧ free.importLock = false ∧
        free.requests.length = state.requests.length ∧
        forall other, ¬ OwnsGuard state other ->
          free.requests[other]? = state.requests[other]? := by
    cases lock : state.importLock with
    | false => exact ⟨[], state, rfl, nofun, Nat.zero_le _, lock, rfl, fun _ _ => rfl⟩
    | true =>
        rcases (importLock_iff (balanced reachable)).mp lock with ⟨owner, owns⟩
        rcases owns with ⟨request, found, holds⟩
        rcases leaves net timeout found (departure_le request.phase) with
          ⟨actions, free, short, left⟩
        have owns : OwnsGuard state owner := ⟨request, found, holds⟩
        refine ⟨actions, free, left.executed, ?_, short, left.unlocked reachable owns,
          left.count, ?_⟩
        · intro action listed
          exact Or.inl ⟨owner, owns, left.outward action listed⟩
        · intro other bystander
          apply left.others
          rintro rfl
          exact bystander owns
  rcases freed with ⟨actions, free, executed, onTheWay, short, unlocked, count, others⟩
  rcases @arrival_fetches _ net free params src format timeout given accepted decided unlocked
    with ⟨final, last, arrived, found, here, untouched⟩
  rw [count] at arrived found untouched
  refine ⟨actions ++ _, final, last, Machine.run_append_eq_some_iff _ |>.mpr
    ⟨free, executed, arrived⟩, ?_, ?_, found, here, ?_⟩
  · intro action listed
    rcases List.mem_append.mp listed with before | after
    · exact onTheWay action before
    · cases after with
      | head => exact Or.inr (Or.inl rfl)
      | tail _ later => exact Or.inr (Or.inr (List.eq_of_mem_replicate later))
  · rw [List.length_append, List.length_cons, List.length_replicate]
    omega
  · intro other earlier bystander
    rw [untouched other earlier, others other bystander]

/-- While one import waits for its upstream, the next one is a disconnect away. -/
theorem import_after_disconnect :
    Exists fun state : ProxyState storedGzip => state.importLock = true ∧
      Exists fun actions => Exists fun final => Exists fun last : Request storedGzip =>
        (proxy storedGzip rawUpstream 60).run state actions = some final ∧
          (forall action, action ∈ actions ->
            OnTheWay state ⟨some "http://host/vm.xva", none⟩ action) ∧
          actions.length ≤ 14 ∧
          final.requests[state.requests.length]? = some last ∧
          last.phase = .handling (.fetching .verify "http://host/vm.xva" .raw) ∧
          forall other, other < state.requests.length -> ¬ OwnsGuard state other ->
            final.requests[other]? = state.requests[other]? :=
  ⟨_, rfl, next_import_comes_through storedGzip rawUpstream 60 _ ⟨startImport, rfl⟩
    ⟨some "http://host/vm.xva", none⟩ "http://host/vm.xva" .raw rfl (by decide) (by decide)⟩

end Service
end XoaProxy
