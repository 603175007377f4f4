import XoaProxy.Service.Proxy
import XoaProxy.Streaming.StoredGzip

namespace XoaProxy
namespace Service

open Streaming

/-!
# The import lock

The lock is held exactly while one request owns its guard.  The guard moves
from the handler into the fetch, from there into the guarded stream, and it is
given back by the end of either, at whatever point that comes.

`sessions` is the shape of the lock's history: requests take turns, and each
gives back what it took.  Taking the entries of any request out of the history
that does not own the guard leaves a history of the same kind, which is why
such a request has no influence on the lock any more.
-/

variable {decoder : GzipDecoder}

/-- The request owns the guard of the import lock. -/
def OwnsGuard (state : ProxyState decoder) (index : Nat) : Prop :=
  state.Holds index .importGuard

/-- The request has its GET, or the download behind it, open. -/
def Downloads (state : ProxyState decoder) (index : Nat) : Prop :=
  state.Holds index .upstream

/-- The places that the guard can be in: the future of `fetchXvaStream`, a
guarded stream, or what is left of either while it is being dropped. -/
def GuardInside : Phase decoder -> Prop
  | .handling (.connecting _ _ _) | .handling (.fetching _ _ _) | .handling (.failing _) => True
  | .responded (.ok _) => True
  | .dropping teardown => .importGuard ∈ teardown.left
  | .arrived | .handling _ | .responded (.error _) => False

/-- The request was answered with an error, or everything of it is dropped. -/
def Terminated (request : Request decoder) : Prop :=
  match request.phase with
  | .responded (.error _) => True
  | .dropping teardown => teardown.left = []
  | .arrived | .handling _ | .responded (.ok _) => False

/-- The state that a history leaves the lock in. -/
def lockAfter (log : List (Nat × Bool)) : Bool :=
  log.foldl (fun _ entry => entry.2) false

/-- The history without the entries of one request. -/
def without (index : Nat) (log : List (Nat × Bool)) : List (Nat × Bool) :=
  log.filter fun entry => entry.1 ≠ index

/-- Requests that took the lock and gave it back, one after the other. -/
def sessions (served : List Nat) : List (Nat × Bool) :=
  served.flatMap fun index => [(index, true), (index, false)]

theorem lockAfter_append (log : List (Nat × Bool)) (entry : Nat × Bool) :
    lockAfter (log ++ [entry]) = entry.2 := by
  rw [lockAfter, List.foldl_append]
  rfl

theorem sessions_append (served : List Nat) (index : Nat) :
    sessions (served ++ [index]) = sessions served ++ [(index, true)] ++ [(index, false)] := by
  rw [sessions, List.flatMap_append, List.append_assoc]
  rfl

theorem lockAfter_sessions (served : List Nat) : lockAfter (sessions served) = false := by
  rcases List.eq_nil_or_concat' served with rfl | ⟨earlier, last, rfl⟩
  · rfl
  · rw [sessions_append, lockAfter_append]

theorem without_sessions (index : Nat) (served : List Nat) :
    without index (sessions served) = sessions (served.filter fun other => other ≠ index) := by
  induction served with
  | nil => rfl
  | cons first rest ih =>
      change without index ([(first, true), (first, false)] ++ sessions rest) = _
      rw [without, List.filter_append]
      change _ ++ without index (sessions rest) = _
      rw [ih]
      by_cases same : first = index
      · simp [same]
      · simp [same, sessions]

/-- The history of the lock: turns that are over, and one that is not when the
lock is held. -/
def LockHistory (state : ProxyState decoder) : Prop :=
  Exists fun served =>
    (state.importLock = false ∧ state.lockLog = sessions served) ∨
      (state.importLock = true ∧ Exists fun owner =>
        OwnsGuard state owner ∧ state.lockLog = sessions served ++ [(owner, true)])

theorem guardInside_iff (phase : Phase decoder) :
    .importGuard ∈ phase.held ↔ GuardInside phase := by
  cases phase with
  | arrived => simp [Phase.held, GuardInside]
  | handling frame => cases frame <;> simp [Frame.held_eq, Frame.owned, Owned.dropOrder,
      Owned.scope, GuardInside]
  | responded result =>
      cases result with
      | error error => simp [Phase.held_error, GuardInside]
      | ok response =>
          rw [Phase.held_ok]
          cases response.body.inner.isSome <;> simp [releaseOrder, GuardInside]
  | dropping teardown => exact Iff.rfl

theorem not_ownsGuard_of_terminated {request : Request decoder} (terminated : Terminated request) :
    .importGuard ∉ request.held := by
  rw [Request.held, guardInside_iff]
  unfold Terminated at terminated
  unfold GuardInside
  cases phase : request.phase with
  | arrived => exact not_false
  | handling frame => rw [phase] at terminated; exact False.elim terminated
  | responded result =>
      cases result with
      | error error => exact not_false
      | ok response => rw [phase] at terminated; exact False.elim terminated
  | dropping teardown =>
      rw [phase] at terminated
      have empty : teardown.left = [] := terminated
      simp [empty]

section Books

variable {state : ProxyState decoder} (books : state.Balanced)

include books

theorem total_guards_le_one :
    Custody.total Request.held state.requests .importGuard ≤ 1 := by
  rw [← books .importGuard, ProxyState.ledger]
  split <;> omega

theorem ownsGuard_unique {first second : Nat} (one : OwnsGuard state first)
    (other : OwnsGuard state second) : first = second := by
  rcases one with ⟨left, leftFound, leftOwns⟩
  rcases other with ⟨right, rightFound, rightOwns⟩
  exact Custody.holder_unique Request.held (total_guards_le_one books) leftFound rightFound
    leftOwns rightOwns

theorem importLock_iff : state.importLock = true ↔ Exists fun owner => OwnsGuard state owner := by
  have entry := books .importGuard
  constructor
  · intro locked
    rw [ProxyState.ledger, if_pos locked] at entry
    have positive : 0 < Custody.total Request.held state.requests .importGuard := by omega
    rcases Custody.exists_holder_of_total_pos Request.held positive with
      ⟨owner, request, found, owns⟩
    exact ⟨owner, request, found, owns⟩
  · rintro ⟨owner, request, found, owns⟩
    have out := books.out found owns
    rw [ProxyState.ledger] at out
    by_contra free
    rw [if_neg free] at out
    exact Nat.lt_irrefl 0 out

/-- At most one download is open at any time. -/
theorem downloads_le_one : state.downloads ≤ 1 := by
  have entry : state.downloads = Custody.total Request.held state.requests .upstream :=
    books .upstream
  rw [entry]
  apply Nat.le_trans _ (total_guards_le_one books)
  apply Custody.total_le_total
  intro request
  exact Custody.count_le_count_of_suffix request.phase.held_suffix upstream_split
    releaseOrder_nodup List.mem_cons_self

omit books in
/-- A download belongs to the owner of the guard, because the guard is
released after it. -/
theorem ownsGuard_of_downloads {index : Nat} (downloads : Downloads state index) :
    OwnsGuard state index := by
  rcases downloads with ⟨request, found, holds⟩
  exact ⟨request, found, Phase.importGuard_of_upstream holds⟩

/-- The books count the downloads that are open. -/
theorem downloads_pos_iff : 0 < state.downloads ↔ Exists fun index => Downloads state index := by
  have entry : state.downloads = Custody.total Request.held state.requests .upstream :=
    books .upstream
  constructor
  · intro positive
    rw [entry] at positive
    rcases Custody.exists_holder_of_total_pos Request.held positive with
      ⟨index, request, found, holds⟩
    exact ⟨index, request, found, holds⟩
  · rintro ⟨index, request, found, holds⟩
    exact books.out found holds

end Books

theorem Holds.arrive {state : ProxyState decoder} {index : Nat} {resource : Resource}
    (holds : state.Holds index resource) (route : Route) :
    (state.arrive route).Holds index resource := by
  rcases holds with ⟨request, found, member⟩
  exact ⟨request, getElem?_arrive found route, member⟩

/-- What a request owns after its own step. -/
theorem Holds.commit_self {state : ProxyState decoder} {timeout index : Nat}
    {request next : Request decoder} {effect : Effect} {resource : Resource}
    (found : state.requests[index]? = some request) (holds : resource ∈ next.held) :
    (state.commit timeout index (next, effect)).Holds index resource :=
  ⟨next, getElem?_commit_self found timeout (next, effect), holds⟩

/-- What another request owns is not touched by a step. -/
theorem Holds.commit_other {state : ProxyState decoder} {timeout index other : Nat}
    {moved : Request decoder × Effect} {resource : Resource} (distinct : index ≠ other)
    (holds : state.Holds other resource) :
    (state.commit timeout index moved).Holds other resource := by
  rcases holds with ⟨request, found, member⟩
  exact ⟨request, (getElem?_commit_other distinct state timeout moved).trans found, member⟩

/-- A step that does not release the guard leaves it where it is. -/
theorem OwnsGuard.commit {state : ProxyState decoder} {timeout index owner : Nat}
    {request next : Request decoder} {effect : Effect} (owns : OwnsGuard state owner)
    (found : state.requests[index]? = some request)
    (stacked : Request.Stacked request.held next.held effect)
    (kept : effect ≠ .released .importGuard) :
    OwnsGuard (state.commit timeout index (next, effect)) owner := by
  by_cases same : index = owner
  · subst same
    apply Holds.commit_self found
    rcases owns with ⟨before, foundBefore, holds⟩
    cases Option.some.inj (found.symm.trans foundBefore)
    cases effect with
    | none => exact stacked ▸ holds
    | acquired resource => exact stacked ▸ List.mem_cons_of_mem resource holds
    | released resource =>
        have popped : request.held = resource :: next.held := stacked
        rw [popped] at holds
        cases holds with
        | head => exact absurd rfl kept
        | tail _ rest => exact rest
  · exact Holds.commit_other same owns

/-- An effect on another resource leaves the lock and its history alone. -/
theorem perform_lock (state : ProxyState decoder) (timeout index : Nat) {effect : Effect}
    (acquired : effect ≠ .acquired .importGuard) (released : effect ≠ .released .importGuard) :
    (state.perform timeout index effect).importLock = state.importLock ∧
      (state.perform timeout index effect).lockLog = state.lockLog := by
  cases effect with
  | none => exact ⟨rfl, rfl⟩
  | acquired resource =>
      cases resource with
      | importGuard => exact absurd rfl acquired
      | upstream | activeRequest => exact ⟨rfl, rfl⟩
  | released resource =>
      cases resource with
      | importGuard => exact absurd rfl released
      | upstream | activeRequest => exact ⟨rfl, rfl⟩

theorem LockHistory.step {net : Reqwest} {timeout : Nat} {state next : ProxyState decoder}
    (books : state.Balanced) (history : LockHistory state)
    (stepped : Stepped net timeout state next) : LockHistory next := by
  rcases history with ⟨served, history⟩
  cases stepped with
  | arrived route =>
      refine ⟨served, history.imp id ?_⟩
      rintro ⟨locked, owner, owns, log⟩
      exact ⟨locked, owner, Holds.arrive owns route, log⟩
  | polled now => exact ⟨served, history⟩
  | moved index request next effect found moves =>
      by_cases acquired : effect = .acquired .importGuard
      · subst acquired
        rcases history with ⟨free, log⟩ | ⟨locked, _⟩
        · refine ⟨served, Or.inr ⟨rfl, index, ?_, ?_⟩⟩
          · apply Holds.commit_self found
            have pushed : next.held = .importGuard :: request.held := moves.stacked
            rw [pushed]
            exact List.mem_cons_self
          · change state.lockLog ++ _ = _
            rw [log]
        · rw [moves.free] at locked
          cases locked
      · by_cases released : effect = .released .importGuard
        · subst released
          have popped : request.held = .importGuard :: next.held := moves.stacked
          have owns : OwnsGuard state index :=
            ⟨request, found, popped.symm ▸ List.mem_cons_self⟩
          rcases history with ⟨free, _⟩ | ⟨_, owner, ownerOwns, log⟩
          · rw [(importLock_iff books).mpr ⟨index, owns⟩] at free
            cases free
          · cases ownsGuard_unique books owns ownerOwns
            refine ⟨served ++ [index], Or.inl ⟨rfl, ?_⟩⟩
            change state.lockLog ++ _ = _
            rw [log, sessions_append]
        · have unchanged := perform_lock state timeout index acquired released
          refine ⟨served, history.imp ?_ ?_⟩
          · rintro ⟨free, log⟩
            exact ⟨unchanged.1.trans free, unchanged.2.trans log⟩
          · rintro ⟨locked, owner, owns, log⟩
            exact ⟨unchanged.1.trans locked, owner, owns.commit found moves.stacked released,
              unchanged.2.trans log⟩

theorem lockHistory {net : Reqwest} {timeout : Nat} {state : ProxyState decoder}
    (reachable : (proxy decoder net timeout).Reachable state) : LockHistory state := by
  apply (proxy decoder net timeout).reachable_invariant LockHistory _ _ reachable
  · exact ⟨[], Or.inl ⟨rfl, rfl⟩⟩
  · intro before action after known history step
    exact history.step (balanced known) (stepped step)

theorem LockHistory.replay {state : ProxyState decoder} (history : LockHistory state) :
    lockAfter state.lockLog = state.importLock := by
  rcases history with ⟨served, ⟨free, log⟩ | ⟨locked, owner, _, log⟩⟩
  · rw [free, log, lockAfter_sessions]
  · rw [locked, log, lockAfter_append]

/-- The lock is as the other requests left it, for a request without guard. -/
theorem LockHistory.replay_without {state : ProxyState decoder} (history : LockHistory state)
    {index : Nat} (free : ¬ OwnsGuard state index) :
    lockAfter (without index state.lockLog) = state.importLock := by
  rcases history with ⟨served, ⟨unlocked, log⟩ | ⟨locked, owner, owns, log⟩⟩
  · rw [unlocked, log, without_sessions, lockAfter_sessions]
  · have other : owner ≠ index := by
      rintro rfl
      exact free owns
    have kept : without index (sessions served ++ [(owner, true)]) =
        without index (sessions served) ++ [(owner, true)] := by
      simp [without, other]
    rw [locked, log, kept, lockAfter_append]

/-! ## Mutual exclusion, and no leak -/

/-- What the import lock guarantees in a state. -/
structure ImportLockSound (state : ProxyState decoder) : Prop where
  /-- The lock is held exactly if one request owns the guard, and only one. -/
  held : state.importLock = true ↔ Exists fun owner =>
    OwnsGuard state owner ∧ forall other, OwnsGuard state other -> other = owner
  free : state.importLock = false -> forall index, ¬ OwnsGuard state index
  inside : forall (index : Nat) (request : Request decoder),
    state.requests[index]? = some request ->
      (OwnsGuard state index ↔ GuardInside request.phase)
  /-- At most one download is open, and the owner of the guard has it. -/
  single : state.downloads ≤ 1 ∧
    (0 < state.downloads ↔ Exists fun index => Downloads state index)
  owned : forall index, Downloads state index -> OwnsGuard state index
  /-- The lock is as its history says, also without a terminated request. -/
  replayed : lockAfter state.lockLog = state.importLock
  unaffected : forall (index : Nat) (request : Request decoder),
    state.requests[index]? = some request -> Terminated request ->
      lockAfter (without index state.lockLog) = state.importLock
  released : (forall request, request ∈ state.requests -> Terminated request) ->
    state.importLock = false

/-- Whatever requests arrive, however their steps interleave, and wherever
futures and bodies are dropped, the lock is sound in every state. -/
theorem importLock_sound (decoder : GzipDecoder) (net : Reqwest) (timeout : Nat)
    (state : ProxyState decoder) (reachable : (proxy decoder net timeout).Reachable state) :
    ImportLockSound state := by
  have books := balanced reachable
  have history := lockHistory reachable
  have terminatedFree : forall {index : Nat} {request : Request decoder},
      state.requests[index]? = some request -> Terminated request ->
        ¬ OwnsGuard state index := by
    rintro index request found terminated ⟨owner, foundOwner, owns⟩
    cases Option.some.inj (found.symm.trans foundOwner)
    exact not_ownsGuard_of_terminated terminated owns
  refine ⟨?_, ?_, ?_, ⟨downloads_le_one books, downloads_pos_iff books⟩,
    fun _ => ownsGuard_of_downloads, history.replay, ?_, ?_⟩
  · rw [importLock_iff books]
    constructor
    · rintro ⟨owner, owns⟩
      exact ⟨owner, owns, fun other otherOwns => ownsGuard_unique books otherOwns owns⟩
    · rintro ⟨owner, owns, _⟩
      exact ⟨owner, owns⟩
  · intro unlocked index owns
    rw [(importLock_iff books).mpr ⟨index, owns⟩] at unlocked
    cases unlocked
  · intro index request found
    rw [← guardInside_iff]
    constructor
    · rintro ⟨owner, foundOwner, owns⟩
      cases Option.some.inj (found.symm.trans foundOwner)
      exact owns
    · intro owns
      exact ⟨request, found, owns⟩
  · intro index request found terminated
    exact history.replay_without (terminatedFree found terminated)
  · intro all
    cases lock : state.importLock with
    | false => rfl
    | true =>
        rcases (importLock_iff books).mp lock with ⟨owner, request, found, owns⟩
        exact absurd ⟨request, found, owns⟩
          (terminatedFree found (all request (List.mem_of_getElem? found)))

/-- An upstream that is only asked for its address format. -/
def rawUpstream : Reqwest :=
  constantUpstream "/vm.xva".toList (by decide) (.error "not asked") (.error "not asked")

def rawImport : Route := .image ⟨some "http://host/vm.xva", none⟩

/-- Two imports arrive; the first one goes on until its GET is sent. -/
def startImport : List Action :=
  [.arrive rawImport, .arrive rawImport, .advance 0, .advance 0, .advance 0, .advance 0, .advance 0]

/-- The lock is sound while one of two requests waits for its upstream. -/
theorem importLock_sound_fetching :
    Exists fun state : ProxyState storedGzip =>
      state.importLock = true ∧ state.downloads = 1 ∧ ImportLockSound state :=
  ⟨_, rfl, rfl, importLock_sound storedGzip rawUpstream 60 _ ⟨startImport, rfl⟩⟩

end Service
end XoaProxy
