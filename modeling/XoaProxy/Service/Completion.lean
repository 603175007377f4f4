import XoaProxy.Service.Conversations
import XoaProxy.Service.Serving

namespace XoaProxy
namespace Service

open Lifecycle (Act Connection)
open Streaming

/-!
# How every request ends

A GET request that was read is carried by its connection until it is dropped,
and it is dropped for one of two reasons: the client hangs up, or the server has
written the whole answer.  An idle exit or a graceful shutdown is not a reason.
The observer of a request hears what was said to it, and whether its client
hung up; `Accounted` keeps the account of a request that is gone.
-/

variable {decoder : GzipDecoder}

inductive Heard where
  | said (note : Note)
  | hungUp

def Heard.note : Heard -> Option Note
  | .said note => some note
  | .hungUp => none

/-- The conversation in what was heard. -/
def said (heard : List Heard) : List Note :=
  heard.filterMap Heard.note

@[simp] theorem said_append (first second : List Heard) :
    said (first ++ second) = said first ++ said second :=
  List.filterMap_append

theorem said_map (notes : List Note) : said (notes.map .said) = notes := by
  rw [said, List.filterMap_map]
  exact List.filterMap_some

/-- What the observer of a request hears in a move. -/
def overheard (request : Nat) (state : Serving decoder) : Move -> List Heard
  | .input index input =>
      if state.links[index]? = some (.busy request) then
        (noted request state.proxy (.input request input)).map .said
      else []
  | .occurs (.act index .hangUp) =>
      if state.links[index]? = some (.busy request) then [.hungUp] else []
  | .occurs _ | .readHead _ _ => []

/-- What the observer of a request hears in a run of the process. -/
def hearing (decoder : GzipDecoder) (net : Reqwest) (activated : Bool)
    (timeout request : Nat) (run : List Move) : List Heard :=
  (serving decoder net activated timeout).observed (overheard request) Serving.initial run

section Turns

variable {net : Reqwest} {timeout index : Nat}

/-- What is said to the request at an index in a turn. -/
def turnNotes (index : Nat) (state : ProxyState decoder) : Turn -> List Note
  | .input other input => noted index state (.input other input)
  | .arrive _ | .pollIdle _ => []

/-- A drop says nothing. -/
theorem turnNotes_drop (index other : Nat) (state : ProxyState decoder) :
    turnNotes index state (.input other .drop) = [] := by
  rw [turnNotes, noted]
  split
  · cases state.requests[index]? <;> rfl
  · rfl

theorem Known.settle {state : ProxyState decoder} {notes : List Note} (other fuel : Nat)
    (known : Known net state.requests[index]? notes) :
    Known net (settle net timeout other fuel state).requests[index]? notes := by
  apply settle_preserves (fun state => Known net state.requests[index]? notes) _ fuel known
  intro before after held step
  have moved : (proxy decoder net timeout).step before (.advance other) = some after := step
  have later := held.follow (followed moved)
  rw [noted, List.append_nil] at later
  exact later

theorem Known.turn {state next : ProxyState decoder} {turn : Turn} {notes : List Note}
    (known : Known net state.requests[index]? notes)
    (turned : state.turn net timeout turn = some next) :
    Known net next.requests[index]? (notes ++ turnNotes index state turn) := by
  cases turn with
  | arrive route =>
      cases turned
      apply Known.settle
      exact known.follow (followed_arrive route state.importLock)
  | pollIdle now =>
      cases turned
      rw [turnNotes, List.append_nil]
      exact known
  | input other input =>
      simp only [ProxyState.turn, Option.map_eq_some_iff] at turned
      rcases turned with ⟨received, step, rfl⟩
      have moved : (proxy decoder net timeout).step state (.input other input) = some received :=
        step
      apply Known.settle
      exact known.follow (followed moved)

end Turns

/-! ## The account of a request -/

/-- The upstream answered the request's own GET, and the client was sent what
the pipeline of its format makes of this answer until its end was reported. -/
def Streamed (decoder : GzipDecoder) (net : Reqwest) (route : Route)
    (notes : List Note) : Prop :=
  Exists fun opening => Exists fun src => Exists fun format => Exists fun response =>
    Exists fun rooms => Fetched decoder net route opening src format response rooms notes ∧
      (freshPolls decoder format response.body ⟨⟩ src rooms).2.inner = none

/-- The request was answered with an error, or with its whole stream. -/
def Fulfilled (net : Reqwest) (request : Request decoder) (notes : List Note) : Prop :=
  match request.answer with
  | some (.error _) => True
  | some (.ok _) => Streamed decoder net request.route notes
  | none => False

/-- What holds of the request at a number and of what was heard of it. -/
structure Accounted (net : Reqwest) (number : Nat) (state : Serving decoder)
    (heard : List Heard) : Prop where
  sound : state.Sound
  known : Known net state.proxy.requests[number]? (said heard)
  settled : forall request, state.proxy.requests[number]? = some request -> Gone request ->
    .hungUp ∈ heard ∨ Fulfilled net request (said heard)
  left : .hungUp ∈ heard -> Exists fun request =>
    state.proxy.requests[number]? = some request ∧ Gone request

/-- A request whose body is written has its whole answer. -/
theorem fulfilled_of_finished {net : Reqwest} {request : Request decoder} {notes : List Note}
    (faithful : request.Faithful net) (conversed : request.Conversed net notes)
    (finished : request.finished = true) : Fulfilled net request notes := by
  unfold Request.Faithful at faithful
  unfold Request.Conversed at conversed
  unfold Request.finished at finished
  cases here : request.phase with
  | arrived | handling | dropping =>
      rw [here] at finished
      cases finished
  | responded result =>
      rw [here] at faithful conversed finished
      rcases faithful with ⟨first, polled, _, answered, same⟩
      rw [Fulfilled, answered]
      cases first with
      | error error => trivial
      | ok response =>
          cases same
          rcases conversed with ⟨opening, src, format, answer, rooms, fetched, body⟩
          refine ⟨opening, src, format, answer, rooms, fetched, ?_⟩
          rw [← body]
          exact Option.isNone_iff_eq_none.mp finished

theorem Gone.not_waiting {request : Request decoder} (gone : Gone request) :
    ¬ Waiting request.phase := by
  rcases gone with ⟨teardown, here, _⟩
  rw [here]
  exact not_false

theorem overheard_busy {state : Serving decoder} {index request number : Nat}
    (found : state.links[index]? = some (.busy request)) (input : Input) :
    said (overheard number state (.input index input)) =
      turnNotes number state.proxy (.input request input) := by
  rw [overheard, found]
  by_cases here : request = number
  · subst here
    rw [if_pos rfl, said_map]
    rfl
  · rw [if_neg (fun same => here (Link.busy.inj (Option.some.inj same))), turnNotes, noted,
      if_neg here]
    rfl

/-- A move of another connection is not heard. -/
theorem overheard_other {state : Serving decoder} {index number : Nat} {link : Link}
    (found : state.links[index]? = some link) (other : link ≠ .busy number) (act : Act) :
    overheard number state (.occurs (.act index act)) = [] := by
  cases act with
  | hangUp =>
      rw [overheard, found]
      exact if_neg fun same => other (Option.some.inj same)
  | accept | readHead | complete | reap => rfl

/-- Of a move of a connection, only the end of the request can be heard. -/
theorem said_overheard (number : Nat) (state : Serving decoder)
    (occurrence : Lifecycle.Occurrence) :
    said (overheard number state (.occurs occurrence)) = [] := by
  cases occurrence with
  | act index act =>
      cases act with
      | hangUp =>
          rw [overheard]
          split <;> rfl
      | accept | readHead | complete | reap => rfl
  | connect | tick | pollShutdown | signal | exit => rfl

/-- Only a move in which its client leaves is heard as that. -/
theorem hangUp_of_overheard {number : Nat} {state : Serving decoder} {move : Move}
    (taken : .hungUp ∈ overheard number state move) :
    Exists fun index => move = .occurs (.act index .hangUp) := by
  cases move with
  | readHead => cases taken
  | input index input =>
      rw [overheard] at taken
      split at taken
      · rcases List.mem_map.mp taken with ⟨note, _, impossible⟩
        cases impossible
      · cases taken
  | occurs occurrence =>
      cases occurrence with
      | act index act =>
          cases act with
          | hangUp => exact ⟨index, rfl⟩
          | accept | readHead | complete | reap => cases taken
      | connect | tick | pollShutdown | signal | exit => cases taken

/-- A request that a connection carries is not gone. -/
theorem Linked.not_gone {requests : List (Request decoder)} {links : List Link}
    {index number : Nat} {request : Request decoder} (linked : Linked requests links)
    (busy : links[index]? = some (.busy number)) (found : requests[number]? = some request) :
    ¬ Gone request := by
  intro gone
  rcases linked.waiting index number busy with ⟨same, foundSame, waiting⟩
  cases Option.some.inj (found.symm.trans foundSame)
  exact gone.not_waiting waiting

section Account

variable {net : Reqwest} {activated : Bool} {timeout number : Nat} {state next : Serving decoder}
  {heard : List Heard}

/-- A move in which the requests stay as they are. -/
theorem Accounted.rest {occurrence : Lifecycle.Occurrence}
    (account : Accounted net number state heard) (sound : next.Sound)
    (quiet : .hungUp ∉ overheard number state (.occurs occurrence))
    (same : next.proxy.requests[number]? = state.proxy.requests[number]?) :
    Accounted net number next (heard ++ overheard number state (.occurs occurrence)) := by
  have silent := said_overheard number state occurrence
  refine ⟨sound, ?_, ?_, ?_⟩
  · rw [said_append, silent, List.append_nil, same]
    exact account.known
  · intro request found gone
    rw [said_append, silent, List.append_nil]
    rw [same] at found
    exact (account.settled request found gone).imp_left fun listed =>
      List.mem_append_left _ listed
  · intro listed
    rw [same]
    exact account.left ((List.mem_append.mp listed).resolve_right quiet)

/-- A request that is gone stays as it is when another one takes a turn. -/
theorem Accounted.stays (account : Accounted net number state heard) (listed : .hungUp ∈ heard)
    {proxy : ProxyState decoder} {changed : Nat}
    (others : forall other, other ≠ changed ->
      proxy.requests[other]? = state.proxy.requests[other]?)
    (present : forall request, state.proxy.requests[changed]? = some request -> ¬ Gone request) :
    Exists fun request => proxy.requests[number]? = some request ∧ Gone request := by
  rcases account.left listed with ⟨request, known, gone⟩
  have distinct : number ≠ changed := by
    rintro rfl
    exact present request known gone
  exact ⟨request, (others number distinct).trans known, gone⟩

/-- A turn after which its request waits. -/
theorem Accounted.turn {changed : Nat} {fresh : List Heard}
    (account : Accounted net number state heard) (sound : next.Sound)
    (others : forall other, other ≠ changed ->
      next.proxy.requests[other]? = state.proxy.requests[other]?)
    (present : forall request, state.proxy.requests[changed]? = some request -> ¬ Gone request)
    (last : Exists fun request => next.proxy.requests[changed]? = some request ∧
      Waiting request.phase)
    (known : Known net next.proxy.requests[number]? (said (heard ++ fresh)))
    (quiet : .hungUp ∉ fresh) (silent : number ≠ changed -> said fresh = []) :
    Accounted net number next (heard ++ fresh) := by
  refine ⟨sound, known, ?_, ?_⟩
  · intro request found gone
    by_cases here : number = changed
    · subst here
      rcases last with ⟨same, foundSame, waiting⟩
      cases Option.some.inj (found.symm.trans foundSame)
      exact absurd waiting gone.not_waiting
    · rw [said_append, silent here, List.append_nil]
      exact (account.settled request ((others number here).symm.trans found) gone).imp_left
        fun listed => List.mem_append_left _ listed
  · intro listed
    exact account.stays ((List.mem_append.mp listed).resolve_right quiet) others present

/-- A request is dropped because its client hangs up or its body is written. -/
theorem Accounted.dropped {index request : Nat} {act : Act} {standing last : Request decoder}
    (account : Accounted net number state heard) (sound : next.Sound)
    (carried : state.links[index]? = some (.busy request))
    (reason : act = .hangUp ∨ state.written request = true)
    (old : state.proxy.requests[request]? = some standing)
    (foundLast : next.proxy.requests[request]? = some last) (gone : Gone last)
    (route : last.route = standing.route) (answer : last.answer = standing.answer)
    (others : forall other, other ≠ request ->
      next.proxy.requests[other]? = state.proxy.requests[other]?)
    (known : Known net next.proxy.requests[number]? (said heard)) :
    Accounted net number next (heard ++ overheard number state (.occurs (.act index act))) := by
  have silent := said_overheard number state (.act index act)
  refine ⟨sound, ?_, ?_, ?_⟩
  · rw [said_append, silent, List.append_nil]
    exact known
  · intro other found left
    rw [said_append, silent, List.append_nil]
    by_cases here : number = request
    · subst here
      cases Option.some.inj (found.symm.trans foundLast)
      rcases reason with rfl | written
      · left
        apply List.mem_append_right
        rw [overheard, if_pos carried]
        exact List.mem_cons_self
      · right
        rw [Fulfilled, route, answer]
        rcases account.known.2 standing old with ⟨faithful, conversed⟩
        rw [Serving.written, old] at written
        exact fulfilled_of_finished faithful conversed written
    · exact (account.settled other ((others number here).symm.trans found) left).imp_left
        fun listed => List.mem_append_left _ listed
  · intro listed
    by_cases here : number = request
    · subst here
      exact ⟨last, foundLast, gone⟩
    · rw [overheard_other carried (fun same => here (Link.busy.inj same).symm),
        List.append_nil] at listed
      exact account.stays listed others fun _ => account.sound.linked.not_gone carried

theorem Accounted.step {move : Move} (account : Accounted net number state heard)
    (step : state.step net activated timeout move = some next) :
    Accounted net number next (heard ++ overheard number state move) := by
  have proceeded := Serving.proceeded step
  have sound := account.sound.proceed proceeded
  cases proceeded with
  | connected | ticked | signalled | exited =>
      exact account.rest sound List.not_mem_nil rfl
  | moved index act link after running found acted =>
      apply account.rest sound _ rfl
      rw [overheard_other found _ act]
      · exact List.not_mem_nil
      · rintro rfl
        exact (idle_of_act acted).1 rfl
  | polled serving =>
      apply account.rest sound List.not_mem_nil
      unfold Serving.pollShutdown
      cases activated <;> rfl
  | begun index route link proxy running found acted turn =>
      rcases turn_arrive turn with ⟨turned, last⟩
      have later := account.known.turn turn
      rw [turnNotes, List.append_nil] at later
      apply account.turn sound turned.others _ last _ List.not_mem_nil (fun _ => rfl)
      · intro request known
        rw [List.getElem?_eq_none (Nat.le_refl _)] at known
        cases known
      · rw [List.append_nil]
        exact later
  | ended index request act after proxy running found acted reason turn =>
      rcases account.sound.linked.waiting index request found with ⟨standing, old, waiting⟩
      rcases turn_drop old waiting turn with ⟨turned, last, foundLast, gone, route, answer⟩
      have later := account.known.turn turn
      rw [turnNotes_drop, List.append_nil] at later
      exact account.dropped sound found reason old foundLast gone route answer turned.others later
  | received index request input proxy running found other turn =>
      rcases turn_input other turn with ⟨turned, last⟩
      apply account.turn sound turned.others (fun _ => account.sound.linked.not_gone found) last
      · rw [said_append, overheard_busy found]
        exact account.known.turn turn
      · intro taken
        rcases hangUp_of_overheard taken with ⟨position, impossible⟩
        cases impossible
      · intro here
        rw [overheard_busy found, turnNotes, noted, if_neg (Ne.symm here)]

end Account

/-- The client was sent the stream that the pipeline of the decided format makes
of the answer to the request's own GET: all of it up to a clean end, or the error
item behind all that the failing read has not lost. -/
def SentInFull (decoder : GzipDecoder) (net : Reqwest) (route : Route)
    (notes : List Note) : Prop :=
  Exists fun opening => Exists fun src => Exists fun format => Exists fun response =>
    Exists fun rooms => Fetched decoder net route opening src format response rooms notes ∧
      Whole (decoder.loss format) rooms (delivered decoder format response.body).1
        (delivered decoder format response.body).2 (items (answers notes))

/-- A stream that has ended was sent in full. -/
theorem Streamed.sentInFull {net : Reqwest} {route : Route} {notes : List Note}
    (streamed : Streamed decoder net route notes)
    (positive : forall room answer, .sent room answer ∈ notes -> 0 < room) :
    SentInFull decoder net route notes := by
  rcases streamed with ⟨opening, src, format, response, rooms, fetched, ended⟩
  refine ⟨opening, src, format, response, rooms, fetched, ?_⟩
  rw [fetched.answers]
  exact freshPolls_whole decoder format response.body ⟨⟩ src (fetched.readable positive)
    (Option.isNone_iff_eq_none.mpr ended)

/-- What the client was sent was polled in the run. -/
theorem polled_in_run {net : Reqwest} {activated : Bool} {timeout number : Nat}
    {run : List Move} {room : Nat} {answer : Option (Item UInt8 IoError)}
    (member : .sent room answer ∈ said (hearing decoder net activated timeout number run)) :
    Exists fun index => .input index (.pollBody room) ∈ run := by
  rcases List.mem_filterMap.mp member with ⟨sound, kept, same⟩
  rcases Machine.label_of_mem_observed kept with ⟨before, move, listed, taken⟩
  cases move with
  | readHead => cases taken
  | occurs occurrence =>
      have silent := said_overheard number before occurrence
      have impossible :
          Note.sent room answer ∈ said (overheard number before (.occurs occurrence)) :=
        List.mem_filterMap.mpr ⟨sound, taken, same⟩
      rw [silent] at impossible
      cases impossible
  | input index input =>
      refine ⟨index, ?_⟩
      rw [overheard] at taken
      split at taken
      · rcases List.mem_map.mp taken with ⟨note, spoken, rfl⟩
        cases same
        cases heard spoken
        exact listed
      · cases taken

/-- The request was answered, with an error or with a stream sent in full. -/
def AnsweredInFull (net : Reqwest) (request : Request decoder) (notes : List Note) : Prop :=
  match request.answer with
  | some (.error _) => True
  | some (.ok _) => SentInFull decoder net request.route notes
  | none => False

section Runs

variable {net : Reqwest} {activated : Bool} {timeout number : Nat} {run : List Move}
  {state : Serving decoder}

/-- The account of a request holds along every run. -/
theorem accounted
    (executed : (serving decoder net activated timeout).run Serving.initial run = some state) :
    Accounted net number state (hearing decoder net activated timeout number run) := by
  have account : Accounted net number state
      ([] ++ hearing decoder net activated timeout number run) := by
    apply Machine.run_preserves_observed (Accounted net number) _ _ executed
    · intro before move after heard held step
      exact held.step step
    · refine ⟨Serving.sound_initial, ⟨fun _ => rfl, ?_⟩, ?_, ?_⟩
      · intro request impossible
        cases impossible
      · intro request impossible
        cases impossible
      · intro impossible
        cases impossible
  rw [List.nil_append] at account
  exact account

theorem Fulfilled.answeredInFull {request : Request decoder}
    (fulfilled : Fulfilled net request (said (hearing decoder net activated timeout number run)))
    (positive : forall index room, .input index (.pollBody room) ∈ run -> 0 < room) :
    AnsweredInFull net request (said (hearing decoder net activated timeout number run)) := by
  rw [Fulfilled] at fulfilled
  rw [AnsweredInFull]
  split at fulfilled
  · trivial
  · apply fulfilled.sentInFull
    intro room answer member
    rcases polled_in_run member with ⟨index, listed⟩
    exact positive index room listed
  · exact fulfilled

end Runs

/-- In every run of the process a GET request that was read is in progress on
its connection, or its client hung up, or it was answered in full.  A process
that has exited has none in progress, whatever it has exited for. -/
theorem requests_answered_in_full (decoder : GzipDecoder) (net : Reqwest)
    (activated : Bool) (timeout number : Nat) (run : List Move) (state : Serving decoder)
    (request : Request decoder)
    (executed : (serving decoder net activated timeout).run Serving.initial run = some state)
    (found : state.proxy.requests[number]? = some request)
    (positive : forall index room, .input index (.pollBody room) ∈ run -> 0 < room) :
    ((Exists fun index : Nat => state.links[index]? = some (.busy number)) ∧
        forall cause, state.mode ≠ .exited cause) ∨
      .hungUp ∈ hearing decoder net activated timeout number run ∨
      AnsweredInFull net request (said (hearing decoder net activated timeout number run)) := by
  have account : Accounted net number state (hearing decoder net activated timeout number run) :=
    accounted executed
  rcases account.sound.linked.others number request found with ⟨index, busy⟩ | gone
  · left
    refine ⟨⟨index, busy⟩, ?_⟩
    intro cause exited
    have settled := account.sound.settled cause exited _ (List.mem_of_getElem? busy)
    cases settled
  · right
    exact (account.settled request found gone).imp_right fun fulfilled =>
      fulfilled.answeredInFull positive

/-- A signal arrives while an import is streamed, which is finished before the
process exits. -/
def drainedImport : List Move :=
  [.occurs .connect, .occurs (.act 0 .accept), .readHead 0 rawImport,
    .input 0 (.getAnswered (.ok ⟨StatusCode.ok, ⟨[[1, 2]], .eof, []⟩⟩)), .input 0 (.pollBody 1),
    .occurs .signal, .input 0 (.pollBody 8), .input 0 (.pollBody 8),
    .occurs (.act 0 (.complete false)), .occurs .exit]

theorem drained_import_answered_in_full :
    Exists fun state : Serving storedGzip =>
      (serving storedGzip rawUpstream true 60).run Serving.initial drainedImport = some state ∧
        state.mode = .exited .signal ∧
        Exists fun request : Request storedGzip => state.proxy.requests[0]? = some request ∧
          AnsweredInFull rawUpstream request
            (said (hearing storedGzip rawUpstream true 60 0 drainedImport)) := by
  refine ⟨_, rfl, rfl, _, rfl, ?_⟩
  have positive : forall index room, .input index (.pollBody room) ∈ drainedImport -> 0 < room := by
    intro index room listed
    simp [drainedImport] at listed
    omega
  have patient : (hearing storedGzip rawUpstream true 60 0 drainedImport).all
      (fun heard => heard.note.isSome) = true := rfl
  rcases requests_answered_in_full storedGzip rawUpstream true 60 0 drainedImport _ _ rfl rfl
    positive with ⟨_, running⟩ | hungUp | answered
  · exact absurd rfl (running .signal)
  · cases List.all_eq_true.mp patient _ hungUp
  · exact answered

end Service
end XoaProxy
