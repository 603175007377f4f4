import XoaProxy.Service.ImportLock
import XoaProxy.Service.Interleaving
import XoaProxy.Streaming.Delivery

namespace XoaProxy
namespace Service

open Streaming

/-!
# What each client gets, and what is sent upstream for it

An observer of one request notes the upstream's answers to it and the items
that its client is sent.  `Conversed` says which conversations a request can
have had when it stands where it stands: the answer to a HEAD request if the
extension does not decide the format, the answer to one GET request, and then
the items of the pipeline over exactly that answer, whatever the other requests
do in between.

`Orderly` is about the other side, the order in which a request uses the
upstream and the lock.
-/

variable {decoder : GzipDecoder}

inductive Note where
  | head (result : Except String HeadResponse)
  | get (result : Except String GetResponse)
  | sent (room : Nat) (answer : Option (Item UInt8 IoError))

/-- An answer to a poll of the body. -/
def Note.answer : Note -> Option (Option (Item UInt8 IoError))
  | .head _ | .get _ => none
  | .sent _ answer => some answer

/-- The step from outside that is noted. -/
def Note.input : Note -> Input
  | .head result => .headAnswered result
  | .get result => .getAnswered result
  | .sent room _ => .pollBody room

def answers (notes : List Note) : List (Option (Item UInt8 IoError)) :=
  notes.filterMap Note.answer

@[simp] theorem answers_append (first second : List Note) :
    answers (first ++ second) = answers first ++ answers second :=
  List.filterMap_append

/-- The room that a poll of the body was made with. -/
def Note.room : Note -> Option Nat
  | .head _ | .get _ => none
  | .sent room _ => some room

def polledRooms (notes : List Note) : List Nat :=
  notes.filterMap Note.room

theorem sent_of_mem_polledRooms {notes : List Note} {room : Nat}
    (listed : room ∈ polledRooms notes) : Exists fun answer => .sent room answer ∈ notes := by
  rcases List.mem_filterMap.mp listed with ⟨note, member, same⟩
  cases note with
  | head | get => cases same
  | sent other answer =>
      cases same
      exact ⟨answer, member⟩

/-- What a step from outside says to a request. -/
def Request.notes (request : Request decoder) : Input -> List Note
  | .headAnswered result => [.head result]
  | .getAnswered result => [.get result]
  | .pollBody room =>
      match request.phase with
      | .responded (.ok response) => [.sent room (response.body.pollNext room).1]
      | _ => []
  | .drop => []

theorem Request.input_of_mem_notes {request : Request decoder} {input : Input} {said : Note}
    (taken : said ∈ request.notes input) : input = said.input := by
  cases input with
  | headAnswered | getAnswered =>
      rw [List.mem_singleton.mp taken]
      rfl
  | drop => cases taken
  | pollBody room =>
      simp only [Request.notes] at taken
      split at taken
      · rw [List.mem_singleton.mp taken]
        rfl
      · cases taken

/-- The notes of an observer of the request at an index. -/
def noted (index : Nat) (state : ProxyState decoder) : Action -> List Note
  | .input other input =>
      if other = index then (state.requests[index]?).elim [] fun request => request.notes input
      else []
  | .arrive _ | .advance _ | .pollIdle _ => []

/-- The conversation of the request at an index along a run. -/
def conversation (decoder : GzipDecoder) (net : Reqwest) (timeout index : Nat)
    (actions : List Action) : List Note :=
  (proxy decoder net timeout).observed (noted index) (proxy decoder net timeout).initial actions

/-- The notes of the polls of a stream. -/
def sentNotes (stream : GuardedStream decoder) : List Nat -> List Note
  | [] => []
  | room :: rooms =>
      .sent room (stream.pollNext room).1 :: sentNotes (stream.pollNext room).2 rooms

theorem answers_sentNotes (stream : GuardedStream decoder) (rooms : List Nat) :
    answers (sentNotes stream rooms) = (stream.polls rooms).1 := by
  induction rooms generalizing stream with
  | nil => rfl
  | cons room rooms ih => exact congrArg _ (ih (stream.pollNext room).2)

theorem sentNotes_concat (stream : GuardedStream decoder) (rooms : List Nat) (room : Nat) :
    sentNotes stream (rooms ++ [room]) =
      sentNotes stream rooms ++ [.sent room ((stream.polls rooms).2.pollNext room).1] := by
  induction rooms generalizing stream with
  | nil => rfl
  | cons first rooms ih => exact congrArg _ (ih (stream.pollNext first).2)

theorem polledRooms_sentNotes (stream : GuardedStream decoder) (rooms : List Nat) :
    polledRooms (sentNotes stream rooms) = rooms := by
  induction rooms generalizing stream with
  | nil => rfl
  | cons room rooms ih => exact congrArg _ (ih (stream.pollNext room).2)

/-! ## The invariant of a conversation -/

/-- The format is decided by the extension, or by the answer to the HEAD. -/
def DecidedBy (net : Reqwest) (opening : List Note) (src : String) (format : ImageFormat) :
    Prop :=
  (detectFormatFromExtension net src = some format ∧ opening = []) ∨
    (detectFormatFromExtension net src = none ∧
      Exists fun response => opening = [.head (.ok response)] ∧ format = formatOfHead response)

theorem DecidedBy.silent {net : Reqwest} {opening : List Note} {src : String}
    {format : ImageFormat} (decided : DecidedBy net opening src format) :
    answers opening = [] := by
  rcases decided with ⟨_, rfl⟩ | ⟨_, response, rfl, _⟩ <;> rfl

/-- The conversation of a request whose source was fetched: the format is
decided, the GET is answered, and the rest are polls of the stream over this
answer. -/
structure Fetched (decoder : GzipDecoder) (net : Reqwest) (route : Route)
    (opening : List Note) (src : String) (format : ImageFormat) (response : GetResponse)
    (rooms : List Nat) (notes : List Note) : Prop where
  asked : Exists fun client => Accepted route client src
  decided : DecidedBy net opening src format
  succeeded : response.status.isError = false
  notes : notes = opening ++ .get (.ok response) ::
    sentNotes (GuardedStream.new format response.body ⟨⟩ src : GuardedStream decoder) rooms

namespace Fetched

variable {net : Reqwest} {route : Route} {opening notes : List Note} {src : String}
  {format : ImageFormat} {response : GetResponse} {rooms : List Nat}

theorem answers (fetched : Fetched decoder net route opening src format response rooms notes) :
    answers notes = (freshPolls decoder format response.body ⟨⟩ src rooms).1 := by
  rw [fetched.notes, answers_append, fetched.decided.silent]
  exact answers_sentNotes _ rooms

/-- The polls that were noted are those of the stream. -/
theorem polledRooms (fetched : Fetched decoder net route opening src format response rooms notes) :
    polledRooms notes = rooms := by
  have quiet : Service.polledRooms opening = [] := by
    rcases fetched.decided with ⟨_, rfl⟩ | ⟨_, head, rfl, _⟩ <;> rfl
  rw [fetched.notes, Service.polledRooms, List.filterMap_append]
  change Service.polledRooms opening ++ Service.polledRooms (sentNotes _ rooms) = rooms
  rw [quiet, polledRooms_sentNotes, List.nil_append]

/-- The stream is polled with room if every poll that was noted has some. -/
theorem readable (fetched : Fetched decoder net route opening src format response rooms notes)
    (positive : forall room answer, .sent room answer ∈ notes -> 0 < room) :
    forall room, room ∈ rooms -> 0 < room := by
  intro room listed
  rw [← fetched.polledRooms] at listed
  rcases sent_of_mem_polledRooms listed with ⟨answer, member⟩
  exact positive room answer member

theorem poll (fetched : Fetched decoder net route opening src format response rooms notes)
    (room : Nat) :
    Fetched decoder net route opening src format response (rooms ++ [room])
      (notes ++ [.sent room
        ((freshPolls decoder format response.body ⟨⟩ src rooms).2.pollNext room).1]) := by
  refine ⟨fetched.asked, fetched.decided, fetched.succeeded, ?_⟩
  rw [sentNotes_concat, fetched.notes, List.append_assoc]
  rfl

end Fetched

/-- What can have been said when the handler stands here. -/
def Frame.Conversed (net : Reqwest) (notes : List Note) : Frame -> Prop
  | .received _ | .detecting _ _ | .probing _ _ => notes = []
  | .locking _ src format | .connecting _ src format | .fetching _ src format =>
      DecidedBy net notes src format
  | .failing _ | .refused _ => answers notes = []

/-- Nothing was sent, or what was sent are polls of the stream over the answer
to the request's own GET. -/
def Served (decoder : GzipDecoder) (net : Reqwest) (route : Route)
    (notes : List Note) : Prop :=
  answers notes = [] ∨ Exists fun opening => Exists fun src => Exists fun format =>
    Exists fun response => Exists fun rooms =>
      Fetched decoder net route opening src format response rooms notes

/-- What can have been said when the request stands here. -/
def Request.Conversed (net : Reqwest) (request : Request decoder) (notes : List Note) : Prop :=
  match request.phase with
  | .arrived => notes = []
  | .handling frame => frame.Conversed net notes
  | .responded (.error _) => answers notes = []
  | .responded (.ok streaming) => Exists fun opening => Exists fun src => Exists fun format =>
      Exists fun response => Exists fun rooms =>
        Fetched decoder net request.route opening src format response rooms notes ∧
          streaming.body = (freshPolls decoder format response.body ⟨⟩ src rooms).2
  | .dropping _ => Served decoder net request.route notes

theorem Frame.Conversed.silent {net : Reqwest} {notes : List Note} {frame : Frame}
    (conversed : frame.Conversed net notes) : answers notes = [] := by
  cases frame with
  | received | detecting | probing =>
      have empty : notes = [] := conversed
      rw [empty]
      rfl
  | locking | connecting | fetching => exact DecidedBy.silent conversed
  | failing | refused => exact conversed

namespace Request

variable {net : Reqwest} {locked : Bool} {request next : Request decoder} {effect : Effect}
  {notes : List Note}

/-- Wherever it stands, the client got items of its own image only. -/
theorem Conversed.served (conversed : request.Conversed net notes) :
    Served decoder net request.route notes := by
  unfold Conversed at conversed
  split at conversed
  · rw [conversed]
    exact Or.inl rfl
  · exact Or.inl conversed.silent
  · exact Or.inl conversed
  · rcases conversed with ⟨opening, src, format, response, rooms, fetched, _⟩
    exact Or.inr ⟨opening, src, format, response, rooms, fetched⟩
  · exact conversed

/-- A step of the request alone says nothing. -/
theorem conversed_advance (conversed : request.Conversed net notes)
    (step : request.advance net locked = some (next, effect)) :
    next.Conversed net notes := by
  unfold Conversed at conversed
  cases advanced step with
  | entered here =>
      rw [here] at conversed
      have empty : notes = [] := conversed
      change (start request.route).Conversed net notes
      rw [empty]
      cases request.route <;> rfl
  | missing params here _ | rejected params _ here _ _ =>
      rw [here] at conversed
      have empty : notes = [] := conversed
      change answers notes = []
      rw [empty]
      rfl
  | accepted _ _ here _ _ | ambiguous _ _ here _ =>
      rw [here] at conversed
      exact conversed
  | named client src format here decided =>
      rw [here] at conversed
      exact Or.inl ⟨decided, conversed⟩
  | busy client src format here _ =>
      rw [here] at conversed
      exact DecidedBy.silent conversed
  | locked _ _ _ here _ | connected _ _ _ here | failed _ here | refused _ here
  | released _ _ _ here =>
      rw [here] at conversed
      exact conversed

/-- A step from outside adds what it says. -/
theorem conversed_input {input : Input} (faithful : request.Faithful net)
    (conversed : request.Conversed net notes)
    (step : request.input input = some (next, effect)) :
    next.Conversed net (notes ++ request.notes input) := by
  cases received step with
  | unprobed client src reason here =>
      unfold Conversed at conversed
      rw [here] at conversed
      have empty : notes = [] := conversed
      rw [empty]
      rfl
  | probed client src response here =>
      unfold Conversed at conversed
      unfold Faithful at faithful
      rw [here] at conversed faithful
      have empty : notes = [] := conversed
      rw [empty]
      exact Or.inr ⟨faithful.1.2.1, response, rfl, rfl⟩
  | unreachable client src format reason here
  | turnedAway client src format reason here _ =>
      unfold Conversed at conversed
      rw [here] at conversed
      have silent : answers notes = [] := DecidedBy.silent conversed
      change answers _ = []
      rw [answers_append, silent]
      rfl
  | streaming client src format response here status =>
      unfold Conversed at conversed
      unfold Faithful at faithful
      rw [here] at conversed faithful
      exact ⟨notes, src, format, response, [], ⟨⟨client, faithful.1.1⟩, conversed, status, rfl⟩,
        rfl⟩
  | polledText room error here =>
      have nothing : request.notes (.pollBody room) = [] := by
        simp only [Request.notes, here]
      rw [nothing, List.append_nil]
      exact conversed
  | polled room streaming here =>
      have said : request.notes (.pollBody room) =
          [.sent room (streaming.body.pollNext room).1] := by
        simp only [Request.notes, here]
      rw [said]
      unfold Conversed at conversed
      rw [here] at conversed
      rcases conversed with ⟨opening, src, format, response, rooms, fetched, body⟩
      refine ⟨opening, src, format, response, rooms ++ [room], ?_, ?_⟩
      · rw [body]
        exact fetched.poll room
      · change (streaming.body.pollNext room).2 = _
        rw [body]
        exact (GuardedStream.polls_concat _ rooms room).symm
  | dropped loose =>
      change Served decoder net request.route (notes ++ [])
      rw [List.append_nil]
      exact conversed.served

end Request

/-- What a step of the proxy is at one index, and what is noted there. -/
inductive Followed (net : Reqwest) (locked : Bool) :
    Option (Request decoder) -> Option (Request decoder) -> List Note -> Prop
  | arrived (route : Route) : Followed net locked none (some (Request.new route)) []
  | resting (standing : Option (Request decoder)) : Followed net locked standing standing []
  | advanced (before after : Request decoder) (effect : Effect)
      (step : before.advance net locked = some (after, effect)) :
      Followed net locked (some before) (some after) []
  | received (before after : Request decoder) (effect : Effect) (input : Input)
      (step : before.input input = some (after, effect)) :
      Followed net locked (some before) (some after) (before.notes input)

section Follow

variable {net : Reqwest} {timeout index : Nat} {state next : ProxyState decoder} {action : Action}

theorem followed_arrive (route : Route) (locked : Bool) :
    Followed net locked state.requests[index]? (state.arrive route).requests[index]? [] := by
  rcases Nat.lt_trichotomy index state.requests.length with before | rfl | behind
  · rw [ProxyState.arrive, List.getElem?_append_left before]
    exact .resting _
  · rw [getElem?_arrive_new, List.getElem?_eq_none (Nat.le_refl _)]
    exact .arrived route
  · rw [List.getElem?_eq_none (Nat.le_of_lt behind), List.getElem?_eq_none]
    · exact .resting none
    · rw [ProxyState.arrive, List.length_append]
      exact behind

theorem followed (step : (proxy decoder net timeout).step state action = some next) :
    Followed net state.importLock state.requests[index]? next.requests[index]?
      (noted index state action) := by
  change state.step timeout net action = some next at step
  cases action with
  | arrive route =>
      cases step
      exact followed_arrive route _
  | pollIdle now =>
      cases step
      exact .resting _
  | advance other =>
      simp only [ProxyState.step, Option.bind_eq_bind, Option.bind_eq_some_iff] at step
      rcases step with ⟨before, old, moved, advanced, committed⟩
      cases committed
      by_cases same : other = index
      · subst same
        rw [getElem?_commit_self old, old]
        exact .advanced before moved.1 moved.2 advanced
      · rw [getElem?_commit_other same]
        exact .resting _
  | input other input =>
      simp only [ProxyState.step, Option.bind_eq_bind, Option.bind_eq_some_iff] at step
      rcases step with ⟨before, old, moved, received, committed⟩
      cases committed
      by_cases same : other = index
      · subst same
        rw [getElem?_commit_self old]
        simp only [noted, if_true, old, Option.elim]
        exact .received before moved.1 moved.2 input received
      · rw [getElem?_commit_other same]
        simp only [noted, if_neg same]
        exact .resting _

/-- Every note of a conversation was said to this request. -/
theorem heard {said : Note} (taken : said ∈ noted index state action) :
    action = .input index said.input := by
  cases action with
  | arrive | advance | pollIdle => cases taken
  | input other input =>
      simp only [noted] at taken
      split at taken
      · rename_i same
        subst same
        cases old : state.requests[other]? with
        | none =>
            rw [old] at taken
            cases taken
        | some request =>
            rw [old] at taken
            exact congrArg _ (Request.input_of_mem_notes taken)
      · cases taken

end Follow

/-- The invariant at one index, where a request may stand or not. -/
def Known (net : Reqwest) (standing : Option (Request decoder)) (notes : List Note) : Prop :=
  (standing = none -> notes = []) ∧
    forall request, standing = some request -> request.Faithful net ∧ request.Conversed net notes

theorem Known.follow {net : Reqwest} {locked : Bool} {before after : Option (Request decoder)}
    {notes said : List Note} (known : Known net before notes)
    (followed : Followed net locked before after said) : Known net after (notes ++ said) := by
  cases followed with
  | arrived route =>
      rw [known.1 rfl]
      refine ⟨fun _ => rfl, ?_⟩
      rintro request ⟨⟩
      exact ⟨⟨rfl, rfl⟩, rfl⟩
  | resting standing =>
      rw [List.append_nil]
      exact known
  | advanced before after effect step =>
      rcases known.2 before rfl with ⟨faithful, conversed⟩
      refine ⟨nofun, ?_⟩
      rintro request ⟨⟩
      rw [List.append_nil]
      exact ⟨Request.faithful_advance faithful step, Request.conversed_advance conversed step⟩
  | received before after effect input step =>
      rcases known.2 before rfl with ⟨faithful, conversed⟩
      refine ⟨nofun, ?_⟩
      rintro request ⟨⟩
      exact ⟨Request.faithful_input faithful step,
        Request.conversed_input faithful conversed step⟩

section Runs

variable {net : Reqwest} {timeout index : Nat} {state : ProxyState decoder}
  {actions : List Action} {request : Request decoder}

/-- The invariant of a conversation holds along every run. -/
theorem conversed
    (executed : (proxy decoder net timeout).run (proxy decoder net timeout).initial actions =
      some state)
    (found : state.requests[index]? = some request) :
    request.Conversed net (conversation decoder net timeout index actions) := by
  have known : Known net state.requests[index]?
      ([] ++ conversation decoder net timeout index actions) := by
    apply Machine.run_preserves_observed
      (fun state notes => Known net state.requests[index]? notes) _ _ executed
    · intro before action after notes held step
      exact held.follow (followed step)
    · refine ⟨fun _ => rfl, ?_⟩
      intro request impossible
      cases impossible
  exact (known.2 request found).2

/-- What was said in the conversation of an index was said to its request. -/
theorem heard_in_conversation {said : Note}
    (member : said ∈ conversation decoder net timeout index actions) :
    .input index said.input ∈ actions := by
  rcases Machine.label_of_mem_observed member with ⟨before, action, listed, taken⟩
  rw [← heard taken]
  exact listed

/-- An answer that the upstream gives to a request in a run is part of its
conversation. -/
theorem answer_in_conversation
    (executed : (proxy decoder net timeout).run (proxy decoder net timeout).initial actions =
      some state)
    {result : Except String GetResponse} (listed : .input index (.getAnswered result) ∈ actions) :
    .get result ∈ conversation decoder net timeout index actions := by
  rcases @Machine.observed_of_mem_label _ _ (proxy decoder net timeout) Note (noted index) _ _ _ _
    executed listed with ⟨before, after, step, kept⟩
  apply kept
  change ProxyState.step timeout net before (.input index (.getAnswered result)) = _ at step
  simp only [ProxyState.step, Option.bind_eq_bind, Option.bind_eq_some_iff] at step
  rcases step with ⟨request, old, _⟩
  simp only [noted, if_true, old, Option.elim]
  exact List.mem_singleton_self _

end Runs

/-! ## Every client receives its own image -/

/-- The run gives this request one answer to its GET, and the handler has come
to this source and format in it. -/
structure Answered (net : Reqwest) (index : Nat) (actions : List Action) (route : Route)
    (src : String) (format : ImageFormat) (response : GetResponse) : Prop where
  asked : Exists fun client => Accepted route client src
  decided : detectFormatFromExtension net src = some format ∨
    (detectFormatFromExtension net src = none ∧ Exists fun head =>
      .input index (.headAnswered (.ok head)) ∈ actions ∧ format = formatOfHead head)
  answered : .input index (.getAnswered (.ok response)) ∈ actions
  only : forall result, .input index (.getAnswered result) ∈ actions -> result = .ok response
  succeeded : response.status.isError = false

/-- The items sent to the client at an index are those of its own image: a
front part of what the pipeline delivers for the answer to its own GET, and the
whole stream, with the error item that may close it, once its end was reported.
Only in front of an error item bytes may be missing, those that the failing
read of a gzip stream loses. -/
def ReceivesOwnImage (decoder : GzipDecoder) (net : Reqwest) (timeout index : Nat)
    (actions : List Action) (route : Route) : Prop :=
  let notes := conversation decoder net timeout index actions
  let received := answers notes
  received = [] ∨ Exists fun src => Exists fun format => Exists fun response =>
    Answered net index actions route src format response ∧
      okBytes (items received) <+: (delivered decoder format response.body).1 ∧
      (none ∈ received -> Whole (decoder.loss format) (polledRooms notes)
        (delivered decoder format response.body).1 (delivered decoder format response.body).2
        (items received))

theorem get_mem_opening {net : Reqwest} {opening : List Note} {src : String}
    {format : ImageFormat} (decided : DecidedBy net opening src format)
    (result : Except String GetResponse) : .get result ∉ opening := by
  rcases decided with ⟨_, rfl⟩ | ⟨_, response, rfl, _⟩
  · exact List.not_mem_nil
  · intro member
    cases List.mem_singleton.mp member

theorem get_mem_sentNotes (stream : GuardedStream decoder) (rooms : List Nat)
    (result : Except String GetResponse) : .get result ∉ sentNotes stream rooms := by
  induction rooms generalizing stream with
  | nil => exact List.not_mem_nil
  | cons room rooms ih =>
      intro member
      cases member with
      | tail _ later => exact ih _ later

theorem Fetched.answered {net : Reqwest} {timeout index : Nat} {state : ProxyState decoder}
    {actions : List Action} {route : Route} {opening : List Note} {src : String}
    {format : ImageFormat} {response : GetResponse} {rooms : List Nat}
    (executed : (proxy decoder net timeout).run (proxy decoder net timeout).initial actions =
      some state)
    (fetched : Fetched decoder net route opening src format response rooms
      (conversation decoder net timeout index actions)) :
    Answered net index actions route src format response := by
  have said : forall note, note ∈ opening ++ .get (.ok response) ::
      sentNotes (GuardedStream.new format response.body ⟨⟩ src : GuardedStream decoder) rooms ->
        .input index note.input ∈ actions := by
    intro note member
    rw [← fetched.notes] at member
    exact heard_in_conversation member
  refine ⟨fetched.asked, ?_, ?_, ?_, fetched.succeeded⟩
  · rcases fetched.decided with ⟨decided, _⟩ | ⟨ambiguous, head, rfl, decided⟩
    · exact Or.inl decided
    · exact Or.inr ⟨ambiguous, head, said (.head (.ok head)) List.mem_cons_self, decided⟩
  · exact said (.get (.ok response)) (List.mem_append_right _ List.mem_cons_self)
  · intro result listed
    have member := answer_in_conversation executed listed
    rw [fetched.notes] at member
    rcases List.mem_append.mp member with early | late
    · exact absurd early (get_mem_opening fetched.decided result)
    · cases late with
      | head => rfl
      | tail _ polled => exact absurd polled (get_mem_sentNotes _ rooms result)

/-- However requests interleave, a client is sent its own image: what the
pipeline of its own format delivers for the one answer to its own GET. -/
theorem clients_receive_their_image (decoder : GzipDecoder) (net : Reqwest)
    (timeout index : Nat) (actions : List Action) (state : ProxyState decoder)
    (request : Request decoder)
    (executed : (proxy decoder net timeout).run (proxy decoder net timeout).initial actions =
      some state)
    (found : state.requests[index]? = some request)
    (positive : forall room, .input index (.pollBody room) ∈ actions -> 0 < room) :
    ReceivesOwnImage decoder net timeout index actions request.route := by
  rcases (conversed executed found).served with
    silent | ⟨opening, src, format, response, rooms, fetched⟩
  · exact Or.inl silent
  · have readable := fetched.readable fun room answer member =>
      positive room (heard_in_conversation member)
    refine Or.inr ⟨src, format, response, fetched.answered executed, ?_⟩
    rw [fetched.answers, fetched.polledRooms]
    exact ⟨freshPolls_front decoder format response.body ⟨⟩ src readable,
      freshPolls_complete decoder format response.body ⟨⟩ src readable⟩

/-- The first of two requests for an image streams, the second is refused. -/
def overlappingImports : List Action :=
  startImport ++ [.input 0 (.getAnswered (.ok ⟨StatusCode.ok, ⟨[[1, 2]], .eof, []⟩⟩)), .advance 1,
    .input 0 (.pollBody 1), .advance 1, .advance 1, .advance 1, .advance 1]

theorem first_import_receives_its_image :
    okBytes (items (answers (conversation storedGzip rawUpstream 60 0 overlappingImports))) = [1] ∧
      ReceivesOwnImage storedGzip rawUpstream 60 0 overlappingImports rawImport := by
  refine ⟨rfl, clients_receive_their_image storedGzip rawUpstream 60 0 overlappingImports _ _ rfl
    rfl ?_⟩
  intro room listed
  simp [overlappingImports, startImport] at listed
  omega

/-! ## The order of what is sent upstream -/

/-- Everything that a request for this source can come to do. -/
def course (net : Reqwest) (src : String) : List Event :=
  probeEvents net src ++ [.lockAcquired, .getSent, .lockReleased]

/-- The GET is sent and the lock is held. -/
def Transferring (net : Reqwest) (route : Route) (events : List Event) : Prop :=
  Exists fun client => Exists fun src => Accepted route client src ∧
    events = probeEvents net src ++ [.lockAcquired, .getSent]

/-- What was done is a front part of the course for an accepted source. -/
def InOrder (net : Reqwest) (route : Route) (events : List Event) : Prop :=
  events = [] ∨ Exists fun client => Exists fun src => Accepted route client src ∧
    events <+: course net src

theorem probeEvents_of_ambiguous {net : Reqwest} {src : String}
    (ambiguous : detectFormatFromExtension net src = none) :
    probeEvents net src = [.headSent] := by
  rw [probeEvents, ambiguous]
  rfl

namespace InOrder

variable {net : Reqwest} {route : Route} {client : Client} {src : String}

theorem probed (accepted : Accepted route client src) :
    InOrder net route (probeEvents net src) :=
  Or.inr ⟨client, src, accepted, List.prefix_append _ _⟩

theorem of_transferring {events : List Event} (transferring : Transferring net route events) :
    InOrder net route events := by
  rcases transferring with ⟨client, src, accepted, rfl⟩
  exact Or.inr ⟨client, src, accepted, List.prefix_append_right_inj _ |>.mpr
    (List.prefix_append [Event.lockAcquired, .getSent] [.lockReleased])⟩

theorem released {events : List Event} (transferring : Transferring net route events) :
    InOrder net route (events ++ [.lockReleased]) := by
  rcases transferring with ⟨client, src, accepted, rfl⟩
  rw [List.append_assoc]
  exact Or.inr ⟨client, src, accepted, List.prefix_rfl⟩

end InOrder

/-- What a request can have done when it stands here, where `Faithful` does not
say it already. -/
def Request.Orderly (net : Reqwest) (request : Request decoder) : Prop :=
  match request.phase with
  | .handling (.failing _) | .responded (.ok _) => Transferring net request.route request.events
  | .handling (.refused _) | .responded (.error _) => InOrder net request.route request.events
  | .dropping teardown => InOrder net request.route request.events ∧
      (.importGuard ∈ teardown.left -> Transferring net request.route request.events)
  | .arrived | .handling _ => True

namespace Request

variable {net : Reqwest} {locked : Bool} {request next : Request decoder} {effect : Effect}

theorem orderly_drop (faithful : request.Faithful net) (orderly : request.Orderly net)
    (loose : droppable request.phase = true) :
    InOrder net request.route request.events ∧
      (.importGuard ∈ request.held -> Transferring net request.route request.events) := by
  unfold Faithful at faithful
  unfold Orderly at orderly
  unfold held
  cases here : request.phase with
  | arrived =>
      rw [here] at faithful
      rw [faithful.1]
      exact ⟨Or.inl rfl, nofun⟩
  | dropping => rw [here] at loose; cases loose
  | responded result =>
      rw [here] at orderly
      cases result with
      | error error =>
          refine ⟨orderly, ?_⟩
          intro holds
          cases List.mem_singleton.mp holds
      | ok response => exact ⟨InOrder.of_transferring orderly, fun _ => orderly⟩
  | handling frame =>
      rw [here] at faithful loose
      cases frame with
      | probing client src =>
          rcases faithful.1 with ⟨accepted, ambiguous, same⟩
          rw [same, ← probeEvents_of_ambiguous ambiguous]
          refine ⟨InOrder.probed accepted, ?_⟩
          intro holds
          cases List.mem_singleton.mp holds
      | fetching client src format =>
          rcases faithful.1 with ⟨accepted, _, same⟩
          have transferring : Transferring net request.route request.events :=
            ⟨client, src, accepted, same⟩
          exact ⟨InOrder.of_transferring transferring, fun _ => transferring⟩
      | received | detecting | locking | connecting | failing | refused => cases loose

theorem orderly_advance (faithful : request.Faithful net) (orderly : request.Orderly net)
    (step : request.advance net locked = some (next, effect)) : next.Orderly net := by
  unfold Faithful at faithful
  unfold Orderly at orderly
  cases advanced step with
  | entered here =>
      rw [here] at faithful
      unfold Orderly
      simp only [goto]
      cases request.route with
      | image params => trivial
      | fallback path => exact Or.inl (by rw [faithful.1]; rfl)
  | missing params here _ | rejected params _ here _ _ =>
      rw [here] at faithful
      exact Or.inl (by change request.events ++ [] = []; rw [faithful.1.2]; rfl)
  | accepted | named | ambiguous | locked | connected => trivial
  | busy client src format here _ =>
      rw [here] at faithful
      rcases faithful.1 with ⟨accepted, _, same⟩
      change InOrder net request.route (request.events ++ [])
      rw [List.append_nil, same]
      exact InOrder.probed accepted
  | failed reason here =>
      rw [here] at orderly
      exact InOrder.released orderly
  | refused error here =>
      rw [here] at orderly
      exact orderly
  | released resource left suffix here =>
      rw [here] at orderly
      rcases orderly with ⟨inOrder, transferring⟩
      have distinct : (resource :: left).Nodup := suffix.sublist.nodup releaseOrder_nodup
      cases resource with
      | importGuard =>
          refine ⟨InOrder.released (transferring List.mem_cons_self), ?_⟩
          intro still
          exact absurd still (List.nodup_cons.mp distinct).1
      | upstream | activeRequest =>
          change InOrder net request.route (request.events ++ []) ∧
            (_ -> Transferring net request.route (request.events ++ []))
          rw [List.append_nil]
          exact ⟨inOrder, fun still => transferring (List.mem_cons_of_mem _ still)⟩

theorem orderly_input {input : Input} (faithful : request.Faithful net)
    (orderly : request.Orderly net) (step : request.input input = some (next, effect)) :
    next.Orderly net := by
  cases received step with
  | unprobed client src reason here =>
      unfold Faithful at faithful
      rw [here] at faithful
      rcases faithful.1 with ⟨accepted, ambiguous, same⟩
      change InOrder net request.route (request.events ++ [])
      rw [List.append_nil, same, ← probeEvents_of_ambiguous ambiguous]
      exact InOrder.probed accepted
  | probed => trivial
  | unreachable client src format _ here | turnedAway client src format _ here _ =>
      unfold Faithful at faithful
      rw [here] at faithful
      change Transferring net request.route (request.events ++ [])
      rw [List.append_nil]
      exact ⟨client, src, faithful.1.1, faithful.1.2.2⟩
  | streaming client src format response here _ =>
      unfold Faithful at faithful
      rw [here] at faithful
      exact ⟨client, src, faithful.1.1, faithful.1.2.2⟩
  | polledText => exact orderly
  | polled room response here =>
      unfold Orderly at orderly
      rw [here] at orderly
      exact orderly
  | dropped loose =>
      change InOrder net request.route request.events ∧
        (.importGuard ∈ request.held -> Transferring net request.route request.events)
      exact orderly_drop faithful orderly loose

theorem Orderly.inOrder (orderly : request.Orderly net) (faithful : request.Faithful net) :
    InOrder net request.route request.events := by
  unfold Faithful at faithful
  unfold Orderly at orderly
  cases here : request.phase with
  | arrived =>
      rw [here] at faithful
      exact Or.inl faithful.1
  | responded result =>
      rw [here] at orderly
      cases result with
      | error error => exact orderly
      | ok response => exact InOrder.of_transferring orderly
  | dropping teardown =>
      rw [here] at orderly
      exact orderly.1
  | handling frame =>
      rw [here] at faithful orderly
      cases frame with
      | received | detecting => exact Or.inl faithful.1.2
      | probing client src =>
          rcases faithful.1 with ⟨accepted, ambiguous, same⟩
          rw [same, ← probeEvents_of_ambiguous ambiguous]
          exact InOrder.probed accepted
      | locking client src format =>
          rw [faithful.1.2.2]
          exact InOrder.probed faithful.1.1
      | connecting client src format =>
          rw [faithful.1.2.2]
          exact Or.inr ⟨client, src, faithful.1.1, List.prefix_append_right_inj _ |>.mpr
            (List.prefix_append [Event.lockAcquired] [.getSent, .lockReleased])⟩
      | fetching client src format =>
          exact InOrder.of_transferring ⟨client, src, faithful.1.1, faithful.1.2.2⟩
      | failing reason => exact InOrder.of_transferring orderly
      | refused error => exact orderly

end Request

theorem Followed.orderly {net : Reqwest} {locked : Bool} {before after : Option (Request decoder)}
    {said : List Note} (followed : Followed net locked before after said)
    (held : forall request, before = some request -> request.Faithful net ∧ request.Orderly net) :
    forall request, after = some request -> request.Faithful net ∧ request.Orderly net := by
  cases followed with
  | arrived route =>
      rintro request ⟨⟩
      exact ⟨⟨rfl, rfl⟩, trivial⟩
  | resting => exact held
  | advanced before after effect step =>
      rcases held before rfl with ⟨faithful, orderly⟩
      rintro request ⟨⟩
      exact ⟨Request.faithful_advance faithful step,
        Request.orderly_advance faithful orderly step⟩
  | received before after effect input step =>
      rcases held before rfl with ⟨faithful, orderly⟩
      rintro request ⟨⟩
      exact ⟨Request.faithful_input faithful step, Request.orderly_input faithful orderly step⟩

theorem orderly {net : Reqwest} {timeout index : Nat} {state : ProxyState decoder}
    {request : Request decoder} (reachable : (proxy decoder net timeout).Reachable state)
    (found : state.requests[index]? = some request) : request.Orderly net := by
  have held : forall request, state.requests[index]? = some request ->
      request.Faithful net ∧ request.Orderly net := by
    apply (proxy decoder net timeout).invariant
      (fun state => forall request, state.requests[index]? = some request ->
        request.Faithful net ∧ request.Orderly net) _ _ reachable
    · intro request impossible
      cases impossible
    · intro before action after held step
      exact (followed step).orderly held
  exact (held request found).2

/-- How a request uses the upstream: in order, for its own accepted source, and
through the client that its own parameters select. -/
structure UpstreamUse (net : Reqwest) (request : Request decoder) : Prop where
  inOrder : InOrder net request.route request.events
  head : forall client src, request.phase = .handling (.probing client src) ->
    Accepted request.route client src ∧ detectFormatFromExtension net src = none
  get : forall client src format, request.phase = .handling (.fetching client src format) ->
    Accepted request.route client src

/-- However requests interleave, each uses the upstream in the one order: a
HEAD request if the extension does not decide, the lock, one GET request, and
the release of the lock. -/
theorem upstream_used_in_order (decoder : GzipDecoder) (net : Reqwest) (timeout : Nat)
    (state : ProxyState decoder) (reachable : (proxy decoder net timeout).Reachable state)
    (request : Request decoder) (standing : request ∈ state.requests) :
    UpstreamUse net request := by
  rcases List.mem_iff_getElem?.mp standing with ⟨index, found⟩
  have stands := faithful reachable found
  refine ⟨(orderly reachable found).inOrder stands, ?_, ?_⟩
  · intro client src here
    unfold Request.Faithful at stands
    rw [here] at stands
    exact ⟨stands.1.1, stands.1.2.1⟩
  · intro client src format here
    unfold Request.Faithful at stands
    rw [here] at stands
    exact stands.1.1

/-- A request whose path decides the format sends its GET behind the lock. -/
theorem waiting_import_in_order :
    Exists fun request : Request storedGzip =>
      UpstreamUse rawUpstream request ∧ request.events = [.lockAcquired, .getSent] :=
  ⟨_, upstream_used_in_order storedGzip rawUpstream 60 _ ⟨startImport, rfl⟩ _ List.mem_cons_self,
    rfl⟩

end Service
end XoaProxy
