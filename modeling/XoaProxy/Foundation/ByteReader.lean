import Mathlib.Data.List.Basic

namespace XoaProxy

/-!
# Byte readers with a known content

A reader answers a request for at most `room` bytes with some bytes, with the
end of the file, or with an error.  The laws carried by `Reader` say what is
still to come in every state: a read returns a nonempty prefix of it, and the
end of the file is reported only when nothing is left.  A read that fails may
lose bytes, and each reader says how many; one that loses none reports an
error, too, only when nothing is left.  How the bytes are cut is left open, so
two readers of the same content may answer with different pieces.

Adapters are readers built over readers.  `chunkReader` serves a list of
chunks and skips the empty ones, `bufReader` puts a transparent buffer in
front of another reader.  `polls` turns a reader into a sequence of items, one
for each successful read, and closes after the terminal answer; `Polled` ties
the items to the content.
-/

universe u v

/-- How a source of bytes ends. -/
inductive Ending (Error : Type u) where
  | eof
  | failed (error : Error)
deriving DecidableEq, Repr

/-- The answer to one read. -/
inductive ReadResult (State : Type) (Byte : Type) (Error : Type) where
  | bytes (got : List Byte) (next : State)
  | eof
  | failed (error : Error)

/-- An answer agrees with what was still to come: bytes are a nonempty prefix
that fits the room, the end is reported when nothing is left, and an error
when no more is left than may be lost. -/
def ReadResult.Honest {State Byte Error : Type} (content : State -> List Byte)
    (ending : State -> Ending Error) (room loss : Nat) (left : List Byte)
    (final : Ending Error) : ReadResult State Byte Error -> Prop
  | .bytes got next =>
      got ≠ [] ∧ got.length ≤ room ∧ left = got ++ content next ∧ final = ending next
  | .eof => left = [] ∧ final = .eof
  | .failed error => left.length ≤ loss ∧ final = .failed error

/-- A reader together with the bytes and the ending that each state still has
in front of it.  A read that fails loses at most `loss` bytes, which depends on
the room it was given. -/
structure Reader (Byte Error : Type) where
  State : Type
  read : State -> Nat -> ReadResult State Byte Error
  content : State -> List Byte
  ending : State -> Ending Error
  loss : Nat -> Nat
  honest : forall state room, 0 < room ->
    (read state room).Honest content ending room (loss room) (content state) (ending state)

variable {Byte Error : Type}

/-- The answer that a fully consumed source keeps giving. -/
def Ending.answer {State : Type} : Ending Error -> ReadResult State Byte Error
  | .eof => .eof
  | .failed error => .failed error

theorem take_bytes {got : List Byte} {room : Nat} (nonempty : got ≠ []) (positive : 0 < room) :
    got.take room ≠ [] ∧ (got.take room).length ≤ room := by
  refine ⟨?_, List.length_take_le _ _⟩
  intro empty
  rcases List.take_eq_nil_iff.mp empty with zero | nil
  · omega
  · exact nonempty nil

theorem answer_honest {State : Type} (content : State -> List Byte)
    (endings : State -> Ending Error) (room loss : Nat) (ending : Ending Error) :
    (ending.answer : ReadResult State Byte Error).Honest content endings room loss [] ending := by
  cases ending with
  | eof => exact ⟨rfl, rfl⟩
  | failed error => exact ⟨Nat.zero_le loss, rfl⟩

/-- A source of chunks with the unread rest of the current one. -/
structure ChunkState (Byte Error : Type) where
  current : List Byte
  pending : List (List Byte)
  ending : Ending Error

namespace ChunkState

/-- The next nonempty chunk.  An empty chunk is skipped, never reported. -/
def nextChunk : List (List Byte) -> Option (List Byte × List (List Byte))
  | [] => none
  | [] :: rest => nextChunk rest
  | (byte :: bytes) :: rest => some (byte :: bytes, rest)

theorem nextChunk_eq_some {chunks rest : List (List Byte)} {chunk : List Byte}
    (found : nextChunk chunks = some (chunk, rest)) :
    chunk ≠ [] ∧ chunks.flatten = chunk ++ rest.flatten := by
  induction chunks with
  | nil => cases found
  | cons head tail ih =>
      cases head with
      | nil => simpa only [List.flatten_cons, List.nil_append] using ih found
      | cons byte bytes =>
          cases found
          exact ⟨List.cons_ne_nil _ _, List.flatten_cons⟩

theorem nextChunk_eq_none {chunks : List (List Byte)} (found : nextChunk chunks = none) :
    chunks.flatten = [] := by
  induction chunks with
  | nil => rfl
  | cons head tail ih =>
      cases head with
      | nil => simpa only [List.flatten_cons, List.nil_append] using ih found
      | cons byte bytes => cases found

/-- Serve at most `room` bytes of a nonempty current chunk. -/
def serve (pending : List (List Byte)) (ending : Ending Error) (current : List Byte)
    (room : Nat) : ReadResult (ChunkState Byte Error) Byte Error :=
  .bytes (current.take room) ⟨current.drop room, pending, ending⟩

def read (state : ChunkState Byte Error) (room : Nat) :
    ReadResult (ChunkState Byte Error) Byte Error :=
  match state.current with
  | byte :: bytes => serve state.pending state.ending (byte :: bytes) room
  | [] =>
      match nextChunk state.pending with
      | some (chunk, rest) => serve rest state.ending chunk room
      | none => state.ending.answer

def content (state : ChunkState Byte Error) : List Byte :=
  state.current ++ state.pending.flatten

theorem serve_honest (pending : List (List Byte)) (ending : Ending Error) {chunk : List Byte}
    {room : Nat} (nonempty : chunk ≠ []) (positive : 0 < room) :
    (serve pending ending chunk room).Honest content ChunkState.ending room 0
      (chunk ++ pending.flatten) ending := by
  have cut := take_bytes nonempty positive
  refine ⟨cut.1, cut.2, ?_, rfl⟩
  rw [content, ← List.append_assoc, List.take_append_drop]

end ChunkState

/-- A list of chunks read in order, as a lawful reader. -/
def chunkReader (Byte Error : Type) : Reader Byte Error where
  State := ChunkState Byte Error
  read := ChunkState.read
  content := ChunkState.content
  ending := ChunkState.ending
  loss := fun _ => 0
  honest := by
    rintro ⟨current, pending, ending⟩ room positive
    cases current with
    | cons byte bytes =>
        exact ChunkState.serve_honest pending ending (List.cons_ne_nil byte bytes) positive
    | nil =>
        cases found : ChunkState.nextChunk pending with
        | some pair =>
            have split := ChunkState.nextChunk_eq_some found
            simp only [ChunkState.read, found, ChunkState.content, List.nil_append, split.2]
            exact ChunkState.serve_honest pair.2 ending split.1 positive
        | none =>
            have nothing := ChunkState.nextChunk_eq_none found
            simp only [ChunkState.read, found, ChunkState.content, List.nil_append, nothing]
            exact answer_honest _ _ room 0 ending

/-- A buffer holding bytes already taken from the reader behind it. -/
structure BufState (inner : Reader Byte Error) where
  buffer : List Byte
  behind : inner.State

/-- Read through a buffer of the given capacity.  An empty buffer is refilled,
except that a read at least as large as the buffer bypasses it. -/
def BufState.read {inner : Reader Byte Error} (capacity : Nat) (state : BufState inner)
    (room : Nat) : ReadResult (BufState inner) Byte Error :=
  match state.buffer with
  | byte :: bytes =>
      .bytes ((byte :: bytes).take room) ⟨(byte :: bytes).drop room, state.behind⟩
  | [] =>
      match inner.read state.behind (max capacity room) with
      | .bytes got behind => .bytes (got.take room) ⟨got.drop room, behind⟩
      | .eof => .eof
      | .failed error => .failed error

/-- A buffer changes how the bytes behind it are cut and nothing else. -/
def bufReader (capacity : Nat) (inner : Reader Byte Error) : Reader Byte Error where
  State := BufState inner
  read := BufState.read capacity
  content := fun state => state.buffer ++ inner.content state.behind
  ending := fun state => inner.ending state.behind
  loss := fun room => inner.loss (max capacity room)
  honest := by
    rintro ⟨buffer, behind⟩ room positive
    cases buffer with
    | cons byte bytes =>
        have cut := take_bytes (List.cons_ne_nil byte bytes) positive
        refine ⟨cut.1, cut.2, ?_, rfl⟩
        rw [← List.append_assoc, List.take_append_drop]
    | nil =>
        have spec := inner.honest behind (max capacity room) (by omega)
        simp only [BufState.read, List.nil_append]
        cases filled : inner.read behind (max capacity room) with
        | eof => rw [filled] at spec; exact spec
        | failed error => rw [filled] at spec; exact spec
        | bytes taken rest =>
            rw [filled] at spec
            have cut := take_bytes spec.1 positive
            refine ⟨cut.1, cut.2, ?_, spec.2.2.2⟩
            rw [← List.append_assoc, List.take_append_drop]
            exact spec.2.2.1

/-! ## From reads to items -/

/-- One item of a byte stream: a piece of content or the error that ends it. -/
abbrev Item (Byte Error : Type) := Except Error (List Byte)

/-- Poll a reader for one item.  The reader is given up after its end and
after an error, and every later poll reports the end again. -/
def pollNext (reader : Reader Byte Error) (room : Nat) :
    Option reader.State -> Option (Item Byte Error) × Option reader.State
  | none => (none, none)
  | some state =>
      match reader.read state room with
      | .bytes got next => (some (.ok got), some next)
      | .eof => (none, none)
      | .failed error => (some (.error error), none)

/-- The answers to a list of polls, each with its own buffer size. -/
def polls (reader : Reader Byte Error) : Option reader.State -> List Nat ->
    List (Option (Item Byte Error)) × Option reader.State
  | state, [] => ([], state)
  | state, room :: rooms =>
      let first := pollNext reader room state
      let later := polls reader first.2 rooms
      (first.1 :: later.1, later.2)

/-- What closes a stream: nothing before a clean end, one error otherwise. -/
def Ending.closing : Ending Error -> List (Item Byte Error)
  | .eof => []
  | .failed error => [.error error]

/-- The bytes carried by the successful items. -/
def okBytes (items : List (Item Byte Error)) : List Byte :=
  items.flatMap fun item =>
    match item with
    | .ok bytes => bytes
    | .error _ => []

theorem okBytes_oks (pieces : List (List Byte)) :
    okBytes (pieces.map (Except.ok (ε := Error))) = pieces.flatten := by
  induction pieces with
  | nil => rfl
  | cons piece rest ih =>
      change piece ++ okBytes (rest.map Except.ok) = _
      rw [ih, List.flatten_cons]

theorem okBytes_append (first second : List (Item Byte Error)) :
    okBytes (first ++ second) = okBytes first ++ okBytes second :=
  List.flatMap_append

theorem okBytes_closing (ending : Ending Error) :
    okBytes (ending.closing : List (Item Byte Error)) = [] := by
  cases ending <;> rfl

/-- An error is among the items exactly when the ending is one. -/
theorem error_mem_closing_iff (pieces : List (List Byte)) (ending : Ending Error) :
    (Exists fun error => Except.error error ∈ pieces.map Except.ok ++ ending.closing) ↔
      ending ≠ .eof := by
  have unlisted : forall error : Error,
      (Except.error error : Item Byte Error) ∉ pieces.map Except.ok := by
    intro error member
    rcases List.mem_map.mp member with ⟨_, _, impossible⟩
    cases impossible
  constructor
  · rintro ⟨error, member⟩ rfl
    rcases List.mem_append.mp member with listed | closing
    · exact unlisted error listed
    · cases closing
  · intro fails
    cases ending with
    | eof => exact absurd rfl fails
    | failed error => exact ⟨error, List.mem_append_right _ List.mem_cons_self⟩

/-- The items among the answers, in order. -/
def items (answers : List (Option (Item Byte Error))) : List (Item Byte Error) :=
  answers.filterMap id

/-- What can be missing behind some pieces of a stream: nothing at a clean end,
and in front of an error at most what the read that failed may lose. -/
def Missing (loss : Nat -> Nat) (rooms : List Nat) (pieces : List (List Byte))
    (ending : Ending Error) (lost : List Byte) : Prop :=
  lost = [] ∨ (ending ≠ .eof ∧ Exists fun room =>
    rooms[pieces.length]? = some room ∧ lost.length ≤ loss room)

/-- The items of a stream up to its end: nonempty pieces of the content in
order, then what closes it. -/
def Whole (loss : Nat -> Nat) (rooms : List Nat) (content : List Byte) (ending : Ending Error)
    (items : List (Item Byte Error)) : Prop :=
  Exists fun pieces : List (List Byte) => Exists fun lost : List Byte =>
    items = pieces.map Except.ok ++ ending.closing ∧
      pieces.flatten ++ lost = content ∧
      (forall piece, piece ∈ pieces -> piece ≠ []) ∧
      Missing loss rooms pieces ending lost

/-- What a list of polls can have answered: some pieces so far with the rest
still to come, or all pieces, the closing item and only ends after that. -/
inductive Polled (reader : Reader Byte Error) (state : reader.State) (rooms : List Nat) :
    List (Option (Item Byte Error)) -> Option reader.State -> Prop
  | running (pieces : List (List Byte)) (next : reader.State)
      (nonempty : forall piece, piece ∈ pieces -> piece ≠ [])
      (content : reader.content state = pieces.flatten ++ reader.content next)
      (ending : reader.ending state = reader.ending next) :
      Polled reader state rooms (pieces.map fun piece => some (.ok piece)) (some next)
  | closed (pieces : List (List Byte)) (lost : List Byte) (silent : Nat)
      (nonempty : forall piece, piece ∈ pieces -> piece ≠ [])
      (content : reader.content state = pieces.flatten ++ lost)
      (missing : Missing reader.loss rooms pieces (reader.ending state) lost) :
      Polled reader state rooms
        ((pieces.map fun piece => some (.ok piece)) ++
          ((reader.ending state).closing.map some ++ List.replicate silent none)) none

theorem polls_none (reader : Reader Byte Error) (rooms : List Nat) :
    polls reader none rooms = (List.replicate rooms.length none, none) := by
  induction rooms with
  | nil => rfl
  | cons room rooms ih => simp only [polls, pollNext, ih, List.length_cons, List.replicate_succ]

/-- One more piece in front of what the later polls answer. -/
theorem Polled.cons {reader : Reader Byte Error} {state next : reader.State} {room : Nat}
    {rooms : List Nat} {piece : List Byte} {answers : List (Option (Item Byte Error))}
    {final : Option reader.State} (nonempty : piece ≠ [])
    (content : reader.content state = piece ++ reader.content next)
    (ending : reader.ending state = reader.ending next)
    (later : Polled reader next rooms answers final) :
    Polled reader state (room :: rooms) (some (.ok piece) :: answers) final := by
  have extend : forall pieces : List (List Byte), (forall member, member ∈ pieces -> member ≠ []) ->
      forall member, member ∈ piece :: pieces -> member ≠ [] := by
    intro pieces rest member listed
    rcases List.mem_cons.mp listed with same | listed
    · exact same ▸ nonempty
    · exact rest member listed
  cases later with
  | running pieces final restNonempty restContent restEnding =>
      apply Polled.running (piece :: pieces) final (extend pieces restNonempty)
      · rw [content, restContent, List.flatten_cons, List.append_assoc]
      · exact ending.trans restEnding
  | closed pieces lost silent restNonempty restContent missing =>
      rw [← ending] at missing ⊢
      apply Polled.closed (piece :: pieces) lost silent (extend pieces restNonempty)
      · rw [content, restContent, List.flatten_cons, List.append_assoc]
      · exact missing

theorem polls_polled (reader : Reader Byte Error) (rooms : List Nat)
    (positive : forall room, room ∈ rooms -> 0 < room) (state : reader.State) :
    Polled reader state rooms (polls reader (some state) rooms).1
      (polls reader (some state) rooms).2 := by
  induction rooms generalizing state with
  | nil => exact Polled.running [] state (fun _ member => by cases member) rfl rfl
  | cons room rooms ih =>
      have here := positive room List.mem_cons_self
      have rest := fun next => ih (fun room member =>
        positive room (List.mem_cons_of_mem _ member)) next
      have spec := reader.honest state room here
      cases answered : reader.read state room with
      | bytes got next =>
          rw [answered] at spec
          simp only [polls, pollNext, answered]
          exact Polled.cons spec.1 spec.2.2.1 spec.2.2.2 (rest next)
      | eof =>
          rw [answered] at spec
          simp only [polls, pollNext, answered, polls_none, ← List.replicate_succ]
          have closed : Polled reader state (room :: rooms) _ none :=
            Polled.closed [] [] (rooms.length + 1) (fun _ member => by cases member) spec.1
              (Or.inl rfl)
          rw [spec.2] at closed
          exact closed
      | failed error =>
          rw [answered] at spec
          simp only [polls, pollNext, answered, polls_none]
          have fails : reader.ending state ≠ .eof := by
            intro clean
            cases spec.2.symm.trans clean
          have closed : Polled reader state (room :: rooms) _ none :=
            Polled.closed [] (reader.content state) rooms.length
              (fun _ member => by cases member) rfl (Or.inr ⟨fails, room, rfl, spec.1⟩)
          rw [spec.2] at closed
          exact closed

theorem polls_length (reader : Reader Byte Error) (state : Option reader.State)
    (rooms : List Nat) : (polls reader state rooms).1.length = rooms.length := by
  induction rooms generalizing state with
  | nil => rfl
  | cons room rooms ih => simp only [polls, List.length_cons, ih]

theorem items_somes (values : List (Item Byte Error)) : items (values.map some) = values := by
  rw [items, List.filterMap_map]
  exact List.filterMap_some

theorem items_pieces (pieces : List (List Byte)) :
    items (pieces.map fun piece => some (Except.ok (ε := Error) piece)) =
      pieces.map Except.ok := by
  rw [← items_somes (pieces.map Except.ok), List.map_map]
  rfl

theorem items_closed (pieces : List (List Byte)) (ending : Ending Error) (silent : Nat) :
    items ((pieces.map fun piece => some (Except.ok piece)) ++
      (ending.closing.map some ++ List.replicate silent none)) =
        pieces.map Except.ok ++ ending.closing := by
  have quiet : items (List.replicate silent (none : Option (Item Byte Error))) = [] := by
    simp only [items, List.filterMap_replicate, id_eq]
  have split := fun first second : List (Option (Item Byte Error)) =>
    (List.filterMap_append : (first ++ second).filterMap id = _)
  rw [items, split, split]
  change items _ ++ (items _ ++ items _) = _
  rw [items_pieces, items_somes, quiet, List.append_nil]

/-- As long as the polls last, the items are pieces of a prefix of the
content, followed by at most the closing item. -/
theorem items_prefix {reader : Reader Byte Error} {state : reader.State}
    {rooms : List Nat} {answers : List (Option (Item Byte Error))}
    {final : Option reader.State} (polled : Polled reader state rooms answers final) :
    okBytes (items answers) <+: reader.content state := by
  cases polled with
  | running pieces next _ content _ =>
      rw [items_pieces, okBytes_oks, content]
      exact List.prefix_append _ _
  | closed pieces lost silent _ content _ =>
      rw [items_closed, okBytes_append, okBytes_oks, okBytes_closing, content, List.append_nil]
      exact List.prefix_append _ _

/-- A reader whose end was reported has been given up. -/
theorem Polled.given_up {reader : Reader Byte Error} {state : reader.State} {rooms : List Nat}
    {answers : List (Option (Item Byte Error))} {final : Option reader.State}
    (polled : Polled reader state rooms answers final) (ended : none ∈ answers) :
    final = none := by
  cases polled with
  | running pieces next _ _ _ =>
      rcases List.mem_map.mp ended with ⟨_, _, impossible⟩
      cases impossible
  | closed => rfl

/-- Once the reader has been given up, the items are the stream up to its end. -/
theorem items_complete {reader : Reader Byte Error} {state : reader.State} {rooms : List Nat}
    {answers : List (Option (Item Byte Error))} {final : Option reader.State}
    (polled : Polled reader state rooms answers final) (done : final = none) :
    Whole reader.loss rooms (reader.content state) (reader.ending state) (items answers) := by
  cases polled with
  | running => cases done
  | closed pieces lost silent nonempty content missing =>
      exact ⟨pieces, lost, items_closed pieces _ silent, content.symm, nonempty, missing⟩

/-- A stream carries an error exactly when it ends in one. -/
theorem Whole.error_iff {loss : Nat -> Nat} {rooms : List Nat} {content : List Byte}
    {ending : Ending Error} {items : List (Item Byte Error)}
    (whole : Whole loss rooms content ending items) :
    (Exists fun error => Except.error error ∈ items) ↔ ending ≠ .eof := by
  rcases whole with ⟨pieces, _, rfl, _⟩
  exact error_mem_closing_iff pieces ending

/-- Nothing is missing in a stream that ends cleanly. -/
theorem Whole.of_eof {loss : Nat -> Nat} {rooms : List Nat} {content : List Byte}
    {items : List (Item Byte Error)} (whole : Whole loss rooms content .eof items) :
    Exists fun pieces : List (List Byte) =>
      items = pieces.map Except.ok ∧ pieces.flatten = content := by
  rcases whole with ⟨pieces, lost, listed, joined, _, missing⟩
  rcases missing with nothing | ⟨fails, _⟩
  · exact ⟨pieces, listed.trans (List.append_nil _),
      (List.append_nil _).symm.trans (nothing ▸ joined)⟩
  · exact absurd rfl fails

theorem length_le_flatten {pieces : List (List Byte)}
    (nonempty : forall piece, piece ∈ pieces -> piece ≠ []) :
    pieces.length ≤ pieces.flatten.length := by
  induction pieces with
  | nil => exact Nat.zero_le _
  | cons piece rest ih =>
      have here := List.length_pos_iff.mpr (nonempty piece List.mem_cons_self)
      have later := ih fun piece member => nonempty piece (List.mem_cons_of_mem _ member)
      rw [List.flatten_cons, List.length_append, List.length_cons]
      omega

/-- A stream of known content reports its end after one poll per byte and two
more, whatever the buffer sizes are. -/
theorem polls_end (reader : Reader Byte Error) (rooms : List Nat)
    (positive : forall room, room ∈ rooms -> 0 < room) (state : reader.State)
    (enough : (reader.content state).length + 2 ≤ rooms.length) :
    none ∈ (polls reader (some state) rooms).1 := by
  have polled := polls_polled reader rooms positive state
  have length := polls_length reader (some state) rooms
  generalize answersEq : (polls reader (some state) rooms).1 = answers at polled length ⊢
  generalize (polls reader (some state) rooms).2 = final at polled
  cases polled with
  | running pieces next nonempty content _ =>
      have bounded := length_le_flatten nonempty
      rw [content, List.length_append] at enough
      rw [List.length_map] at length
      omega
  | closed pieces lost silent nonempty content _ =>
      have bounded := length_le_flatten nonempty
      have closing : ((reader.ending state).closing : List (Item Byte Error)).length ≤ 1 := by
        cases reader.ending state
        · exact Nat.zero_le 1
        · exact Nat.le_refl 1
      rw [content, List.length_append] at enough
      simp only [List.length_append, List.length_map, List.length_replicate] at length
      have heard : silent ≠ 0 := by omega
      apply List.mem_append_right
      apply List.mem_append_right
      exact List.mem_replicate.mpr ⟨heard, rfl⟩

/-- What is left of a stream: its bytes, and the report of its end. -/
def leftover (reader : Reader Byte Error) : Option reader.State -> Nat
  | none => 0
  | some state => (reader.content state).length + 1

theorem leftover_eq_zero_iff {reader : Reader Byte Error} {state : Option reader.State} :
    leftover reader state = 0 ↔ state = none := by
  cases state <;> simp [leftover]

/-- Every poll with room takes something of it. -/
theorem leftover_pollNext (reader : Reader Byte Error) {room : Nat} (positive : 0 < room)
    (state : reader.State) :
    leftover reader (pollNext reader room (some state)).2 < leftover reader (some state) := by
  have honest := reader.honest state room positive
  rw [pollNext]
  cases answered : reader.read state room with
  | bytes got next =>
      rw [answered] at honest
      rcases honest with ⟨nonempty, _, content, _⟩
      have someBytes := List.length_pos_iff.mpr nonempty
      simp only [leftover, content, List.length_append]
      omega
  | eof => exact Nat.succ_pos _
  | failed error => exact Nat.succ_pos _

end XoaProxy
