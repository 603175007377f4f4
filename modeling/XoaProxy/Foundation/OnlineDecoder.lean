import XoaProxy.Foundation.ByteReader

namespace XoaProxy

/-!
# Online decoders over byte readers

An online decoder consumes its input byte by byte, emits output as it goes,
and knows when the frame it decodes is complete.  `Codec.decode` is its
meaning on a whole input with a given ending: the output that can be decoded,
and whether the decoder then reports the end of the file or an error.  A codec
that is told to expect several frames restarts after each one; otherwise it
reports the end after the first, without looking at what follows.

A `Decoder` runs a codec over a reader.  It is again a lawful reader, so its
content is a function of the content behind it and does not depend on how that
is cut.  When it fails, though, it may lose what it has decoded in the same
read.  `filling` is a decoder that does.
-/

universe u

/-- An online decoder of framed data.  A decoder that has seen nothing of a
frame is not finished with it, so no frame is empty. -/
structure Codec (Byte Error : Type) where
  State : Type
  start : State
  feed : State -> Byte -> Except Error (State × List Byte)
  finished : State -> Bool
  truncated : Error
  fresh : finished start = false

namespace Codec

variable {Byte Error : Type} (codec : Codec Byte Error)

/-- The state in which the next input byte is interpreted. -/
def resume (state : codec.State) : codec.State :=
  if codec.finished state then codec.start else state

/-- The answer to the end of the input.  A decoder between frames passes the
ending of its input on; inside a frame a clean end is a truncation. -/
def atEnd (state : codec.State) (ending : Ending Error) : Ending Error :=
  match ending with
  | .eof => if codec.finished state then .eof else .failed codec.truncated
  | .failed error => .failed error

/-- No input is read after the last expected frame. -/
def stops (several : Bool) (state : codec.State) : Bool :=
  codec.finished state && !several

/-- Everything decoded from an input, and how the decoder ends on it. -/
def decode (several : Bool) : codec.State -> List Byte -> Ending Error ->
    List Byte × Ending Error
  | state, [], ending =>
      if codec.stops several state then ([], .eof) else ([], codec.atEnd state ending)
  | state, byte :: rest, ending =>
      if codec.stops several state then ([], .eof)
      else
        match codec.feed (codec.resume state) byte with
        | .error error => ([], .failed error)
        | .ok (next, out) =>
            let later := decode several next rest ending
            (out ++ later.1, later.2)

/-- Feed a whole input that stays inside one frame up to its last byte. -/
def feedAll : codec.State -> List Byte -> Option (codec.State × List Byte)
  | state, [] => some (state, [])
  | state, byte :: rest =>
      if codec.finished state then none
      else
        match codec.feed state byte with
        | .error _ => none
        | .ok (next, out) => (feedAll next rest).map fun later => (later.1, out ++ later.2)

/-- The first byte is fed inside the frame. -/
theorem feedAll_cons_eq_some {state final : codec.State} {byte : Byte}
    {bytes payload : List Byte}
    (fed : codec.feedAll state (byte :: bytes) = some (final, payload)) :
    codec.finished state = false ∧ Exists fun next => Exists fun out => Exists fun tail =>
      codec.feed state byte = .ok (next, out) ∧ codec.feedAll next bytes = some (final, tail) ∧
        payload = out ++ tail := by
  cases open_ : codec.finished state with
  | true => simp only [feedAll, open_, if_true, reduceCtorEq] at fed
  | false =>
      simp only [feedAll, open_, Bool.false_eq_true, if_false] at fed
      cases one : codec.feed state byte with
      | error error => simp only [one, reduceCtorEq] at fed
      | ok pair =>
          simp only [one, Option.map_eq_some_iff] at fed
          rcases fed with ⟨⟨last, tail⟩, later, same⟩
          cases same
          exact ⟨rfl, pair.1, pair.2, tail, rfl, later, rfl⟩

/-- One complete frame and what it decodes to. -/
def Frame (bytes payload : List Byte) : Prop :=
  Exists fun final => codec.feedAll codec.start bytes = some (final, payload) ∧
    codec.finished final = true

theorem decode_stops {several : Bool} {state : codec.State}
    (stops : codec.stops several state = true) (bytes : List Byte) (ending : Ending Error) :
    codec.decode several state bytes ending = ([], .eof) := by
  cases bytes <;> simp only [decode, stops, if_true]

theorem decode_cons {several : Bool} {state next : codec.State} {byte : Byte} {out : List Byte}
    (runs : codec.stops several state = false)
    (fed : codec.feed (codec.resume state) byte = .ok (next, out))
    (rest : List Byte) (ending : Ending Error) :
    codec.decode several state (byte :: rest) ending =
      (out ++ (codec.decode several next rest ending).1,
        (codec.decode several next rest ending).2) := by
  simp only [decode, runs, Bool.false_eq_true, if_false, fed]

theorem decode_cons_error {several : Bool} {state : codec.State} {byte : Byte} {error : Error}
    (runs : codec.stops several state = false)
    (fed : codec.feed (codec.resume state) byte = .error error)
    (rest : List Byte) (ending : Ending Error) :
    codec.decode several state (byte :: rest) ending = ([], .failed error) := by
  simp only [decode, runs, Bool.false_eq_true, if_false, fed]

/-- Inside a frame the decoder neither stops nor restarts. -/
theorem decode_feedAll (several : Bool) {state final : codec.State}
    {bytes payload : List Byte} (fed : codec.feedAll state bytes = some (final, payload))
    (rest : List Byte) (ending : Ending Error) :
    codec.decode several state (bytes ++ rest) ending =
      (payload ++ (codec.decode several final rest ending).1,
        (codec.decode several final rest ending).2) := by
  induction bytes generalizing state payload with
  | nil =>
      cases fed
      rfl
  | cons byte bytes ih =>
      rcases codec.feedAll_cons_eq_some fed with ⟨open_, next, out, tail, one, later, rfl⟩
      have runs : codec.stops several state = false := by
        simp only [stops, open_, Bool.false_and]
      have here : codec.feed (codec.resume state) byte = .ok (next, out) := by
        simp only [resume, open_, Bool.false_eq_true, if_false, one]
      rw [List.cons_append, codec.decode_cons runs here, ih later, List.append_assoc]

/-- How far one frame reaches into an input: it is complete before the input
is, some byte of it is rejected, or the input ends inside it. -/
inductive Scan (Byte Error : Type) where
  | complete (payload unread : List Byte)
  | rejected (payload : List Byte) (error : Error)
  | unfinished (payload : List Byte)

/-- Output that was emitted before the rest of a scan. -/
def Scan.prepend (out : List Byte) : Scan Byte Error -> Scan Byte Error
  | .complete payload unread => .complete (out ++ payload) unread
  | .rejected payload error => .rejected (out ++ payload) error
  | .unfinished payload => .unfinished (out ++ payload)

def scan : codec.State -> List Byte -> Scan Byte Error
  | state, [] => if codec.finished state then .complete [] [] else .unfinished []
  | state, byte :: rest =>
      if codec.finished state then .complete [] (byte :: rest)
      else
        match codec.feed state byte with
        | .error error => .rejected [] error
        | .ok (next, out) => (scan next rest).prepend out

/-- What a decoder of one frame answers after a scan: the end of the file when
the frame is complete, whatever the ending of the input; the ending of the
input only when it is reached inside the frame. -/
def Scan.outcome (truncated : Error) (ending : Ending Error) :
    Scan Byte Error -> List Byte × Ending Error
  | .complete payload _ => (payload, .eof)
  | .rejected payload error => (payload, .failed error)
  | .unfinished payload =>
      (payload, match ending with
        | .eof => .failed truncated
        | .failed error => .failed error)

theorem Scan.outcome_prepend (truncated : Error) (ending : Ending Error) (out : List Byte)
    (scanned : Scan Byte Error) :
    (scanned.prepend out).outcome truncated ending =
      (out ++ (scanned.outcome truncated ending).1, (scanned.outcome truncated ending).2) := by
  cases scanned <;> rfl

theorem stops_one (state : codec.State) : codec.stops false state = codec.finished state := by
  rw [stops, Bool.not_false, Bool.and_true]

/-- A decoder of a single frame is described by one scan of its input. -/
theorem decode_one_eq_scan (state : codec.State) (bytes : List Byte) (ending : Ending Error) :
    codec.decode false state bytes ending =
      (codec.scan state bytes).outcome codec.truncated ending := by
  induction bytes generalizing state with
  | nil =>
      cases done : codec.finished state with
      | true => simp only [decode, stops_one, scan, done, if_true, Scan.outcome]
      | false =>
          simp only [decode, stops_one, scan, done, Bool.false_eq_true, if_false, Scan.outcome]
          cases ending <;> simp only [atEnd, done, Bool.false_eq_true, if_false]
  | cons byte rest ih =>
      cases done : codec.finished state with
      | true => simp only [decode, stops_one, scan, done, if_true, Scan.outcome]
      | false =>
          have runs : codec.stops false state = false := (codec.stops_one state).trans done
          have here : codec.resume state = state := by
            rw [resume, if_neg (ne_true_of_eq_false done)]
          cases fed : codec.feed state byte with
          | error error =>
              rw [codec.decode_cons_error runs (here.symm ▸ fed)]
              simp only [scan, done, Bool.false_eq_true, if_false, fed, Scan.outcome]
          | ok pair =>
              rw [codec.decode_cons runs (here.symm ▸ fed), ih]
              simp only [scan, done, Bool.false_eq_true, if_false, fed, Scan.outcome_prepend]

/-- The input behind a complete frame is not looked at. -/
theorem scan_frame {bytes payload : List Byte} (frame : codec.Frame bytes payload)
    (rest : List Byte) : codec.scan codec.start (bytes ++ rest) = .complete payload rest := by
  rcases frame with ⟨final, fed, done⟩
  generalize codec.start = state at fed
  induction bytes generalizing state payload with
  | nil =>
      cases fed
      cases rest <;> simp only [List.nil_append, scan, done, if_true]
  | cons byte bytes ih =>
      rcases codec.feedAll_cons_eq_some fed with ⟨open_, next, out, tail, one, later, rfl⟩
      have tailScan := ih next later
      simp only [List.cons_append, scan, open_, Bool.false_eq_true, if_false, one, tailScan,
        Scan.prepend]

/-- A finished decoder that expects more frames goes on as a fresh one. -/
theorem decode_several_resume {state : codec.State} (done : codec.finished state = true)
    (byte : Byte) (rest : List Byte) (ending : Ending Error) :
    codec.decode true state (byte :: rest) ending =
      codec.decode true codec.start (byte :: rest) ending := by
  simp only [decode, stops, done, codec.fresh, Bool.not_true, Bool.and_false, resume, if_true,
    Bool.false_eq_true, if_false]

theorem frame_ne_nil {bytes payload : List Byte} (frame : codec.Frame bytes payload) :
    bytes ≠ [] := by
  rintro rfl
  rcases frame with ⟨final, fed, done⟩
  cases fed
  exact absurd done (ne_true_of_eq_false codec.fresh)

/-- A decoder that expects several frames decodes all of them. -/
theorem decode_several_frames (frames : List (List Byte × List Byte))
    (valid : forall frame, frame ∈ frames -> codec.Frame frame.1 frame.2)
    {state : codec.State} (done : codec.finished state = true) :
    codec.decode true state (frames.flatMap Prod.fst) .eof =
      (frames.flatMap Prod.snd, .eof) := by
  induction frames generalizing state with
  | nil => simp only [List.flatMap_nil, decode, stops, done, Bool.not_true, Bool.and_false,
      Bool.false_eq_true, if_false, atEnd, if_true]
  | cons frame frames ih =>
      have here := valid frame List.mem_cons_self
      have rest := @ih fun frame member => valid frame (List.mem_cons_of_mem _ member)
      rcases frame with ⟨bytes, payload⟩
      rcases here with ⟨final, fed, complete⟩
      rw [List.flatMap_cons, List.flatMap_cons]
      cases bytes with
      | nil => exact absurd rfl (codec.frame_ne_nil ⟨final, fed, complete⟩)
      | cons byte bytes =>
          rw [List.cons_append, codec.decode_several_resume done, ← List.cons_append,
            codec.decode_feedAll true fed, rest complete]

/-! ## Decoders as readers -/

/-- A decoder that is read as a stream.  Its reads hand out, in order, what the
codec decodes from the input behind it, and end as the codec ends.  A read
that fails may lose what it has decoded itself: no more than it had room for
and the decoder was holding back.  The decoder is told how much of its input
has arrived by each read, and nothing is assumed of what it makes of this. -/
structure Decoder (several : Bool) (inner : Reader Byte Error) where
  State : Type
  start : List Nat -> inner.State -> State
  read : State -> Nat -> ReadResult State Byte Error
  content : State -> List Byte
  ending : State -> Ending Error
  held : Nat
  started : forall arrivals behind,
    (content (start arrivals behind), ending (start arrivals behind)) =
      codec.decode several codec.start (inner.content behind) (inner.ending behind)
  honest : forall state room, 0 < room ->
    (read state room).Honest content ending room (room + held) (content state) (ending state)

/-- A decoder as a lawful reader. -/
def Decoder.reader {codec : Codec Byte Error} {several : Bool} {inner : Reader Byte Error}
    (decoder : codec.Decoder several inner) : Reader Byte Error where
  State := decoder.State
  read := decoder.read
  content := decoder.content
  ending := decoder.ending
  loss := fun room => room + decoder.held
  honest := decoder.honest

section Filling

variable (several : Bool) {inner : Reader Byte Error}

/-- What a codec makes of the input that is still behind a reader. -/
def remaining (state : codec.State) (behind : inner.State) : List Byte × Ending Error :=
  codec.decode several state (inner.content behind) (inner.ending behind)

/-- A decoder in the middle of a stream: bytes it has decoded without having
had room for them, and how much input arrives by each of the next reads. -/
structure FillState (inner : Reader Byte Error) where
  state : codec.State
  decoded : List Byte
  behind : inner.State
  arrivals : List Nat

/-- Decode until the room is filled, the frame is complete, or the input that
has arrived is used up while there is something to hand out.  An error leaves
nothing of what was decoded before it. -/
def fill (room : Nat) : Nat -> Nat -> codec.State -> List Byte -> inner.State ->
    Except Error (codec.State × List Byte × inner.State)
  | 0, _, state, decoded, behind => .ok (state, decoded, behind)
  | fuel + 1, arrived, state, decoded, behind =>
      if room ≤ decoded.length ∨ codec.stops several state = true ∨
          (arrived = 0 ∧ decoded.isEmpty = false) then
        .ok (state, decoded, behind)
      else
        match inner.read behind 1 with
        | .eof =>
            match codec.atEnd state .eof with
            | .eof => .ok (state, decoded, behind)
            | .failed error => .error error
        | .failed error => .error error
        | .bytes got next =>
            match got.head? with
            | none => .ok (state, decoded, behind)
            | some byte =>
                match codec.feed (codec.resume state) byte with
                | .error error => .error error
                | .ok (later, out) => fill room fuel (arrived - 1) later (decoded ++ out) next

/-- One read: fill the room from the input that has arrived, by default all of
it.  The fuel is one more than the input has bytes. -/
def fillRead (state : codec.FillState inner) (room : Nat) :
    ReadResult (codec.FillState inner) Byte Error :=
  let fuel := (inner.content state.behind).length + 1
  match codec.fill several room fuel (state.arrivals.headD fuel) state.state state.decoded
      state.behind with
  | .error error => .failed error
  | .ok (later, got, next) =>
      if got.isEmpty then .eof
      else .bytes (got.take room) ⟨later, got.drop room, next, state.arrivals.tail⟩

/-- What filling keeps of a stream.  Decoded bytes stay in front of what
remains; nothing is decoded only at the end of the stream; and when it fails,
less is lost than there was room for. -/
def Filled (room : Nat) (left : List Byte) (final : Ending Error) :
    Except Error (codec.State × List Byte × inner.State) -> Prop
  | .error error => left.length < room ∧ final = .failed error
  | .ok (later, got, next) =>
      left = got ++ (codec.remaining several later next).1 ∧
        final = (codec.remaining several later next).2 ∧
        (got = [] -> left = [] ∧ final = .eof)

/-- A single byte read from a nonempty content is its first byte. -/
theorem read_one {behind next : inner.State} {got : List Byte}
    (answered : inner.read behind 1 = .bytes got next) :
    Exists fun byte => got = [byte] ∧ inner.content behind = byte :: inner.content next ∧
      inner.ending behind = inner.ending next := by
  have spec := inner.honest behind 1 Nat.one_pos
  rw [answered] at spec
  rcases spec with ⟨nonempty, bounded, content, ending⟩
  cases got with
  | nil => exact absurd rfl nonempty
  | cons byte rest =>
      have alone : rest = [] := by
        apply List.eq_nil_of_length_eq_zero
        rw [List.length_cons] at bounded
        omega
      subst alone
      exact ⟨byte, rfl, content, ending⟩

/-- Filling may stop where it is when something is decoded or nothing remains. -/
theorem filled_here {room : Nat} {state : codec.State} {decoded : List Byte}
    {behind : inner.State}
    (settled : decoded = [] -> codec.remaining several state behind = ([], .eof)) :
    codec.Filled several room (decoded ++ (codec.remaining several state behind).1)
      (codec.remaining several state behind).2 (.ok (state, decoded, behind)) := by
  refine ⟨rfl, rfl, ?_⟩
  intro nothing
  rw [nothing, settled nothing]
  exact ⟨rfl, rfl⟩

theorem fill_filled (lossless : inner.loss 1 = 0) {room : Nat} (positive : 0 < room)
    (fuel arrived : Nat) (state : codec.State) (decoded : List Byte) (behind : inner.State)
    (enough : (inner.content behind).length < fuel) :
    codec.Filled several room (decoded ++ (codec.remaining several state behind).1)
      (codec.remaining several state behind).2
      (codec.fill several room fuel arrived state decoded behind) := by
  induction fuel generalizing arrived state decoded behind with
  | zero => exact absurd enough (Nat.not_lt_zero _)
  | succ fuel ih =>
      rw [fill]
      split
      · rename_i settled
        apply filled_here
        rintro rfl
        rcases settled with full | stops | ⟨_, something⟩
        · exact absurd full (Nat.not_le_of_gt positive)
        · exact codec.decode_stops stops _ _
        · cases something
      · rename_i unsettled
        have vacant : decoded.length < room := by
          by_contra full
          exact unsettled (Or.inl (Nat.le_of_not_lt full))
        have runs : codec.stops several state = false := by
          cases stops : codec.stops several state with
          | true => exact absurd (Or.inr (Or.inl stops)) unsettled
          | false => rfl
        have spec := inner.honest behind 1 Nat.one_pos
        cases answered : inner.read behind 1 with
        | eof =>
            rw [answered] at spec
            have last : codec.remaining several state behind = ([], codec.atEnd state .eof) := by
              rw [remaining, spec.1, spec.2, decode, if_neg (ne_true_of_eq_false runs)]
            cases ends : codec.atEnd state .eof with
            | eof =>
                apply filled_here
                intro _
                rw [last, ends]
            | failed error =>
                rw [last, ends, List.append_nil]
                exact ⟨vacant, rfl⟩
        | failed error =>
            rw [answered, lossless] at spec
            have nothing := List.eq_nil_of_length_eq_zero (Nat.le_zero.mp spec.1)
            have last : codec.remaining several state behind = ([], .failed error) := by
              rw [remaining, nothing, spec.2, decode, if_neg (ne_true_of_eq_false runs)]
              rfl
            rw [last, List.append_nil]
            exact ⟨vacant, rfl⟩
        | bytes got next =>
            rcases read_one answered with ⟨byte, single, content, ending⟩
            cases single
            simp only [List.head?_cons]
            cases fed : codec.feed (codec.resume state) byte with
            | error error =>
                have last : codec.remaining several state behind = ([], .failed error) := by
                  rw [remaining, content, codec.decode_cons_error runs fed]
                rw [last, List.append_nil]
                exact ⟨vacant, rfl⟩
            | ok pair =>
                have shorter : (inner.content next).length < fuel := by
                  rw [content, List.length_cons] at enough
                  exact Nat.lt_of_succ_lt_succ enough
                have here : codec.remaining several state behind =
                    (pair.2 ++ (codec.remaining several pair.1 next).1,
                      (codec.remaining several pair.1 next).2) := by
                  rw [remaining, content, ending, codec.decode_cons runs fed]
                  rfl
                rw [here, ← List.append_assoc]
                exact ih (arrived - 1) pair.1 (decoded ++ pair.2) next shorter

/-- A decoder that fills the room it is given before it answers, over a reader
that loses nothing itself. -/
def filling (inner : Reader Byte Error) (lossless : inner.loss 1 = 0) :
    codec.Decoder several inner where
  State := codec.FillState inner
  start := fun arrivals behind => ⟨codec.start, [], behind, arrivals⟩
  read := codec.fillRead several
  content := fun state => state.decoded ++ (codec.remaining several state.state state.behind).1
  ending := fun state => (codec.remaining several state.state state.behind).2
  held := 0
  started := fun _ _ => rfl
  honest := by
    intro state room positive
    have spec := codec.fill_filled several lossless positive
      ((inner.content state.behind).length + 1)
      (state.arrivals.headD ((inner.content state.behind).length + 1)) state.state state.decoded
      state.behind (Nat.lt_succ_self _)
    rw [fillRead]
    generalize codec.fill several room _ _ state.state state.decoded state.behind = filled at spec ⊢
    cases filled with
    | error error => exact ⟨Nat.le_of_lt spec.1, spec.2⟩
    | ok result =>
        rcases result with ⟨later, got, next⟩
        rcases spec with ⟨content, ending, settled⟩
        cases got with
        | nil => exact settled rfl
        | cons byte bytes =>
            have cut := take_bytes (List.cons_ne_nil byte bytes) positive
            refine ⟨cut.1, cut.2, ?_, ending⟩
            rw [content, ← List.append_assoc, List.take_append_drop]

end Filling

end Codec
end XoaProxy
