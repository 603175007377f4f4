import XoaProxy.Foundation.OnlineDecoder
import XoaProxy.Service.Exchange

namespace XoaProxy
namespace Streaming

open Service

/-!
# The streaming pipeline

`fetchXvaStream` puts two or four adapters over the body of the upstream's
response.  Both pipelines start with the chunk reader; the gzip one continues
with a buffer of 64 KiB and a decoder that was not told to expect several
members.  The stream of items is counted on its way into the `GuardedStream`,
which is what the response body of the proxy consists of.

The gzip decoder itself belongs to a library outside the repository.  It is
the parameter `decoder`: a codec for gzip members that works online, one input
byte after the other, and is not finished before it has seen any input,
together with any way of reading it as a stream.  When the upstream breaks or
the member is damaged, the read that notices it may lose the bytes that it had
decoded itself.
-/

/-- Evidence that the import lock is held. -/
structure OwnedMutexGuard where

/-- The upstream's chunks, with transport errors mapped into stream errors. -/
def byteStream (body : Body) : ChunkState UInt8 IoError where
  current := []
  pending := body.chunks
  ending :=
    match body.ending with
    | .eof => .eof
    | .failed reason => .failed (.other reason)

/-- `BufReader::with_capacity(64 * 1024, ..)`. -/
def bufferCapacity : Nat := 64 * 1024

/-- The library's decoder of one gzip member, over a buffered body. -/
structure GzipDecoder where
  codec : Codec UInt8 IoError
  reading : codec.Decoder false (bufReader bufferCapacity (chunkReader UInt8 IoError))

variable (decoder : GzipDecoder)

/-- The adapters under the `ReaderStream` of each format. -/
def pipeline : ImageFormat -> Reader UInt8 IoError
  | .gzip => decoder.reading.reader
  | .raw => chunkReader UInt8 IoError

/-- The state of a freshly assembled pipeline over a body. -/
def assemble (body : Body) : (format : ImageFormat) -> (pipeline decoder format).State
  | .gzip => decoder.reading.start body.arrivals ⟨[], byteStream body⟩
  | .raw => byteStream body

/-- The response body of an import. -/
structure GuardedStream where
  format : ImageFormat
  inner : Option (pipeline decoder format).State
  guard : OwnedMutexGuard
  bytesSent : UInt64
  srcUrl : String

variable {decoder}

namespace GuardedStream

/-- The stream returned by `fetch_xva_stream` for a successful response. -/
def new (format : ImageFormat) (body : Body) (guard : OwnedMutexGuard) (srcUrl : String) :
    GuardedStream decoder where
  format := format
  inner := some (assemble decoder body format)
  guard := guard
  bytesSent := 0
  srcUrl := srcUrl

/-- The counter after one item: a chunk adds its length, an error nothing. -/
def count (sent : UInt64) : Option (Item UInt8 IoError) -> UInt64
  | some (.ok chunk) => sent + UInt64.ofNat chunk.length
  | some (.error _) => sent
  | none => sent

/-- Poll the counted stream once, with the given room in the read buffer. -/
def pollNext (stream : GuardedStream decoder) (room : Nat) :
    Option (Item UInt8 IoError) × GuardedStream decoder :=
  let polled := XoaProxy.pollNext (pipeline decoder stream.format) room stream.inner
  (polled.1, { stream with inner := polled.2, bytesSent := count stream.bytesSent polled.1 })

/-- The answers to a list of polls and the stream they leave behind. -/
def polls (stream : GuardedStream decoder) : List Nat ->
    List (Option (Item UInt8 IoError)) × GuardedStream decoder
  | [] => ([], stream)
  | room :: rooms =>
      let first := stream.pollNext room
      let later := polls first.2 rooms
      (first.1 :: later.1, later.2)

/-- One more poll behind others. -/
theorem polls_concat (stream : GuardedStream decoder) (rooms : List Nat) (room : Nat) :
    (stream.polls (rooms ++ [room])).2 = ((stream.polls rooms).2.pollNext room).2 := by
  induction rooms generalizing stream with
  | nil => rfl
  | cons first rooms ih => exact ih (stream.pollNext first).2

/-- The counted stream answers what the pipeline under it answers. -/
theorem polls_eq (stream : GuardedStream decoder) (rooms : List Nat) :
    (stream.polls rooms).1 =
        (XoaProxy.polls (pipeline decoder stream.format) stream.inner rooms).1 ∧
      (stream.polls rooms).2 =
        { stream with
          inner := (XoaProxy.polls (pipeline decoder stream.format) stream.inner rooms).2
          bytesSent := (stream.polls rooms).1.foldl count stream.bytesSent } := by
  induction rooms generalizing stream with
  | nil => exact ⟨rfl, rfl⟩
  | cons room rooms ih =>
      have later := ih (stream.pollNext room).2
      constructor
      · simp only [polls, XoaProxy.polls, later.1]
        rfl
      · simp only [polls, XoaProxy.polls, later.2, List.foldl_cons]
        rfl

/-- The counter adds up the lengths of the chunks, modulo the word size. -/
theorem foldl_count (answers : List (Option (Item UInt8 IoError))) (sent : UInt64) :
    answers.foldl count sent = sent + UInt64.ofNat (okBytes (items answers)).length := by
  induction answers generalizing sent with
  | nil => exact (UInt64.add_zero sent).symm
  | cons answer answers ih =>
      rw [List.foldl_cons, ih]
      cases answer with
      | none => rfl
      | some item =>
          cases item with
          | error error => rfl
          | ok chunk =>
              change sent + UInt64.ofNat chunk.length + _ =
                sent + UInt64.ofNat (chunk ++ okBytes (items answers)).length
              rw [List.length_append, UInt64.ofNat_add, UInt64.add_assoc]

end GuardedStream

/-! ## What a stream delivers -/

/-- The bytes a pipeline delivers for given upstream bytes and ending, and how
it ends itself. -/
def delivery (codec : Codec UInt8 IoError) (format : ImageFormat) (bytes : List UInt8)
    (ending : Ending IoError) : List UInt8 × Ending IoError :=
  match format with
  | .gzip => codec.decode false codec.start bytes ending
  | .raw => (bytes, ending)

/-- How many bytes of the delivery the read that fails may lose. -/
def GzipDecoder.loss (decoder : GzipDecoder) : ImageFormat -> Nat -> Nat
  | .gzip, room => room + decoder.reading.held
  | .raw, _ => 0

theorem pipeline_loss (format : ImageFormat) :
    (pipeline decoder format).loss = decoder.loss format := by
  cases format <;> rfl

theorem assemble_content (body : Body) (format : ImageFormat) :
    ((pipeline decoder format).content (assemble decoder body format),
        (pipeline decoder format).ending (assemble decoder body format)) =
      delivery decoder.codec format body.chunks.flatten (byteStream body).ending := by
  cases format with
  | gzip => exact decoder.reading.started body.arrivals ⟨[], byteStream body⟩
  | raw => rfl

end Streaming
end XoaProxy
