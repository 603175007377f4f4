import XoaProxy.Streaming.StoredGzip
import Mathlib.Algebra.Group.Nat.Defs

namespace XoaProxy
namespace Streaming

open Service

/-!
# What a guarded stream delivers

The concatenated bytes of the upstream and its ending determine what a
`GuardedStream` delivers and how it ends.  Chunk boundaries, empty chunks and
the room of each read only decide how the same bytes are cut into items, with
one exception: the read in which a gzip stream fails loses what it has decoded
itself, so how much comes before the error item depends on the reads, too.

A raw stream ends as its upstream does.  A gzip stream ends as its decoder
does, and the decoder looks at nothing behind the end of its member.  An
upstream error behind that point is therefore not reported.
-/

/-- When a stream ends with an error item.  A raw one does if its upstream
does; a gzip one if the upstream's bytes do not hold a complete member at
their front, because they are rejected or because they end inside it. -/
def EndsInError (codec : Codec UInt8 IoError) (format : ImageFormat) (bytes : List UInt8)
    (ending : Ending IoError) : Prop :=
  match format with
  | .raw => ending ≠ .eof
  | .gzip => forall payload unread, codec.scan codec.start bytes ≠ .complete payload unread

theorem delivery_fails_iff (codec : Codec UInt8 IoError) (format : ImageFormat) (bytes : List UInt8)
    (ending : Ending IoError) :
    (delivery codec format bytes ending).2 ≠ .eof ↔ EndsInError codec format bytes ending := by
  cases format with
  | raw => exact Iff.rfl
  | gzip =>
      simp only [delivery, EndsInError, codec.decode_one_eq_scan]
      cases scanned : codec.scan codec.start bytes with
      | complete payload unread => simp [Codec.Scan.outcome]
      | rejected payload error => simp [Codec.Scan.outcome]
      | unfinished payload => cases ending <;> simp [Codec.Scan.outcome]

section Fresh

variable (decoder : GzipDecoder) (format : ImageFormat) (body : Body) (guard : OwnedMutexGuard)
  (srcUrl : String) (rooms : List Nat)

/-- The answers of a fresh stream to a list of polls, and what is left of it. -/
def freshPolls : List (Option (Item UInt8 IoError)) × GuardedStream decoder :=
  (GuardedStream.new format body guard srcUrl : GuardedStream decoder).polls rooms

/-- What the pipeline of a format makes of a body. -/
def delivered : List UInt8 × Ending IoError :=
  delivery decoder.codec format body.chunks.flatten (byteStream body).ending

theorem freshPolls_answers :
    (freshPolls decoder format body guard srcUrl rooms).1 =
      (polls (pipeline decoder format) (some (assemble decoder body format)) rooms).1 :=
  (GuardedStream.polls_eq _ rooms).1

theorem freshPolls_counted :
    (freshPolls decoder format body guard srcUrl rooms).2.bytesSent.toNat =
      (okBytes (items (freshPolls decoder format body guard srcUrl rooms).1)).length % 2 ^ 64 := by
  have counted : (freshPolls decoder format body guard srcUrl rooms).2.bytesSent =
      0 + UInt64.ofNat
        (okBytes (items (freshPolls decoder format body guard srcUrl rooms).1)).length := by
    rw [← GuardedStream.foldl_count]
    exact congrArg GuardedStream.bytesSent (GuardedStream.polls_eq _ rooms).2
  rw [counted, UInt64.zero_add, UInt64.toNat_ofNat']

/-- A fresh pipeline has the whole delivery in front of it. -/
theorem fresh_content :
    (pipeline decoder format).content (assemble decoder body format) =
      (delivered decoder format body).1 :=
  congrArg Prod.fst (assemble_content body format)

theorem fresh_ending :
    (pipeline decoder format).ending (assemble decoder body format) =
      (delivered decoder format body).2 :=
  congrArg Prod.snd (assemble_content body format)

variable {rooms} (positive : forall room, room ∈ rooms -> 0 < room)

include positive

theorem freshPolls_polled :
    Exists fun final => Polled (pipeline decoder format) (assemble decoder body format) rooms
        (freshPolls decoder format body guard srcUrl rooms).1 final ∧
      final.isNone = (freshPolls decoder format body guard srcUrl rooms).2.inner.isNone := by
  have left := (GuardedStream.polls_eq
    (GuardedStream.new format body guard srcUrl : GuardedStream decoder) rooms).2
  rw [freshPolls_answers, freshPolls, left]
  exact ⟨_, polls_polled (pipeline decoder format) rooms positive _, rfl⟩

theorem freshPolls_front :
    okBytes (items (freshPolls decoder format body guard srcUrl rooms).1) <+:
      (delivered decoder format body).1 := by
  rcases freshPolls_polled decoder format body guard srcUrl positive with ⟨final, shape, _⟩
  rw [← fresh_content]
  exact items_prefix shape

theorem freshPolls_end (enough : (delivered decoder format body).1.length + 2 ≤ rooms.length) :
    none ∈ (freshPolls decoder format body guard srcUrl rooms).1 := by
  rw [freshPolls_answers]
  apply polls_end (pipeline decoder format) rooms positive
  rw [fresh_content]
  exact enough

/-- A stream whose pipeline has been given up was received up to its end. -/
theorem freshPolls_whole
    (done : (freshPolls decoder format body guard srcUrl rooms).2.inner.isNone = true) :
    Whole (decoder.loss format) rooms (delivered decoder format body).1
      (delivered decoder format body).2
      (items (freshPolls decoder format body guard srcUrl rooms).1) := by
  rcases freshPolls_polled decoder format body guard srcUrl positive with ⟨final, shape, same⟩
  rw [← fresh_content, ← fresh_ending, ← pipeline_loss]
  exact items_complete shape (Option.isNone_iff_eq_none.mp (same.trans done))

theorem freshPolls_complete
    (ended : none ∈ (freshPolls decoder format body guard srcUrl rooms).1) :
    Whole (decoder.loss format) rooms (delivered decoder format body).1
      (delivered decoder format body).2
      (items (freshPolls decoder format body guard srcUrl rooms).1) := by
  rcases freshPolls_polled decoder format body guard srcUrl positive with ⟨final, shape, same⟩
  apply freshPolls_whole decoder format body guard srcUrl positive
  rw [← same, shape.given_up ended]
  rfl

theorem freshPolls_error_iff
    (ended : none ∈ (freshPolls decoder format body guard srcUrl rooms).1) :
    (Exists fun error =>
        Except.error error ∈ items (freshPolls decoder format body guard srcUrl rooms).1) ↔
      EndsInError decoder.codec format body.chunks.flatten (byteStream body).ending :=
  (freshPolls_complete decoder format body guard srcUrl positive ended).error_iff.trans
    (delivery_fails_iff decoder.codec format body.chunks.flatten (byteStream body).ending)

end Fresh

/-- Every byte is accounted for, at every moment and for every way of cutting
the upstream into chunks and reads.  The counter equals the bytes handed out so
far, these are a front part of the delivery, and enough polls report the end.
At the end the items are the delivery in nonempty pieces, followed by one error
item exactly when the stream ends in error.  Only a gzip stream that ends in
error may miss bytes in front of the error item, no more than the read that
failed had room for and the decoder was holding back. -/
theorem guardedStream_accounts (decoder : GzipDecoder) (format : ImageFormat)
    (body : Body) (guard : OwnedMutexGuard) (srcUrl : String) (rooms : List Nat)
    (positive : forall room, room ∈ rooms -> 0 < room) :
    let polled :=
      (GuardedStream.new format body guard srcUrl : GuardedStream decoder).polls rooms
    let final := delivery decoder.codec format body.chunks.flatten (byteStream body).ending
    polled.2.bytesSent.toNat = (okBytes (items polled.1)).length % 2 ^ 64 ∧
      okBytes (items polled.1) <+: final.1 ∧
      (final.1.length + 2 ≤ rooms.length -> none ∈ polled.1) ∧
      (none ∈ polled.1 ->
        (Exists fun pieces : List (List UInt8) => Exists fun lost : List UInt8 =>
          items polled.1 = pieces.map Except.ok ++ final.2.closing ∧
            pieces.flatten ++ lost = final.1 ∧
            (forall piece, piece ∈ pieces -> piece ≠ []) ∧
            Missing (decoder.loss format) rooms pieces final.2 lost) ∧
        ((Exists fun error => Except.error error ∈ items polled.1) ↔
          EndsInError decoder.codec format body.chunks.flatten (byteStream body).ending)) := by
  refine ⟨freshPolls_counted decoder format body guard srcUrl rooms,
    freshPolls_front decoder format body guard srcUrl positive,
    freshPolls_end decoder format body guard srcUrl positive, ?_⟩
  intro ended
  exact ⟨freshPolls_complete decoder format body guard srcUrl positive ended,
    freshPolls_error_iff decoder format body guard srcUrl positive ended⟩

/-- Two polls of a two-byte body that arrives with an empty chunk in front. -/
theorem guardedStream_accounts_raw :
    let polled := (GuardedStream.new .raw ⟨[[], [1, 2]], .eof, []⟩ ⟨⟩ "" :
      GuardedStream storedGzip).polls [1, 4, 4, 4]
    polled.2.bytesSent.toNat = (okBytes (items polled.1)).length % 2 ^ 64 ∧
      okBytes (items polled.1) <+: [1, 2] ∧
      (2 + 2 ≤ 4 -> none ∈ polled.1) ∧
      (none ∈ polled.1 ->
        (Exists fun pieces : List (List UInt8) => Exists fun lost : List UInt8 =>
          items polled.1 = pieces.map Except.ok ++ [] ∧
            pieces.flatten ++ lost = [1, 2] ∧
            (forall piece, piece ∈ pieces -> piece ≠ []) ∧
            Missing (storedGzip.loss .raw) [1, 4, 4, 4] pieces (.eof : Ending IoError) lost) ∧
        ((Exists fun error => Except.error error ∈ items polled.1) ↔
          EndsInError storedCodec .raw [1, 2] .eof)) :=
  guardedStream_accounts storedGzip .raw ⟨[[], [1, 2]], .eof, []⟩ ⟨⟩ "" [1, 4, 4, 4] (by decide)

/-- A complete gzip member followed by a broken connection.  The upstream ends
with an error and the decoder does not fail, yet the stream ends without an
error item. -/
theorem error_behind_member_unreported :
    let body : Body := ⟨[memberA], .failed "connection reset", []⟩
    let polled := (GuardedStream.new .gzip body ⟨⟩ "" : GuardedStream storedGzip).polls [8, 8, 8]
    (byteStream body).ending = .failed (.other "connection reset") ∧ none ∈ polled.1 ∧
      ¬ Exists fun error => Except.error error ∈ items polled.1 := by
  intro body polled
  have sizes : forall room, room ∈ [8, 8, 8] -> 0 < room := by decide
  have complete : storedCodec.scan storedCodec.start body.chunks.flatten =
      .complete [0x41] [] := storedCodec.scan_frame memberA_frame []
  have final : delivered storedGzip .gzip body = ([0x41], .eof) := by
    change storedCodec.decode false storedCodec.start body.chunks.flatten _ = _
    rw [storedCodec.decode_one_eq_scan, complete]
    rfl
  have ended : none ∈ polled.1 :=
    freshPolls_end storedGzip .gzip body ⟨⟩ "" sizes (by rw [final]; decide)
  refine ⟨rfl, ended, ?_⟩
  intro reported
  exact (freshPolls_error_iff storedGzip .gzip body ⟨⟩ "" sizes ended).mp reported
    [0x41] [] complete

/-- A connection that breaks inside a member, after three bytes of its payload. -/
def brokenMember (arrivals : List Nat) : Body :=
  ⟨[memberA.take 10, [0x01, 0x03, 0x00, 0xfc, 0xff, 0x41, 0x42, 0x43]],
    .failed "connection reset", arrivals⟩

/-- When everything has arrived before the reads are made, the read that finds
the connection broken loses the third byte; when this byte is read before the
connection breaks, it is handed out. -/
theorem byte_before_error_lost :
    let rooms := [2, 8, 8, 8, 8]
    let late := (GuardedStream.new .gzip (brokenMember []) ⟨⟩ "" :
      GuardedStream storedGzip).polls rooms
    let early := (GuardedStream.new .gzip (brokenMember [17, 1]) ⟨⟩ "" :
      GuardedStream storedGzip).polls rooms
    none ∈ late.1 ∧ none ∈ early.1 ∧ okBytes (items late.1) = [0x41, 0x42] ∧
      okBytes (items early.1) = [0x41, 0x42, 0x43] := by
  intro rooms late early
  have sizes : forall room, room ∈ rooms -> 0 < room := by decide
  exact ⟨freshPolls_end storedGzip .gzip _ ⟨⟩ "" sizes (by decide +kernel),
    freshPolls_end storedGzip .gzip _ ⟨⟩ "" sizes (by decide +kernel),
    by decide +kernel, by decide +kernel⟩

/-- A gzip stream can end cleanly although its upstream ended with an error,
and the bytes it hands out before an error item are not determined by what the
upstream sent. -/
theorem gzip_stream_not_determined :
    (let body : Body := ⟨[memberA], .failed "connection reset", []⟩
      let polled := (GuardedStream.new .gzip body ⟨⟩ "" :
        GuardedStream storedGzip).polls [8, 8, 8]
      (byteStream body).ending = .failed (.other "connection reset") ∧ none ∈ polled.1 ∧
        ¬ Exists fun error => Except.error error ∈ items polled.1) ∧
    (let rooms := [2, 8, 8, 8, 8]
      let late := (GuardedStream.new .gzip (brokenMember []) ⟨⟩ "" :
        GuardedStream storedGzip).polls rooms
      let early := (GuardedStream.new .gzip (brokenMember [17, 1]) ⟨⟩ "" :
        GuardedStream storedGzip).polls rooms
      none ∈ late.1 ∧ none ∈ early.1 ∧ okBytes (items late.1) = [0x41, 0x42] ∧
        okBytes (items early.1) = [0x41, 0x42, 0x43]) :=
  ⟨error_behind_member_unreported, byte_before_error_lost⟩

end Streaming
end XoaProxy
