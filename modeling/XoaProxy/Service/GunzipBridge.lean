import XoaProxy.Service.Outcomes
import XoaProxy.Streaming.Delivery

namespace XoaProxy
namespace Service

open Streaming

/-!
# The gunzip bridge

A gzip file is a sequence of one or more members, and the image in it is the
concatenation of their payloads.  `gunzip` is the decoder that expects several
members; it recovers the image of every gzip file.

The decoder that `fetchXvaStream` puts into the pipeline expects one member.
What a caller of the proxy receives is therefore the payload of the first
member, followed by a clean end, however the upstream cuts the file.
-/

/-- A gzip member and the payload it decodes to. -/
structure GzipMember (codec : Codec UInt8 IoError) where
  bytes : List UInt8
  payload : List UInt8
  frame : codec.Frame bytes payload

/-- A gzip file is its first member and any number of others. -/
structure GzipFile (codec : Codec UInt8 IoError) where
  first : GzipMember codec
  others : List (GzipMember codec)

section Image

variable {codec : Codec UInt8 IoError}

namespace GzipFile

def bytes (file : GzipFile codec) : List UInt8 :=
  file.first.bytes ++ file.others.flatMap GzipMember.bytes

def image (file : GzipFile codec) : List UInt8 :=
  file.first.payload ++ file.others.flatMap GzipMember.payload

/-- The whole image is in the first member. -/
def FirstHoldsAll (file : GzipFile codec) : Prop :=
  forall member, member ∈ file.others -> member.payload = []

theorem image_eq_first_iff (file : GzipFile codec) :
    file.first.payload = file.image ↔ file.FirstHoldsAll := by
  rw [image, List.self_eq_append_right, List.flatMap_eq_nil_iff]
  exact Iff.rfl

end GzipFile

/-- Decode every member of a file. -/
def gunzip (codec : Codec UInt8 IoError) (bytes : List UInt8) : List UInt8 × Ending IoError :=
  codec.decode true codec.start bytes .eof

/-- The image of a gzip file is what `gunzip` makes of its bytes. -/
theorem gunzip_file (file : GzipFile codec) :
    gunzip codec file.bytes = (file.image, .eof) := by
  rcases file.first.frame with ⟨final, fed, done⟩
  have others := codec.decode_several_frames
    (file.others.map fun member => (member.bytes, member.payload))
    (fun _ listed => by
      rcases List.mem_map.mp listed with ⟨member, _, rfl⟩
      exact member.frame) done
  simp only [List.flatMap_map] at others
  rw [gunzip, GzipFile.bytes, codec.decode_feedAll true fed, others]
  rfl

end Image

variable {decoder : GzipDecoder}

/-- The pipeline delivers the payload of the first member and ends cleanly,
whatever follows this member and however the upstream ends. -/
theorem delivered_gzip_file {body : Body} {file : GzipFile decoder.codec}
    (served : body.chunks.flatten = file.bytes) :
    delivered decoder .gzip body = (file.first.payload, .eof) := by
  rw [delivered, delivery, served, decoder.codec.decode_one_eq_scan, GzipFile.bytes,
    decoder.codec.scan_frame file.first.frame]
  rfl

/-- The stream hands out exactly the image and then ends cleanly, for every
list of polls that is long enough to see its end. -/
def DeliversExactly (stream : GuardedStream decoder) (image : List UInt8) : Prop :=
  forall rooms : List Nat, (forall room, room ∈ rooms -> 0 < room) ->
    (image.length + 2 ≤ rooms.length -> none ∈ (stream.polls rooms).1) ∧
    (none ∈ (stream.polls rooms).1 ->
      okBytes (items (stream.polls rooms).1) = image ∧
        ¬ Exists fun error => .error error ∈ items (stream.polls rooms).1)

section Fresh

variable {format : ImageFormat} {body : Body} {guard : OwnedMutexGuard} {srcUrl : String}
  {bytes : List UInt8}

/-- A stream whose delivery ends cleanly delivers exactly that. -/
theorem deliversExactly_of_delivered (whole : delivered decoder format body = (bytes, .eof)) :
    DeliversExactly (GuardedStream.new format body guard srcUrl : GuardedStream decoder) bytes := by
  intro rooms positive
  constructor
  · intro enough
    exact freshPolls_end decoder format body guard srcUrl positive (by rw [whole]; exact enough)
  · intro ended
    have items := freshPolls_complete decoder format body guard srcUrl positive ended
    rw [whole] at items
    constructor
    · rcases items.of_eof with ⟨pieces, listed, joined⟩
      exact (congrArg okBytes listed).trans ((okBytes_oks pieces).trans joined)
    · intro reported
      exact items.error_iff.mp reported rfl

/-- A stream delivers exactly one byte string. -/
theorem DeliversExactly.unique {stream : GuardedStream decoder} {first second : List UInt8}
    (one : DeliversExactly stream first) (other : DeliversExactly stream second) :
    first = second := by
  have rooms : forall room, room ∈ List.replicate (first.length + 2) 1 -> 0 < room := by
    intro room member
    rw [List.eq_of_mem_replicate member]
    exact Nat.one_pos
  have ended := (one _ rooms).1 (Nat.le_of_eq List.length_replicate.symm)
  rw [← ((one _ rooms).2 ended).1, ← ((other _ rooms).2 ended).1]

end Fresh

/-- A successful response streams the body of the answer to the GET, in the
format that was decided for its source. -/
theorem response_of_ok {net : Reqwest} {params : ImageParams} {lock : Bool} {src : String}
    {format : ImageFormat} {response : Response decoder} {answer : GetResponse}
    (given : params.src = some src)
    (decided : decideFormat net (selectClient params.verifySsl) src = .ok format)
    (answered : net.get (selectClient params.verifySsl) src = .ok answer)
    (handled : (runHandler decoder net params lock).1 = .ok response) :
    response = Response.image (GuardedStream.new format answer.body ⟨⟩ src) := by
  cases accepted : schemeAccepted src with
  | false =>
      rw [runHandler_badScheme decoder net params lock given accepted] at handled
      cases handled
  | true =>
      rw [runHandler_accepted decoder net params lock given accepted] at handled
      simp only [decided] at handled
      cases lock with
      | true => cases handled
      | false =>
          simp only [Bool.false_eq_true, if_false, fetchImage, answered,
            GetResponse.errorForStatus] at handled
          cases status : answer.status.isError with
          | true =>
              rw [status] at handled
              cases handled
          | false =>
              rw [status] at handled
              exact (Except.ok.inj handled).symm

/-- The caller of an import that is handled as gzip receives exactly the image
of the file that the upstream serves if and only if no member behind the first
one holds a byte of it.  How the upstream cuts the file plays no part in it. -/
theorem gunzipBridge_iff_firstHoldsAll (decoder : GzipDecoder) (net : Reqwest)
    (params : ImageParams) (lock : Bool) (src : String) (response : Response decoder)
    (answer : GetResponse) (file : GzipFile decoder.codec) (given : params.src = some src)
    (decided : decideFormat net (selectClient params.verifySsl) src = .ok .gzip)
    (answered : net.get (selectClient params.verifySsl) src = .ok answer)
    (handled : (runHandler decoder net params lock).1 = .ok response)
    (served : answer.body.chunks.flatten = file.bytes) :
    DeliversExactly response.body file.image ↔ file.FirstHoldsAll := by
  have first : DeliversExactly response.body file.first.payload := by
    rw [response_of_ok given decided answered handled]
    exact deliversExactly_of_delivered (delivered_gzip_file served)
  rw [← file.image_eq_first_iff]
  constructor
  · intro whole
    exact first.unique whole
  · intro same
    exact same ▸ first

/-- The member of the one-byte file `A`. -/
def gzipMemberA : GzipMember storedCodec :=
  ⟨memberA, [0x41], memberA_frame⟩

/-- An upstream that serves a body at a path ending in `.xva.gz`. -/
def gzipUpstream (chunks : List (List UInt8)) : Reqwest :=
  constantUpstream "/vm.xva.gz".toList (by decide) (.error "no HEAD is sent")
    (.ok ⟨StatusCode.ok, ⟨chunks, .eof, []⟩⟩)

def gzipParams : ImageParams := ⟨some "http://host/vm.xva.gz", none⟩

/-- One member, cut in the middle of its header. -/
theorem gunzipBridge_single :
    let body : Body := ⟨[memberA.take 5, [], memberA.drop 5], .eof, []⟩
    DeliversExactly (GuardedStream.new .gzip body ⟨⟩ "http://host/vm.xva.gz" :
        GuardedStream storedGzip) [0x41] ↔
      forall member : GzipMember storedCodec, member ∈ [] -> member.payload = [] :=
  gunzipBridge_iff_firstHoldsAll storedGzip
    (gzipUpstream [memberA.take 5, [], memberA.drop 5]) gzipParams false _ _ _
    ⟨gzipMemberA, []⟩ rfl rfl rfl rfl (by decide)

/-- Two members with one byte of the image each: the stream ends cleanly after
the first byte. -/
theorem second_member_dropped :
    let file : GzipFile storedCodec := ⟨gzipMemberA, [gzipMemberA]⟩
    file.image = [0x41, 0x41] ∧
      Exists fun response =>
        (runHandler storedGzip (gzipUpstream [file.bytes]) gzipParams false).1 = .ok response ∧
          DeliversExactly response.body [0x41] ∧ ¬ DeliversExactly response.body file.image := by
  intro file
  have served : (Body.mk [file.bytes] .eof []).chunks.flatten = file.bytes :=
    List.append_nil file.bytes
  have first : DeliversExactly (GuardedStream.new .gzip ⟨[file.bytes], .eof, []⟩ ⟨⟩
      "http://host/vm.xva.gz" : GuardedStream storedGzip) [0x41] :=
    deliversExactly_of_delivered (@delivered_gzip_file storedGzip _ file served)
  refine ⟨rfl, _, rfl, first, ?_⟩
  intro whole
  exact absurd (first.unique whole) (by decide)

end Service
end XoaProxy
