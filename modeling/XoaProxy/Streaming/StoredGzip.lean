import XoaProxy.Streaming.GuardedStream

namespace XoaProxy
namespace Streaming

open Service

/-!
# A gzip decoder for stored blocks

The pipeline is verified for every gzip decoder.  This module supplies one: it
reads gzip members without optional header fields whose deflate data
consists of stored blocks, and it checks the magic number, the block lengths,
the CRC-32 and the size at the end of the member.  On such members it answers
what any gzip decoder answers, so they serve as concrete inputs.
-/

/-- Progress inside a gzip member.  Partly read fields are kept as bytes. -/
inductive StoredState where
  | header (seen : List UInt8)
  | blockStart (crc size : UInt32)
  | blockLength (last : Bool) (seen : List UInt8) (crc size : UInt32)
  | blockData (last : Bool) (left : Nat) (crc size : UInt32)
  | trailer (seen : List UInt8) (crc size : UInt32)
  | done
deriving DecidableEq, Repr

namespace StoredState

/-- One shift of the reflected CRC-32 register. -/
def crcShift (crc : UInt32) : UInt32 :=
  if crc &&& 1 = 1 then (crc >>> 1) ^^^ 0xEDB88320 else crc >>> 1

def crcByte (crc : UInt32) (byte : UInt8) : UInt32 :=
  Nat.repeat crcShift 8 (crc ^^^ byte.toUInt32)

/-- A little-endian number. -/
def littleEndian (bytes : List UInt8) : Nat :=
  bytes.foldr (fun byte rest => byte.toNat + 256 * rest) 0

def corrupt (reason : String) : Except IoError (StoredState × List UInt8) :=
  .error (.invalidData reason)

/-- The state behind a block whose data is complete. -/
def afterBlock (last : Bool) (crc size : UInt32) : StoredState :=
  if last then .trailer [] crc size else .blockStart crc size

def feedHeader (seen : List UInt8) (byte : UInt8) : Except IoError (StoredState × List UInt8) :=
  let seen := seen ++ [byte]
  if seen.length < 10 then .ok (.header seen, [])
  else if seen.take 4 = [0x1f, 0x8b, 0x08, 0x00] then .ok (.blockStart 0xFFFFFFFF 0, [])
  else corrupt "invalid gzip header"

def feedLength (last : Bool) (seen : List UInt8) (crc size : UInt32) (byte : UInt8) :
    Except IoError (StoredState × List UInt8) :=
  let seen := seen ++ [byte]
  if seen.length < 4 then .ok (.blockLength last seen crc size, [])
  else
    let length := littleEndian (seen.take 2)
    if length + littleEndian (seen.drop 2) ≠ 0xFFFF then corrupt "invalid stored block lengths"
    else if length = 0 then .ok (afterBlock last crc size, [])
    else .ok (.blockData last length crc size, [])

def feedTrailer (seen : List UInt8) (crc size : UInt32) (byte : UInt8) :
    Except IoError (StoredState × List UInt8) :=
  let seen := seen ++ [byte]
  if seen.length < 8 then .ok (.trailer seen crc size, [])
  else if littleEndian (seen.take 4) ≠ (crc ^^^ 0xFFFFFFFF).toNat then
    corrupt "CRC computed does not match"
  else if littleEndian (seen.drop 4) ≠ size.toNat then
    corrupt "amount of bytes read does not match"
  else .ok (.done, [])

def feed : StoredState -> UInt8 -> Except IoError (StoredState × List UInt8)
  | .header seen, byte => feedHeader seen byte
  | .blockStart crc size, byte =>
      if byte &&& 6 = 0 then .ok (.blockLength (byte &&& 1 = 1) [] crc size, [])
      else corrupt "not a stored block"
  | .blockLength last seen crc size, byte => feedLength last seen crc size byte
  | .blockData last left crc size, byte =>
      let crc := crcByte crc byte
      let size := size + 1
      if left ≤ 1 then .ok (afterBlock last crc size, [byte])
      else .ok (.blockData last (left - 1) crc size, [byte])
  | .trailer seen crc size, byte => feedTrailer seen crc size byte
  | .done, _ => .ok (.done, [])

end StoredState

/-- The stored-block decoder as an online codec. -/
def storedCodec : Codec UInt8 IoError where
  State := StoredState
  start := .header []
  feed := StoredState.feed
  finished := fun state => decide (state = .done)
  truncated := .unexpectedEof
  fresh := by decide

instance : DecidableEq storedCodec.State :=
  inferInstanceAs (DecidableEq StoredState)

/-- It fills the room of a read before it answers, as far as its input has
arrived. -/
def storedGzip : GzipDecoder where
  codec := storedCodec
  reading := storedCodec.filling false (bufReader bufferCapacity (chunkReader UInt8 IoError)) rfl

/-- The gzip member of the one-byte file `A`, as a single stored block. -/
def memberA : List UInt8 :=
  [0x1f, 0x8b, 0x08, 0x00, 0x00, 0x00, 0x00, 0x00, 0x00, 0xff,
    0x01, 0x01, 0x00, 0xfe, 0xff, 0x41,
    0x8b, 0x9e, 0xd9, 0xd3, 0x01, 0x00, 0x00, 0x00]

theorem memberA_frame : storedCodec.Frame memberA [0x41] :=
  ⟨StoredState.done, by decide +kernel, by decide⟩

end Streaming
end XoaProxy
