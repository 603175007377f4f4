import XoaProxy.Foundation.Decimal
import Mathlib.Data.Option.Basic

namespace XoaProxy
namespace Lifecycle

/-!
# Configuration from the environment

A variable of the environment is unset or an arbitrary sequence of bytes.
`envVar` reads it as text and does not tell an unset variable from one that is
no valid Unicode.  `Config.load` never fails: a value that it cannot use is
replaced by the default, and every default passes the check that it stands in
for.
-/

/-- A variable of the environment, unset or with its bytes. -/
abbrev Variable := Option (List UInt8)

/-- The bytes of a text. -/
def encode (text : Text) : List UInt8 := (String.ofList text).toByteArray.data.toList

/-- `env::var(..).ok()`: the text of a variable that is set and is Unicode. -/
def envVar (value : Variable) : Option Text :=
  value.bind fun bytes => (ByteArray.utf8Decode? ⟨bytes.toArray⟩).map Array.toList

/-- A variable reads as a text exactly if its bytes are those of the text. -/
theorem envVar_eq_some_iff {value : Variable} {text : Text} :
    envVar value = some text ↔ value = some (encode text) := by
  cases value with
  | none => simp only [envVar, Option.bind_none, reduceCtorEq]
  | some bytes =>
      simp only [envVar, Option.bind_some, Option.some.injEq, Option.map_eq_some_iff]
      constructor
      · rintro ⟨chars, decoded, rfl⟩
        have valid : (ByteArray.utf8Decode? ⟨bytes.toArray⟩).isSome = true := by
          rw [decoded]
          rfl
        have encoded := @ByteArray.utf8Encode_get_utf8Decode? ⟨bytes.toArray⟩ valid
        simp only [decoded, Option.get_some] at encoded
        change bytes = chars.toList.utf8Encode.data.toList
        rw [encoded]
      · rintro rfl
        exact ⟨text.toArray, List.utf8Decode?_utf8Encode, rfl⟩

/-- The variables that the process reads. -/
structure Environment where
  port : Variable
  bind : Variable
  idleSeconds : Variable
  listenPid : Variable
  listenFds : Variable

/-- `std::time::Duration`. -/
structure Duration where
  secs : Nat
  nanos : Nat
  fits : secs < UInt64.size
  proper : nanos < 1000000000
deriving DecidableEq

def Duration.fromSecs (secs : Nat) (fits : secs < UInt64.size) : Duration :=
  ⟨secs, 0, fits, by decide⟩

structure Config where
  port : Nat
  bind : Text
  idleTimeout : Duration
  portFits : port < UInt16.size

def portNumber (value : Variable) : Nat :=
  ((envVar value).bind (parseUnsigned UInt16.size)).getD 9001

def bindAddress (value : Variable) : Text :=
  (envVar value).getD "127.0.0.1".toList

/-- The idle timeout in seconds.  Zero is replaced like an unreadable value. -/
def idleSeconds (value : Variable) : Nat :=
  (((envVar value).bind (parseUnsigned UInt64.size)).filter fun secs => 0 < secs).getD 60

/-- A value that was parsed, or a default that would have been. -/
theorem getD_parsed_lt {value : Variable} {bound default : Nat} (known : default < bound) :
    ((envVar value).bind (parseUnsigned bound)).getD default < bound := by
  cases parsed : (envVar value).bind (parseUnsigned bound) with
  | none => exact known
  | some number =>
      rcases Option.bind_eq_some_iff.mp parsed with ⟨text, _, read⟩
      exact parseUnsigned_lt read (Nat.zero_lt_of_lt known)

theorem portNumber_lt (value : Variable) : portNumber value < UInt16.size :=
  getD_parsed_lt (by decide)

theorem idleSeconds_spec (value : Variable) :
    0 < idleSeconds value ∧ idleSeconds value < UInt64.size := by
  unfold idleSeconds
  cases kept : ((envVar value).bind (parseUnsigned UInt64.size)).filter fun secs => 0 < secs with
  | none => decide
  | some secs =>
      rcases Option.filter_eq_some_iff.mp kept with ⟨parsed, positive⟩
      rcases Option.bind_eq_some_iff.mp parsed with ⟨text, _, read⟩
      exact ⟨of_decide_eq_true positive, parseUnsigned_lt read (by decide)⟩

def Config.load (environment : Environment) : Config where
  port := portNumber environment.port
  bind := bindAddress environment.bind
  idleTimeout := .fromSecs (idleSeconds environment.idleSeconds)
    (idleSeconds_spec environment.idleSeconds).2
  portFits := portNumber_lt environment.port

end Lifecycle
end XoaProxy
