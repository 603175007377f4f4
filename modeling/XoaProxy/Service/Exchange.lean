import XoaProxy.Foundation.ByteReader

namespace XoaProxy
namespace Service

/-!
# What the proxy exchanges with its caller and with the upstream

The caller sends `ImageParams` and receives a response or a `ProxyError`.  The
upstream is reached through `reqwest`, which is not part of the repository: it
appears here as the record `Reqwest` of its answers.  A HEAD and a GET of the
same address are answered independently of each other, and every answer may
also be a transport error.

The image format is decided by `detectFormatFromExtension` and, for an
ambiguous path, by the two headers that `formatOfHead` reads.  The status of
the HEAD response is part of the answer but of neither function.
-/

/-- `http::StatusCode`, a number of three digits. -/
structure StatusCode where
  code : Nat
  lower : 100 ≤ code
  upper : code < 1000
deriving DecidableEq

namespace StatusCode

def ok : StatusCode := ⟨200, by decide, by decide⟩
def badRequest : StatusCode := ⟨400, by decide, by decide⟩
def notFound : StatusCode := ⟨404, by decide, by decide⟩
def conflict : StatusCode := ⟨409, by decide, by decide⟩
def badGateway : StatusCode := ⟨502, by decide, by decide⟩

def isSuccess (status : StatusCode) : Bool :=
  decide (200 ≤ status.code ∧ status.code ≤ 299)

def isClientError (status : StatusCode) : Bool :=
  decide (400 ≤ status.code ∧ status.code ≤ 499)

def isServerError (status : StatusCode) : Bool :=
  decide (500 ≤ status.code ∧ status.code ≤ 599)

/-- The statuses that `Response::error_for_status` turns into an error. -/
def isError (status : StatusCode) : Bool :=
  status.isClientError || status.isServerError

theorem not_isError_of_isSuccess {status : StatusCode} (success : status.isSuccess = true) :
    status.isError = false := by
  simp only [isSuccess, decide_eq_true_eq] at success
  simp only [isError, isClientError, isServerError, Bool.or_eq_false_iff, decide_eq_false_iff_not]
  omega

end StatusCode

/-- The application errors of the proxy. -/
inductive ProxyError where
  | badRequest (message : String)
  | notFound (message : String)
  | importInProgress
  | upstreamFailed (message : String)
  | probeFailed (message : String)
deriving DecidableEq, Repr

/-- The status and the text that an error is converted into. -/
def ProxyError.intoResponse : ProxyError -> StatusCode × String
  | .badRequest message => (StatusCode.badRequest, message)
  | .notFound message => (StatusCode.notFound, message)
  | .importInProgress =>
      (StatusCode.conflict,
        "An import is already in progress. Only one concurrent import is allowed.")
  | .upstreamFailed message => (StatusCode.badGateway, message)
  | .probeFailed message =>
      (StatusCode.badGateway,
        "Format probe failed — could not determine image type: " ++ message)

/-- No error is reported with a success status. -/
theorem ProxyError.intoResponse_isError (error : ProxyError) :
    error.intoResponse.1.isError = true := by
  cases error <;> rfl

/-- The caller's query, as the `Query` extractor hands it to the handler. -/
structure ImageParams where
  src : Option String
  verifySsl : Option Bool

/-! ## The upstream -/

/-- The two prebuilt HTTP clients. -/
inductive Client where
  | verify
  | noVerify
deriving DecidableEq, Repr

/-- The client selected by `verify_ssl`, which defaults to verification. -/
def selectClient (verifySsl : Option Bool) : Client :=
  if verifySsl.getD true then .verify else .noVerify

/-- What a stream read can fail with. -/
inductive IoError where
  | other (reason : String)
  | invalidData (reason : String)
  | unexpectedEof
deriving DecidableEq, Repr

/-- The path of a parsed address.  A parsed path is percent-encoded, so it is
ASCII text and lowering it one character at a time is exact. -/
structure Url where
  path : List Char
  ascii : (path.all fun char => decide (char.toNat < 128)) = true

/-- The bytes of a header value. -/
abbrev HeaderValue := List UInt8

structure HeadResponse where
  status : StatusCode
  contentType : Option HeaderValue
  contentEncoding : Option HeaderValue

/-- The body of a response: its chunks and its end, where a transport error is
recorded by its text, and how many more of its bytes have arrived by each read
that is made of it. -/
structure Body where
  chunks : List (List UInt8)
  ending : Ending String
  arrivals : List Nat

structure GetResponse where
  status : StatusCode
  body : Body

/-- The behaviour of `reqwest` and of the upstream behind it. -/
structure Reqwest where
  parse : String -> Option Url
  head : Client -> String -> Except String HeadResponse
  get : Client -> String -> Except String GetResponse

/-- An upstream whose parser reads the given path and whose answers do not
depend on the request. -/
def constantUpstream (path : List Char)
    (ascii : (path.all fun char => decide (char.toNat < 128)) = true)
    (head : Except String HeadResponse) (get : Except String GetResponse) : Reqwest where
  parse := fun _ => some ⟨path, ascii⟩
  head := fun _ _ => head
  get := fun _ _ => get

/-- `Response::error_for_status`: the response itself unless its status is a
client or a server error. -/
def GetResponse.errorForStatus (response : GetResponse) : Except String GetResponse :=
  if response.status.isError then .error "HTTP status error" else .ok response

inductive ImageFormat where
  | gzip
  | raw
deriving DecidableEq, Repr

/-- ASCII text in lower case. -/
def lowercase (text : List Char) : List Char :=
  text.map Char.toLower

/-- Decide the format from the extension of the URL path alone. -/
def detectFormatFromExtension (net : Reqwest) (src : String) : Option ImageFormat :=
  match net.parse src with
  | none => none
  | some url =>
      let path := lowercase url.path
      if ".xva.gz".toList.isSuffixOf path || ".xva.gzip".toList.isSuffixOf path then
        some .gzip
      else if ".xva".toList.isSuffixOf path then
        some .raw
      else
        none

/-- `HeaderValue::to_str`: printable ASCII and tabs, nothing else. -/
def visibleAscii (byte : UInt8) : Bool :=
  (decide (32 ≤ byte) && decide (byte < 127)) || decide (byte = 9)

def toStr (value : HeaderValue) : Option (List Char) :=
  if value.all visibleAscii then some (value.map fun byte => Char.ofNat byte.toNat) else none

/-- The text of a header in lower case; a missing or unreadable one is empty. -/
def headerText (value : Option HeaderValue) : List Char :=
  lowercase ((value.bind toStr).getD [])

def containsGzip (text : List Char) : Bool :=
  text.tails.any fun rest => "gzip".toList.isPrefixOf rest

/-- The format read off the headers of a HEAD response. -/
def formatOfHead (response : HeadResponse) : ImageFormat :=
  if containsGzip (headerText response.contentType) ||
      containsGzip (headerText response.contentEncoding) then
    .gzip
  else
    .raw

/-- The scheme check on the source address. -/
def schemeAccepted (src : String) : Bool :=
  "http://".toList.isPrefixOf src.toList || "https://".toList.isPrefixOf src.toList

/-- The text of the rejection quotes at most forty characters of the source. -/
def badScheme (src : String) : ProxyError :=
  .badRequest ("src must start with http:// or https://, got: " ++
    String.ofList (src.toList.take 40))

def missingSrc : ProxyError :=
  .badRequest "Missing required query parameter: src"

end Service
end XoaProxy
