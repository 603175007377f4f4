import XoaProxy.Foundation.Markup
import XoaProxy.Foundation.Pattern

namespace XoaProxy
namespace Site

open Markup Pattern

/-!
# The advisories of the stable channel

`updateinfo` is the filter that turns the promotion record into a document for
the package manager, with an update for every stable entry that has an
advisory.  `readUpdates` takes the values out of the record the way the filter
does it, and `document` interpolates them.

A filter fails or has any number of outputs.  `capture` has none for a text
that its pattern does not match, so an asset with such a name leaves no trace
in the list of packages.
-/

/-- A value of the record.  A number is the text that stands for it. -/
inductive Json where
  | null
  | bool (value : Bool)
  | number (text : Text)
  | string (text : Text)
  | array (items : List Json)
  | object (fields : List (Text × Json))

namespace Json

/-- `.key` -/
def get (key : String) : Json -> Option Json
  | .null => some .null
  | .object fields => some ((fields.lookup key.toList).getD .null)
  | .bool _ | .number _ | .string _ | .array _ => none

/-- `.[]` -/
def items : Json -> Option (List Json)
  | .array items => some items
  | .object fields => some (fields.map Prod.snd)
  | .null | .bool _ | .number _ | .string _ => none

/-- `. // other` -/
def orElse : Json -> Json -> Json
  | .null, other | .bool false, other => other
  | value, _ => value

/-- `. == "text"` -/
def is (text : String) : Json -> Bool
  | .string value => value = text.toList
  | .null | .bool _ | .number _ | .array _ | .object _ => false

/-- `. != null` -/
def isPresent : Json -> Bool
  | .null => false
  | .bool _ | .number _ | .string _ | .array _ | .object _ => true

/-- The text of a value that a pattern can be matched against. -/
def text : Json -> Option Text
  | .string text => some text
  | .null | .bool _ | .number _ | .array _ | .object _ => none

end Json

/-- `[.[] | filter]`: all outputs in order, unless one of the values fails. -/
def collect {Value Output : Type} (filter : Value -> Option (List Output)) :
    List Value -> Option (List Output)
  | [] => some []
  | value :: values => do
      let outputs ← filter value
      let later ← collect filter values
      return outputs ++ later

theorem collect_cons_eq_some_iff {Value Output : Type} {filter : Value -> Option (List Output)}
    {value : Value} {values : List Value} {outputs : List Output} :
    collect filter (value :: values) = some outputs ↔
      Exists fun here => filter value = some here ∧
        Exists fun later => collect filter values = some later ∧ here ++ later = outputs := by
  simp only [collect, Option.bind_eq_bind, Option.bind_eq_some_iff, Option.pure_def,
    Option.some.injEq]

theorem collect_append {Value Output : Type} {filter : Value -> Option (List Output)}
    {first second : List Value} {outputs later : List Output}
    (collected : collect filter first = some outputs)
    (after : collect filter second = some later) :
    collect filter (first ++ second) = some (outputs ++ later) := by
  induction first generalizing outputs with
  | nil =>
      cases collected
      exact after
  | cons value first ih =>
      rcases collect_cons_eq_some_iff.mp collected with ⟨here, filtered, rest, tail, rfl⟩
      rw [List.cons_append, List.append_assoc]
      exact collect_cons_eq_some_iff.mpr ⟨here, filtered, rest ++ later, ih tail, rfl⟩

/-- `gsub` with a single character. -/
def gsub (char : Char) (replacement : Text) (text : Text) : Text :=
  text.flatMap fun other => if other = char then replacement else [other]

/-- `sub` with a pattern of one character and a condition on what follows. -/
def sub (pattern : Char -> Text -> Bool) (replacement : Text) : Text -> Text
  | [] => []
  | char :: text =>
      if pattern char text then replacement ++ text else char :: sub pattern replacement text

/-- `$`, also in front of a last newline. -/
def lineEnd (rest : Text) : Bool := rest = [] || rest = ['\n']

structure Nevra where
  name : Text
  version : Text
  release : Text
  arch : Text
deriving DecidableEq

/-- `name-version-release.arch` -/
def Nevra.text (nevra : Nevra) : Text :=
  nevra.name ++ '-' :: nevra.version ++ '-' :: nevra.release ++ '.' :: nevra.arch

structure Package where
  nevra : Nevra
  file : Text
  sha256 : Text
deriving DecidableEq

structure Update where
  type : Text
  id : Text
  summary : Text
  severity : Text
  issued : Text
  tag : Text
  cves : List Text
  packages : List Package
deriving DecidableEq

/-- `^(?<name>.+)-(?<version>[^-]+)-(?<release>[^-]+)\.(?<arch>[^.]+)$` -/
def nevraPattern : List (Piece Char) :=
  [.run fun char => char ≠ '\n', .symbol '-', .run fun char => char ≠ '-', .symbol '-',
    .run fun char => char ≠ '-', .symbol '.', .run fun char => char ≠ '.']

def nevra (value : Json) : Option (List Nevra) := do
  let text ← value.text
  match capture lineEnd nevraPattern text with
  | some [name, version, release, arch] => return [⟨name, version, release, arch⟩]
  | _ => return []

section Filters

variable (dump : Json -> Text)

/-- A string itself, or the text that is printed for another value. -/
def tostring : Json -> Text
  | .string text => text
  | value => dump value

def packages (asset : Json) : Option (List Package) := do
  let found ← nevra (← asset.get "nevra")
  collect (fun parts => do
    let name ← asset.get "name"
    let sha256 ← asset.get "sha256"
    return [⟨parts, tostring dump name, tostring dump sha256⟩]) found

def selected (entry : Json) : Option Bool := do
  if (← entry.get "status").is "stable" then
    return (← entry.get "advisory").isPresent
  else
    return false

def readUpdate (entry : Json) : Option Update := do
  let advisory ← entry.get "advisory"
  let severity ← advisory.get "severity"
  let issued ← (← advisory.get "issued").text
  let cves ← ((← advisory.get "cves").orElse (.array [])).items
  let assets ← (← entry.get "assets").items
  return {
    type := tostring dump (← advisory.get "type")
    id := tostring dump (← advisory.get "id")
    summary := tostring dump (← advisory.get "summary")
    severity := tostring dump (severity.orElse (.string "None".toList))
    issued := sub (fun char rest => char = 'Z' && lineEnd rest) []
      (sub (fun char _ => char = 'T') " ".toList issued)
    tag := tostring dump (← entry.get "tag")
    cves := cves.map (tostring dump)
    packages := ← collect (packages dump) assets }

def readUpdates (record : Json) : Option (List Update) := do
  let entries ← (← record.get "entries").items
  collect (fun entry => do
    if ← selected entry then
      return [← readUpdate dump entry]
    else
      return []) entries

end Filters

/-! ## The document -/

def esc (text : Text) : Text :=
  gsub '"' "&quot;".toList (gsub '>' "&gt;".toList (gsub '<' "&lt;".toList
    (gsub '&' "&amp;".toList text)))

/-- An interpolated string, in which every value is escaped. -/
def interpolate (template : Template) : Text :=
  template.flatMap fun fragment =>
    match fragment with
    | .literal text => text
    | .slot value => esc value

def lit (text : String) : Fragment := .literal text.toList

def referenceTemplate (cve : Text) : Template :=
  [lit "      <reference href=\"https://nvd.nist.gov/vuln/detail/", .slot cve, lit "\" id=\"",
    .slot cve, lit "\" type=\"cve\" title=\"", .slot cve, lit "\"/>\n"]

def packageTemplate (package : Package) : Template :=
  [lit "        <package name=\"", .slot package.nevra.name, lit "\" version=\"",
    .slot package.nevra.version, lit "\" release=\"", .slot package.nevra.release,
    lit "\" epoch=\"0\" arch=\"", .slot package.nevra.arch, lit "\">\n",
    lit "          <filename>", .slot package.file,
    lit "</filename>\n          <sum type=\"sha256\">", .slot package.sha256,
    lit "</sum>\n        </package>\n"]

/-- An update up to its references. -/
def headTemplate (update : Update) : Template :=
  [lit "  <update from=\"xcp-hl\" status=\"stable\" type=\"", .slot update.type,
    lit "\" version=\"1\">\n",
    lit "    <id>", .slot update.id, lit "</id>\n",
    lit "    <title>", .slot update.summary, lit "</title>\n",
    lit "    <severity>", .slot update.severity, lit "</severity>\n",
    lit "    <issued date=\"", .slot update.issued, lit "\"/>\n",
    lit "    <description>", .slot update.summary, lit " (fixed in ", .slot update.tag,
    lit ")</description>\n",
    lit "    <references>\n"]

/-- An update between its references and its packages. -/
def collectionTemplate (update : Update) : Template :=
  [lit "    </references>\n",
    lit "    <pkglist>\n      <collection short=\"", .slot update.tag, lit "\">\n        <name>",
    .slot update.tag, lit "</name>\n"]

def footTemplate : Template :=
  [lit "      </collection>\n    </pkglist>\n  </update>\n"]

def updateTemplate (update : Update) : Template :=
  headTemplate update ++ update.cves.flatMap referenceTemplate ++ collectionTemplate update ++
    update.packages.flatMap packageTemplate ++ footTemplate

def documentTemplate (updates : List Update) : Template :=
  [lit "<?xml version=\"1.0\" encoding=\"UTF-8\"?>\n<updates>\n"] ++
    updates.flatMap updateTemplate ++ [lit "</updates>"]

def document (updates : List Update) : Text := interpolate (documentTemplate updates)

/-- `updateinfo.jq` on `stable.json`. -/
def updateinfo (dump : Json -> Text) (record : Json) : Option Text :=
  (readUpdates dump record).map document

end Site
end XoaProxy
