import XoaProxy.Site.Rendering
import Mathlib.Data.List.Forall2

namespace XoaProxy
namespace Site

open Markup Pattern

/-!
# What the advisories say

The split of a package name is the only one there is.  A name that has none is
dropped with its asset, and the document is complete exactly if there is no
such name in it.

Whatever the values of a record are, its document has the tags that their
numbers call for, and every value is read back from it.
-/

/-- Parts that are kept apart by their separators. -/
structure Nevra.WellFormed (parts : Nevra) : Prop where
  name : parts.name ≠ []
  oneLine : '\n' ∉ parts.name
  version : parts.version ≠ []
  versionFree : '-' ∉ parts.version
  release : parts.release ≠ []
  releaseFree : '-' ∉ parts.release
  arch : parts.arch ≠ []
  archFree : '.' ∉ parts.arch

theorem Nevra.text_injective {parts others : Nevra} (wellFormed : parts.WellFormed)
    (alsoFormed : others.WellFormed) (same : parts.text = others.text) : parts = others := by
  rcases last_separator_unique same wellFormed.archFree alsoFormed.archFree with ⟨front, arch⟩
  rcases last_separator_unique front wellFormed.releaseFree alsoFormed.releaseFree with
    ⟨front, release⟩
  rcases last_separator_unique front wellFormed.versionFree alsoFormed.versionFree with
    ⟨name, version⟩
  cases parts
  cases others
  simp only [Nevra.mk.injEq]
  exact ⟨name, version, release, arch⟩

theorem accepts_iff {symbol : Char} {text : Text} :
    (forall char, char ∈ text -> decide (char ≠ symbol) = true) ↔ symbol ∉ text := by
  simp only [decide_eq_true_eq]
  constructor
  · intro others member
    exact others symbol member rfl
  · rintro absent char member rfl
    exact absent member

theorem splits_nevra_iff {text : Text} {found : List Text} :
    Splits nevraPattern text found ↔
      Exists fun parts : Nevra => parts.WellFormed ∧ text = parts.text ∧
        found = [parts.name, parts.version, parts.release, parts.arch] := by
  rw [nevraPattern]
  constructor
  · intro splits
    rcases splits with _ | _ | ⟨name, oneLine, _ | ⟨_, splits⟩ | _⟩
    rcases splits with _ | _ | ⟨version, versionFree, _ | ⟨_, splits⟩ | _⟩
    rcases splits with _ | _ | ⟨release, releaseFree, _ | ⟨_, splits⟩ | _⟩
    rcases splits with _ | _ | ⟨arch, archFree, ended | _ | _⟩
    rename_i first second third rest fourth
    rw [List.isEmpty_iff.mp ended, List.append_nil]
    refine ⟨⟨first, second, third, fourth⟩, ⟨name, accepts_iff.mp oneLine, version,
      accepts_iff.mp versionFree, release, accepts_iff.mp releaseFree, arch,
      accepts_iff.mp archFree⟩, ?_, rfl⟩
    simp only [Nevra.text, List.append_assoc, List.cons_append]
  · rintro ⟨parts, wellFormed, rfl, rfl⟩
    have arch : Splits [.run fun char => char ≠ '.'] (parts.arch ++ []) [parts.arch] :=
      .run wellFormed.arch (accepts_iff.mpr wellFormed.archFree) (.done rfl)
    rw [List.append_nil] at arch
    simp only [Nevra.text, List.append_assoc, List.cons_append]
    exact .run wellFormed.name (accepts_iff.mpr wellFormed.oneLine) (.symbol '-'
      (.run wellFormed.version (accepts_iff.mpr wellFormed.versionFree) (.symbol '-'
        (.run wellFormed.release (accepts_iff.mpr wellFormed.releaseFree) (.symbol '.' arch)))))

/-- The pattern takes a name apart exactly if it consists of such parts. -/
theorem capture_nevra_iff {text : Text} {found : List Text} :
    capture lineEnd nevraPattern text = some found ↔
      Exists fun parts : Nevra => parts.WellFormed ∧ text = parts.text ∧
        found = [parts.name, parts.version, parts.release, parts.arch] := by
  have whole : forall rest, lineEnd rest = true ->
      forall char, char ∈ rest -> decide (char ≠ '.') = true := by
    intro rest ended char member
    simp only [lineEnd, Bool.or_eq_true, decide_eq_true_eq] at ended
    rcases ended with rfl | rfl
    · cases member
    · rw [List.mem_singleton.mp member]
      decide
  have unique : forall first second, Splits nevraPattern text first ->
      Splits nevraPattern text second -> first = second := by
    intro first second split other
    rcases splits_nevra_iff.mp split with ⟨parts, wellFormed, rfl, rfl⟩
    rcases splits_nevra_iff.mp other with ⟨others, alsoFormed, same, rfl⟩
    rw [Nevra.text_injective wellFormed alsoFormed same]
  have matched := @capture_eq_some_iff _ _ lineEnd _ whole rfl
    [.run fun char => char ≠ '\n', .symbol '-', .run fun char => char ≠ '-', .symbol '-',
      .run fun char => char ≠ '-', .symbol '.'] text unique found
  exact matched.trans splits_nevra_iff

theorem nevra_text {parts : Nevra} (wellFormed : parts.WellFormed) :
    nevra (.string parts.text) = some [parts] := by
  have captured := capture_nevra_iff.mpr ⟨parts, wellFormed, rfl, rfl⟩
  simp only [nevra, Json.text, Option.bind_eq_bind, Option.bind_some, captured, Option.pure_def]

/-- A name without such parts has no output. -/
theorem nevra_eq_some {value : Json} {found : List Nevra} (read : nevra value = some found) :
    Exists fun text => value = .string text ∧
      ((Exists fun parts => parts.WellFormed ∧ text = parts.text ∧ found = [parts]) ∨
        ((forall parts : Nevra, parts.WellFormed -> text ≠ parts.text) ∧ found = [])) := by
  cases value with
  | string text =>
      refine ⟨text, rfl, ?_⟩
      by_cases formed : Exists fun parts : Nevra => parts.WellFormed ∧ text = parts.text
      · rcases formed with ⟨parts, wellFormed, rfl⟩
        rw [nevra_text wellFormed] at read
        exact Or.inl ⟨parts, wellFormed, rfl, (Option.some.inj read).symm⟩
      · refine Or.inr ⟨fun parts wellFormed same => formed ⟨parts, wellFormed, same⟩, ?_⟩
        cases captured : capture lineEnd nevraPattern text with
        | none =>
            simp only [nevra, Json.text, Option.bind_eq_bind, Option.bind_some, captured,
              Option.pure_def, Option.some.injEq] at read
            exact read.symm
        | some parts =>
            rcases capture_nevra_iff.mp captured with ⟨parts, wellFormed, same, _⟩
            exact absurd ⟨parts, wellFormed, same⟩ formed
  | null => cases read
  | bool value => cases read
  | number text => cases read
  | array items => cases read
  | object fields => cases read

/-! ## What is read from a record -/

def entries (record : Json) : List Json :=
  ((record.get "entries").bind Json.items).getD []

def assets (entry : Json) : List Json :=
  ((entry.get "assets").bind Json.items).getD []

/-- The entry is stable and has an advisory. -/
def isAnnounced (entry : Json) : Bool :=
  (entry.get "status").any (fun status => status.is "stable") &&
    (entry.get "advisory").any Json.isPresent

def announced (record : Json) : List Json := (entries record).filter isAnnounced

section Records

variable {dump : Json -> Text}

theorem isAnnounced_of_selected {entry : Json} {chosen : Bool}
    (known : selected entry = some chosen) : isAnnounced entry = chosen := by
  simp only [selected, Option.bind_eq_bind, Option.bind_eq_some_iff] at known
  rcases known with ⟨status, found, known⟩
  cases stable : status.is "stable" with
  | false =>
      simp only [stable, Bool.false_eq_true, if_false, Option.pure_def, Option.some.injEq] at known
      rw [isAnnounced, found, Option.any_some, stable, Bool.false_and]
      exact known
  | true =>
      simp only [stable, if_true, Option.bind_eq_some_iff, Option.pure_def,
        Option.some.injEq] at known
      rcases known with ⟨advisory, present, known⟩
      rw [isAnnounced, found, present, Option.any_some, Option.any_some, stable, Bool.true_and]
      exact known

/-- One update for each stable entry with an advisory, in order. -/
theorem readUpdates_announced {record : Json} {updates : List Update}
    (read : readUpdates dump record = some updates) :
    List.Forall₂ (fun entry update => readUpdate dump entry = some update)
      (announced record) updates := by
  simp only [readUpdates, Option.bind_eq_bind, Option.bind_eq_some_iff] at read
  rcases read with ⟨list, found, values, iterated, collected⟩
  have all : entries record = values := by
    rw [entries, found, Option.bind_some, iterated, Option.getD_some]
  rw [announced, all]
  clear all iterated found
  induction values generalizing updates with
  | nil =>
      cases collected
      exact .nil
  | cons entry values ih =>
      rcases collect_cons_eq_some_iff.mp collected with ⟨here, read, rest, tail, rfl⟩
      rw [Option.bind_eq_some_iff] at read
      rcases read with ⟨chosen, known, output⟩
      have announces := isAnnounced_of_selected known
      cases chosen with
      | false =>
          cases output
          rw [List.filter_cons_of_neg (by rw [announces]; exact Bool.false_ne_true)]
          exact ih tail
      | true =>
          simp only [if_true, Option.bind_eq_some_iff, Option.pure_def, Option.some.injEq]
            at output
          rcases output with ⟨update, read, rfl⟩
          rw [List.filter_cons_of_pos announces]
          exact .cons read (ih tail)

/-- A package has the name, the file and the digest of its asset. -/
structure Carries (dump : Json -> Text) (asset : Json) (package : Package) : Prop where
  file : (asset.get "name").map (tostring dump) = some package.file
  sha256 : (asset.get "sha256").map (tostring dump) = some package.sha256
  nevra : asset.get "nevra" = some (.string package.nevra.text)

/-- An update names its entry and has one package for each asset of it, in
order. -/
structure Announces (dump : Json -> Text) (entry : Json) (update : Update) : Prop where
  tag : (entry.get "tag").map (tostring dump) = some update.tag
  id : ((entry.get "advisory").bind (Json.get "id")).map (tostring dump) = some update.id
  packages : List.Forall₂ (Carries dump) (assets entry) update.packages

/-- The name of an asset can be split. -/
def Splittable (asset : Json) : Prop :=
  Exists fun parts : Nevra => parts.WellFormed ∧ asset.get "nevra" = some (.string parts.text)

/-- An asset has one package if its name can be split, and none else. -/
theorem packages_eq_some {asset : Json} {found : List Package}
    (read : packages dump asset = some found) :
    (Exists fun package => found = [package] ∧ Splittable asset ∧ Carries dump asset package) ∨
      (found = [] ∧ ¬ Splittable asset) := by
  simp only [packages, Option.bind_eq_bind, Option.bind_eq_some_iff] at read
  rcases read with ⟨value, named, names, read, collected⟩
  rcases nevra_eq_some read with ⟨text, rfl, ⟨parts, wellFormed, rfl, rfl⟩ | ⟨unsplit, rfl⟩⟩
  · rcases collect_cons_eq_some_iff.mp collected with ⟨here, placed, rest, finished, rfl⟩
    cases finished
    simp only [Option.bind_eq_some_iff, Option.pure_def, Option.some.injEq] at placed
    rcases placed with ⟨name, file, sha256, digest, rfl⟩
    refine Or.inl ⟨_, rfl, ⟨parts, wellFormed, named⟩, ?_, ?_, named⟩
    · rw [file]
      rfl
    · rw [digest]
      rfl
  · cases collected
    refine Or.inr ⟨rfl, ?_⟩
    rintro ⟨parts, wellFormed, also⟩
    rw [named] at also
    exact unsplit parts wellFormed (Json.string.inj (Option.some.inj also))

theorem readUpdate_eq_some {entry : Json} {update : Update}
    (read : readUpdate dump entry = some update) :
    (entry.get "tag").map (tostring dump) = some update.tag ∧
      ((entry.get "advisory").bind (Json.get "id")).map (tostring dump) = some update.id ∧
      collect (packages dump) (assets entry) = some update.packages := by
  simp only [readUpdate, Option.bind_eq_bind, Option.bind_eq_some_iff, Option.pure_def,
    Option.some.injEq] at read
  rcases read with ⟨advisory, present, severity, _, issuedValue, _, issued, _, cvesValue, _, cves,
    _, assetsValue, listed, values, iterated, type, _, id, identified, summary, _, tag, tagged,
    found, collected, rfl⟩
  refine ⟨?_, ?_, ?_⟩
  · rw [tagged]
    rfl
  · rw [present, Option.bind_some, identified]
    rfl
  · rw [assets, listed, Option.bind_some, iterated, Option.getD_some]
    exact collected

/-- Assets whose names can be split have one package each. -/
theorem carries_of_splittable {values : List Json} {found : List Package}
    (collected : collect (packages dump) values = some found)
    (splittable : forall asset, asset ∈ values -> Splittable asset) :
    List.Forall₂ (Carries dump) values found := by
  induction values generalizing found with
  | nil =>
      cases collected
      exact .nil
  | cons asset values ih =>
      rcases collect_cons_eq_some_iff.mp collected with ⟨here, read, rest, tail, rfl⟩
      rcases packages_eq_some read with ⟨package, rfl, _, carries⟩ | ⟨_, unsplit⟩
      · exact .cons carries (ih tail fun asset member =>
          splittable asset (List.mem_cons_of_mem _ member))
      · exact absurd (splittable asset List.mem_cons_self) unsplit

/-- There are at most as many packages as assets, and as many only if every
name can be split. -/
theorem collected_length {values : List Json} {found : List Package}
    (collected : collect (packages dump) values = some found) :
    found.length ≤ values.length ∧
      (found.length = values.length -> forall asset, asset ∈ values -> Splittable asset) := by
  induction values generalizing found with
  | nil =>
      cases collected
      exact ⟨Nat.le_refl _, fun _ asset member => nomatch member⟩
  | cons asset values ih =>
      rcases collect_cons_eq_some_iff.mp collected with ⟨here, read, rest, tail, rfl⟩
      rcases ih tail with ⟨bound, all⟩
      rcases packages_eq_some read with ⟨package, rfl, splittable, _⟩ | ⟨rfl, _⟩
      · refine ⟨Nat.succ_le_succ bound, ?_⟩
        intro same other member
        rcases List.mem_cons.mp member with rfl | member
        · exact splittable
        · exact all (Nat.succ.inj same) other member
      · refine ⟨Nat.le_succ_of_le bound, ?_⟩
        intro same
        change rest.length = values.length + 1 at same
        omega

theorem announces_of_splittable {list : List Json} {updates : List Update}
    (read : List.Forall₂ (fun entry update => readUpdate dump entry = some update) list updates)
    (splittable : forall entry, entry ∈ list -> forall asset, asset ∈ assets entry ->
      Splittable asset) :
    List.Forall₂ (Announces dump) list updates := by
  induction read with
  | nil => exact .nil
  | cons read _ ih =>
      rcases readUpdate_eq_some read with ⟨tag, id, collected⟩
      have carries := carries_of_splittable collected (splittable _ List.mem_cons_self)
      exact .cons ⟨tag, id, carries⟩
        (ih fun entry member => splittable entry (List.mem_cons_of_mem _ member))

/-- The packages of all updates are those of all announced assets. -/
theorem collect_announced {list : List Json} {updates : List Update}
    (read : List.Forall₂ (fun entry update => readUpdate dump entry = some update) list updates) :
    collect (packages dump) (list.flatMap assets) =
      some (updates.flatMap Update.packages) := by
  induction read with
  | nil => rfl
  | cons read _ ih =>
      rw [List.flatMap_cons, List.flatMap_cons]
      exact collect_append (readUpdate_eq_some read).2.2 ih

theorem Announces.length {list : List Json} {updates : List Update}
    (announces : List.Forall₂ (Announces dump) list updates) :
    (updates.flatMap Update.packages).length = (list.flatMap assets).length := by
  induction announces with
  | nil => rfl
  | cons announces _ ih =>
      rw [List.flatMap_cons, List.flatMap_cons, List.length_append, List.length_append, ih,
        announces.packages.length_eq]

end Records

/-- The output has one update for each stable entry with an advisory, and
within it one package for each asset. -/
def Complete (dump : Json -> Text) (record : Json) (output : Text) : Prop :=
  Exists fun updates => output = document updates ∧
    List.Forall₂ (Announces dump) (announced record) updates

/-- The name of every announced asset can be split. -/
def AllSplittable (record : Json) : Prop :=
  forall entry, entry ∈ announced record -> forall asset, asset ∈ assets entry -> Splittable asset

/-- No asset of an advisory is dropped exactly if the name of each can be
split, and a name that can be split is split into the parts it was built
from. -/
theorem complete_iff_allSplittable {dump : Json -> Text} {record : Json} {output : Text}
    (succeeds : updateinfo dump record = some output) :
    (Complete dump record output ↔ AllSplittable record) ∧
      forall parts : Nevra, parts.WellFormed -> nevra (.string parts.text) = some [parts] := by
  refine ⟨?_, fun parts wellFormed => nevra_text wellFormed⟩
  rw [updateinfo, Option.map_eq_some_iff] at succeeds
  rcases succeeds with ⟨updates, read, rfl⟩
  have announces := readUpdates_announced read
  constructor
  · rintro ⟨others, same, complete⟩
    have collected := collect_announced announces
    have count : (updates.flatMap Update.packages).length =
        ((announced record).flatMap assets).length := by
      rw [← occurrences_packages, same, occurrences_packages, Announces.length complete]
    have splittable := (collected_length collected).2 count
    exact fun entry announced asset member =>
      splittable asset (List.mem_flatMap.mpr ⟨entry, announced, member⟩)
  · intro splittable
    exact ⟨updates, rfl, announces_of_splittable announces splittable⟩

/-- A record with one stable entry, of one asset. -/
def oneAdvisory (summary name : Text) : Json :=
  .object [("entries".toList, .array [.object [
    ("status".toList, .string "stable".toList),
    ("tag".toList, .string "v1-2".toList),
    ("advisory".toList, .object [
      ("type".toList, .string "security".toList),
      ("id".toList, .string "XPSA-1".toList),
      ("summary".toList, .string summary),
      ("severity".toList, .null),
      ("issued".toList, .string "2026-01-02T03:04:05Z".toList)]),
    ("assets".toList, .array [.object [
      ("name".toList, .string "xoa-proxy.rpm".toList),
      ("sha256".toList, .string "00".toList),
      ("nevra".toList, .string name)]])]])]

/-- Its update, with the packages that are found. -/
def oneUpdate (summary : Text) (packages : List Package) : Update where
  type := "security".toList
  id := "XPSA-1".toList
  summary := summary
  severity := "None".toList
  issued := "2026-01-02 03:04:05".toList
  tag := "v1-2".toList
  cves := []
  packages := packages

/-- The texts of scalars; the record has no other values to print. -/
def printScalar : Json -> Text
  | .null => "null".toList
  | .bool value => (if value then "true" else "false").toList
  | .number text | .string text => text
  | .array _ | .object _ => []

def versionedName : Text := "xoa-proxy-1.2-3.el7.x86_64".toList

def versionedPackage : Package where
  nevra := ⟨"xoa-proxy".toList, "1.2".toList, "3.el7".toList, "x86_64".toList⟩
  file := "xoa-proxy.rpm".toList
  sha256 := "00".toList

theorem updateinfo_versioned (summary : Text) :
    updateinfo printScalar (oneAdvisory summary versionedName) =
      some (document [oneUpdate summary [versionedPackage]]) := by
  have read : readUpdates printScalar (oneAdvisory summary versionedName) =
      some [oneUpdate summary [versionedPackage]] := rfl
  rw [updateinfo, read]
  rfl

/-- With a name of four parts nothing is dropped. -/
theorem complete_versioned :
    (Complete printScalar (oneAdvisory [] versionedName)
        (document [oneUpdate [] [versionedPackage]]) ↔
      AllSplittable (oneAdvisory [] versionedName)) ∧
      forall parts : Nevra, parts.WellFormed -> nevra (.string parts.text) = some [parts] :=
  complete_iff_allSplittable (updateinfo_versioned [])

/-- An asset whose name has no version is dropped from its advisory, and the
filter succeeds. -/
theorem unversioned_dropped :
    updateinfo printScalar (oneAdvisory [] "xoa-proxy".toList) =
        some (document [oneUpdate [] []]) ∧
      ¬ Complete printScalar (oneAdvisory [] "xoa-proxy".toList)
        (document [oneUpdate [] []]) := by
  have read : readUpdates printScalar (oneAdvisory [] "xoa-proxy".toList) =
      some [oneUpdate [] []] := rfl
  constructor
  · rw [updateinfo, read]
    rfl
  · rintro ⟨updates, same, complete⟩
    have count := Announces.length complete
    rw [← occurrences_packages, ← same, occurrences_packages] at count
    cases count

/-- The tokens of the output are those of the template with its values, their
tags are those of any other output with as many updates, references and
packages, and the tag of an update occurs once for each advisory. -/
structure Unbroken (dump : Json -> Text) (record : Json) (output : Text)
    (updates : List Update) : Prop where
  tokens : Exists fun tokens =>
    place (documentTemplate updates) = some tokens ∧ lex output = some tokens
  tags : forall otherDump other others otherOutput,
    readUpdates otherDump other = some others ->
    updateinfo otherDump other = some otherOutput ->
    others.map Update.counts = updates.map Update.counts ->
      (lex otherOutput).map skeleton = (lex output).map skeleton
  occurrences : occurrences "<update ".toList output = (announced record).length
  attached : "<update ".toList <:+: output ↔ announced record ≠ []

theorem advisories_unbroken {dump : Json -> Text} {record : Json} {output : Text}
    (succeeds : updateinfo dump record = some output) :
    (forall value, decode (esc value) = some value) ∧
      Exists fun updates => readUpdates dump record = some updates ∧
        Unbroken dump record output updates := by
  constructor
  · intro value
    rw [esc_eq_escape, decode_escape]
  · rw [updateinfo, Option.map_eq_some_iff] at succeeds
    rcases succeeds with ⟨updates, read, rfl⟩
    have count : occurrences "<update ".toList (document updates) = (announced record).length := by
      rw [occurrences_updates, (readUpdates_announced read).length_eq]
    refine ⟨updates, read, lex_document updates, ?_, count, ?_⟩
    · intro otherDump other others otherOutput otherRead otherSucceeds same
      rw [updateinfo, otherRead, Option.map_some, Option.some.injEq] at otherSucceeds
      subst otherSucceeds
      rcases lex_document updates with ⟨tokens, placed, read⟩
      rcases lex_document others with ⟨otherTokens, otherPlaced, otherRead⟩
      rw [read, otherRead, ← placed, ← otherPlaced]
      exact skeleton_place (erase_document same)
    · rw [← occurrences_pos_iff (by decide), count, List.length_pos_iff]

/-- A summary that looks like the end of its element. -/
def hostileSummary : Text := "</title>\"&lt;<update x=\">".toList

theorem hostileSummary_unbroken :
    (forall value, decode (esc value) = some value) ∧
      Exists fun updates =>
        readUpdates printScalar (oneAdvisory hostileSummary versionedName) = some updates ∧
        Unbroken printScalar (oneAdvisory hostileSummary versionedName)
          (document [oneUpdate hostileSummary [versionedPackage]]) updates :=
  advisories_unbroken (updateinfo_versioned hostileSummary)

end Site
end XoaProxy
