import XoaProxy.Foundation.LineFields
import Mathlib.Data.List.Sort

namespace XoaProxy
namespace Site

/-!
# Building the package site

`buildSite` is the script that publishes the stable and the testing channel.
It turns the promotion record and the list of releases into three listings,
reads these back line by line, and fetches the file of every line into the
directory of its channel.  A file is written before its digest is checked, and
a later line may write the same name again.

The tools it calls are not part of the repository.  `World` holds their
answers: the bytes of each download, the digest of a file, and the test of a
name against the package pattern.
-/

structure Asset where
  name : Text
  sha256 : Text

structure Entry where
  tag : Text
  status : Text
  retainUntil : Option Text
  assets : List Asset

/-- `stable.json`. -/
structure PromotionRecord where
  generation : Option Nat
  entries : List Entry

/-- A name of a file in a directory, as releases accept it for an asset. -/
def fileName (name : Text) : Bool :=
  name ≠ [] && name ≠ ".".toList && name ≠ "..".toList && '/' ∉ name && '\\' ∉ name

/-- An asset of a release is a single file. -/
structure ReleaseAsset where
  name : Text
  url : Text
  digest : Option Text
  plain : fileName name = true

structure Release where
  tagName : Text
  prerelease : Bool
  draft : Bool
  publishedAt : Option Text
  assets : List ReleaseAsset

/-- The tools around the script. -/
structure World where
  curl : Nat -> Text -> Option (List UInt8)
  sha256sum : List UInt8 -> Text
  test : Text -> Bool

/-! ## The listings -/

/-- One row for each asset of the selected entries. -/
def assetRows (selected : Entry -> Bool) (record : PromotionRecord) : List Fields :=
  (record.entries.filter selected).flatMap fun entry =>
    entry.assets.map fun asset => ⟨entry.tag, asset.name, asset.sha256⟩

/-- The entry is retained: its date is later than now. -/
def retained (now : Text) (entry : Entry) : Bool :=
  now < entry.retainUntil.getD []

/-- Stable entries, and retired ones until their retention date. -/
def served (now : Text) (entry : Entry) : Bool :=
  entry.status = "stable".toList || (entry.status = "retired".toList && retained now entry)

/-- Superseded entries until their retention date. -/
def superseded (now : Text) (entry : Entry) : Bool :=
  entry.status = "superseded".toList && retained now entry

def stableList (now : Text) (record : PromotionRecord) : Text :=
  printListing (assetRows (served now) record)

def supersededList (now : Text) (record : PromotionRecord) : Text :=
  printListing (assetRows (superseded now) record)

/-- The order of the publication dates, a missing one first. -/
def publishedLe : Option Text -> Option Text -> Bool
  | none, _ => true
  | some _, none => false
  | some first, some second => !(second < first)

/-- The newest candidates, without drafts and withdrawn ones. -/
def candidates (keep : Nat) (record : PromotionRecord) (releases : List Release) : List Release :=
  let withdrawn :=
    (record.entries.filter fun entry => entry.status = "withdrawn".toList).map Entry.tag
  let eligible := releases.filter fun release =>
    release.prerelease && !release.draft && !withdrawn.contains release.tagName
  ((eligible.insertionSort fun first second =>
    publishedLe first.publishedAt second.publishedAt).reverse).take keep

/-- A digest without the name of its algorithm. -/
def bareDigest (digest : Text) : Text :=
  if "sha256:".toList.isPrefixOf digest then digest.drop "sha256:".toList.length else digest

def testingList (world : World) (keep : Nat) (record : PromotionRecord)
    (releases : List Release) : Text :=
  printListing ((candidates keep record releases).flatMap fun release =>
    (release.assets.filter fun asset => world.test asset.name).map fun asset =>
      ⟨release.tagName, asset.name, bareDigest (asset.digest.getD [])⟩)

/-- The files of a directory, under distinct names. -/
structure Directory where
  files : List (Text × List UInt8)
  distinct : (files.map Prod.fst).Nodup

namespace Directory

def empty : Directory := ⟨[], List.nodup_nil⟩

def others (directory : Directory) (name : Text) : List (Text × List UInt8) :=
  directory.files.filter fun file => file.1 ≠ name

/-- Write a file, in the place of the one with the same name. -/
def write (directory : Directory) (name : Text) (bytes : List UInt8) : Directory where
  files := (name, bytes) :: directory.others name
  distinct := by
    rw [List.map_cons, List.nodup_cons]
    constructor
    · intro listed
      rcases List.mem_map.mp listed with ⟨file, member, same⟩
      have differs := (List.mem_filter.mp member).2
      exact absurd same (of_decide_eq_true differs)
    · exact directory.distinct.sublist (List.Sublist.map _ List.filter_sublist)

/-- The name has these bytes. -/
def Has (directory : Directory) (name : Text) (bytes : List UInt8) : Prop :=
  (name, bytes) ∈ directory.files

theorem has_write_self (directory : Directory) (name : Text) (bytes : List UInt8) :
    (directory.write name bytes).Has name bytes :=
  List.mem_cons_self

theorem has_write_other {directory : Directory} {name other : Text} (differs : other ≠ name)
    (bytes found : List UInt8) :
    (directory.write name bytes).Has other found ↔ directory.Has other found := by
  simp [Has, write, others, differs]

theorem has_unique {directory : Directory} {name : Text} {first second : List UInt8}
    (one : directory.Has name first) (two : directory.Has name second) : first = second := by
  have same := List.inj_on_of_nodup_map directory.distinct one two rfl
  exact (Prod.mk.inj same).2

end Directory

/-! ## Fetching -/

/-- A directory that is being filled, with the number of downloads so far. -/
structure Fetched where
  directory : Directory
  count : Nat

/-- What a shell substitutes for the output of a command. -/
def substituted (output : Text) : Text :=
  (output.reverse.dropWhile fun char => char = '\n').reverse

/-- The address of an asset: those of all assets that match, each on a line. -/
def downloadUrl (releases : List Release) (tag name : Text) : Text :=
  let found := (releases.filter fun release => release.tagName = tag).flatMap fun release =>
    (release.assets.filter fun asset => asset.name = name).map ReleaseAsset.url
  substituted (found.flatMap fun url => url ++ ['\n'])

/-- One release asset, kept only if its bytes are the recorded ones. -/
def fetch (world : World) (releases : List Release) (row : Fields) (state : Fetched) :
    Except Text Fetched :=
  let url := downloadUrl releases row.first row.second
  if url = [] then
    .error ("missing: ".toList ++ row.first ++ " has no asset ".toList ++ row.second)
  else
    match world.curl state.count url with
    | none => .error "curl".toList
    | some bytes =>
        let written := state.directory.write row.second bytes
        let got := world.sha256sum bytes
        if got = row.third then
          .ok ⟨written, state.count + 1⟩
        else
          .error ("digest mismatch: ".toList ++ row.second ++ " is ".toList ++ got ++
            ", expected ".toList ++ row.third)

/-- A candidate without a recorded digest fails the run. -/
def fetchCandidate (world : World) (releases : List Release) (row : Fields) (state : Fetched) :
    Except Text Fetched :=
  if row.third = [] then
    .error ("missing: ".toList ++ row.first ++ " ".toList ++ row.second ++
      " has no digest".toList)
  else
    fetch world releases row state

/-- Fetch the file of every row, and stop at the first failure. -/
def fetchAll (one : Fields -> Fetched -> Except Text Fetched) :
    List Fields -> Fetched -> Except Text Fetched
  | [], state => .ok state
  | row :: rows, state =>
      match one row state with
      | .error reason => .error reason
      | .ok next => fetchAll one rows next

theorem fetchAll_cons_eq_ok {one : Fields -> Fetched -> Except Text Fetched} {row : Fields}
    {rows : List Fields} {state final : Fetched} :
    fetchAll one (row :: rows) state = .ok final ↔
      Exists fun next => one row state = .ok next ∧ fetchAll one rows next = .ok final := by
  rw [fetchAll]
  cases step : one row state with
  | error reason => simp
  | ok next => simp

/-- Only package files are listed. -/
def isRpm (name : Text) : Bool := ".rpm".toList.isSuffixOf name

/-- The packages of a directory with their digests, without the excluded
names. -/
def createrepo (world : World) (excludes : List Text) (directory : Directory) :
    List (Text × Text) :=
  (directory.files.filter fun file => isRpm file.1 && !excludes.contains file.1).map fun file =>
    (file.1, world.sha256sum file.2)

structure Channels where
  stable : Directory
  testing : Directory
  stableMetadata : List (Text × Text)
  testingMetadata : List (Text × Text)

def buildSite (world : World) (keep : Nat) (now : Text) (record : PromotionRecord)
    (releases : List Release) : Except Text Channels :=
  if record.generation.isNone then
    throw "stable.json is not a promotion record".toList
  else if stableList now record = [] then
    throw "stable.json lists nothing to serve".toList
  else do
    let stable ← fetchAll (fetch world releases) (readListing (stableList now record))
      ⟨Directory.empty, 0⟩
    let stable ← fetchAll (fetch world releases) (readListing (supersededList now record)) stable
    let testing ← fetchAll (fetchCandidate world releases)
      (readListing (testingList world keep record releases)) ⟨Directory.empty, stable.count⟩
    let excludes := (readListing (supersededList now record)).map Fields.second
    return {
      stable := stable.directory
      testing := testing.directory
      stableMetadata := createrepo world excludes stable.directory
      testingMetadata := createrepo world [] testing.directory }

end Site
end XoaProxy
