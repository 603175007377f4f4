import XoaProxy.Site.BuildSite

namespace XoaProxy
namespace Site

/-!
# What the channels contain

Every fetch checks its own digest, so a directory is right as long as no later
row writes over an earlier file with other bytes.  Rows are told apart by the
file name alone: the tag does not enter the directory, and the exclusion of
superseded files goes by the file name as well.

`Unambiguous` is a condition on the record and the releases.  A run that
completes publishes what was recorded and verified exactly when it holds.
-/

/-- The rows that the script reads for the stable directory. -/
def stableRows (now : Text) (record : PromotionRecord) : List Fields :=
  readListing (stableList now record)

def supersededRows (now : Text) (record : PromotionRecord) : List Fields :=
  readListing (supersededList now record)

def testingRows (world : World) (keep : Nat) (record : PromotionRecord)
    (releases : List Release) : List Fields :=
  readListing (testingList world keep record releases)

/-- The final bytes of the file of every row have the digest of the row. -/
def Verified (world : World) (directory : Directory) (rows : List Fields) : Prop :=
  forall row, row ∈ rows -> Exists fun bytes =>
    directory.Has row.second bytes ∧ world.sha256sum bytes = row.third

/-- An entry that is served has an asset of this name and digest. -/
def Recorded (now : Text) (record : PromotionRecord) (name digest : Text) : Prop :=
  Exists fun entry => entry ∈ record.entries ∧ served now entry = true ∧
    Exists fun asset => asset ∈ entry.assets ∧ asset.name = name ∧ asset.sha256 = digest

/-- The channels are what was recorded and verified. -/
structure AsRecorded (world : World) (keep : Nat) (now : Text) (record : PromotionRecord)
    (releases : List Release) (site : Channels) : Prop where
  stable : Verified world site.stable (stableRows now record ++ supersededRows now record)
  testing : Verified world site.testing (testingRows world keep record releases)
  listed : forall name digest,
    (name, digest) ∈ site.stableMetadata ↔ Recorded now record name digest

/-- Rows with the same file name have the same digest. -/
def Consistent (rows : List Fields) : Prop :=
  forall first, first ∈ rows -> forall second, second ∈ rows ->
    first.second = second.second -> first.third = second.third

instance (rows : List Fields) : Decidable (Consistent rows) :=
  inferInstanceAs (Decidable (forall first, first ∈ rows -> forall second, second ∈ rows ->
    first.second = second.second -> first.third = second.third))

/-- Every served asset is a package, and no superseded row has its name. -/
def Visible (now : Text) (record : PromotionRecord) : Prop :=
  forall name digest, Recorded now record name digest ->
    isRpm name = true ∧ name ∉ (supersededRows now record).map Fields.second

/-- Under a name that is not hidden, the rows that are read for the stable
directory are the recorded assets. -/
def Legible (now : Text) (record : PromotionRecord) : Prop :=
  forall name digest, isRpm name = true ->
    name ∉ (supersededRows now record).map Fields.second ->
      ((Exists fun row => row ∈ stableRows now record ∧ row.second = name ∧ row.third = digest) ↔
        Recorded now record name digest)

/-- The file names tell the rows of each directory apart. -/
structure Unambiguous (world : World) (keep : Nat) (now : Text) (record : PromotionRecord)
    (releases : List Release) : Prop where
  stable : Consistent (stableRows now record ++ supersededRows now record)
  testing : Consistent (testingRows world keep record releases)
  visible : Visible now record
  legible : Legible now record

/-- The fields of every asset that is fetched for the stable channel are words. -/
def PlainRecord (now : Text) (record : PromotionRecord) : Prop :=
  forall row, row ∈ assetRows (served now) record ++ assetRows (superseded now) record -> row.Words

instance (now : Text) (record : PromotionRecord) : Decidable (PlainRecord now record) :=
  inferInstanceAs (Decidable (forall row,
    row ∈ assetRows (served now) record ++ assetRows (superseded now) record -> row.Words))

theorem mem_assetRows_iff {selected : Entry -> Bool} {record : PromotionRecord} {row : Fields} :
    row ∈ assetRows selected record ↔
      Exists fun entry => entry ∈ record.entries ∧ selected entry = true ∧
        Exists fun asset => asset ∈ entry.assets ∧
          row = ⟨entry.tag, asset.name, asset.sha256⟩ := by
  simp only [assetRows, List.mem_flatMap, List.mem_filter, List.mem_map, and_assoc, eq_comm]

/-- A record of plain words is read as it was recorded. -/
theorem legible_of_plain {now : Text} {record : PromotionRecord}
    (plain : PlainRecord now record) : Legible now record := by
  have stable : stableRows now record = assetRows (served now) record :=
    readListing_printListing fun row listed => plain row (List.mem_append_left _ listed)
  intro name digest _ _
  rw [stable]
  constructor
  · rintro ⟨row, listed, rfl, rfl⟩
    rcases mem_assetRows_iff.mp listed with ⟨entry, member, chosen, asset, held, rfl⟩
    exact ⟨entry, member, chosen, asset, held, rfl, rfl⟩
  · rintro ⟨entry, listed, chosen, asset, member, rfl, rfl⟩
    exact ⟨_, mem_assetRows_iff.mpr ⟨entry, listed, chosen, asset, member, rfl⟩, rfl, rfl⟩

/-- For a record of plain words, only the names and digests of the assets
themselves decide. -/
theorem unambiguous_iff_of_plain {world : World} {keep : Nat} {now : Text}
    {record : PromotionRecord} {releases : List Release} (plain : PlainRecord now record) :
    Unambiguous world keep now record releases ↔
      Consistent (assetRows (served now) record ++ assetRows (superseded now) record) ∧
        Consistent (testingRows world keep record releases) ∧
        forall row, row ∈ assetRows (served now) record ->
          isRpm row.second = true ∧
            row.second ∉ (assetRows (superseded now) record).map Fields.second := by
  have stable : stableRows now record = assetRows (served now) record :=
    readListing_printListing fun row listed => plain row (List.mem_append_left _ listed)
  have excluded : supersededRows now record = assetRows (superseded now) record :=
    readListing_printListing fun row listed => plain row (List.mem_append_right _ listed)
  rw [← stable, ← excluded]
  constructor
  · intro unambiguous
    refine ⟨unambiguous.stable, unambiguous.testing, ?_⟩
    intro row listed
    rw [stable] at listed
    rcases mem_assetRows_iff.mp listed with ⟨entry, member, chosen, asset, held, rfl⟩
    exact unambiguous.visible asset.name asset.sha256 ⟨entry, member, chosen, asset, held, rfl, rfl⟩
  · rintro ⟨consistent, testing, packages⟩
    refine ⟨consistent, testing, ?_, legible_of_plain plain⟩
    rintro name digest ⟨entry, member, chosen, asset, held, rfl, rfl⟩
    apply packages ⟨entry.tag, asset.name, asset.sha256⟩
    rw [stable]
    exact mem_assetRows_iff.mpr ⟨entry, member, chosen, asset, held, rfl⟩

/-- A step that fetches a row writes its file with the right digest, and
nothing else. -/
def Fetches (world : World) (one : Fields -> Fetched -> Except Text Fetched) : Prop :=
  forall row state next, one row state = .ok next -> Exists fun bytes =>
    next.directory = state.directory.write row.second bytes ∧ world.sha256sum bytes = row.third

theorem fetch_fetches (world : World) (releases : List Release) :
    Fetches world (fetch world releases) := by
  intro row state next fetched
  simp only [fetch] at fetched
  split at fetched
  · cases fetched
  · split at fetched
    · cases fetched
    · rename_i bytes _
      split at fetched
      · rename_i same
        cases fetched
        exact ⟨bytes, rfl, same⟩
      · cases fetched

theorem fetchCandidate_fetches (world : World) (releases : List Release) :
    Fetches world (fetchCandidate world releases) := by
  intro row state next fetched
  simp only [fetchCandidate] at fetched
  split at fetched
  · cases fetched
  · exact fetch_fetches world releases row state next fetched

section Loop

variable {world : World} {one : Fields -> Fetched -> Except Text Fetched}
  (fetches : Fetches world one)

include fetches

/-- A name that no row has keeps its bytes. -/
theorem fetchAll_other {rows : List Fields} {state final : Fetched}
    (fetched : fetchAll one rows state = .ok final) {name : Text}
    (unlisted : forall row, row ∈ rows -> row.second ≠ name) (bytes : List UInt8) :
    final.directory.Has name bytes ↔ state.directory.Has name bytes := by
  induction rows generalizing state with
  | nil =>
      cases fetched
      exact Iff.rfl
  | cons row rows ih =>
      rcases fetchAll_cons_eq_ok.mp fetched with ⟨next, step, rest⟩
      rcases fetches row state next step with ⟨written, wrote, _⟩
      rw [ih rest fun other member => unlisted other (List.mem_cons_of_mem row member), wrote]
      exact Directory.has_write_other (unlisted row List.mem_cons_self).symm written bytes

/-- A name that some row has ends up with the digest of one of these rows. -/
theorem fetchAll_listed {rows : List Fields} {state final : Fetched}
    (fetched : fetchAll one rows state = .ok final) {row : Fields} (listed : row ∈ rows) :
    Exists fun last => last ∈ rows ∧ last.second = row.second ∧
      Exists fun bytes => final.directory.Has row.second bytes ∧
        world.sha256sum bytes = last.third := by
  induction rows generalizing state row with
  | nil => cases listed
  | cons first rows ih =>
      rcases fetchAll_cons_eq_ok.mp fetched with ⟨next, step, rest⟩
      by_cases later : Exists fun other => other ∈ rows ∧ other.second = row.second
      · rcases later with ⟨other, member, same⟩
        rcases ih rest member with ⟨last, lastMember, lastSame, bytes, has, digest⟩
        exact ⟨last, List.mem_cons_of_mem first lastMember, lastSame.trans same, bytes,
          same ▸ has, digest⟩
      · have here : row = first := by
          cases listed with
          | head => rfl
          | tail _ member => exact absurd ⟨row, member, rfl⟩ later
        subst here
        rcases fetches row state next step with ⟨bytes, wrote, digest⟩
        refine ⟨row, List.mem_cons_self, rfl, bytes, ?_, digest⟩
        rw [fetchAll_other fetches rest (fun other member same =>
          later ⟨other, member, same⟩), wrote]
        exact Directory.has_write_self _ _ _

/-- The files of a directory that was filled from nothing are those of rows. -/
theorem fetchAll_has {rows : List Fields} {count : Nat} {final : Fetched}
    (fetched : fetchAll one rows ⟨Directory.empty, count⟩ = .ok final) {name : Text}
    {bytes : List UInt8} (has : final.directory.Has name bytes) :
    Exists fun row => row ∈ rows ∧ row.second = name := by
  by_contra unlisted
  rw [fetchAll_other fetches fetched fun row member same => unlisted ⟨row, member, same⟩] at has
  cases has

/-- A filled directory is verified exactly when its rows are consistent. -/
theorem verified_iff_consistent {rows : List Fields} {state final : Fetched}
    (fetched : fetchAll one rows state = .ok final) :
    Verified world final.directory rows ↔ Consistent rows := by
  constructor
  · intro verified first firstListed second secondListed same
    rcases verified first firstListed with ⟨bytes, has, digest⟩
    rcases verified second secondListed with ⟨others, hasOthers, digestOthers⟩
    rw [← same] at hasOthers
    rw [← digest, ← digestOthers, Directory.has_unique has hasOthers]
  · intro consistent row listed
    rcases fetchAll_listed fetches fetched listed with ⟨last, member, same, bytes, has, digest⟩
    exact ⟨bytes, has, digest.trans (consistent last member row listed same)⟩

end Loop

/-- Two loops one after the other are one loop. -/
theorem fetchAll_append {one : Fields -> Fetched -> Except Text Fetched}
    {first second : List Fields} {state middle final : Fetched}
    (before : fetchAll one first state = .ok middle)
    (after : fetchAll one second middle = .ok final) :
    fetchAll one (first ++ second) state = .ok final := by
  induction first generalizing state with
  | nil =>
      cases before
      exact after
  | cons row rows ih =>
      rcases fetchAll_cons_eq_ok.mp before with ⟨next, step, rest⟩
      exact fetchAll_cons_eq_ok.mpr ⟨next, step, ih rest⟩

/-! ## The published channels -/

/-- What a completed run publishes. -/
structure Completed (world : World) (keep : Nat) (now : Text) (record : PromotionRecord)
    (releases : List Release) (site : Channels) : Prop where
  stable : Exists fun count => fetchAll (fetch world releases)
    (stableRows now record ++ supersededRows now record) ⟨Directory.empty, 0⟩ =
      .ok ⟨site.stable, count⟩
  testing : Exists fun start => Exists fun count => fetchAll (fetchCandidate world releases)
    (testingRows world keep record releases) ⟨Directory.empty, start⟩ = .ok ⟨site.testing, count⟩
  metadata : site.stableMetadata =
    createrepo world ((supersededRows now record).map Fields.second) site.stable

/-- A computation that succeeds has succeeded in its first part. -/
theorem bind_ok {Failure First Second : Type} {first : Except Failure First}
    {rest : First -> Except Failure Second} {result : Second}
    (done : first >>= rest = .ok result) :
    Exists fun value => first = .ok value ∧ rest value = .ok result := by
  cases first with
  | error failure => cases done
  | ok value => exact ⟨value, rfl, done⟩

/-- A computation that succeeds has passed its guard. -/
theorem guard_ok {Failure Result : Type} {condition : Prop} [Decidable condition]
    {failure : Failure} {rest : Except Failure Result} {result : Result}
    (done : (if condition then throw failure else rest) = .ok result) :
    ¬condition ∧ rest = .ok result := by
  by_cases holds : condition
  · rw [if_pos holds] at done
    cases done
  · rw [if_neg holds] at done
    exact ⟨holds, done⟩

theorem buildSite_completed {world : World} {keep : Nat} {now : Text}
    {record : PromotionRecord} {releases : List Release} {site : Channels}
    (built : buildSite world keep now record releases = .ok site) :
    Completed world keep now record releases site := by
  unfold buildSite at built
  rcases guard_ok built with ⟨_, built⟩
  rcases guard_ok built with ⟨_, built⟩
  rcases bind_ok built with ⟨stable, stableFetched, built⟩
  rcases bind_ok built with ⟨kept, keptFetched, built⟩
  rcases bind_ok built with ⟨testing, testingFetched, built⟩
  cases built
  exact ⟨⟨kept.count, fetchAll_append stableFetched keptFetched⟩,
    ⟨kept.count, testing.count, testingFetched⟩, rfl⟩

theorem mem_createrepo_iff {world : World} {excludes : List Text} {directory : Directory}
    {name digest : Text} :
    (name, digest) ∈ createrepo world excludes directory ↔
      isRpm name = true ∧ name ∉ excludes ∧
        Exists fun bytes => directory.Has name bytes ∧ world.sha256sum bytes = digest := by
  simp only [createrepo, List.mem_map, List.mem_filter, Bool.and_eq_true, Bool.not_eq_true',
    Prod.exists, Prod.mk.injEq]
  constructor
  · rintro ⟨found, bytes, ⟨has, rpm, kept⟩, rfl, digest⟩
    refine ⟨rpm, ?_, bytes, has, digest⟩
    intro excluded
    rw [List.contains_iff_mem.mpr excluded] at kept
    cases kept
  · rintro ⟨rpm, kept, bytes, has, digest⟩
    refine ⟨name, bytes, ⟨has, rpm, ?_⟩, rfl, digest⟩
    exact eq_false_of_ne_true fun excluded => kept (List.contains_iff_mem.mp excluded)

/-- A file of a verified directory that is not excluded is the file of a row of
the stable listing, with the digest of the row. -/
theorem has_iff_row {world : World} {keep : Nat} {now : Text}
    {record : PromotionRecord} {releases : List Release} {site : Channels}
    (completed : Completed world keep now record releases site)
    (verified : Verified world site.stable (stableRows now record ++ supersededRows now record))
    {name digest : Text} (kept : name ∉ (supersededRows now record).map Fields.second) :
    (Exists fun bytes => site.stable.Has name bytes ∧ world.sha256sum bytes = digest) ↔
      Exists fun row => row ∈ stableRows now record ∧ row.second = name ∧ row.third = digest := by
  rcases completed.stable with ⟨count, fetched⟩
  constructor
  · rintro ⟨bytes, has, rfl⟩
    rcases fetchAll_has (fetch_fetches world releases) fetched has with ⟨row, listed, rfl⟩
    rcases verified row listed with ⟨others, hasOthers, digest⟩
    cases Directory.has_unique has hasOthers
    rcases List.mem_append.mp listed with stable | excluded
    · exact ⟨row, stable, rfl, digest.symm⟩
    · exact absurd (List.mem_map_of_mem excluded) kept
  · rintro ⟨row, listed, rfl, rfl⟩
    exact verified row (List.mem_append_left _ listed)

/-- Once the stable directory is verified, the metadata lists the rows of
packages that are not superseded. -/
theorem mem_stableMetadata_iff {world : World} {keep : Nat} {now : Text}
    {record : PromotionRecord} {releases : List Release} {site : Channels}
    (completed : Completed world keep now record releases site)
    (verified : Verified world site.stable (stableRows now record ++ supersededRows now record))
    (name digest : Text) :
    (name, digest) ∈ site.stableMetadata ↔
      isRpm name = true ∧ name ∉ (supersededRows now record).map Fields.second ∧
        Exists fun row => row ∈ stableRows now record ∧ row.second = name ∧
          row.third = digest := by
  rw [completed.metadata, mem_createrepo_iff]
  apply and_congr_right
  intro rpm
  apply and_congr_right
  exact has_iff_row completed verified

/-- Once the stable directory is verified, the metadata is right exactly when
the served assets are visible and the rows legible. -/
theorem listed_iff {world : World} {keep : Nat} {now : Text} {record : PromotionRecord}
    {releases : List Release} {site : Channels}
    (completed : Completed world keep now record releases site)
    (verified : Verified world site.stable
      (stableRows now record ++ supersededRows now record)) :
    (forall name digest,
        (name, digest) ∈ site.stableMetadata ↔ Recorded now record name digest) ↔
      Visible now record ∧ Legible now record := by
  have rows := mem_stableMetadata_iff completed verified
  constructor
  · intro listed
    constructor
    · intro name digest recorded
      have row := (rows name digest).mp ((listed name digest).mpr recorded)
      exact ⟨row.1, row.2.1⟩
    · intro name digest rpm kept
      rw [← listed name digest, rows name digest]
      constructor
      · intro row
        exact ⟨rpm, kept, row⟩
      · intro row
        exact row.2.2
  · rintro ⟨visible, legible⟩ name digest
    rw [rows name digest]
    constructor
    · rintro ⟨rpm, kept, row⟩
      exact (legible name digest rpm kept).mp row
    · intro recorded
      rcases visible name digest recorded with ⟨rpm, kept⟩
      exact ⟨rpm, kept, (legible name digest rpm kept).mpr recorded⟩

/-- A completed run publishes exactly what was recorded and verified if and
only if the names are unambiguous: no two rows of a directory give one file
name different digests, no superseded row hides a served package, and the rows
are read as they were recorded. -/
theorem channels_asRecorded_iff (world : World) (keep : Nat) (now : Text)
    (record : PromotionRecord) (releases : List Release) (site : Channels)
    (built : buildSite world keep now record releases = .ok site) :
    AsRecorded world keep now record releases site ↔
      Unambiguous world keep now record releases := by
  have completed := buildSite_completed built
  rcases completed.stable with ⟨count, stableFetched⟩
  rcases completed.testing with ⟨start, testingCount, testingFetched⟩
  have stable := verified_iff_consistent (fetch_fetches world releases) stableFetched
  have testing := verified_iff_consistent (fetchCandidate_fetches world releases) testingFetched
  constructor
  · intro recorded
    rcases (listed_iff completed recorded.stable).mp recorded.listed with ⟨visible, legible⟩
    exact ⟨stable.mp recorded.stable, testing.mp recorded.testing, visible, legible⟩
  · intro unambiguous
    have verified := stable.mpr unambiguous.stable
    exact ⟨verified, testing.mpr unambiguous.testing,
      (listed_iff completed verified).mpr ⟨unambiguous.visible, unambiguous.legible⟩⟩

/-- The digest of a package whose only byte is the digit one, and of the one
whose only byte is the digit two. -/
def firstDigest : Text :=
  "6b86b273ff34fce19d6b804eff5a3f5747ada4eaa22f1d49c01e52ddb7875b4b".toList

def secondDigest : Text :=
  "d4735e3a265e16eee03f59718b9b5d03019c07d8b6c51f90da3a666eec13ab35".toList

/-- A mirror where the download of an address is the address itself. -/
def mirror : World where
  curl _ url := some (url.map fun char => UInt8.ofNat char.toNat)
  sha256sum bytes := if bytes = [49] then firstDigest else secondDigest
  test := isRpm

def firstBuild (status : String) : Entry :=
  ⟨"v1-1".toList, status.toList, some "2031".toList, [⟨"xoa-proxy.rpm".toList, firstDigest⟩]⟩

def secondBuild : Entry :=
  ⟨"v1-2".toList, "stable".toList, none, [⟨"xoa-proxy.rpm".toList, secondDigest⟩]⟩

/-- The releases of two runs of the build, with packages of the same name. -/
def twoBuilds : List Release :=
  [⟨"v1-1".toList, false, false, some "2026".toList,
    [⟨"xoa-proxy.rpm".toList, "1".toList, none, by decide⟩]⟩,
   ⟨"v1-2".toList, false, false, some "2027".toList,
    [⟨"xoa-proxy.rpm".toList, "2".toList, none, by decide⟩]⟩]

def oneServed : PromotionRecord := ⟨some 1, [firstBuild "withdrawn", secondBuild]⟩

def rebuilt : PromotionRecord := ⟨some 2, [firstBuild "superseded", secondBuild]⟩

theorem channels_asRecorded_oneServed :
    Exists fun site => buildSite mirror 5 "2028".toList oneServed twoBuilds = .ok site ∧
      AsRecorded mirror 5 "2028".toList oneServed twoBuilds site := by
  refine ⟨_, rfl, (channels_asRecorded_iff _ _ _ _ _ _ rfl).mpr ?_⟩
  rw [unambiguous_iff_of_plain (by decide)]
  decide

/-- A superseded build of the same name takes the place of the served package
and hides it. -/
theorem superseded_hides_served :
    Exists fun site => buildSite mirror 5 "2028".toList rebuilt twoBuilds = .ok site ∧
      ¬AsRecorded mirror 5 "2028".toList rebuilt twoBuilds site := by
  refine ⟨_, rfl, ?_⟩
  intro recorded
  have row := (recorded.listed "xoa-proxy.rpm".toList secondDigest).mpr
    ⟨secondBuild, .tail _ (.head _), rfl, _, .head _, rfl, rfl⟩
  revert row
  decide

end Site
end XoaProxy
