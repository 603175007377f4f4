import XoaProxy.Site.Channels

namespace XoaProxy
namespace Site

/-!
# Which files are published, and why

A file is in a channel only on the authority of the record or of a release:
for the stable channel an entry that is served or superseded, for the testing
channel one of the newest candidates.  In both, the bytes have the digest that
was recorded for the name; a withdrawn build is in neither on its own account.

`Window` says what the newest candidates are, without a sort.
-/

section Newest

variable {Value : Type}

/-- As many values as may be kept, and none of the others is newer. -/
structure Window (older : Value -> Value -> Prop) (keep : Nat)
    (all chosen others : List Value) : Prop where
  whole : (chosen ++ others).Perm all
  bounded : chosen.length ≤ keep
  full : others ≠ [] -> chosen.length = keep
  newest : forall first, first ∈ chosen -> forall other, other ∈ others -> older other first

/-- The front of a reversed sort is a window. -/
theorem window_of_sort (older : Value -> Value -> Prop) [DecidableRel older]
    [Std.Total older] [IsTrans Value older] (keep : Nat) (all : List Value) :
    Window older keep all ((all.insertionSort older).reverse.take keep)
      ((all.insertionSort older).reverse.drop keep) := by
  have sorted : (all.insertionSort older).reverse.Pairwise fun newer other => older other newer :=
    List.pairwise_reverse.mpr (List.pairwise_insertionSort older all)
  rw [← List.take_append_drop keep (all.insertionSort older).reverse] at sorted
  refine ⟨?_, List.length_take_le keep _, ?_, ?_⟩
  · rw [List.take_append_drop]
    exact (List.reverse_perm _).trans (List.perm_insertionSort older all)
  · intro more
    apply List.length_take_of_le
    apply Nat.le_of_lt
    apply Nat.lt_of_not_le
    intro few
    exact more (List.drop_eq_nil_of_le few)
  · intro first chosen other left
    exact (List.pairwise_append.mp sorted).2.2 first chosen other left

end Newest

theorem publishedLe_total (first second : Option Text) :
    publishedLe first second = true ∨ publishedLe second first = true := by
  cases first with
  | none => exact Or.inl rfl
  | some first =>
      cases second with
      | none => exact Or.inr rfl
      | some second =>
          simp only [publishedLe, Bool.not_eq_true', decide_eq_false_iff_not, List.not_lt]
          exact List.le_total first second

theorem publishedLe_trans {first second third : Option Text}
    (before : publishedLe first second = true) (after : publishedLe second third = true) :
    publishedLe first third = true := by
  cases first with
  | none => rfl
  | some first =>
      cases second with
      | none => cases before
      | some second =>
          cases third with
          | none => cases after
          | some third =>
              simp only [publishedLe, Bool.not_eq_true', decide_eq_false_iff_not,
                List.not_lt] at before after ⊢
              exact List.le_trans before after

/-- The first release was not published after the second. -/
def Older (first second : Release) : Prop :=
  publishedLe first.publishedAt second.publishedAt = true

instance : DecidableRel Older :=
  fun first second => inferInstanceAs
    (Decidable (publishedLe first.publishedAt second.publishedAt = true))

instance : Std.Total Older := ⟨fun _ _ => publishedLe_total _ _⟩

instance : IsTrans Release Older := ⟨fun _ _ _ => publishedLe_trans⟩

/-! ## Candidates -/

/-- A published pre-release whose entry, if there is one, is not withdrawn. -/
structure Candidate (record : PromotionRecord) (release : Release) : Prop where
  prerelease : release.prerelease = true
  published : release.draft = false
  current : forall entry, entry ∈ record.entries -> entry.tag = release.tagName ->
    entry.status ≠ "withdrawn".toList

/-- The test of the script for a candidate. -/
def isCandidate (record : PromotionRecord) (release : Release) : Bool :=
  release.prerelease && !release.draft &&
    !((record.entries.filter fun entry => entry.status = "withdrawn".toList).map
      Entry.tag).contains release.tagName

theorem isCandidate_iff {record : PromotionRecord} {release : Release} :
    isCandidate record release = true ↔ Candidate record release := by
  simp only [isCandidate, Bool.and_eq_true, Bool.not_eq_true']
  constructor
  · rintro ⟨⟨prerelease, published⟩, unlisted⟩
    refine ⟨prerelease, published, ?_⟩
    intro entry listed same withdrawn
    have tagged : release.tagName ∈ (record.entries.filter fun entry =>
        entry.status = "withdrawn".toList).map Entry.tag :=
      List.mem_map.mpr ⟨entry, List.mem_filter.mpr ⟨listed, decide_eq_true withdrawn⟩, same⟩
    rw [List.contains_iff_mem.mpr tagged] at unlisted
    cases unlisted
  · rintro ⟨prerelease, published, current⟩
    refine ⟨⟨prerelease, published⟩, ?_⟩
    apply eq_false_of_ne_true
    intro tagged
    rcases List.mem_map.mp (List.contains_iff_mem.mp tagged) with ⟨entry, listed, same⟩
    rcases List.mem_filter.mp listed with ⟨listed, withdrawn⟩
    exact current entry listed same (of_decide_eq_true withdrawn)

/-- What the script keeps is a window of the candidates. -/
theorem candidates_window (keep : Nat) (record : PromotionRecord) (releases : List Release) :
    Exists fun others => Window Older keep (releases.filter (isCandidate record))
      (candidates keep record releases) others :=
  ⟨_, window_of_sort Older keep (releases.filter (isCandidate record))⟩

theorem candidate_of_mem {keep : Nat} {record : PromotionRecord} {releases : List Release}
    {release : Release} (listed : release ∈ candidates keep record releases) :
    release ∈ releases ∧ Candidate record release := by
  rcases candidates_window keep record releases with ⟨others, window⟩
  have eligible := window.whole.subset (List.mem_append_left others listed)
  rcases List.mem_filter.mp eligible with ⟨member, chosen⟩
  exact ⟨member, isCandidate_iff.mp chosen⟩

/-- The fields of every release are words, as far as there are any. -/
structure PlainReleases (releases : List Release) : Prop where
  tag : forall release, release ∈ releases -> Word release.tagName
  name : forall release, release ∈ releases -> forall asset, asset ∈ release.assets ->
    Word asset.name
  digest : forall release, release ∈ releases -> forall asset, asset ∈ release.assets ->
    forall digest, asset.digest = some digest -> Word (bareDigest digest)

def candidateRows (world : World) (keep : Nat) (record : PromotionRecord)
    (releases : List Release) : List Fields :=
  (candidates keep record releases).flatMap fun release =>
    (release.assets.filter fun asset => world.test asset.name).map fun asset =>
      ⟨release.tagName, asset.name, bareDigest (asset.digest.getD [])⟩

theorem mem_candidateRows_iff {world : World} {keep : Nat} {record : PromotionRecord}
    {releases : List Release} {row : Fields} :
    row ∈ candidateRows world keep record releases ↔
      Exists fun release => release ∈ candidates keep record releases ∧
        Exists fun asset => asset ∈ release.assets ∧ world.test asset.name = true ∧
          row = ⟨release.tagName, asset.name, bareDigest (asset.digest.getD [])⟩ := by
  simp only [candidateRows, List.mem_flatMap, List.mem_map, List.mem_filter, and_assoc, eq_comm]

theorem testingRows_plain {world : World} {keep : Nat} {record : PromotionRecord}
    {releases : List Release} (plain : PlainReleases releases) :
    testingRows world keep record releases = candidateRows world keep record releases := by
  apply readListing_rows
  intro row listed
  rcases mem_candidateRows_iff.mp listed with ⟨release, chosen, asset, member, _, rfl⟩
  have known := (candidate_of_mem chosen).1
  have tag := plain.tag release known
  have name := plain.name release known asset member
  have single : forall digest : Text, '\n' ∉ digest ->
      '\n' ∉ (Fields.mk release.tagName asset.name digest).line := by
    intro digest single
    simp only [Fields.line, List.mem_append, List.mem_cons, not_or]
    exact ⟨⟨tag.single, by decide, name.single⟩, by decide, single⟩
  cases found : asset.digest with
  | none => exact ⟨readFields_line_missing tag name rfl, single [] List.not_mem_nil⟩
  | some digest =>
      have word := plain.digest release known asset member digest found
      exact ⟨readFields_line ⟨tag, name, word⟩, single _ word.single⟩

section Loop

variable {world : World} {one : Fields -> Fetched -> Except Text Fetched}

/-- A file of a directory that was filled from nothing has the name and the
digest of one row. -/
theorem file_of_row (fetches : Fetches world one) {rows : List Fields} {count : Nat}
    {final : Fetched} (fetched : fetchAll one rows ⟨Directory.empty, count⟩ = .ok final)
    {name : Text} {bytes : List UInt8} (has : final.directory.Has name bytes) :
    Exists fun row => row ∈ rows ∧ row.second = name ∧ row.third = world.sha256sum bytes := by
  rcases fetchAll_has fetches fetched has with ⟨row, listed, rfl⟩
  rcases fetchAll_listed fetches fetched listed with ⟨last, member, same, found, hasFound, digest⟩
  cases Directory.has_unique has hasFound
  exact ⟨last, member, same, digest.symm⟩

/-- Every row has left a file under its name. -/
theorem row_has_file (fetches : Fetches world one) {rows : List Fields} {state final : Fetched}
    (fetched : fetchAll one rows state = .ok final) {row : Fields} (listed : row ∈ rows) :
    Exists fun bytes => final.directory.Has row.second bytes := by
  rcases fetchAll_listed fetches fetched listed with ⟨_, _, _, bytes, has, _⟩
  exact ⟨bytes, has⟩

end Loop

/-- A run that completes has met no candidate without a digest. -/
theorem digest_of_fetched {world : World} {releases : List Release} {rows : List Fields}
    {state final : Fetched}
    (fetched : fetchAll (fetchCandidate world releases) rows state = .ok final)
    {row : Fields} (listed : row ∈ rows) : row.third ≠ [] := by
  induction rows generalizing state with
  | nil => cases listed
  | cons first rows ih =>
      rcases fetchAll_cons_eq_ok.mp fetched with ⟨next, step, rest⟩
      cases listed with
      | tail _ later => exact ih rest later
      | head =>
          intro missing
          rw [fetchCandidate, if_pos missing] at step
          cases step

/-! ## Authority for every file -/

/-- The entry has its files in the stable channel. -/
def Kept (now : Text) (entry : Entry) : Prop :=
  served now entry = true ∨ superseded now entry = true

/-- A withdrawn entry has no files there. -/
theorem not_kept_of_withdrawn {now : Text} {entry : Entry}
    (withdrawn : entry.status = "withdrawn".toList) : ¬Kept now entry := by
  simp only [Kept, served, superseded, withdrawn]
  simp

/-- The files of the stable channel are those of the entries that are kept.
The bytes of a withdrawn build are there only if another entry, one that is
kept, records the same digest for the name. -/
structure StableAuthorised (world : World) (now : Text) (record : PromotionRecord)
    (directory : Directory) : Prop where
  authority : forall name bytes, directory.Has name bytes ->
    Exists fun entry => entry ∈ record.entries ∧ Kept now entry ∧
      Exists fun asset => asset ∈ entry.assets ∧ asset.name = name ∧
        asset.sha256 = world.sha256sum bytes
  present : forall entry, entry ∈ record.entries -> Kept now entry ->
    forall asset, asset ∈ entry.assets -> Exists fun bytes => directory.Has asset.name bytes
  withdrawn : forall entry, entry ∈ record.entries -> entry.status = "withdrawn".toList ->
    forall asset, asset ∈ entry.assets -> forall name bytes, directory.Has name bytes ->
      world.sha256sum bytes = asset.sha256 ->
        Exists fun other => other ∈ record.entries ∧ other ≠ entry ∧ Kept now other ∧
          Exists fun own => own ∈ other.assets ∧ own.name = name ∧ own.sha256 = asset.sha256

/-- The files of the testing channel are those of the newest candidates. -/
structure TestingAuthorised (world : World) (keep : Nat) (record : PromotionRecord)
    (releases chosen others : List Release) (directory : Directory) : Prop where
  window : Window Older keep (releases.filter (isCandidate record)) chosen others
  candidate : forall release, release ∈ chosen -> Candidate record release
  authority : forall name bytes, directory.Has name bytes ->
    Exists fun release => release ∈ chosen ∧
      Exists fun asset => asset ∈ release.assets ∧ asset.name = name ∧ world.test name = true ∧
        Exists fun digest => asset.digest = some digest ∧
          bareDigest digest = world.sha256sum bytes
  present : forall release, release ∈ chosen -> forall asset, asset ∈ release.assets ->
    world.test asset.name = true -> Exists fun bytes => directory.Has asset.name bytes

theorem stable_authorised {world : World} {keep : Nat} {now : Text} {record : PromotionRecord}
    {releases : List Release} {site : Channels}
    (completed : Completed world keep now record releases site)
    (plain : PlainRecord now record) : StableAuthorised world now record site.stable := by
  have served : stableRows now record = assetRows (served now) record :=
    readListing_printListing fun row listed => plain row (List.mem_append_left _ listed)
  have excluded : supersededRows now record = assetRows (superseded now) record :=
    readListing_printListing fun row listed => plain row (List.mem_append_right _ listed)
  rcases completed.stable with ⟨count, fetched⟩
  rw [served, excluded] at fetched
  have rows : forall row,
      row ∈ assetRows (Site.served now) record ++ assetRows (superseded now) record ↔
        Exists fun entry => entry ∈ record.entries ∧ Kept now entry ∧
          Exists fun asset => asset ∈ entry.assets ∧
            row = ⟨entry.tag, asset.name, asset.sha256⟩ := by
    intro row
    rw [List.mem_append, mem_assetRows_iff, mem_assetRows_iff]
    constructor
    · rintro (⟨entry, member, chosen, found⟩ | ⟨entry, member, chosen, found⟩)
      · exact ⟨entry, member, Or.inl chosen, found⟩
      · exact ⟨entry, member, Or.inr chosen, found⟩
    · rintro ⟨entry, member, chosen | chosen, found⟩
      · exact Or.inl ⟨entry, member, chosen, found⟩
      · exact Or.inr ⟨entry, member, chosen, found⟩
  have authority : forall name bytes, site.stable.Has name bytes ->
      Exists fun entry => entry ∈ record.entries ∧ Kept now entry ∧
        Exists fun asset => asset ∈ entry.assets ∧ asset.name = name ∧
          asset.sha256 = world.sha256sum bytes := by
    intro name bytes has
    rcases file_of_row (fetch_fetches world releases) fetched has with
      ⟨row, listed, rfl, digest⟩
    rcases (rows row).mp listed with ⟨entry, member, kept, asset, held, rfl⟩
    exact ⟨entry, member, kept, asset, held, rfl, digest⟩
  refine ⟨authority, ?_, ?_⟩
  · intro entry member kept asset held
    exact row_has_file (fetch_fetches world releases) fetched
      ((rows _).mpr ⟨entry, member, kept, asset, held, rfl⟩)
  · intro entry _ withdrawn asset _ name bytes has same
    rcases authority name bytes has with ⟨other, member, kept, own, held, named, digest⟩
    refine ⟨other, member, ?_, kept, own, held, named, digest.trans same⟩
    rintro rfl
    exact not_kept_of_withdrawn withdrawn kept

theorem testing_authorised {world : World} {keep : Nat} {now : Text} {record : PromotionRecord}
    {releases : List Release} {site : Channels}
    (completed : Completed world keep now record releases site)
    (plain : PlainReleases releases) :
    Exists fun others => TestingAuthorised world keep record releases
      (candidates keep record releases) others site.testing := by
  rcases candidates_window keep record releases with ⟨others, window⟩
  rcases completed.testing with ⟨start, count, fetched⟩
  rw [testingRows_plain plain] at fetched
  refine ⟨others, window, fun release listed => (candidate_of_mem listed).2, ?_, ?_⟩
  · intro name bytes has
    rcases file_of_row (fetchCandidate_fetches world releases) fetched has with
      ⟨row, listed, rfl, same⟩
    have nonempty := digest_of_fetched fetched listed
    rcases mem_candidateRows_iff.mp listed with ⟨release, chosen, asset, member, tested, rfl⟩
    cases found : asset.digest with
    | none =>
        rw [found] at nonempty
        exact absurd rfl nonempty
    | some digest =>
        rw [found] at same
        exact ⟨release, chosen, asset, member, rfl, tested, digest, found, same⟩
  · intro release chosen asset member tested
    exact row_has_file (fetchCandidate_fetches world releases) fetched
      (mem_candidateRows_iff.mpr ⟨release, chosen, asset, member, tested, rfl⟩)

/-- Every file that a completed run publishes has its authority, and what has
authority is there: the entries that are kept in the stable channel, and the
newest candidates in the testing channel, each file with a digest that was
recorded for its name. -/
theorem published_files_authorised (world : World) (keep : Nat) (now : Text)
    (record : PromotionRecord) (releases : List Release) (site : Channels)
    (built : buildSite world keep now record releases = .ok site)
    (plain : PlainRecord now record) (plainReleases : PlainReleases releases) :
    StableAuthorised world now record site.stable ∧
      Exists fun chosen => Exists fun others =>
        TestingAuthorised world keep record releases chosen others site.testing :=
  have completed := buildSite_completed built
  ⟨stable_authorised completed plain, _, testing_authorised completed plainReleases⟩

theorem fileName_package : fileName "xoa-proxy.rpm".toList = true := rfl

/-- A candidate with one package. -/
def candidateRelease (tag published url : String) (digest : Text) : Release :=
  ⟨tag.toList, true, false, some published.toList,
    [⟨"xoa-proxy.rpm".toList, url.toList, some ("sha256:".toList ++ digest), fileName_package⟩]⟩

/-- Two candidates, the newer of which is withdrawn. -/
def candidateBuilds : List Release :=
  [candidateRelease "v1-1" "2027" "1" firstDigest, candidateRelease "v1-3" "2026" "2" secondDigest,
    ⟨"v1-2".toList, false, false, some "2027".toList,
      [⟨"xoa-proxy.rpm".toList, "2".toList, none, fileName_package⟩]⟩]

/-- The withdrawn build is left out of both channels, so the window goes on to
the older candidate. -/
theorem withdrawn_candidate_left_out :
    Exists fun site => buildSite mirror 1 "2028".toList oneServed candidateBuilds = .ok site ∧
      site.testing.Has "xoa-proxy.rpm".toList [50] ∧
      StableAuthorised mirror "2028".toList oneServed site.stable ∧
      Exists fun chosen => Exists fun others =>
        TestingAuthorised mirror 1 oneServed candidateBuilds chosen others site.testing := by
  have plain : PlainReleases candidateBuilds := by
    refine ⟨by decide, by decide, ?_⟩
    simp [candidateBuilds, candidateRelease]
    decide
  refine ⟨_, rfl, List.mem_cons_self, ?_⟩
  exact published_files_authorised mirror 1 "2028".toList oneServed candidateBuilds _ rfl
    (by decide) plain

end Site
end XoaProxy
