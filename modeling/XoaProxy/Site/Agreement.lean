import XoaProxy.Site.Advisories
import XoaProxy.Site.Publication
import XoaProxy.Site.ReadBack

namespace XoaProxy
namespace Site

/-!
# The advisories agree with the metadata

The script reads `stable.json` twice: once for the files of the stable channel,
whose metadata lists them by name and digest, and once for the advisories, which
name the packages that fix a problem.  Whoever reads both must find every
package of an advisory in the metadata, with the same digest.

`Describes` connects the two readings.  The files are read from strings, and the
advisories from values, of one and the same record.
-/

structure AssetOf (value : Json) (asset : Asset) : Prop where
  name : value.get "name" = some (.string asset.name)
  sha256 : value.get "sha256" = some (.string asset.sha256)

structure EntryOf (value : Json) (entry : Entry) : Prop where
  tag : value.get "tag" = some (.string entry.tag)
  status : value.get "status" = some (.string entry.status)
  retainUntil : value.get "retain_until" =
    some ((entry.retainUntil.map Json.string).getD .null)
  assets : List.Forall₂ AssetOf (assets value) entry.assets

/-- The value has the entries of the record. -/
def Describes (value : Json) (record : PromotionRecord) : Prop :=
  List.Forall₂ EntryOf (entries value) record.entries

/-- What is listed on the left has its counterpart on the right. -/
theorem exists_related {Left Right : Type} {related : Left -> Right -> Prop} {left : List Left}
    {right : List Right} (all : List.Forall₂ related left right) {value : Left}
    (listed : value ∈ left) : Exists fun other => other ∈ right ∧ related value other := by
  induction all with
  | nil => cases listed
  | cons here _ ih =>
      cases listed with
      | head => exact ⟨_, List.mem_cons_self, here⟩
      | tail _ later =>
          rcases ih later with ⟨other, member, holds⟩
          exact ⟨other, List.mem_cons_of_mem _ member, holds⟩

section Updates

variable {dump : Json -> Text}

/-- Every update was read from a stable entry. -/
theorem entry_of_update {value : Json} {updates : List Update}
    (read : readUpdates dump value = some updates) {update : Update} (listed : update ∈ updates) :
    Exists fun entry => entry ∈ entries value ∧ isAnnounced entry = true ∧
      readUpdate dump entry = some update := by
  have flipped := (readUpdates_announced read).flip
  rcases exists_related flipped listed with ⟨entry, announced, found⟩
  rcases List.mem_filter.mp announced with ⟨member, chosen⟩
  exact ⟨entry, member, chosen, found⟩

/-- Every package was read from an asset. -/
theorem asset_of_package {values : List Json} {found : List Package}
    (collected : collect (packages dump) values = some found) {package : Package}
    (listed : package ∈ found) :
    Exists fun asset => asset ∈ values ∧ Carries dump asset package := by
  induction values generalizing found with
  | nil =>
      cases collected
      cases listed
  | cons asset values ih =>
      rcases collect_cons_eq_some_iff.mp collected with ⟨here, read, rest, tail, rfl⟩
      rcases List.mem_append.mp listed with first | later
      · rcases packages_eq_some read with ⟨only, rfl, _, carries⟩ | ⟨rfl, _⟩
        · rw [List.mem_singleton.mp first]
          exact ⟨asset, List.mem_cons_self, carries⟩
        · cases first
      · rcases ih tail later with ⟨other, member, carries⟩
        exact ⟨other, List.mem_cons_of_mem _ member, carries⟩

theorem Carries.of_asset {value : Json} {package : Package} (carries : Carries dump value package)
    {asset : Asset} (same : AssetOf value asset) :
    package.file = asset.name ∧ package.sha256 = asset.sha256 := by
  have file := carries.file
  have sha256 := carries.sha256
  rw [same.name] at file
  rw [same.sha256] at sha256
  exact ⟨(Option.some.inj file).symm, (Option.some.inj sha256).symm⟩

theorem EntryOf.stable {value : Json} {entry : Entry} (same : EntryOf value entry)
    (announced : isAnnounced value = true) : entry.status = "stable".toList := by
  rw [isAnnounced, same.status, Bool.and_eq_true] at announced
  exact of_decide_eq_true announced.1

theorem EntryOf.tag_of_update {value : Json} {entry : Entry} (same : EntryOf value entry)
    {update : Update} (read : readUpdate dump value = some update) : update.tag = entry.tag := by
  have tag := (readUpdate_eq_some read).1
  rw [same.tag] at tag
  exact (Option.some.inj tag).symm

/-- The packages of an update are assets of a stable entry with its tag. -/
theorem recorded_of_update {value : Json} {record : PromotionRecord} {updates : List Update}
    (describes : Describes value record) (read : readUpdates dump value = some updates)
    {update : Update} (listed : update ∈ updates) :
    Exists fun entry => entry ∈ record.entries ∧ entry.status = "stable".toList ∧
      entry.tag = update.tag ∧ forall package, package ∈ update.packages ->
        Exists fun asset => asset ∈ entry.assets ∧ asset.name = package.file ∧
          asset.sha256 = package.sha256 := by
  rcases entry_of_update read listed with ⟨source, member, announced, found⟩
  rcases exists_related describes member with ⟨entry, recorded, same⟩
  refine ⟨entry, recorded, same.stable announced, (same.tag_of_update found).symm, ?_⟩
  intro package packaged
  rcases asset_of_package (readUpdate_eq_some found).2.2 packaged with ⟨item, held, carries⟩
  rcases exists_related same.assets held with ⟨asset, kept, sameAsset⟩
  rcases carries.of_asset sameAsset with ⟨file, sha256⟩
  exact ⟨asset, kept, file.symm, sha256.symm⟩

end Updates

/-- The update is that of a stable entry, and each of its packages is listed and
there to be downloaded, with the digest that the advisory gives. -/
structure Backed (world : World) (record : PromotionRecord) (site : Channels)
    (update : Update) : Prop where
  entry : Exists fun entry => entry ∈ record.entries ∧ entry.status = "stable".toList ∧
    entry.tag = update.tag
  listed : forall package, package ∈ update.packages ->
    (package.file, package.sha256) ∈ site.stableMetadata
  present : forall package, package ∈ update.packages ->
    Exists fun bytes => site.stable.Has package.file bytes ∧
      world.sha256sum bytes = package.sha256

/-- If the file names are unambiguous, every package that is read from the
advisories of a run is in the metadata and in the directory of the same run. -/
theorem advised_packages_backed (world : World) (keep : Nat) (now : Text) (dump : Json -> Text)
    (value : Json) (record : PromotionRecord) (releases : List Release) (site : Channels)
    (text : Text) (describes : Describes value record)
    (built : buildSite world keep now record releases = .ok site)
    (unambiguous : Unambiguous world keep now record releases)
    (written : updateinfo dump value = some text) :
    Exists fun updates => readDocument text = some updates ∧
      forall update, update ∈ updates -> Backed world record site update := by
  have completed := buildSite_completed built
  rcases completed.stable with ⟨count, fetched⟩
  have verified := (verified_iff_consistent (fetch_fetches world releases) fetched).mpr
    unambiguous.stable
  have listed := (listed_iff completed verified).mpr ⟨unambiguous.visible, unambiguous.legible⟩
  rw [updateinfo, Option.map_eq_some_iff] at written
  rcases written with ⟨updates, read, rfl⟩
  refine ⟨updates, readDocument_document updates, ?_⟩
  intro update member
  rcases recorded_of_update describes read member with ⟨entry, known, stable, tag, assets⟩
  have metadata : forall package, package ∈ update.packages ->
      (package.file, package.sha256) ∈ site.stableMetadata := by
    intro package packaged
    rcases assets package packaged with ⟨asset, held, name, digest⟩
    apply (listed package.file package.sha256).mpr
    refine ⟨entry, known, ?_, asset, held, name, digest⟩
    rw [served, decide_eq_true stable, Bool.true_or]
  refine ⟨⟨entry, known, stable, tag⟩, metadata, ?_⟩
  intro package packaged
  have found := metadata package packaged
  rw [completed.metadata] at found
  exact (mem_createrepo_iff.mp found).2.2

/-- A record with one stable entry and its advisory, as a value. -/
def advisedValue : Json :=
  .object [("entries".toList, .array [.object [
    ("status".toList, .string "stable".toList),
    ("tag".toList, .string "v1-2".toList),
    ("advisory".toList, .object [("issued".toList, .string "2026".toList)]),
    ("assets".toList, .array [.object [
      ("name".toList, .string "xoa-proxy.rpm".toList),
      ("sha256".toList, .string secondDigest),
      ("nevra".toList, .string versionedName)]])]])]

theorem advised_package_backed :
    Exists fun site => Exists fun text => Exists fun updates =>
      buildSite mirror 5 "2028".toList ⟨some 1, [secondBuild]⟩ twoBuilds = .ok site ∧
        updateinfo printScalar advisedValue = some text ∧
        readDocument text = some updates ∧
        forall update, update ∈ updates -> Backed mirror ⟨some 1, [secondBuild]⟩ site update := by
  have asset : AssetOf (.object [("name".toList, .string "xoa-proxy.rpm".toList),
      ("sha256".toList, .string secondDigest), ("nevra".toList, .string versionedName)])
      ⟨"xoa-proxy.rpm".toList, secondDigest⟩ := ⟨rfl, rfl⟩
  have describes : Describes advisedValue ⟨some 1, [secondBuild]⟩ :=
    .cons ⟨rfl, rfl, rfl, .cons asset .nil⟩ .nil
  have unambiguous : Unambiguous mirror 5 "2028".toList ⟨some 1, [secondBuild]⟩ twoBuilds := by
    rw [unambiguous_iff_of_plain (by decide)]
    decide
  rcases advised_packages_backed mirror 5 "2028".toList printScalar advisedValue
    ⟨some 1, [secondBuild]⟩ twoBuilds _ _ describes rfl unambiguous rfl with ⟨updates, read, backed⟩
  exact ⟨_, _, updates, rfl, rfl, read, backed⟩

end Site
end XoaProxy
