import XoaProxy.Site.Advisories

namespace XoaProxy
namespace Site

/-!
# Which records the filter accepts

The filter fails as a whole if it fails for one value, and the site builder then
publishes nothing.  An entry that announces nothing is looked at only for its
status and for the presence of an advisory; an entry that announces an advisory
must have the fields that are taken apart, with values of the right kind.

Which record is accepted does not depend on how other values are printed.

The document of an accepted record is attached to the metadata of the stable
channel only if it has an update in it.
-/

namespace Json

/-- A value whose fields can be asked for. -/
def Keyed : Json -> Prop
  | .null | .object _ => True
  | .bool _ | .number _ | .string _ | .array _ => False

theorem get_eq_some_of_keyed {value : Json} (keyed : value.Keyed) (key : String) :
    Exists fun field => value.get key = some field := by
  cases value with
  | null | object => exact ⟨_, rfl⟩
  | bool | number | string | array => cases keyed

theorem keyed_of_get {value field : Json} {key : String} (found : value.get key = some field) :
    value.Keyed := by
  cases value with
  | null | object => trivial
  | bool | number | string | array => cases found

end Json

/-- A filter collects its outputs exactly if it fails for no value. -/
theorem collect_isSome_iff {Value Output : Type} {filter : Value -> Option (List Output)}
    {values : List Value} :
    (collect filter values).isSome = true ↔
      forall value, value ∈ values -> (filter value).isSome = true := by
  induction values with
  | nil => exact iff_of_true rfl nofun
  | cons value values ih =>
      rw [List.forall_mem_cons, ← ih]
      constructor
      · intro accepted
        rcases Option.isSome_iff_exists.mp accepted with ⟨outputs, collected⟩
        rcases collect_cons_eq_some_iff.mp collected with ⟨here, filtered, rest, tail, _⟩
        exact ⟨Option.isSome_iff_exists.mpr ⟨here, filtered⟩,
          Option.isSome_iff_exists.mpr ⟨rest, tail⟩⟩
      · rintro ⟨filtered, tail⟩
        rcases Option.isSome_iff_exists.mp filtered with ⟨here, filtered⟩
        rcases Option.isSome_iff_exists.mp tail with ⟨rest, tail⟩
        exact Option.isSome_iff_exists.mpr ⟨here ++ rest,
          collect_cons_eq_some_iff.mpr ⟨here, filtered, rest, tail, rfl⟩⟩

/-- An asset has a name to be split. -/
def Named (asset : Json) : Prop :=
  Exists fun text => asset.get "nevra" = some (.string text)

/-- The fields that the filter takes apart are there, and of the right kind. -/
structure Publishable (entry : Json) : Prop where
  issued : Exists fun text =>
    (entry.get "advisory").bind (Json.get "issued") = some (.string text)
  cves : Exists fun values => ((entry.get "advisory").bind (Json.get "cves")).bind
    (fun cves => (cves.orElse (.array [])).items) = some values
  listed : Exists fun values => (entry.get "assets").bind Json.items = some values
  named : forall asset, asset ∈ assets entry -> Named asset

section Entries

variable {dump : Json -> Text}

theorem nevra_of_string (text : Text) : Exists fun found => nevra (.string text) = some found := by
  simp only [nevra, Json.text, Option.bind_eq_bind, Option.bind_some]
  split <;> exact ⟨_, rfl⟩

theorem packages_isSome_iff {asset : Json} :
    (packages dump asset).isSome = true ↔ Named asset := by
  constructor
  · intro accepted
    rcases Option.isSome_iff_exists.mp accepted with ⟨found, read⟩
    simp only [packages, Option.bind_eq_bind, Option.bind_eq_some_iff] at read
    rcases read with ⟨value, named, names, read, _⟩
    rcases nevra_eq_some read with ⟨text, rfl, _⟩
    exact ⟨text, named⟩
  · rintro ⟨text, named⟩
    have keyed := Json.keyed_of_get named
    rcases Json.get_eq_some_of_keyed keyed "name" with ⟨name, file⟩
    rcases Json.get_eq_some_of_keyed keyed "sha256" with ⟨sha256, digest⟩
    rcases nevra_of_string text with ⟨found, split⟩
    simp only [packages, named, split, file, digest, Option.bind_eq_bind, Option.bind_some]
    apply collect_isSome_iff.mpr
    intro parts _
    rfl

theorem readUpdate_isSome_iff {entry : Json} :
    (readUpdate dump entry).isSome = true ↔ Publishable entry := by
  constructor
  · intro accepted
    rcases Option.isSome_iff_exists.mp accepted with ⟨update, read⟩
    have collected := (readUpdate_eq_some read).2.2
    simp only [readUpdate, Option.bind_eq_bind, Option.bind_eq_some_iff, Option.pure_def,
      Option.some.injEq] at read
    rcases read with ⟨advisory, present, severity, _, issuedValue, issued, text, textual,
      cvesValue, cves, values, listed, assetsValue, held, assets, iterated, _⟩
    refine ⟨⟨text, ?_⟩, ⟨values, ?_⟩, ⟨assets, ?_⟩, ?_⟩
    · rw [present, Option.bind_some, issued]
      cases issuedValue with
      | string found =>
          cases textual
          rfl
      | null | bool | number | array | object => cases textual
    · rw [present, Option.bind_some, cves]
      exact listed
    · rw [held]
      exact iterated
    · intro asset member
      have named := collect_isSome_iff.mp (Option.isSome_iff_exists.mpr ⟨_, collected⟩)
      exact packages_isSome_iff.mp (named asset member)
  · rintro ⟨⟨text, issued⟩, ⟨cves, references⟩, ⟨values, listed⟩, named⟩
    rcases Option.bind_eq_some_iff.mp issued with ⟨advisory, present, issued⟩
    rw [present, Option.bind_some] at references
    rcases Option.bind_eq_some_iff.mp references with ⟨cvesValue, found, references⟩
    rcases Option.bind_eq_some_iff.mp listed with ⟨assetsValue, held, iterated⟩
    have fields := Json.get_eq_some_of_keyed (Json.keyed_of_get issued)
    rcases fields "severity" with ⟨severity, severityFound⟩
    rcases fields "type" with ⟨type, typeFound⟩
    rcases fields "id" with ⟨id, idFound⟩
    rcases fields "summary" with ⟨summary, summaryFound⟩
    rcases Json.get_eq_some_of_keyed (Json.keyed_of_get present) "tag" with ⟨tag, tagFound⟩
    have all : assets entry = values := by
      rw [assets, listed, Option.getD_some]
    rw [all] at named
    have collected : (collect (packages dump) values).isSome = true :=
      collect_isSome_iff.mpr fun asset member => packages_isSome_iff.mpr (named asset member)
    rcases Option.isSome_iff_exists.mp collected with ⟨outputs, collected⟩
    simp only [readUpdate, present, severityFound, issued, found, references, held, iterated,
      typeFound, idFound, summaryFound, tagFound, collected, Json.text, Option.bind_eq_bind,
      Option.bind_some, Option.pure_def, Option.isSome_some]

end Entries

/-! ## Records -/

/-- The record has entries, all of them have fields, and those that announce an
advisory can be published. -/
def Acceptable (record : Json) : Prop :=
  Exists fun values => (record.get "entries").bind Json.items = some values ∧
    forall entry, entry ∈ values -> entry.Keyed ∧ (isAnnounced entry = true -> Publishable entry)

theorem selected_isSome_iff {entry : Json} : (selected entry).isSome = true ↔ entry.Keyed := by
  constructor
  · intro accepted
    rcases Option.isSome_iff_exists.mp accepted with ⟨chosen, known⟩
    simp only [selected, Option.bind_eq_bind, Option.bind_eq_some_iff] at known
    rcases known with ⟨status, found, _⟩
    exact Json.keyed_of_get found
  · intro keyed
    rcases Json.get_eq_some_of_keyed keyed "status" with ⟨status, statusFound⟩
    rcases Json.get_eq_some_of_keyed keyed "advisory" with ⟨advisory, advisoryFound⟩
    simp only [selected, statusFound, advisoryFound, Option.bind_eq_bind, Option.bind_some]
    split <;> rfl

/-- The part of the filter for one entry. -/
theorem entry_isSome_iff {dump : Json -> Text} {entry : Json} :
    ((selected entry).bind fun chosen =>
        if chosen then (readUpdate dump entry).bind fun update => some [update]
        else some []).isSome = true ↔
      entry.Keyed ∧ (isAnnounced entry = true -> Publishable entry) := by
  rw [← @selected_isSome_iff entry, ← @readUpdate_isSome_iff dump entry]
  cases known : selected entry with
  | none => simp
  | some chosen =>
      rw [isAnnounced_of_selected known]
      cases chosen <;> cases readUpdate dump entry <;> simp

/-- The filter succeeds exactly on acceptable records: one announced advisory
with a missing or ill-typed field makes it fail as a whole, and nothing about an
entry that announces none does. -/
theorem updateinfo_succeeds_iff (dump : Json -> Text) (record : Json) :
    (updateinfo dump record).isSome = true ↔ Acceptable record := by
  rw [updateinfo, Option.isSome_map, Acceptable]
  simp only [readUpdates, Option.bind_eq_bind, Option.pure_def]
  cases found : record.get "entries" with
  | none => simp
  | some list =>
      cases iterated : list.items with
      | none => simp [iterated]
      | some values =>
          simp only [Option.bind_some, iterated, Option.some.injEq, exists_eq_left']
          rw [collect_isSome_iff]
          exact forall₂_congr fun entry _ => entry_isSome_iff

/-- The part of the script behind the metadata: the document, if a tag of an
update is found in it. -/
def attach (dump : Json -> Text) (record : Json) : Option (Option Text) :=
  (updateinfo dump record).map fun text =>
    if 0 < occurrences "<update ".toList text then some text else none

theorem announced_eq_nil_iff {record : Json} :
    announced record = [] ↔ forall entry, entry ∈ entries record -> isAnnounced entry = false := by
  rw [announced, List.filter_eq_nil_iff]
  exact forall₂_congr fun entry _ => Bool.not_eq_true _ |>.to_iff

/-- An accepted record has its document attached exactly if it announces an
advisory, and only an accepted record gets that far. -/
theorem advisories_attached (dump : Json -> Text) (record : Json) :
    match attach dump record with
    | none => ¬Acceptable record
    | some none => Acceptable record ∧
        forall entry, entry ∈ entries record -> isAnnounced entry = false
    | some (some text) => Acceptable record ∧ updateinfo dump record = some text ∧
        Exists fun entry => entry ∈ entries record ∧ isAnnounced entry = true := by
  have accepted := updateinfo_succeeds_iff dump record
  cases written : updateinfo dump record with
  | none =>
      rw [written] at accepted
      rw [attach, written]
      intro acceptable
      cases accepted.mpr acceptable
  | some text =>
      rw [written] at accepted
      have acceptable := accepted.mp rfl
      have read := written
      rw [updateinfo, Option.map_eq_some_iff] at read
      rcases read with ⟨updates, read, rfl⟩
      have all := readUpdates_announced read
      rw [attach, written, Option.map_some, occurrences_updates]
      cases all' : announced record with
      | nil =>
          rw [all'] at all
          cases all
          exact ⟨acceptable, announced_eq_nil_iff.mp all'⟩
      | cons entry others =>
          have chosen : entry ∈ announced record := by
            rw [all']
            exact List.mem_cons_self
          rw [all'] at all
          cases all with
          | cons _ _ =>
              rcases List.mem_filter.mp chosen with ⟨member, announces⟩
              exact ⟨acceptable, rfl, entry, member, announces⟩

end Site
end XoaProxy
