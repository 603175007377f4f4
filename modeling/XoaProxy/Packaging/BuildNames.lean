import XoaProxy.Site.Advisories
import XoaProxy.Site.BuildSite

namespace XoaProxy
namespace Packaging

open Pattern Site

/-!
# What a build calls its package

The build workflow derives a version from the tag or, where the tag is none,
from `Cargo.toml`; the release of the package is made of the number of the run
and of the commit.  The site tells packages apart by their file names alone, and
an advisory names a package only if its name can be split.

So the names that builds give are the other side of the conditions under which
the site is right: they can always be split, and two builds share one exactly if
they share the version, the run and the commit, whatever their tags are.
-/

inductive Trigger where
  | push
  | dispatch (releaseTag : Text)

def hexadecimal (char : Char) : Bool := char.isDigit || (decide ('a' ≤ char) && decide (char ≤ 'f'))

/-- A run of the workflow, with the lines of `Cargo.toml` at its commit. -/
structure Build where
  manifest : List Text
  refName : Text
  trigger : Trigger
  date : Text
  runNumber : Nat
  sha : Text
  hex : sha.all hexadecimal = true

/-- `${{ github.run_number }}` -/
def Build.number (build : Build) : Text := Nat.toDigits 10 build.runNumber

/-- The tag that the release gets. -/
def Build.tag (build : Build) : Text :=
  match build.trigger with
  | .push => build.refName
  | .dispatch releaseTag =>
      if releaseTag ≠ [] then releaseTag
      else "Release-".toList ++ build.date ++ "-run".toList ++ build.number

/-- A number in front of the text, and what is behind it. -/
def skipNumber (text : Text) : Option Text :=
  if (text.head?.any Char.isDigit) = true then some (text.dropWhile Char.isDigit) else none

/-- What is behind a character in front of the text. -/
def skip (char : Char) : Text -> Option Text
  | [] => none
  | head :: rest => if head = char then some rest else none

/-- `^[0-9]+\.[0-9]+\.[0-9]+` -/
def numbered (text : Text) : Bool :=
  (do
    let rest ← skipNumber text
    let rest ← skip '.' rest
    let rest ← skipNumber rest
    let rest ← skip '.' rest
    skipNumber rest).isSome

def skipBlanks (text : Text) : Text := text.dropWhile fun char => char = ' '

/-- What is behind `version *=` in front of the text. -/
def skipKey (text : Text) : Option Text :=
  if "version".toList.isPrefixOf text then
    skip '=' (skipBlanks (text.drop "version".toList.length))
  else
    none

/-- A text around its last occurrence of a character. -/
def splitLast (char : Char) : Text -> Option (Text × Text)
  | [] => none
  | head :: rest =>
      match splitLast char rest with
      | some parts => some (head :: parts.1, parts.2)
      | none => if head = char then some ([], rest) else none

/-- `version *= *"(.*)"` in front of the text, replaced by what is in quotes. -/
def unquote (text : Text) : Option Text := do
  let rest ← skipKey text
  let value ← skip '"' (skipBlanks rest)
  let parts ← splitLast '"' value
  return parts.1 ++ parts.2

/-- The first match in the line is replaced. -/
def replaceVersion : Text -> Text
  | [] => []
  | char :: rest => (unquote (char :: rest)).getD (char :: replaceVersion rest)

/-- The version that is found in `Cargo.toml`, or nothing. -/
def cargoVersion (manifest : List Text) : Text :=
  ((manifest.find? fun line => (skipKey line).isSome).map replaceVersion).getD []

/-- The version of the package: the tag without its `v`, if it is numbered. -/
def Build.version (build : Build) : Text :=
  let bare := (skip 'v' build.tag).getD build.tag
  if numbered bare then bare
  else if cargoVersion build.manifest = [] then "0.1.0".toList
  else cargoVersion build.manifest

example : cargoVersion ["[package]".toList, "version = \"0.1.3\"".toList] = "0.1.3".toList := by
  decide

/-! ## The package -/

def Build.commit (build : Build) : Text := build.sha.take 7

def Build.release (build : Build) : Text :=
  build.number ++ '.' :: 'g' :: build.commit ++ ".static".toList

/-- The fields of the spec file. -/
def Build.nevra (build : Build) : Nevra where
  name := "xoa-proxy".toList
  version := build.version
  release := build.release
  arch := "x86_64".toList

def Build.fileName (build : Build) : Text := build.nevra.text ++ ".rpm".toList

theorem not_numbered_nil : numbered [] = false := rfl

theorem version_ne_nil (build : Build) : build.version ≠ [] := by
  simp only [Build.version]
  split
  · rename_i isNumbered
    intro empty
    rw [empty, not_numbered_nil] at isNumbered
    cases isNumbered
  · split
    · decide
    · assumption

theorem not_mem_number {char : Char} (build : Build) (other : char.isDigit = false) :
    char ∉ build.number := by
  intro member
  rw [Nat.isDigit_of_mem_toDigits (by decide) (by decide) member] at other
  cases other

theorem not_mem_commit {char : Char} (build : Build) (other : hexadecimal char = false) :
    char ∉ build.commit := by
  intro member
  rw [List.all_eq_true.mp build.hex char (List.mem_of_mem_take member)] at other
  cases other

/-- The release says which run and which commit it is of. -/
theorem release_inj {build other : Build} (same : build.release = other.release) :
    build.runNumber = other.runNumber ∧ build.commit = other.commit := by
  unfold Build.release at same
  have front := List.append_cancel_right same
  rcases first_separator_unique front (not_mem_number build (by decide))
    (not_mem_number other (by decide)) with ⟨number, rest⟩
  refine ⟨?_, (List.cons.inj rest).2⟩
  calc
    build.runNumber = Nat.ofDigitChars 10 build.number 0 := Nat.ofDigitChars_ten_toDigits.symm
    _ = Nat.ofDigitChars 10 other.number 0 := by rw [number]
    _ = other.runNumber := Nat.ofDigitChars_ten_toDigits

/-- The parts of a package name are kept apart, if its version may be one. -/
theorem nevra_wellFormed (build : Build) (valid : '-' ∉ build.version) :
    build.nevra.WellFormed := by
  have name : "xoa-proxy".toList ≠ [] ∧ '\n' ∉ "xoa-proxy".toList := by decide
  have arch : "x86_64".toList ≠ [] ∧ '.' ∉ "x86_64".toList := by decide
  have number : '-' ∉ build.number := not_mem_number build (by decide)
  have commit : '-' ∉ build.commit := not_mem_commit build (by decide)
  have static : '-' ∉ ".static".toList := by decide
  have releaseFree : '-' ∉ build.release := by
    simp only [Build.release, List.mem_append, List.mem_cons, not_or]
    exact ⟨⟨number, by decide, by decide, commit⟩, static⟩
  have release : build.release ≠ [] := List.append_ne_nil_of_right_ne_nil _ (by decide)
  exact ⟨name.1, name.2, version_ne_nil build, valid, release, releaseFree, arch.1, arch.2⟩

/-- Two packages have one file name exactly if they are of one version, run and
commit. -/
theorem fileName_eq_iff {build other : Build} (valid : '-' ∉ build.version)
    (alsoValid : '-' ∉ other.version) :
    build.fileName = other.fileName ↔
      build.version = other.version ∧ build.runNumber = other.runNumber ∧
        build.commit = other.commit := by
  constructor
  · intro same
    unfold Build.fileName at same
    have nevra := Nevra.text_injective (nevra_wellFormed build valid)
      (nevra_wellFormed other alsoValid) (List.append_cancel_right same)
    exact ⟨congrArg Nevra.version nevra, release_inj (congrArg Nevra.release nevra)⟩
  · intro same
    have number : build.number = other.number := congrArg (Nat.toDigits 10) same.2.1
    have release : build.release = other.release :=
      congrArg₂ (fun number commit => number ++ '.' :: 'g' :: commit ++ ".static".toList)
        number same.2.2
    have nevra : build.nevra = other.nevra :=
      congrArg₂ (fun version release =>
        Nevra.mk "xoa-proxy".toList version release "x86_64".toList) same.1 release
    exact congrArg (fun nevra => nevra.text ++ ".rpm".toList) nevra

/-- Whatever its tag and its manifest are, a package whose version the build
accepts is listed by its file name and named by its advisories, and it shares
the file name with the packages of its own version, run and commit only. -/
theorem built_packages_told_apart (build other : Build) (valid : '-' ∉ build.version)
    (alsoValid : '-' ∉ other.version) :
    isRpm build.fileName = true ∧
      Site.nevra (.string build.nevra.text) = some [build.nevra] ∧
      (build.fileName = other.fileName ↔
        build.version = other.version ∧ build.runNumber = other.runNumber ∧
          build.commit = other.commit) := by
  refine ⟨?_, nevra_text (nevra_wellFormed build valid), fileName_eq_iff valid alsoValid⟩
  rw [isRpm, List.isSuffixOf_iff_suffix]
  exact List.suffix_append _ _

/-- An emergency build, and a second attempt at it a minute later. -/
def emergency (date : String) : Build where
  manifest := ["version = \"0.1.3\"".toList]
  refName := "main".toList
  trigger := .dispatch []
  date := date.toList
  runNumber := 17
  sha := "0123456789abcdef".toList
  hex := rfl

/-- The attempts have different tags and the same file name. -/
theorem second_attempt_shares_name :
    (emergency "202601020304").tag ≠ (emergency "202601020305").tag ∧
      (emergency "202601020304").fileName = (emergency "202601020305").fileName := by
  refine ⟨by decide, ?_⟩
  exact (built_packages_told_apart (emergency "202601020304") (emergency "202601020305")
    (by decide) (by decide)).2.2.mpr ⟨by decide, by decide, by decide⟩

end Packaging
end XoaProxy
