import XoaProxy.Site.Updateinfo

namespace XoaProxy
namespace Site

open Markup

/-!
# The document as a rendered template

The values of an update cannot be told from text, whatever they are: every slot
of the document stands in a text or in an attribute value.  Its tags depend on
the numbers of its updates, references and packages alone, and every update and
every package is one occurrence of its tag.
-/

theorem gsub_append (char : Char) (replacement first second : Text) :
    gsub char replacement (first ++ second) =
      gsub char replacement first ++ gsub char replacement second :=
  List.flatMap_append

theorem gsub_other {char other : Char} (apart : other ≠ char) (replacement : Text) :
    gsub char replacement [other] = [other] := by
  rw [gsub, List.flatMap_singleton, if_neg apart]

theorem esc_append (first second : Text) : esc (first ++ second) = esc first ++ esc second := by
  simp only [esc, gsub_append]

/-- One pass for each character, the ampersand first, escapes every character
once. -/
theorem esc_singleton (char : Char) : esc [char] = escapeChar char := by
  cases special : Lexer.significant char with
  | false =>
      have apart : forall other, Lexer.significant other = true -> char ≠ other := by
        rintro other marked rfl
        rw [special] at marked
        cases marked
      rw [Lexer.escapeChar_ordinary special, esc, gsub_other (apart '&' rfl),
        gsub_other (apart '<' rfl), gsub_other (apart '>' rfl), gsub_other (apart '"' rfl)]
  | true => rcases Lexer.significant_iff.mp special with rfl | rfl | rfl | rfl <;> rfl

theorem esc_eq_escape (text : Text) : esc text = escape text := by
  induction text with
  | nil => rfl
  | cons char text ih =>
      rw [← List.singleton_append, esc_append, esc_singleton, ih]
      rfl

theorem interpolate_eq_render (template : Template) : interpolate template = render template := by
  induction template with
  | nil => rfl
  | cons fragment template ih =>
      rw [interpolate, render, List.flatMap_cons, List.flatMap_cons]
      refine congrArg₂ (· ++ ·) ?_ ih
      cases fragment with
      | literal text => rfl
      | slot value => exact esc_eq_escape value

theorem flow_reference (cve : Text) :
    Mode.content.flowAll (referenceTemplate cve) = some .content := rfl

theorem flow_package (package : Package) :
    Mode.content.flowAll (packageTemplate package) = some .content := rfl

theorem flow_update (update : Update) :
    Mode.content.flowAll (updateTemplate update) = some .content := by
  have head : Mode.content.flowAll (headTemplate update) = some .content := rfl
  have collection : Mode.content.flowAll (collectionTemplate update) = some .content := rfl
  have foot : Mode.content.flowAll footTemplate = some .content := rfl
  simp only [updateTemplate, Mode.flowAll_append, head, collection, foot, Option.bind_some,
    Mode.flowAll_flatMap flow_reference, Mode.flowAll_flatMap flow_package]

theorem flow_document (updates : List Update) :
    Mode.content.flowAll (documentTemplate updates) = some .content := by
  have head : Mode.content.flowAll
      [lit "<?xml version=\"1.0\" encoding=\"UTF-8\"?>\n<updates>\n"] = some .content := rfl
  have foot : Mode.content.flowAll [lit "</updates>"] = some .content := rfl
  simp only [documentTemplate, Mode.flowAll_append, head, foot, Option.bind_some,
    Mode.flowAll_flatMap flow_update]

/-- The numbers of references and of packages of an update. -/
def Update.counts (update : Update) : Nat × Nat :=
  (update.cves.length, update.packages.length)

/-- Updates with the same counts differ in values only. -/
theorem erase_update {update other : Update} (same : update.counts = other.counts) :
    erase (updateTemplate update) = erase (updateTemplate other) := by
  rcases Prod.mk.inj same with ⟨references, packages⟩
  have head : erase (headTemplate update) = erase (headTemplate other) := rfl
  have collection : erase (collectionTemplate update) = erase (collectionTemplate other) := rfl
  have references : erase (update.cves.flatMap referenceTemplate) =
      erase (other.cves.flatMap referenceTemplate) :=
    erase_flatMap_of_length (fun _ _ => rfl) references
  have packages : erase (update.packages.flatMap packageTemplate) =
      erase (other.packages.flatMap packageTemplate) :=
    erase_flatMap_of_length (fun _ _ => rfl) packages
  simp only [updateTemplate, erase_append, head, collection, references, packages]

theorem erase_document {updates others : List Update}
    (same : updates.map Update.counts = others.map Update.counts) :
    erase (documentTemplate updates) = erase (documentTemplate others) := by
  simp only [documentTemplate, erase_append,
    erase_flatMap Update.counts (fun _ _ => erase_update) same]

/-- The document is read as its template, with the values that were placed in
it. -/
theorem lex_document (updates : List Update) :
    Exists fun tokens => place (documentTemplate updates) = some tokens ∧
      lex (document updates) = some tokens := by
  rcases Option.isSome_iff_exists.mp (place_of_flow (flow_document updates)) with
    ⟨tokens, placed⟩
  refine ⟨tokens, placed, ?_⟩
  rw [document, interpolate_eq_render]
  exact lex_render placed

/-- A tag that the references do not have occurs in the head of an update, and
for each part of a package. -/
theorem counted_update {name : Text} {heads : Nat} {Part : Type} {parts : Package -> List Part}
    (head : forall update, literalCount name (headTemplate update) = some heads)
    (reference : forall cve, literalCount name (referenceTemplate cve) = some 0)
    (collection : forall update, literalCount name (collectionTemplate update) = some 0)
    (package : forall package, literalCount name (packageTemplate package) =
      some (parts package).length)
    (foot : literalCount name footTemplate = some 0) (update : Update) :
    Counted name (updateTemplate update) (heads + (update.packages.flatMap parts).length) := by
  have front : Counted name (headTemplate update) heads := .of_literals (head update)
  have references := Counted.flatMap_zero (fun cve => .of_literals (reference cve)) update.cves
  have packages := Counted.flatMap (fun value => .of_literals (package value)) update.packages
  have counted := (((front.append references).append
    (.of_literals (collection update))).append packages).append (.of_literals foot)
  simp only [Nat.add_zero] at counted
  exact counted

theorem counted_document {name : Text} {Part : Type} {parts : Update -> List Part}
    (each : forall update, Counted name (updateTemplate update) (parts update).length)
    (head : literalCount name
      [lit "<?xml version=\"1.0\" encoding=\"UTF-8\"?>\n<updates>\n"] = some 0)
    (foot : literalCount name [lit "</updates>"] = some 0) (updates : List Update) :
    occurrences ('<' :: name) (document updates) = (updates.flatMap parts).length := by
  have all := ((Counted.of_literals head).append (Counted.flatMap each updates)).append
    (.of_literals foot)
  rw [document, interpolate_eq_render, documentTemplate, all.count, Nat.zero_add, Nat.add_zero]

/-- The tag of an update occurs once for each update. -/
theorem occurrences_updates (updates : List Update) :
    occurrences "<update ".toList (document updates) = updates.length := by
  have one (update : Update) :
      Counted "update ".toList (updateTemplate update) [update].length := by
    have head : forall update, literalCount "update ".toList (headTemplate update) = some 1 :=
      fun _ => rfl
    have none : forall package : Package, literalCount "update ".toList
        (packageTemplate package) = some ([] : List Package).length := fun _ => rfl
    have counted := counted_update head (fun _ => rfl) (fun _ => rfl) none rfl update
    rw [List.flatMap_eq_nil_iff.mpr fun _ _ => rfl] at counted
    exact counted
  have counted := counted_document one rfl rfl updates
  rw [List.flatMap_singleton'] at counted
  exact counted

/-- The tag of a package occurs once for each package of an update. -/
theorem occurrences_packages (updates : List Update) :
    occurrences "<package ".toList (document updates) =
      (updates.flatMap Update.packages).length := by
  have each (update : Update) :
      Counted "package ".toList (updateTemplate update) update.packages.length := by
    have head : forall update, literalCount "package ".toList (headTemplate update) = some 0 :=
      fun _ => rfl
    have one : forall package : Package, literalCount "package ".toList
        (packageTemplate package) = some [package].length := fun _ => rfl
    have counted := counted_update head (fun _ => rfl) (fun _ => rfl) one rfl update
    rw [List.flatMap_singleton', Nat.zero_add] at counted
    exact counted
  exact counted_document each rfl rfl updates

end Site
end XoaProxy
