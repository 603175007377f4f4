import XoaProxy.Foundation.Elements
import XoaProxy.Site.Rendering

namespace XoaProxy
namespace Site

open Markup Elements

/-!
# The document is read back

The document is a file with a tree of elements.  `readDocument` takes the
updates out of such a tree by the names of elements and attributes.  From the
document of any updates it reads these updates, so what the promotion record
says can be taken out again.  It is a reader of elements: what XML does to line
ends and to blanks in attributes is not part of it.
-/

def referenceAttributes (cve : Text) : Attributes :=
  [(⟨"href".toList, rfl⟩, "https://nvd.nist.gov/vuln/detail/".toList ++ cve),
    (⟨"id".toList, rfl⟩, cve), (⟨"type".toList, rfl⟩, "cve".toList),
    (⟨"title".toList, rfl⟩, cve)]

def referenceForest (cve : Text) : Forest -> Forest :=
  .single "\n      ".toList ⟨"reference".toList, rfl⟩ (referenceAttributes cve)

def packageElement (package : Package) : Element where
  name := ⟨"package".toList, rfl⟩
  attributes := [(⟨"name".toList, rfl⟩, package.nevra.name),
    (⟨"version".toList, rfl⟩, package.nevra.version),
    (⟨"release".toList, rfl⟩, package.nevra.release), (⟨"epoch".toList, rfl⟩, ['0']),
    (⟨"arch".toList, rfl⟩, package.nevra.arch)]
  inside := .element "\n          ".toList ⟨"filename".toList, rfl⟩ [] (.text package.file)
    (.element "\n          ".toList ⟨"sum".toList, rfl⟩ [(⟨"type".toList, rfl⟩, "sha256".toList)]
      (.text package.sha256)
      (.text "\n        ".toList))

def packageForest (package : Package) : Forest -> Forest :=
  (packageElement package).forest "\n        ".toList

def collectionForest (update : Update) : Forest :=
  .element "\n      ".toList ⟨"collection".toList, rfl⟩ [(⟨"short".toList, rfl⟩, update.tag)]
    (.element "\n        ".toList ⟨"name".toList, rfl⟩ [] (.text update.tag)
      (update.packages.foldr packageForest (.text "\n      ".toList)))
    (.text "\n    ".toList)

/-- The references and the packages of an update. -/
def listsForest (update : Update) : Forest :=
  .element "\n    ".toList ⟨"references".toList, rfl⟩ []
    (update.cves.foldr referenceForest (.text "\n    ".toList))
    (.element "\n    ".toList ⟨"pkglist".toList, rfl⟩ [] (collectionForest update)
      (.text "\n  ".toList))

def detailsForest (update : Update) (after : Forest) : Forest :=
  .element "\n    ".toList ⟨"id".toList, rfl⟩ [] (.text update.id)
    (.element "\n    ".toList ⟨"title".toList, rfl⟩ [] (.text update.summary)
      (.element "\n    ".toList ⟨"severity".toList, rfl⟩ [] (.text update.severity)
        (.single "\n    ".toList ⟨"issued".toList, rfl⟩ [(⟨"date".toList, rfl⟩, update.issued)]
          (.element "\n    ".toList ⟨"description".toList, rfl⟩ []
            (.text (update.summary ++ " (fixed in ".toList ++ update.tag ++ [')']))
            after))))

def updateElement (update : Update) : Element where
  name := ⟨"update".toList, rfl⟩
  attributes := [(⟨"from".toList, rfl⟩, "xcp-hl".toList),
    (⟨"status".toList, rfl⟩, "stable".toList), (⟨"type".toList, rfl⟩, update.type),
    (⟨"version".toList, rfl⟩, ['1'])]
  inside := detailsForest update (listsForest update)

def updateForest (update : Update) : Forest -> Forest :=
  (updateElement update).forest "\n  ".toList

def documentForest (updates : List Update) : Forest :=
  .element ['\n'] ⟨"updates".toList, rfl⟩ [] (updates.foldr updateForest (.text ['\n']))
    (.text [])

/-- Blocks that end their lines, as elements that begin new ones. -/
theorem render_row {Item : Type} {make : Item -> Forest -> Forest} {block : Item -> Template}
    (each : forall item {after rest}, render after.template = '\n' :: rest ->
      render (make item after).template = '\n' :: (render (block item) ++ rest))
    (items : List Item) {tail : Forest} {rest : Text}
    (ends : render tail.template = '\n' :: rest) :
    render (items.foldr make tail).template = '\n' :: (render (items.flatMap block) ++ rest) := by
  induction items with
  | nil => exact ends
  | cons item items ih =>
      rw [List.foldr_cons, List.flatMap_cons, render_append, List.append_assoc]
      exact each item ih

theorem render_reference (cve : Text) {after : Forest} {rest : Text}
    (ends : render after.template = '\n' :: rest) :
    render (referenceForest cve after).template =
      '\n' :: (render (referenceTemplate cve) ++ rest) := by
  simp only [referenceForest, referenceAttributes, Forest.template, tagTemplate,
    List.flatMap_cons, List.flatMap_nil, attributeTemplate, render_cons, ends,
    referenceTemplate, List.append_assoc, Fragment.render, escape_append, lit, List.cons_append,
    List.nil_append]
  rfl

theorem render_package (package : Package) {after : Forest} {rest : Text}
    (ends : render after.template = '\n' :: rest) :
    render (packageForest package after).template =
      '\n' :: (render (packageTemplate package) ++ rest) := by
  simp only [packageForest, Element.forest, packageElement, Forest.template, tagTemplate,
    List.flatMap_cons, List.flatMap_nil, attributeTemplate, render_cons, ends, packageTemplate,
    List.append_assoc, Fragment.render, lit, List.cons_append, List.nil_append]
  rfl

theorem render_lists (update : Update) :
    render (listsForest update).template =
      "\n    <references>\n".toList ++ (render (update.cves.flatMap referenceTemplate) ++
        (render (collectionTemplate update) ++ (render (update.packages.flatMap packageTemplate) ++
          "      </collection>\n    </pkglist>\n  ".toList))) := by
  have references := @render_row Text referenceForest referenceTemplate
    (fun cve _ _ ends => render_reference cve ends) update.cves (.text "\n    ".toList)
    "    ".toList rfl
  have packages := @render_row Package packageForest packageTemplate
    (fun package _ _ ends => render_package package ends) update.packages
    (.text "\n      ".toList) "      ".toList rfl
  simp only [listsForest, collectionForest, Forest.template, tagTemplate, List.flatMap_cons,
    List.flatMap_nil, attributeTemplate, render_append, render_cons, references, packages,
    collectionTemplate, List.append_assoc, Fragment.render, lit, List.cons_append,
    List.nil_append]
  rfl

theorem render_details (update : Update) {after : Forest} {rest : Text}
    (ends : render after.template = "\n    <references>\n".toList ++ rest) :
    render (detailsForest update after).template =
      '\n' :: (render ((headTemplate update).drop 3) ++ rest) := by
  simp only [detailsForest, Forest.template, tagTemplate, List.flatMap_cons, List.flatMap_nil,
    attributeTemplate, render_cons, ends, headTemplate, List.drop_succ_cons,
    List.drop_zero, List.append_assoc, Fragment.render, escape_append, lit, List.cons_append,
    List.nil_append]
  rfl

theorem render_update (update : Update) {after : Forest} {rest : Text}
    (ends : render after.template = '\n' :: rest) :
    render (updateForest update after).template =
      '\n' :: (render (updateTemplate update) ++ rest) := by
  have head : render (headTemplate update) =
      "  <update from=\"xcp-hl\" status=\"stable\" type=\"".toList ++ (escape update.type ++
        ("\" version=\"1\">\n".toList ++ render ((headTemplate update).drop 3))) := rfl
  simp only [updateTemplate, updateForest, Element.forest, updateElement, Forest.template,
    tagTemplate, List.flatMap_cons, List.flatMap_nil, attributeTemplate, render_append,
    render_cons, ends, head,
    render_details update (render_lists update), List.append_assoc, Fragment.render,
    List.cons_append, List.nil_append]
  rfl

theorem render_document (updates : List Update) :
    document updates =
      render (fileTemplate ⟨"xml".toList, rfl⟩
        [(⟨"version".toList, rfl⟩, "1.0".toList), (⟨"encoding".toList, rfl⟩, "UTF-8".toList)]
        (documentForest updates)) := by
  have rows := @render_row Update updateForest updateTemplate
    (fun update _ _ ends => render_update update ends) updates (.text ['\n']) [] rfl
  rw [document, interpolate_eq_render]
  simp only [documentForest, fileTemplate, Forest.template, tagTemplate, List.flatMap_cons,
    List.flatMap_nil, attributeTemplate, render_append, render_cons, rows, documentTemplate,
    List.append_assoc, Fragment.render, lit, List.cons_append, List.nil_append]
  rfl

theorem parse_document (updates : List Update) :
    parse (document updates) = some (documentForest updates) := by
  rw [render_document]
  exact parse_file _ _ _

/-! ## Reading the tree -/

def readPackage (element : Element) : Option Package := do
  let name ← element.value "name"
  let version ← element.value "version"
  let release ← element.value "release"
  let arch ← element.value "arch"
  let file ← (← element.inside.first "filename").inside.content
  let sha256 ← (← element.inside.first "sum").inside.content
  return ⟨⟨name, version, release, arch⟩, file, sha256⟩

def readElement (element : Element) : Option Update := do
  let collection ← (← element.inside.first "pkglist").inside.first "collection"
  let references ← element.inside.first "references"
  return {
    type := ← element.value "type"
    id := ← (← element.inside.first "id").inside.content
    summary := ← (← element.inside.first "title").inside.content
    severity := ← (← element.inside.first "severity").inside.content
    issued := ← (← element.inside.first "issued").value "date"
    tag := ← collection.value "short"
    cves := ← (references.inside.named "reference").mapM (Element.value "id")
    packages := ← (collection.inside.named "package").mapM readPackage }

/-- The updates of a document, by the names of its elements and attributes. -/
def readDocument (text : Text) : Option (List Update) := do
  let file ← parse text
  let root ← file.first "updates"
  (root.inside.named "update").mapM readElement

theorem readPackage_element (package : Package) :
    readPackage (packageElement package) = some package :=
  rfl

theorem readElement_element (update : Update) :
    readElement (updateElement update) = some update := by
  have references := @named_row Text referenceForest
    (fun cve => ⟨⟨"reference".toList, rfl⟩, referenceAttributes cve, .text []⟩) "reference"
    (fun _ _ => rfl) (fun _ => rfl) update.cves (.text "\n    ".toList) rfl
  have packages := @named_row Package packageForest packageElement "package"
    (fun _ _ => rfl) (fun _ => rfl) update.packages (.text "\n      ".toList) rfl
  have cves := @mapM_elements Text
    (fun cve => ⟨⟨"reference".toList, rfl⟩, referenceAttributes cve, .text []⟩)
    (Element.value "id") (fun _ => rfl) update.cves
  rw [← references] at cves
  have listed := @mapM_elements Package packageElement readPackage readPackage_element
    update.packages
  rw [← packages] at listed
  have collection : readElement (updateElement update) = (do
      let cves ← ((update.cves.foldr referenceForest (.text "\n    ".toList)).named
        "reference").mapM (Element.value "id")
      let packages ← ((update.packages.foldr packageForest (.text "\n      ".toList)).named
        "package").mapM readPackage
      return { update with cves := cves, packages := packages }) := rfl
  rw [collection, cves, listed]
  rfl

theorem readDocument_document (updates : List Update) :
    readDocument (document updates) = some updates := by
  have rows := @named_row Update updateForest updateElement "update"
    (fun _ _ => rfl) (fun _ => rfl) updates (.text ['\n']) rfl
  have read : readDocument (document updates) =
      ((updates.foldr updateForest (.text ['\n'])).named "update").mapM readElement := by
    rw [readDocument, parse_document]
    rfl
  rw [read, rows, mapM_elements readElement_element]

/-- A reader of elements takes from the document what the filter took out of
the record, and there is no document where the filter fails. -/
theorem updateinfo_read_back (dump : Json -> Text) (record : Json) :
    (updateinfo dump record).bind readDocument = readUpdates dump record := by
  rw [updateinfo]
  cases readUpdates dump record with
  | none => rfl
  | some updates => exact readDocument_document updates

end Site
end XoaProxy
