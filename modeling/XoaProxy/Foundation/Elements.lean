import Mathlib.Data.List.TakeWhile
import XoaProxy.Foundation.Markup

namespace XoaProxy
namespace Elements

open Markup

/-!
# Trees of elements

A forest is a sequence of elements with texts in front of them and behind the
last one.  Its template puts names into literals and all texts and attribute
values into slots.  A name cannot contain a character that means something in a
tag, so every forest can be printed.

`parse` reads a text in four steps: into tokens, into groups of the tokens that
stand between two texts, into tags, and from the last tag to the first into a
forest.  The forests behind the closing tags that were passed wait for their
opening tags.  What was printed is parsed back.
-/

/-- A character that means nothing to the lexer and nothing inside a tag. -/
def nameChar (char : Char) : Bool :=
  !Lexer.significant char && char ≠ ' ' && char ≠ '=' && char ≠ '/' && char ≠ '?'

def isName (text : Text) : Bool := !text.isEmpty && text.all nameChar

abbrev Name := {text : Text // isName text = true}

namespace Name

def read (text : Text) : Option Name :=
  if proper : isName text = true then some ⟨text, proper⟩ else none

@[simp]
theorem read_val (name : Name) : read name.val = some name := by
  rw [read, dif_pos name.property]

theorem nameChar_of_mem (name : Name) {char : Char} (member : char ∈ name.val) :
    nameChar char = true :=
  List.all_eq_true.mp (Bool.and_eq_true_iff.mp name.property).2 char member

theorem ne_nil (name : Name) : name.val ≠ [] := by
  intro empty
  have proper := name.property
  rw [empty] at proper
  cases proper

end Name

abbrev Attributes := List (Name × Text)

/-- Elements side by side, each behind a text, and the text behind the last. -/
inductive Forest where
  | text (last : Text)
  | element (before : Text) (name : Name) (attributes : Attributes) (inside after : Forest)
  | single (before : Text) (name : Name) (attributes : Attributes) (after : Forest)
deriving DecidableEq

def attributeTemplate (pair : Name × Text) : Template :=
  [.literal (' ' :: pair.1.val ++ ['=', '"']), .slot pair.2, .literal ['"']]

def tagTemplate (head : Text) (attributes : Attributes) (closing : Text) : Template :=
  .literal ('<' :: head) ::
    (attributes.flatMap attributeTemplate ++ [.literal (closing ++ ['>'])])

def Forest.template : Forest -> Template
  | .text last => [.slot last]
  | .element before name attributes inside after =>
      .slot before :: (tagTemplate name.val attributes [] ++ (inside.template ++
        (tagTemplate ('/' :: name.val) [] [] ++ after.template)))
  | .single before name attributes after =>
      .slot before :: (tagTemplate name.val attributes ['/'] ++ after.template)

structure Element where
  name : Name
  attributes : Attributes
  inside : Forest
deriving DecidableEq

def Element.forest (before : Text) (element : Element) (after : Forest) : Forest :=
  .element before element.name element.attributes element.inside after

/-- A forest behind its declaration. -/
def fileTemplate (name : Name) (attributes : Attributes) (forest : Forest) : Template :=
  tagTemplate ('?' :: name.val) attributes ['?'] ++ forest.template

/-! ## Parsing -/

inductive Tag where
  | opening (name : Name) (attributes : Attributes)
  | closing (name : Name)
  | single (name : Name) (attributes : Attributes)
  | declaration (name : Name) (attributes : Attributes)
deriving DecidableEq

/-- The tokens in front of the first text, and each text with the tokens up to
the next one. -/
def groups : List Token -> List Token × List (Text × List Token)
  | [] => ([], [])
  | .text before :: tokens => ([], (before, (groups tokens).1) :: (groups tokens).2)
  | token :: tokens => (token :: (groups tokens).1, (groups tokens).2)

/-- ` key=` -/
def readKey : Text -> Option Name
  | ' ' :: text => if text.getLast? = some '=' then Name.read text.dropLast else none
  | _ => none

/-- The attributes behind a name, and what closes the tag. -/
def readAttributes : Text -> List Token -> Option (Attributes × Text)
  | closing, [] => some ([], closing)
  | head, .value value :: .markup next :: tokens => do
      let key ← readKey head
      let (attributes, closing) ← readAttributes next tokens
      return ((key, value) :: attributes, closing)
  | _, _ => none

def readNamed (head : Text) (tokens : List Token) : Option (Name × Attributes × Text) := do
  let name ← Name.read (head.takeWhile nameChar)
  let (attributes, closing) ← readAttributes (head.dropWhile nameChar) tokens
  return (name, attributes, closing)

def readTag : List Token -> Option Tag
  | [.markup ('/' :: name)] => (Name.read name).map .closing
  | .markup ('?' :: head) :: tokens => do
      let (name, attributes, closing) ← readNamed head tokens
      if closing = ['?'] then some (.declaration name attributes) else none
  | .markup head :: tokens => do
      let (name, attributes, closing) ← readNamed head tokens
      if closing = [] then some (.opening name attributes)
      else if closing = ['/'] then some (.single name attributes)
      else none
  | _ => none

/-- Each tag with the text in front of it, and the text behind the last. -/
def readTags : List (Text × List Token) -> Option (List (Text × Tag) × Text)
  | [(last, [])] => some ([], last)
  | (before, token :: inside) :: groups => do
      let tag ← readTag (token :: inside)
      let (tags, last) ← readTags groups
      return ((before, tag) :: tags, last)
  | _ => none

/-- The forest in front of a closing tag, or of the end, and for each closing
tag that has no opening tag yet its name and the forest behind it. -/
def build (last : Text) : List (Text × Tag) -> Option (Forest × List (Name × Forest))
  | [] => some (.text last, [])
  | (before, tag) :: tags => do
      let (forest, pending) ← build last tags
      match tag, pending with
      | .opening name attributes, (closed, after) :: pending =>
          if name = closed then some (.element before name attributes forest after, pending)
          else none
      | .opening _ _, [] => none
      | .closing name, pending => some (.text before, (name, forest) :: pending)
      | .single name attributes, pending =>
          some (.single before name attributes forest, pending)
      | .declaration _ _, _ => none

def readForest (tags : List (Text × Tag)) (last : Text) : Option Forest :=
  match build last tags with
  | some (forest, []) => some forest
  | _ => none

/-- The forest behind the declaration that a file begins with. -/
def parse (text : Text) : Option Forest := do
  let tokens ← lex text
  let (tags, last) ← readTags (groups tokens).2
  match tags with
  | ([], .declaration _ _) :: tags => readForest tags last
  | _ => none

/-- The tokens of a tag. -/
def tagTokens (head : Text) : Attributes -> Text -> List Token
  | [], closing => [.markup (head ++ closing)]
  | (key, value) :: attributes, closing =>
      .markup (head ++ ' ' :: key.val ++ ['=']) :: .value value ::
        tagTokens [] attributes closing

def Tag.tokens : Tag -> List Token
  | .opening name attributes => tagTokens name.val attributes []
  | .closing name => tagTokens ('/' :: name.val) [] []
  | .single name attributes => tagTokens name.val attributes ['/']
  | .declaration name attributes => tagTokens ('?' :: name.val) attributes ['?']

theorem readKey_key (key : Name) : readKey (' ' :: key.val ++ ['=']) = some key := by
  rw [List.cons_append, readKey, List.getLast?_concat, if_pos rfl, List.dropLast_concat,
    Name.read_val]

/-- The head and the values of a tag, behind any front of its first token. -/
theorem tagTokens_cons (head : Text) (attributes : Attributes) (closing : Text) :
    Exists fun rest => Exists fun tokens =>
      tagTokens head attributes closing = .markup (head ++ rest) :: tokens ∧
        readAttributes rest tokens = some (attributes, closing) ∧
        (rest = closing ∨ Exists fun tail => rest = ' ' :: tail) := by
  induction attributes generalizing head with
  | nil => exact ⟨closing, [], rfl, rfl, Or.inl rfl⟩
  | cons pair attributes ih =>
      rcases pair with ⟨key, value⟩
      rcases ih [] with ⟨next, tokens, printed, read, _⟩
      rw [List.nil_append] at printed
      refine ⟨' ' :: key.val ++ ['='], .value value :: .markup next :: tokens, ?_, ?_,
        Or.inr ⟨key.val ++ ['='], rfl⟩⟩
      · rw [tagTokens, printed, List.append_assoc]
      · rw [readAttributes, readKey_key, Option.bind_eq_bind, Option.bind_some, read]
        rfl

theorem takeWhile_name (name : Name) {rest : Text} (ends : rest.head?.all (!nameChar ·) = true) :
    (name.val ++ rest).takeWhile nameChar = name.val ∧
      (name.val ++ rest).dropWhile nameChar = rest := by
  have all : forall char, char ∈ name.val -> nameChar char = true :=
    fun char member => name.nameChar_of_mem member
  cases rest with
  | nil =>
      rw [List.append_nil]
      exact ⟨List.takeWhile_eq_self_iff.mpr all, List.dropWhile_eq_nil_iff.mpr all⟩
  | cons char rest =>
      have stop : ¬ nameChar char = true := by
        rw [Bool.not_eq_true, ← Bool.not_eq_true']
        exact ends
      constructor
      · rw [List.takeWhile_append_of_pos all, List.takeWhile_cons_of_neg stop, List.append_nil]
      · rw [List.dropWhile_append_of_pos all, List.dropWhile_cons_of_neg stop]

theorem readNamed_tagTokens (front : Text) (name : Name) (attributes : Attributes)
    {closing : Text} (ends : closing.head?.all (!nameChar ·) = true) :
    Exists fun rest => Exists fun tokens =>
      tagTokens (front ++ name.val) attributes closing =
        .markup (front ++ (name.val ++ rest)) :: tokens ∧
        readNamed (name.val ++ rest) tokens = some (name, attributes, closing) := by
  rcases tagTokens_cons (front ++ name.val) attributes closing with
    ⟨rest, tokens, printed, read, shape⟩
  have stops : rest.head?.all (!nameChar ·) = true := by
    rcases shape with rfl | ⟨tail, rfl⟩
    · exact ends
    · rfl
  rcases takeWhile_name name stops with ⟨taken, dropped⟩
  refine ⟨rest, tokens, ?_, ?_⟩
  · rw [printed, List.append_assoc]
  · simp only [readNamed, taken, dropped, Name.read_val, read, Option.bind_eq_bind,
      Option.bind_some, Option.pure_def]

/-- A name is not taken for a closing tag or for a declaration. -/
theorem readTag_name (name : Name) (rest : Text) (tokens : List Token) :
    readTag (.markup (name.val ++ rest) :: tokens) =
      (readNamed (name.val ++ rest) tokens).bind fun (name, attributes, closing) =>
        if closing = [] then some (.opening name attributes)
        else if closing = ['/'] then some (.single name attributes)
        else none := by
  cases characters : name.val with
  | nil => exact absurd characters name.ne_nil
  | cons char text =>
      have ordinary : nameChar char = true := by
        apply name.nameChar_of_mem
        rw [characters]
        exact List.mem_cons_self
      rw [List.cons_append, readTag]
      · rfl
      · intro other _ same
        cases same
        exact absurd ordinary (by decide)
      · intro other same
        cases same
        exact absurd ordinary (by decide)

theorem readTag_tokens (tag : Tag) : readTag tag.tokens = some tag := by
  cases tag with
  | opening name attributes =>
      rcases @readNamed_tagTokens [] name attributes [] rfl with
        ⟨rest, tokens, printed, read⟩
      rw [Tag.tokens, ← List.nil_append name.val, printed, List.nil_append, readTag_name, read]
      rfl
  | closing name =>
      rw [Tag.tokens, tagTokens, List.append_nil, readTag, Name.read_val]
      rfl
  | single name attributes =>
      rcases @readNamed_tagTokens [] name attributes ['/'] rfl with
        ⟨rest, tokens, printed, read⟩
      rw [Tag.tokens, ← List.nil_append name.val, printed, List.nil_append, readTag_name, read]
      rfl
  | declaration name attributes =>
      rcases @readNamed_tagTokens ['?'] name attributes ['?'] rfl with
        ⟨rest, tokens, printed, read⟩
      rw [List.singleton_append, List.singleton_append] at printed
      rw [Tag.tokens, printed, readTag, read]
      rfl

/-- The text behind the last element. -/
def Forest.last : Forest -> Text
  | .text last => last
  | .element _ _ _ _ after => after.last
  | .single _ _ _ after => after.last

/-- The tags of a forest, each with the text in front of it. -/
def Forest.tags : Forest -> List (Text × Tag)
  | .text _ => []
  | .element before name attributes inside after =>
      (before, .opening name attributes) ::
        (inside.tags ++ (inside.last, .closing name) :: after.tags)
  | .single before name attributes after => (before, .single name attributes) :: after.tags

theorem build_tags (forest : Forest) {last : Text} {rest : List (Text × Tag)}
    {pending : List (Name × Forest)}
    (built : build last rest = some (.text forest.last, pending)) :
    build last (forest.tags ++ rest) = some (forest, pending) := by
  induction forest generalizing rest pending with
  | text final => exact built
  | element before name attributes inside after insideBuilt afterBuilt =>
      have closed : build last ((inside.last, .closing name) :: (after.tags ++ rest)) =
          some (.text inside.last, (name, after) :: pending) := by
        rw [build, afterBuilt built]
        rfl
      rw [Forest.tags, List.cons_append, List.append_assoc, List.cons_append, build,
        insideBuilt closed, Option.bind_eq_bind, Option.bind_some]
      exact if_pos rfl
  | single before name attributes after ih =>
      rw [Forest.tags, List.cons_append, build, ih built]
      rfl

theorem readForest_tags (forest : Forest) : readForest forest.tags forest.last = some forest := by
  have built := @build_tags forest forest.last [] [] rfl
  rw [List.append_nil] at built
  rw [readForest, built]

/-- The tokens of a tag behind a text. -/
def tokensOf (tag : Text × Tag) : List Token := .text tag.1 :: tag.2.tokens

def outside : Token -> Bool
  | .text _ => true
  | .markup _ | .value _ => false

theorem outside_tagTokens (head : Text) (attributes : Attributes) (closing : Text) :
    (tagTokens head attributes closing).any outside = false := by
  induction attributes generalizing head with
  | nil => rfl
  | cons pair attributes ih => exact ih []

theorem outside_tokens (tag : Tag) : tag.tokens.any outside = false := by
  cases tag with
  | opening name attributes => exact outside_tagTokens name.val attributes []
  | closing name => rfl
  | single name attributes => exact outside_tagTokens name.val attributes ['/']
  | declaration name attributes => exact outside_tagTokens ('?' :: name.val) attributes ['?']

theorem groups_inside {inside : List Token} (none : inside.any outside = false)
    (rest : List Token) :
    groups (inside ++ rest) = (inside ++ (groups rest).1, (groups rest).2) := by
  induction inside with
  | nil => rfl
  | cons token inside ih =>
      rw [List.any_cons, Bool.or_eq_false_iff] at none
      cases token with
      | text content => cases none.1
      | markup content => rw [List.cons_append, groups, ih none.2]; rfl; nofun
      | value content => rw [List.cons_append, groups, ih none.2]; rfl; nofun

theorem groups_tags (tags : List (Text × Tag)) (last : Text) :
    groups (tags.flatMap tokensOf ++ [.text last]) =
      ([], tags.map (fun tag => (tag.1, tag.2.tokens)) ++ [(last, [])]) := by
  induction tags with
  | nil => rfl
  | cons tag tags ih =>
      rw [List.flatMap_cons, List.append_assoc, tokensOf, List.cons_append, groups,
        groups_inside (outside_tokens tag.2), ih, List.append_nil]
      rfl

theorem readTags_tags (tags : List (Text × Tag)) (last : Text) :
    readTags (tags.map (fun tag => (tag.1, tag.2.tokens)) ++ [(last, [])]) =
      some (tags, last) := by
  induction tags with
  | nil => rfl
  | cons tag tags ih =>
      have read := readTag_tokens tag.2
      cases tokens : tag.2.tokens with
      | nil =>
          rw [tokens] at read
          cases read
      | cons token inside =>
          rw [tokens] at read
          rw [List.map_cons, List.cons_append, tokens, readTags, read, ih]
          rfl

/-! ## A printed forest is parsed back -/

/-- No character of the text means anything to the lexer. -/
def plain (text : Text) : Bool := text.all (!Lexer.significant ·)

theorem plain_cons (char : Char) {text : Text} (ordinary : (!Lexer.significant char) = true)
    (rest : plain text = true) : plain (char :: text) = true := by
  rw [plain, List.all_cons, Bool.and_eq_true]
  exact ⟨ordinary, rest⟩

theorem Name.plain (name : Name) : Elements.plain name.val = true := by
  apply List.all_eq_true.mpr
  intro char member
  have ordinary := name.nameChar_of_mem member
  simp only [nameChar, Bool.and_eq_true] at ordinary
  exact ordinary.1.1.1.1

theorem run_plain {lexer : Lexer} (idle : lexer.entity = none) {text : Text}
    (ordinary : plain text = true) (rest : Text) :
    lexer.run (text ++ rest) = (lexer.push text).run rest := by
  induction text generalizing lexer with
  | nil => rw [Lexer.push_nil, List.nil_append]
  | cons char text ih =>
      rw [plain, List.all_cons, Bool.and_eq_true, Bool.not_eq_true'] at ordinary
      have pushed : (lexer.push [char]).entity = none := idle
      rw [List.cons_append, Lexer.run, Lexer.step_ordinary idle ordinary.1, Option.bind_some,
        ih pushed ordinary.2, Lexer.push_push]
      rfl

theorem placeAll_append (lexer : Lexer) (first second : Template) :
    lexer.placeAll (first ++ second) =
      (lexer.placeAll first).bind fun next => next.placeAll second := by
  induction first generalizing lexer with
  | nil => rfl
  | cons fragment first ih =>
      simp only [List.cons_append, Lexer.placeAll, Option.bind_assoc, ih]

/-- The lexer inside a tag reads an attribute. -/
theorem placeAll_attribute (head : Text) (tokens : List Token) (pair : Name × Text) :
    (Lexer.mk .tag none head tokens).placeAll (attributeTemplate pair) =
      some ⟨.tag, none, [], tokens ++ [.markup (head ++ ' ' :: pair.1.val ++ ['='])] ++
        [.value pair.2]⟩ := by
  have key : Elements.plain (' ' :: pair.1.val) = true :=
    plain_cons ' ' rfl pair.1.plain
  have read : (Lexer.mk .tag none head tokens).run (' ' :: pair.1.val ++ ['=', '"']) =
      some ⟨.value, none, [], tokens ++ [.markup (head ++ ' ' :: pair.1.val ++ ['='])]⟩ := by
    rw [run_plain rfl key]
    rfl
  rw [attributeTemplate, Lexer.placeAll, Lexer.place, read]
  rfl

theorem placeAll_inside (head : Text) (tokens : List Token) (attributes : Attributes)
    {closing : Text} (ordinary : plain closing = true) :
    (Lexer.mk .tag none head tokens).placeAll
        (attributes.flatMap attributeTemplate ++ [.literal (closing ++ ['>'])]) =
      some ⟨.content, none, [], tokens ++ tagTokens head attributes closing⟩ := by
  induction attributes generalizing head tokens with
  | nil =>
      have read : (Lexer.mk .tag none head tokens).run (closing ++ ['>']) =
          some ⟨.content, none, [], tokens ++ [.markup (head ++ closing)]⟩ := by
        rw [run_plain rfl ordinary]
        rfl
      rw [List.flatMap_nil, List.nil_append, Lexer.placeAll, Lexer.place, read]
      rfl
  | cons pair attributes ih =>
      rw [List.flatMap_cons, List.append_assoc, placeAll_append, placeAll_attribute,
        Option.bind_some, ih, tagTokens]
      simp only [List.append_assoc, List.cons_append, List.nil_append]

theorem placeAll_tag {head closing : Text} (headPlain : plain head = true)
    (closingPlain : plain closing = true) (attributes : Attributes) (before : Text)
    (tokens : List Token) :
    (Lexer.mk .content none before tokens).placeAll (tagTemplate head attributes closing) =
      some ⟨.content, none, [],
        tokens ++ .text before :: tagTokens head attributes closing⟩ := by
  have read : (Lexer.mk .content none before tokens).run ('<' :: head) =
      some ⟨.tag, none, head, tokens ++ [.text before]⟩ := by
    have tag := @run_plain ⟨.tag, none, [], tokens ++ [.text before]⟩ rfl head headPlain []
    rw [List.append_nil] at tag
    exact tag
  rw [tagTemplate, Lexer.placeAll, Lexer.place, read, Option.bind_some,
    placeAll_inside head _ attributes closingPlain, List.append_assoc]
  rfl

/-- A slot in front of a tag. -/
theorem placeAll_text (tokens : List Token) (text : Text) (rest : Template) :
    (Lexer.mk .content none [] tokens).placeAll (.slot text :: rest) =
      (Lexer.mk .content none text tokens).placeAll rest :=
  rfl

theorem placeAll_forest (forest : Forest) (tokens : List Token) :
    (Lexer.mk .content none [] tokens).placeAll forest.template =
      some ⟨.content, none, forest.last, tokens ++ forest.tags.flatMap tokensOf⟩ := by
  induction forest generalizing tokens with
  | text last =>
      rw [Forest.tags, List.flatMap_nil, List.append_nil]
      rfl
  | element before name attributes inside after insideRead afterRead =>
      have opened := @placeAll_tag name.val [] name.plain rfl attributes before
      have closed := @placeAll_tag ('/' :: name.val) []
        (plain_cons '/' rfl name.plain) rfl [] inside.last
      rw [Forest.template, placeAll_text, placeAll_append, opened, Option.bind_some,
        placeAll_append, insideRead, Option.bind_some, placeAll_append, closed,
        Option.bind_some, afterRead]
      simp only [Forest.tags, Forest.last, tokensOf, Tag.tokens, List.flatMap_cons,
        List.flatMap_append, List.append_assoc, List.cons_append]
  | single before name attributes after afterRead =>
      have read := @placeAll_tag name.val ['/'] name.plain rfl attributes before
      rw [Forest.template, placeAll_text, placeAll_append, read, Option.bind_some, afterRead]
      simp only [Forest.tags, Forest.last, tokensOf, Tag.tokens, List.flatMap_cons,
        List.append_assoc, List.cons_append]

theorem lex_file (name : Name) (attributes : Attributes) (forest : Forest) :
    lex (render (fileTemplate name attributes forest)) =
      some ((([], .declaration name attributes) :: forest.tags).flatMap tokensOf ++
        [.text forest.last]) := by
  have declared := @placeAll_tag ('?' :: name.val) ['?']
    (plain_cons '?' rfl name.plain) rfl attributes [] []
  apply lex_render
  rw [place, fileTemplate, placeAll_append, Lexer.initial, declared, Option.bind_some,
    placeAll_forest, Option.bind_some]
  rfl

theorem parse_file (name : Name) (attributes : Attributes) (forest : Forest) :
    parse (render (fileTemplate name attributes forest)) = some forest := by
  rw [parse, lex_file, Option.bind_eq_bind, Option.bind_some, groups_tags, readTags_tags]
  exact readForest_tags forest

def Forest.elements : Forest -> List Element
  | .text _ => []
  | .element _ name attributes inside after => ⟨name, attributes, inside⟩ :: after.elements
  | .single _ name attributes after => ⟨name, attributes, .text []⟩ :: after.elements

/-- The elements of this name, in order. -/
def Forest.named (name : String) (forest : Forest) : List Element :=
  forest.elements.filter fun element => element.name.val = name.toList

def Forest.first (name : String) (forest : Forest) : Option Element :=
  (forest.named name).head?

/-- The text of a forest without elements. -/
def Forest.content : Forest -> Option Text
  | .text last => some last
  | .element _ _ _ _ _ | .single _ _ _ _ => none

def Element.value (key : String) (element : Element) : Option Text :=
  (element.attributes.find? fun pair => pair.1.val = key.toList).map Prod.snd

section Rows

variable {Item : Type} {make : Item -> Forest -> Forest} {element : Item -> Element}
  {name : String} {read : Element -> Option Item}

/-- A row of elements of one name, in front of a forest without elements. -/
theorem named_row (each : forall item after,
      (make item after).elements = element item :: after.elements)
    (called : forall item, (element item).name.val = name.toList)
    (items : List Item) {tail : Forest} (ends : tail.elements = []) :
    (items.foldr make tail).named name = items.map element := by
  rw [Forest.named]
  induction items with
  | nil =>
      rw [List.foldr_nil, ends]
      rfl
  | cons item items ih =>
      have selected : decide ((element item).name.val = name.toList) = true :=
        decide_eq_true (called item)
      rw [List.foldr_cons, each, List.filter_cons, selected, if_pos rfl, ih]
      rfl

theorem mapM_elements (back : forall item, read (element item) = some item)
    (items : List Item) : (items.map element).mapM read = some items := by
  induction items with
  | nil => rfl
  | cons item items ih =>
      rw [List.map_cons, List.mapM_cons, back, ih]
      rfl

end Rows

end Elements
end XoaProxy
