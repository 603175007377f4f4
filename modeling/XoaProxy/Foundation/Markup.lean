import XoaProxy.Foundation.LineFields
import XoaProxy.Foundation.Occurrences

namespace XoaProxy
namespace Markup

/-!
# Values rendered into markup

A template is a sequence of literal texts and of slots.  It is rendered by
escaping the values of its slots.  The lexer tells texts, tags and attribute
values apart by the four significant characters, decodes the entities of these
and refuses everything else, a stray character as well as an unknown entity.

`place` is the lexer that looks at literals only and takes every value as it
is.  A rendered template is read the way `place` reads the template, so no
value begins or ends a token, and what is left when the values are erased
depends on the literals alone.  A tag occurs in it as often as in the literals.
-/

def escapeChar (char : Char) : Text :=
  if char = '&' then "&amp;".toList
  else if char = '<' then "&lt;".toList
  else if char = '>' then "&gt;".toList
  else if char = '"' then "&quot;".toList
  else [char]

def escape (value : Text) : Text := value.flatMap escapeChar

/-- The character that an entity stands for. -/
def entityChar (name : Text) : Option Char :=
  if name = "amp".toList then some '&'
  else if name = "lt".toList then some '<'
  else if name = "gt".toList then some '>'
  else if name = "quot".toList then some '"'
  else none

inductive Mode where
  | content
  | tag
  | value
deriving DecidableEq

/-- A piece of the inside of a tag, an attribute value or a text, decoded. -/
inductive Token where
  | markup (text : Text)
  | value (text : Text)
  | text (text : Text)
deriving DecidableEq

def Mode.token : Mode -> Text -> Token
  | .content => .text
  | .tag => .markup
  | .value => .value

/-- The lexer between two characters.  It may be inside an entity. -/
structure Lexer where
  mode : Mode
  entity : Option Text
  current : Text
  tokens : List Token
deriving DecidableEq

namespace Lexer

def initial : Lexer := ⟨.content, none, [], []⟩

def push (lexer : Lexer) (value : Text) : Lexer :=
  { lexer with current := lexer.current ++ value }

/-- The current token ends. -/
def turn (lexer : Lexer) (mode : Mode) : Lexer where
  mode := mode
  entity := none
  current := []
  tokens := lexer.tokens ++ [lexer.mode.token lexer.current]

/-- The mode behind a significant character, if it may stand in this one. -/
def turned : Mode -> Char -> Option Mode
  | .content, '<' => some .tag
  | .tag, '>' => some .content
  | .tag, '"' => some .value
  | .value, '"' => some .tag
  | _, _ => none

def significant (char : Char) : Bool :=
  char = '<' || char = '>' || char = '"' || char = '&'

def step (lexer : Lexer) (char : Char) : Option Lexer :=
  match lexer.entity with
  | none =>
      if char = '&' then
        if lexer.mode = .tag then none else some { lexer with entity := some [] }
      else if significant char then (turned lexer.mode char).map lexer.turn
      else some (lexer.push [char])
  | some name =>
      if significant char then none
      else if char = ';' then
        (entityChar name).map fun decoded => { lexer.push [decoded] with entity := none }
      else some { lexer with entity := some (name ++ [char]) }

def run : Lexer -> Text -> Option Lexer
  | lexer, [] => some lexer
  | lexer, char :: text => (lexer.step char).bind fun next => next.run text

/-- All tokens, if the text ends behind a tag or in a text. -/
def finish (lexer : Lexer) : Option (List Token) :=
  if lexer.mode = .content ∧ lexer.entity = none then some (lexer.turn .content).tokens else none

theorem run_append (lexer : Lexer) (first second : Text) :
    lexer.run (first ++ second) = (lexer.run first).bind fun next => next.run second := by
  induction first generalizing lexer with
  | nil => rfl
  | cons char first ih =>
      simp only [List.cons_append, run, Option.bind_assoc, ih]

end Lexer

def lex (text : Text) : Option (List Token) :=
  (Lexer.initial.run text).bind Lexer.finish

/-- The text of an attribute value, with its entities decoded. -/
def decode (text : Text) : Option Text :=
  ((Lexer.mk .value none [] []).run text).bind fun lexer =>
    if lexer.mode = .value ∧ lexer.entity = none ∧ lexer.tokens = [] then some lexer.current
    else none

/-! ## Templates -/

inductive Fragment where
  | literal (text : Text)
  | slot (value : Text)
deriving DecidableEq

abbrev Template := List Fragment

def Fragment.render : Fragment -> Text
  | .literal text => text
  | .slot value => escape value

def render (template : Template) : Text := template.flatMap Fragment.render

theorem escape_append (first second : Text) :
    escape (first ++ second) = escape first ++ escape second :=
  List.flatMap_append

theorem render_cons (fragment : Fragment) (template : Template) :
    render (fragment :: template) = fragment.render ++ render template :=
  rfl

theorem render_append (first second : Template) :
    render (first ++ second) = render first ++ render second :=
  List.flatMap_append

namespace Lexer

/-- A literal is read, a value is taken as it is.  A slot may stand in a text
and in an attribute value. -/
def place (lexer : Lexer) : Fragment -> Option Lexer
  | .literal text => lexer.run text
  | .slot value =>
      if lexer.mode = .tag ∨ lexer.entity ≠ none then none else some (lexer.push value)

def placeAll : Lexer -> Template -> Option Lexer
  | lexer, [] => some lexer
  | lexer, fragment :: template =>
      (lexer.place fragment).bind fun next => next.placeAll template

end Lexer

/-- The tokens of a template, with its values as they are. -/
def place (template : Template) : Option (List Token) :=
  (Lexer.initial.placeAll template).bind Lexer.finish

namespace Lexer

theorem significant_iff {char : Char} :
    significant char = true ↔ char = '<' ∨ char = '>' ∨ char = '"' ∨ char = '&' := by
  simp only [significant, Bool.or_eq_true, decide_eq_true_eq, or_assoc]

theorem escapeChar_ordinary {char : Char} (ordinary : significant char = false) :
    escapeChar char = [char] := by
  simp only [significant, Bool.or_eq_false_iff, decide_eq_false_iff_not] at ordinary
  simp only [escapeChar, ordinary, if_false]

/-- An ordinary character belongs to the current token. -/
theorem step_ordinary {lexer : Lexer} (idle : lexer.entity = none) {char : Char}
    (ordinary : significant char = false) : lexer.step char = some (lexer.push [char]) := by
  have plain : char ≠ '&' := by
    rintro rfl
    cases ordinary
  rw [step, idle]
  simp only [plain, ordinary, if_false, Bool.false_eq_true]

/-- The entity of a significant character decodes to it, wherever a slot may
stand. -/
theorem run_escapeChar {lexer : Lexer} (slot : lexer.mode ≠ .tag) (idle : lexer.entity = none)
    (char : Char) : lexer.run (escapeChar char) = some (lexer.push [char]) := by
  cases special : significant char with
  | false =>
      rw [escapeChar_ordinary special, run, step_ordinary idle special]
      rfl
  | true =>
      rcases lexer with ⟨mode, entity, current, tokens⟩
      change entity = none at idle
      subst idle
      have which := significant_iff.mp special
      cases mode with
      | tag => exact absurd rfl slot
      | content => rcases which with rfl | rfl | rfl | rfl <;> rfl
      | value => rcases which with rfl | rfl | rfl | rfl <;> rfl

theorem push_nil (lexer : Lexer) : lexer.push [] = lexer := by
  rw [push, List.append_nil]

theorem push_push (lexer : Lexer) (first second : Text) :
    (lexer.push first).push second = lexer.push (first ++ second) := by
  simp only [push, List.append_assoc]

/-- An escaped value is read back as the value. -/
theorem run_escape {lexer : Lexer} (slot : lexer.mode ≠ .tag) (idle : lexer.entity = none)
    (value : Text) : lexer.run (escape value) = some (lexer.push value) := by
  induction value generalizing lexer with
  | nil =>
      rw [push_nil]
      rfl
  | cons char value ih =>
      have rest := @ih (lexer.push [char]) slot idle
      rw [escape, List.flatMap_cons, run_append, run_escapeChar slot idle, Option.bind_some]
      rw [push_push] at rest
      exact rest

theorem run_render {lexer next : Lexer} {fragment : Fragment}
    (placed : lexer.place fragment = some next) : lexer.run fragment.render = some next := by
  cases fragment with
  | literal text => exact placed
  | slot value =>
      rw [place] at placed
      split at placed
      · cases placed
      · rename_i allowed
        rw [not_or, not_not] at allowed
        rw [← placed]
        exact run_escape allowed.1 allowed.2 value

theorem run_renderAll {lexer next : Lexer} {template : Template}
    (placed : lexer.placeAll template = some next) :
    lexer.run (render template) = some next := by
  induction template generalizing lexer with
  | nil => exact placed
  | cons fragment template ih =>
      rw [placeAll, Option.bind_eq_some_iff] at placed
      rcases placed with ⟨middle, first, rest⟩
      rw [render, List.flatMap_cons, run_append, run_render first]
      exact ih rest

end Lexer

theorem decode_escape (value : Text) : decode (escape value) = some value := by
  have slot : (Lexer.mk .value none [] []).mode ≠ .tag := nofun
  rw [decode, Lexer.run_escape slot rfl, Option.bind_some, if_pos ⟨rfl, rfl, rfl⟩]
  rfl

theorem lex_render {template : Template} {tokens : List Token}
    (placed : place template = some tokens) : lex (render template) = some tokens := by
  rw [place, Option.bind_eq_some_iff] at placed
  rcases placed with ⟨lexer, read, finished⟩
  rw [lex, Lexer.run_renderAll read]
  exact finished

/-- The mode behind a character of a literal without entities. -/
def Mode.flow (mode : Mode) (char : Char) : Option Mode :=
  if char = '&' then none
  else if Lexer.significant char then Lexer.turned mode char
  else some mode

def Mode.flowText : Mode -> Text -> Option Mode
  | mode, [] => some mode
  | mode, char :: text => (mode.flow char).bind fun next => next.flowText text

def Mode.flowFragment (mode : Mode) : Fragment -> Option Mode
  | .literal text => mode.flowText text
  | .slot _ => if mode = .tag then none else some mode

/-- The mode behind a template whose slots stand where they may.  It does not
depend on their values. -/
def Mode.flowAll : Mode -> Template -> Option Mode
  | mode, [] => some mode
  | mode, fragment :: template =>
      (mode.flowFragment fragment).bind fun next => next.flowAll template

theorem Mode.flowAll_append (mode : Mode) (first second : Template) :
    mode.flowAll (first ++ second) =
      (mode.flowAll first).bind fun next => next.flowAll second := by
  induction first generalizing mode with
  | nil => rfl
  | cons fragment first ih =>
      simp only [List.cons_append, Mode.flowAll, Option.bind_assoc, ih]

/-- Blocks that begin and end in a text can be repeated. -/
theorem Mode.flowAll_flatMap {Item : Type} {block : Item -> Template}
    (closed : forall item, Mode.content.flowAll (block item) = some .content)
    (items : List Item) : Mode.content.flowAll (items.flatMap block) = some .content := by
  induction items with
  | nil => rfl
  | cons item items ih =>
      rw [List.flatMap_cons, Mode.flowAll_append, closed, Option.bind_some, ih]

namespace Lexer

/-- The lexer is in this mode and in no entity. -/
def At (lexer : Lexer) (mode : Mode) : Prop :=
  lexer.mode = mode ∧ lexer.entity = none

theorem step_of_flow {lexer : Lexer} {mode next : Mode} {char : Char} (position : lexer.At mode)
    (flows : mode.flow char = some next) :
    Exists fun after => lexer.step char = some after ∧ after.At next := by
  rcases position with ⟨rfl, idle⟩
  rw [Mode.flow] at flows
  split at flows
  · cases flows
  · rename_i plain
    split at flows
    · rename_i marked
      refine ⟨lexer.turn next, ?_, rfl, rfl⟩
      rw [step, idle]
      simp only [plain, marked, if_false, if_true, flows, Option.map_some]
    · rename_i ordinary
      cases flows
      exact ⟨lexer.push [char], step_ordinary idle (Bool.not_eq_true _ ▸ ordinary), rfl, idle⟩

theorem run_of_flow {lexer : Lexer} {mode next : Mode} {text : Text} (position : lexer.At mode)
    (flows : mode.flowText text = some next) :
    Exists fun after => lexer.run text = some after ∧ after.At next := by
  induction text generalizing lexer mode with
  | nil =>
      cases flows
      exact ⟨lexer, rfl, position⟩
  | cons char text ih =>
      rw [Mode.flowText, Option.bind_eq_some_iff] at flows
      rcases flows with ⟨between, first, rest⟩
      rcases step_of_flow position first with ⟨middle, stepped, position⟩
      rcases ih position rest with ⟨after, executed, position⟩
      refine ⟨after, ?_, position⟩
      rw [run, stepped, Option.bind_some, executed]

theorem placeAll_of_flow {lexer : Lexer} {mode next : Mode} {template : Template}
    (position : lexer.At mode) (flows : mode.flowAll template = some next) :
    Exists fun after => lexer.placeAll template = some after ∧ after.At next := by
  induction template generalizing lexer mode with
  | nil =>
      cases flows
      exact ⟨lexer, rfl, position⟩
  | cons fragment template ih =>
      rw [Mode.flowAll, Option.bind_eq_some_iff] at flows
      rcases flows with ⟨between, first, rest⟩
      have placed : Exists fun middle =>
          lexer.place fragment = some middle ∧ middle.At between := by
        cases fragment with
        | literal text => exact run_of_flow position first
        | slot value =>
            rw [Mode.flowFragment] at first
            split at first
            · cases first
            · rename_i allowed
              cases first
              refine ⟨lexer.push value, ?_, position⟩
              rw [place, if_neg]
              rintro (tag | pending)
              · exact allowed (position.1 ▸ tag)
              · exact pending position.2
      rcases placed with ⟨middle, placed, position⟩
      rcases ih position rest with ⟨after, executed, position⟩
      refine ⟨after, ?_, position⟩
      rw [placeAll, placed, Option.bind_some, executed]

end Lexer

/-- A template that flows from text to text has tokens. -/
theorem place_of_flow {template : Template}
    (flows : Mode.content.flowAll template = some .content) :
    (place template).isSome = true := by
  have position : Lexer.initial.At .content := ⟨rfl, rfl⟩
  rcases Lexer.placeAll_of_flow position flows with ⟨after, placed, content, idle⟩
  rw [place, placed, Option.bind_some, Lexer.finish, if_pos ⟨content, idle⟩]
  rfl

/-! ## Erased values -/

def Fragment.erase : Fragment -> Fragment
  | .literal text => .literal text
  | .slot _ => .slot []

/-- The literals of a template, and where its slots are. -/
def erase (template : Template) : Template := template.map Fragment.erase

/-- Tags and the names of their attributes, without values. -/
def Token.skeleton : Token -> Token
  | .markup inside => .markup inside
  | .value _ => .value []
  | .text _ => .text []

def skeleton (tokens : List Token) : List Token := tokens.map Token.skeleton

theorem erase_append (first second : Template) :
    erase (first ++ second) = erase first ++ erase second :=
  List.map_append

/-- Blocks of the same kinds differ in values only. -/
theorem erase_flatMap {Item Kind : Type} {block : Item -> Template} (kind : Item -> Kind)
    (uniform : forall first second, kind first = kind second ->
      erase (block first) = erase (block second))
    {first second : List Item} (same : first.map kind = second.map kind) :
    erase (first.flatMap block) = erase (second.flatMap block) := by
  induction first generalizing second with
  | nil =>
      rw [List.map_nil, eq_comm, List.map_eq_nil_iff] at same
      rw [same]
  | cons item items ih =>
      cases second with
      | nil => cases same
      | cons other others =>
          rcases List.cons.inj same with ⟨head, tail⟩
          rw [List.flatMap_cons, List.flatMap_cons, erase_append, erase_append,
            uniform item other head, ih tail]

/-- Blocks of one kind. -/
theorem erase_flatMap_of_length {Item : Type} {block : Item -> Template}
    (uniform : forall first second, erase (block first) = erase (block second))
    {first second : List Item} (same : first.length = second.length) :
    erase (first.flatMap block) = erase (second.flatMap block) := by
  apply erase_flatMap (fun _ => ()) fun first second _ => uniform first second
  rw [List.map_const', List.map_const', same]

namespace Lexer

/-- Both lexers differ at most in values and texts. -/
structure Alike (first second : Lexer) : Prop where
  mode : first.mode = second.mode
  entity : first.entity = second.entity
  markup : first.mode = .tag -> first.current = second.current
  tokens : skeleton first.tokens = skeleton second.tokens

/-- Both results are missing or alike. -/
def AlikeResults : Option Lexer -> Option Lexer -> Prop
  | none, none => True
  | some first, some second => Alike first second
  | _, _ => False

theorem AlikeResults.bind {first second : Option Lexer} (alike : AlikeResults first second)
    {next other : Lexer -> Option Lexer}
    (rest : forall {left right}, Alike left right -> AlikeResults (next left) (other right)) :
    AlikeResults (first.bind next) (second.bind other) := by
  cases first with
  | none =>
      cases second with
      | none => exact alike
      | some right => exact alike.elim
  | some left =>
      cases second with
      | none => exact alike.elim
      | some right => exact rest alike

variable {first second : Lexer}

theorem Alike.push (alike : Alike first second) (slot : first.mode ≠ .tag) (left right : Text) :
    Alike (first.push left) (second.push right) :=
  ⟨alike.mode, alike.entity, fun tag => absurd tag slot, alike.tokens⟩

theorem Alike.push_same (alike : Alike first second) (value : Text) :
    Alike (first.push value) (second.push value) :=
  ⟨alike.mode, alike.entity, fun tag => congrArg (· ++ value) (alike.markup tag), alike.tokens⟩

theorem Alike.turn (alike : Alike first second) (mode : Mode) :
    Alike (first.turn mode) (second.turn mode) := by
  refine ⟨rfl, rfl, fun _ => rfl, ?_⟩
  simp only [Lexer.turn, skeleton, List.map_append, List.map_cons, List.map_nil]
  refine congrArg₂ (· ++ [·]) alike.tokens ?_
  rw [← alike.mode]
  cases mode : first.mode with
  | content => rfl
  | value => rfl
  | tag => rw [alike.markup mode]

theorem Alike.step (alike : Alike first second) (char : Char) :
    AlikeResults (first.step char) (second.step char) := by
  rw [Lexer.step, Lexer.step, ← alike.entity, ← alike.mode]
  cases entity : first.entity with
  | none =>
      simp only []
      split
      · split
        · trivial
        · exact ⟨rfl, rfl, alike.markup, alike.tokens⟩
      · split
        · cases turned first.mode char with
          | none => trivial
          | some mode => exact alike.turn mode
        · exact alike.push_same [char]
  | some name =>
      simp only []
      split
      · trivial
      · split
        · cases entityChar name with
          | none => trivial
          | some decoded =>
              have pushed := alike.push_same [decoded]
              exact ⟨pushed.mode, rfl, pushed.markup, pushed.tokens⟩
        · exact ⟨rfl, rfl, alike.markup, alike.tokens⟩

theorem Alike.run (alike : Alike first second) (text : Text) :
    AlikeResults (first.run text) (second.run text) := by
  induction text generalizing first second with
  | nil => exact alike
  | cons char text ih => exact (alike.step char).bind fun next => ih next

theorem Alike.place (alike : Alike first second) {fragment other : Fragment}
    (same : fragment.erase = other.erase) :
    AlikeResults (first.place fragment) (second.place other) := by
  cases fragment with
  | literal text =>
      cases other with
      | literal other => cases same; exact alike.run text
      | slot value => cases same
  | slot value =>
      cases other with
      | literal other => cases same
      | slot other =>
          rw [Lexer.place, Lexer.place, ← alike.mode, ← alike.entity]
          split
          · trivial
          · rename_i allowed
            exact alike.push (fun tag => allowed (Or.inl tag)) value other

theorem Alike.placeAll (alike : Alike first second) {template other : Template}
    (same : erase template = erase other) :
    AlikeResults (first.placeAll template) (second.placeAll other) := by
  induction template generalizing first second other with
  | nil =>
      cases other with
      | nil => exact alike
      | cons fragment other => cases same
  | cons fragment template ih =>
      cases other with
      | nil => cases same
      | cons otherFragment other =>
          rcases List.cons.inj same with ⟨head, tail⟩
          exact (alike.place head).bind fun next => ih next tail

theorem Alike.finish (alike : Alike first second) :
    first.finish.map skeleton = second.finish.map skeleton := by
  rw [Lexer.finish, Lexer.finish, ← alike.mode, ← alike.entity]
  split
  · exact congrArg some (alike.turn .content).tokens
  · rfl

end Lexer

/-- What the erased values leave is the same for templates that differ in
values only. -/
theorem skeleton_place {template other : Template} (same : erase template = erase other) :
    (place template).map skeleton = (place other).map skeleton := by
  have start : Lexer.Alike Lexer.initial Lexer.initial := ⟨rfl, rfl, fun _ => rfl, rfl⟩
  have results := start.placeAll same
  rw [place, place]
  cases placed : Lexer.initial.placeAll template with
  | none =>
      cases also : Lexer.initial.placeAll other with
      | none => rfl
      | some right =>
          rw [placed, also] at results
          exact results.elim
  | some left =>
      cases also : Lexer.initial.placeAll other with
      | none =>
          rw [placed, also] at results
          exact results.elim
      | some right =>
          rw [placed, also] at results
          exact results.finish

theorem not_mem_escape (value : Text) : '<' ∉ escape value := by
  intro member
  rcases List.mem_flatMap.mp member with ⟨char, _, member⟩
  cases special : Lexer.significant char with
  | false =>
      rw [Lexer.escapeChar_ordinary special, List.mem_singleton] at member
      subst member
      cases special
  | true =>
      revert member
      rcases Lexer.significant_iff.mp special with rfl | rfl | rfl | rfl <;> decide

/-- The rendered template has this many occurrences of a tag, and none that
goes on behind it. -/
structure Counted (name : Text) (template : Template) (count : Nat) : Prop where
  closed : Closed ('<' :: name) (render template)
  count : occurrences ('<' :: name) (render template) = count

/-- The occurrences in the literals, if none goes on behind a literal. -/
def literalCount (name : Text) : Template -> Option Nat
  | [] => some 0
  | .literal text :: template =>
      if Closed ('<' :: name) text then
        (literalCount name template).map fun count => occurrences ('<' :: name) text + count
      else
        none
  | .slot _ :: template => literalCount name template

namespace Counted

variable {name : Text} {first second : Template} {firstCount secondCount : Nat}

theorem append (counted : Counted name first firstCount)
    (after : Counted name second secondCount) :
    Counted name (first ++ second) (firstCount + secondCount) := by
  constructor
  · rw [render_append]
    exact counted.closed.append after.closed
  · rw [render_append, occurrences_append counted.closed, counted.count, after.count]

theorem of_literals {template : Template} {count : Nat}
    (known : literalCount name template = some count) : Counted name template count := by
  induction template generalizing count with
  | nil =>
      cases known
      exact ⟨Closed.nil, rfl⟩
  | cons fragment template ih =>
      cases fragment with
      | literal text =>
          rw [literalCount] at known
          split at known
          · rename_i closed
            rw [Option.map_eq_some_iff] at known
            rcases known with ⟨later, rest, rfl⟩
            have here : Counted name [.literal text] (occurrences ('<' :: name) text) := by
              constructor
              · rw [render, List.flatMap_singleton]
                exact closed
              · rw [render, List.flatMap_singleton]
                rfl
            exact here.append (ih rest)
          · cases known
      | slot value =>
          have absent := not_mem_escape value
          have here : Counted name [.slot value] 0 := by
            constructor
            · rw [render, List.flatMap_singleton]
              exact closed_of_not_mem absent
            · rw [render, List.flatMap_singleton]
              exact occurrences_of_not_mem absent
          have all := here.append (ih known)
          rw [Nat.zero_add] at all
          exact all

/-- Blocks with one occurrence for each of their parts. -/
theorem flatMap {Item Part : Type} {block : Item -> Template} {parts : Item -> List Part}
    (each : forall item, Counted name (block item) (parts item).length) (items : List Item) :
    Counted name (items.flatMap block) (items.flatMap parts).length := by
  induction items with
  | nil => exact ⟨Closed.nil, rfl⟩
  | cons item items ih =>
      rw [List.flatMap_cons, List.flatMap_cons, List.length_append]
      exact (each item).append ih

/-- Blocks without an occurrence. -/
theorem flatMap_zero {Item : Type} {block : Item -> Template}
    (each : forall item, Counted name (block item) 0) (items : List Item) :
    Counted name (items.flatMap block) 0 := by
  induction items with
  | nil => exact ⟨Closed.nil, rfl⟩
  | cons item items ih =>
      rw [List.flatMap_cons]
      exact (each item).append ih

end Counted

end Markup
end XoaProxy
