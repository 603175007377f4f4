import Mathlib.Data.List.Basic

namespace XoaProxy

/-!
# Lines of blank-separated fields

A listing is a text of lines, each ended by a newline, with three fields on a
line that are separated by a blank.  `readListing` reads such a text the way a
shell's `read` loop does: it strips blanks around a field and leaves everything
behind the second field to the third.

Nothing is escaped, so a listing says what was printed only if its fields are
words: not empty, and without a blank or a newline in them.
-/

abbrev Text := List Char

/-- The three fields of a line. -/
structure Fields where
  first : Text
  second : Text
  third : Text
deriving DecidableEq, Repr

def blank (char : Char) : Bool := char = ' ' || char = '\t'

/-- A field that survives printing and reading. -/
structure Word (text : Text) : Prop where
  nonempty : text ≠ []
  solid : forall char, char ∈ text -> blank char = false
  single : '\n' ∉ text

instance (text : Text) : Decidable (Word text) :=
  decidable_of_iff
    (text ≠ [] ∧ (text.all fun char => !blank char) = true ∧ '\n' ∉ text)
    ⟨fun ⟨nonempty, solid, single⟩ => ⟨nonempty, fun char member =>
        Bool.not_inj (List.all_eq_true.mp solid char member), single⟩,
      fun word => ⟨word.nonempty, List.all_eq_true.mpr fun char member =>
        congrArg not (word.solid char member), word.single⟩⟩

namespace Fields

def line (fields : Fields) : Text :=
  fields.first ++ ' ' :: fields.second ++ ' ' :: fields.third

structure Words (fields : Fields) : Prop where
  first : Word fields.first
  second : Word fields.second
  third : Word fields.third

instance (fields : Fields) : Decidable fields.Words :=
  decidable_of_iff (Word fields.first ∧ Word fields.second ∧ Word fields.third)
    ⟨fun ⟨first, second, third⟩ => ⟨first, second, third⟩,
      fun words => ⟨words.first, words.second, words.third⟩⟩

end Fields

def printListing (rows : List Fields) : Text :=
  rows.flatMap fun row => row.line ++ ['\n']

/-- The complete lines of a text. -/
def readLines : Text -> List Text
  | [] => []
  | char :: rest =>
      if char = '\n' then [] :: readLines rest
      else
        match readLines rest with
        | [] => []
        | first :: others => (char :: first) :: others

/-- Split a text behind its first word. -/
def nextWord (text : Text) : Text × Text :=
  let body := text.dropWhile blank
  (body.takeWhile fun char => !blank char, body.dropWhile fun char => !blank char)

/-- A text without the blanks around it. -/
def strip (text : Text) : Text :=
  ((text.dropWhile blank).reverse.dropWhile blank).reverse

def readFields (line : Text) : Fields :=
  let first := nextWord line
  let second := nextWord first.2
  ⟨first.1, second.1, strip second.2⟩

def readListing (text : Text) : List Fields :=
  (readLines text).map readFields

theorem readLines_line {line : Text} (single : '\n' ∉ line) (rest : Text) :
    readLines (line ++ '\n' :: rest) = line :: readLines rest := by
  induction line with
  | nil => rw [List.nil_append, readLines, if_pos rfl]
  | cons char line ih =>
      have other : char ≠ '\n' := fun same => single (same ▸ List.mem_cons_self)
      have later := ih fun member => single (List.mem_cons_of_mem char member)
      rw [List.cons_append, readLines, if_neg other, later]

theorem dropWhile_blank {word : Text} (solid : forall char, char ∈ word -> blank char = false)
    (rest : Text) (nonempty : word ≠ []) :
    (word ++ rest).dropWhile blank = word ++ rest := by
  cases word with
  | nil => exact absurd rfl nonempty
  | cons char word =>
      rw [List.cons_append, List.dropWhile_cons, solid char List.mem_cons_self,
        if_neg Bool.false_ne_true]

/-- The first word of a text that begins with a word and a blank. -/
theorem nextWord_word {word : Text} (isWord : Word word) (rest : Text) :
    nextWord (word ++ ' ' :: rest) = (word, ' ' :: rest) := by
  have solid : forall char, char ∈ word -> (!blank char) = true := by
    intro char member
    rw [isWord.solid char member]
    rfl
  have stop : (!blank ' ') = false := rfl
  simp only [nextWord, dropWhile_blank isWord.solid _ isWord.nonempty]
  rw [List.takeWhile_append_of_pos solid, List.dropWhile_append_of_pos solid,
    List.takeWhile_cons_of_neg (by simp [stop]), List.dropWhile_cons_of_neg (by simp [stop]),
    List.append_nil]

theorem nextWord_blank (text : Text) : nextWord (' ' :: text) = nextWord text := by
  simp only [nextWord, List.dropWhile_cons_of_pos (rfl : blank ' ' = true)]

theorem strip_word {word : Text} (isWord : Word word) : strip (' ' :: word) = word := by
  have forward := dropWhile_blank isWord.solid [] isWord.nonempty
  have backward := @dropWhile_blank word.reverse
    (fun char member => isWord.solid char (List.mem_reverse.mp member)) []
    (fun empty => isWord.nonempty (List.reverse_eq_nil_iff.mp empty))
  rw [List.append_nil] at forward backward
  rw [strip, List.dropWhile_cons_of_pos (rfl : blank ' ' = true), forward, backward,
    List.reverse_reverse]

theorem readFields_line {row : Fields} (words : row.Words) : readFields row.line = row := by
  have first := nextWord_word words.first (row.second ++ ' ' :: row.third)
  have second := nextWord_word words.second row.third
  rw [Fields.line, List.append_assoc, List.cons_append]
  simp only [readFields, first, nextWord_blank, second, strip_word words.third]

/-- Rows of words are read as they were printed. -/
theorem readListing_printListing {rows : List Fields}
    (words : forall row, row ∈ rows -> row.Words) : readListing (printListing rows) = rows := by
  induction rows with
  | nil => rfl
  | cons row rows ih =>
      have here := words row List.mem_cons_self
      have rest := ih fun other member => words other (List.mem_cons_of_mem row member)
      have single : '\n' ∉ row.line := by
        simp only [Fields.line, List.mem_append, List.mem_cons, not_or]
        exact ⟨⟨here.first.single, by decide, here.second.single⟩, by decide, here.third.single⟩
      change (readLines ((row.line ++ ['\n']) ++ printListing rows)).map readFields = _
      rw [List.append_assoc, List.singleton_append, readLines_line single, List.map_cons,
        readFields_line here]
      exact congrArg (List.cons row) rest

/-- A last field that is empty leaves only the blank in front of it. -/
theorem readFields_line_missing {row : Fields} (first : Word row.first) (second : Word row.second)
    (missing : row.third = []) : readFields row.line = row := by
  have front := nextWord_word first (row.second ++ ' ' :: row.third)
  have behind := nextWord_word second row.third
  rw [Fields.line, List.append_assoc, List.cons_append]
  simp only [readFields, front, nextWord_blank, behind]
  rw [missing]
  cases row
  exact congrArg _ missing.symm

/-- Rows that are read one by one as they were printed are read so together. -/
theorem readListing_rows {rows : List Fields}
    (kept : forall row, row ∈ rows -> readFields row.line = row ∧ '\n' ∉ row.line) :
    readListing (printListing rows) = rows := by
  induction rows with
  | nil => rfl
  | cons row rows ih =>
      rcases kept row List.mem_cons_self with ⟨same, single⟩
      have rest := ih fun other member => kept other (List.mem_cons_of_mem row member)
      change (readLines ((row.line ++ ['\n']) ++ printListing rows)).map readFields = _
      rw [List.append_assoc, List.singleton_append, readLines_line single, List.map_cons, same]
      exact congrArg (List.cons row) rest

end XoaProxy
