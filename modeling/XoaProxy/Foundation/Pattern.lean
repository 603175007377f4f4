import Mathlib.Data.List.Basic

namespace XoaProxy
namespace Pattern

/-!
# Greedy patterns with backtracking

A pattern is a sequence of single symbols and of captured runs.  `captures`
lists the ways in which it matches at the front of a text, in the order in
which a greedy matcher with backtracking finds them; the first one is the
match.

`Fits` is what a match means.  Where the end of the text is the only end that
matters and the runs are kept apart by their separators, the match is the only
way to take the text apart, so nothing depends on the order.
-/

universe u

variable {Symbol : Type u}

/-- One symbol, or a captured run of at least one. -/
inductive Piece (Symbol : Type u) where
  | symbol (symbol : Symbol)
  | run (accepts : Symbol -> Bool)

/-- The runs at the front of a text with what they leave, the longest first. -/
def runs (accepts : Symbol -> Bool) : List Symbol -> List (List Symbol × List Symbol)
  | [] => []
  | head :: tail =>
      if accepts head then
        (runs accepts tail).map (fun split => (head :: split.1, split.2)) ++ [([head], tail)]
      else
        []

section Captures

variable [DecidableEq Symbol] (ends : List Symbol -> Bool)

/-- The captured runs of every match.  A match may leave what `ends` accepts. -/
def captures : List (Piece Symbol) -> List Symbol -> List (List (List Symbol))
  | [], text => if ends text then [[]] else []
  | .symbol _ :: _, [] => []
  | .symbol symbol :: pieces, head :: tail =>
      if head = symbol then captures pieces tail else []
  | .run accepts :: pieces, text =>
      (runs accepts text).flatMap fun split =>
        (captures pieces split.2).map fun later => split.1 :: later

/-- The runs that the match captures. -/
def capture (pieces : List (Piece Symbol)) (text : List Symbol) : Option (List (List Symbol)) :=
  (captures ends pieces text).head?

end Captures

/-- The pattern matches at the front of the text with these runs. -/
inductive Fits (ends : List Symbol -> Bool) :
    List (Piece Symbol) -> List Symbol -> List (List Symbol) -> Prop
  | done {text : List Symbol} (ended : ends text = true) : Fits ends [] text []
  | symbol {pieces : List (Piece Symbol)} {text : List Symbol} {found : List (List Symbol)}
      (symbol : Symbol) (rest : Fits ends pieces text found) :
      Fits ends (.symbol symbol :: pieces) (symbol :: text) found
  | run {pieces : List (Piece Symbol)} {text taken : List Symbol} {found : List (List Symbol)}
      {accepts : Symbol -> Bool} (nonempty : taken ≠ [])
      (accepted : forall symbol, symbol ∈ taken -> accepts symbol = true)
      (rest : Fits ends pieces text found) :
      Fits ends (.run accepts :: pieces) (taken ++ text) (taken :: found)

theorem mem_runs_iff {accepts : Symbol -> Bool} {text taken rest : List Symbol} :
    (taken, rest) ∈ runs accepts text ↔
      text = taken ++ rest ∧ taken ≠ [] ∧
        forall symbol, symbol ∈ taken -> accepts symbol = true := by
  induction text generalizing taken with
  | nil =>
      simp only [runs, List.not_mem_nil, List.nil_eq_append_iff, false_iff]
      rintro ⟨⟨empty, _⟩, nonempty, _⟩
      exact nonempty empty
  | cons head tail ih =>
      cases taken with
      | nil =>
          rw [runs]
          split
          · simp
          · simp
      | cons first taken =>
          rw [runs]
          cases accepted : accepts head with
          | false =>
              simp only [Bool.false_eq_true, if_false, List.not_mem_nil, List.cons_append,
                List.cons.injEq, false_iff]
              rintro ⟨⟨rfl, _⟩, _, all⟩
              have impossible := all head List.mem_cons_self
              rw [accepted] at impossible
              cases impossible
          | true =>
              simp only [if_true, List.mem_append, List.mem_map, Prod.mk.injEq, List.mem_singleton,
                List.cons.injEq, Prod.exists, List.cons_append]
              constructor
              · rintro (⟨run, left, found, ⟨rfl, rfl⟩, rfl⟩ | ⟨⟨rfl, rfl⟩, rfl⟩)
                · rcases ih.mp found with ⟨rfl, _, all⟩
                  refine ⟨⟨rfl, rfl⟩, List.cons_ne_nil _ _, ?_⟩
                  intro symbol member
                  rcases List.mem_cons.mp member with rfl | member
                  · exact accepted
                  · exact all symbol member
                · refine ⟨⟨rfl, rfl⟩, List.cons_ne_nil _ _, ?_⟩
                  intro symbol member
                  rw [List.mem_singleton.mp member]
                  exact accepted
              · rintro ⟨⟨rfl, rfl⟩, _, all⟩
                cases taken with
                | nil => exact Or.inr ⟨⟨rfl, rfl⟩, rfl⟩
                | cons second taken =>
                    refine Or.inl ⟨second :: taken, rest, ih.mpr ⟨rfl, List.cons_ne_nil _ _, ?_⟩,
                      ⟨rfl, rfl⟩, rfl⟩
                    exact fun symbol member => all symbol (List.mem_cons_of_mem _ member)

/-- The first run takes the whole text if it can. -/
theorem runs_head {accepts : Symbol -> Bool} {text : List Symbol} (nonempty : text ≠ [])
    (accepted : forall symbol, symbol ∈ text -> accepts symbol = true) :
    (runs accepts text).head? = some (text, []) := by
  induction text with
  | nil => exact absurd rfl nonempty
  | cons head tail ih =>
      rw [runs, if_pos (accepted head List.mem_cons_self)]
      cases tail with
      | nil => rfl
      | cons second tail =>
          have longest := ih (List.cons_ne_nil _ _) fun symbol member =>
            accepted symbol (List.mem_cons_of_mem _ member)
          rw [List.head?_append, List.head?_map, longest]
          rfl

section Matches

variable [DecidableEq Symbol] {ends : List Symbol -> Bool}

theorem mem_captures_iff {pieces : List (Piece Symbol)} {text : List Symbol}
    {found : List (List Symbol)} :
    found ∈ captures ends pieces text ↔ Fits ends pieces text found := by
  induction pieces generalizing text found with
  | nil =>
      rw [captures]
      constructor
      · intro member
        split at member
        · rename_i ended
          rw [List.mem_singleton.mp member]
          exact .done ended
        · cases member
      · intro fits
        cases fits with
        | done ended =>
            rw [if_pos ended]
            exact List.mem_singleton_self _
  | cons piece pieces ih =>
      cases piece with
      | symbol symbol =>
          constructor
          · intro member
            cases text with
            | nil => cases member
            | cons head tail =>
                rw [captures] at member
                split at member
                · rename_i same
                  rw [same]
                  exact .symbol symbol (ih.mp member)
                · cases member
          · intro fits
            cases fits with
            | symbol _ rest =>
                rw [captures, if_pos rfl]
                exact ih.mpr rest
      | run accepts =>
          simp only [captures, List.mem_flatMap, List.mem_map, Prod.exists]
          constructor
          · rintro ⟨taken, rest, split, later, member, rfl⟩
            rcases mem_runs_iff.mp split with ⟨rfl, nonempty, accepted⟩
            exact .run nonempty accepted (ih.mp member)
          · intro fits
            cases fits with
            | @run _ rest taken later _ nonempty accepted fits =>
                exact ⟨taken, rest, mem_runs_iff.mpr ⟨rfl, nonempty, accepted⟩, later,
                  ih.mpr fits, rfl⟩

theorem fits_of_capture {pieces : List (Piece Symbol)} {text : List Symbol}
    {found : List (List Symbol)} (captured : capture ends pieces text = some found) :
    Fits ends pieces text found :=
  mem_captures_iff.mp (List.mem_of_head? captured)

theorem capture_isSome {pieces : List (Piece Symbol)} {text : List Symbol}
    {found : List (List Symbol)} (fits : Fits ends pieces text found) :
    (capture ends pieces text).isSome = true := by
  rw [capture, List.isSome_head?]
  exact List.ne_nil_of_mem (mem_captures_iff.mpr fits)

end Matches

/-! ## Patterns that end in a run -/

/-- The pattern takes the whole text apart. -/
abbrev Splits (pieces : List (Piece Symbol)) (text : List Symbol) (found : List (List Symbol)) :
    Prop :=
  Fits List.isEmpty pieces text found

theorem Fits.mono {ends others : List Symbol -> Bool} {pieces : List (Piece Symbol)}
    {text : List Symbol} {found : List (List Symbol)} (fits : Fits ends pieces text found)
    (wider : forall rest, ends rest = true -> others rest = true) :
    Fits others pieces text found := by
  induction fits with
  | done ended => exact .done (wider _ ended)
  | symbol symbol _ ih => exact .symbol symbol ih
  | run nonempty accepted _ ih => exact .run nonempty accepted ih

section Ends

variable [DecidableEq Symbol] {ends : List Symbol -> Bool} {accepts : Symbol -> Bool}

/-- A last run that accepts whatever the end may leave behind takes it. -/
theorem capture_run (whole : forall rest, ends rest = true ->
      forall symbol, symbol ∈ rest -> accepts symbol = true) (empty : ends [] = true)
    {text : List Symbol} {found : List (List Symbol)}
    (captured : capture ends [.run accepts] text = some found) :
    Splits [.run accepts] text found := by
  have accepted : text ≠ [] ∧ forall symbol, symbol ∈ text -> accepts symbol = true := by
    cases fits_of_capture captured with
    | run nonempty accepted rest =>
        cases rest with
        | done ended =>
            refine ⟨List.append_ne_nil_of_left_ne_nil nonempty _, ?_⟩
            intro symbol member
            rcases List.mem_append.mp member with member | member
            · exact accepted symbol member
            · exact whole _ ended symbol member
  have longest := runs_head accepted.1 accepted.2
  cases split : runs accepts text with
  | nil =>
      rw [split] at longest
      cases longest
  | cons first others =>
      rw [split] at longest
      cases longest
      rw [capture, captures, split, List.flatMap_cons, captures, if_pos empty] at captured
      cases captured
      have splits : Splits [.run accepts] (text ++ []) [text] :=
        .run accepted.1 accepted.2 (.done rfl)
      rw [List.append_nil] at splits
      exact splits

/-- A pattern that ends in such a run takes the whole text apart. -/
theorem splits_of_capture (whole : forall rest, ends rest = true ->
      forall symbol, symbol ∈ rest -> accepts symbol = true) (empty : ends [] = true)
    {pieces : List (Piece Symbol)} {text : List Symbol} {found : List (List Symbol)}
    (captured : capture ends (pieces ++ [.run accepts]) text = some found) :
    Splits (pieces ++ [.run accepts]) text found := by
  induction pieces generalizing text found with
  | nil => exact capture_run whole empty captured
  | cons piece pieces ih =>
      rw [capture, List.cons_append] at captured
      cases piece with
      | symbol symbol =>
          cases text with
          | nil => cases captured
          | cons head tail =>
              rw [captures] at captured
              split at captured
              · rename_i same
                rw [same]
                exact .symbol symbol (ih captured)
              · cases captured
      | run taking =>
          rw [captures, List.head?_flatMap] at captured
          rcases List.exists_of_findSome?_eq_some captured with ⟨split, member, first⟩
          rw [List.head?_map, Option.map_eq_some_iff] at first
          rcases first with ⟨later, rest, rfl⟩
          rcases mem_runs_iff.mp member with ⟨rfl, nonempty, accepted⟩
          exact .run nonempty accepted (ih rest)

/-- If there is only one way to take the text apart, the match is this one. -/
theorem capture_eq_some_iff (whole : forall rest, ends rest = true ->
      forall symbol, symbol ∈ rest -> accepts symbol = true) (empty : ends [] = true)
    {pieces : List (Piece Symbol)} {text : List Symbol}
    (unique : forall first second, Splits (pieces ++ [.run accepts]) text first ->
      Splits (pieces ++ [.run accepts]) text second -> first = second)
    (found : List (List Symbol)) :
    capture ends (pieces ++ [.run accepts]) text = some found ↔
      Splits (pieces ++ [.run accepts]) text found := by
  constructor
  · exact splits_of_capture whole empty
  · intro splits
    have matched := capture_isSome (splits.mono fun rest ended => by
      rw [List.isEmpty_iff.mp ended]
      exact empty)
    rcases Option.isSome_iff_exists.mp matched with ⟨other, captured⟩
    rw [captured, unique other found (splits_of_capture whole empty captured) splits]

end Ends

/-- The last separator of a text takes it apart in one way. -/
theorem last_separator_unique {separator : Symbol} {first second before after : List Symbol}
    (same : first ++ separator :: before = second ++ separator :: after)
    (free : separator ∉ before) (alsoFree : separator ∉ after) :
    first = second ∧ before = after := by
  rcases List.append_eq_append_iff.mp same with ⟨middle, rfl, rest⟩ | ⟨middle, rfl, rest⟩
  · cases middle with
    | nil => exact ⟨(List.append_nil _).symm, (List.cons.inj rest).2⟩
    | cons head middle =>
        refine absurd ?_ free
        rw [(List.cons.inj rest).2]
        exact List.mem_append_right _ List.mem_cons_self
  · cases middle with
    | nil => exact ⟨List.append_nil _, (List.cons.inj rest).2.symm⟩
    | cons head middle =>
        refine absurd ?_ alsoFree
        rw [(List.cons.inj rest).2]
        exact List.mem_append_right _ List.mem_cons_self

theorem first_separator_unique {separator : Symbol} {first second before after : List Symbol}
    (same : first ++ separator :: before = second ++ separator :: after)
    (free : separator ∉ first) (alsoFree : separator ∉ second) :
    first = second ∧ before = after := by
  have backwards : before.reverse ++ separator :: first.reverse =
      after.reverse ++ separator :: second.reverse := by
    simpa using congrArg List.reverse same
  rcases last_separator_unique backwards (fun member => free (List.mem_reverse.mp member))
    (fun member => alsoFree (List.mem_reverse.mp member)) with ⟨front, back⟩
  exact ⟨List.reverse_injective back, List.reverse_injective front⟩

end Pattern
end XoaProxy
