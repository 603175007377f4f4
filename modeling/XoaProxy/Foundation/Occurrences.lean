import Mathlib.Data.List.Infix

namespace XoaProxy

/-!
# Occurrences of a pattern

`occurrences` counts the places of a text at which a pattern begins.  The count
of a text in two parts is the sum of both counts if the pattern cannot begin in
the first part and go on in the second one.
-/

universe u

section Occurrences

variable {Symbol : Type u} (pattern : List Symbol)

/-- No occurrence can go on behind the text. -/
def Closed (text : List Symbol) : Prop :=
  forall suffix, suffix <:+ text -> suffix <+: pattern -> suffix = []

variable {pattern} {first second : List Symbol}

theorem Closed.nil : Closed pattern [] :=
  fun _ part _ => List.suffix_nil.mp part

theorem Closed.tail {head : Symbol} {tail : List Symbol} (closed : Closed pattern (head :: tail)) :
    Closed pattern tail :=
  fun suffix part => closed suffix (part.trans (List.suffix_cons head tail))

theorem Closed.append (closed : Closed pattern first) (after : Closed pattern second) :
    Closed pattern (first ++ second) := by
  rintro suffix part begun
  rcases List.suffix_or_suffix_of_suffix part (List.suffix_append first second) with
    inside | ⟨front, rfl⟩
  · exact after suffix inside begun
  · rcases part with ⟨before, same⟩
    rw [← List.append_assoc] at same
    have begins : front <+: pattern := (List.prefix_append front second).trans begun
    have empty := closed front ⟨before, List.append_cancel_right same⟩ begins
    subst empty
    exact after _ (List.suffix_refl _) begun

/-- A text without the first symbol of the pattern is closed. -/
theorem closed_of_not_mem {head : Symbol} {rest : List Symbol} (absent : head ∉ first) :
    Closed (head :: rest) first := by
  rintro suffix part ⟨after, same⟩
  cases suffix with
  | nil => rfl
  | cons begins suffix =>
      rw [List.cons_append, List.cons.injEq] at same
      exact absurd (part.subset (same.1 ▸ List.mem_cons_self)) absent

variable [DecidableEq Symbol] (pattern)

def occurrences : List Symbol -> Nat
  | [] => 0
  | head :: tail => (if pattern <+: head :: tail then 1 else 0) + occurrences tail

instance (text : List Symbol) : Decidable (Closed pattern text) :=
  decidable_of_iff ((text.tails.all fun suffix => suffix = [] || !suffix.isPrefixOf pattern) = true)
    (by
      simp only [List.all_eq_true, List.mem_tails, Bool.or_eq_true, decide_eq_true_eq,
        Bool.not_eq_true', Closed]
      constructor
      · intro all suffix part begun
        rcases all suffix part with empty | apart
        · exact empty
        · rw [List.isPrefixOf_iff_prefix.mpr begun] at apart
          cases apart
      · intro closed suffix part
        by_cases begun : suffix <+: pattern
        · exact Or.inl (closed suffix part begun)
        · exact Or.inr (Bool.eq_false_iff.mpr fun same =>
            begun (List.isPrefixOf_iff_prefix.mp same)))

variable {pattern}

theorem occurrences_append (closed : Closed pattern first) :
    occurrences pattern (first ++ second) =
      occurrences pattern first + occurrences pattern second := by
  induction first with
  | nil => exact (Nat.zero_add _).symm
  | cons head tail ih =>
      have here : pattern <+: (head :: tail) ++ second ↔ pattern <+: head :: tail := by
        constructor
        · intro begins
          rcases List.prefix_or_prefix_of_prefix begins (List.prefix_append _ second) with
            inside | beyond
          · exact inside
          · cases closed _ (List.suffix_refl _) beyond
        · exact fun begins => begins.trans (List.prefix_append _ second)
      rw [List.cons_append, occurrences, occurrences, ih closed.tail, Nat.add_assoc]
      simp only [List.cons_append] at here
      simp only [here]

theorem occurrences_of_not_mem {head : Symbol} {rest : List Symbol} (absent : head ∉ first) :
    occurrences (head :: rest) first = 0 := by
  induction first with
  | nil => rfl
  | cons symbol first ih =>
      rw [List.mem_cons, not_or] at absent
      have apart : ¬ head :: rest <+: symbol :: first := by
        intro begins
        exact absent.1 (List.cons_prefix_cons.mp begins).1
      rw [occurrences, if_neg apart, ih absent.2]

theorem occurrences_pos_iff {text : List Symbol} (nonempty : pattern ≠ []) :
    0 < occurrences pattern text ↔ pattern <:+: text := by
  induction text with
  | nil =>
      rw [occurrences, List.infix_nil]
      exact iff_of_false (Nat.lt_irrefl 0) nonempty
  | cons head tail ih =>
      rw [List.infix_cons_iff, ← ih, occurrences]
      by_cases begins : pattern <+: head :: tail
      · simp only [begins, if_true, true_or, iff_true]
        omega
      · simp only [begins, if_false, false_or, Nat.zero_add]

end Occurrences

end XoaProxy
