import Mathlib.Data.List.Basic

namespace XoaProxy

/-!
# Labelled machines and their runs

A machine is a partial step function on states, driven by labels that name
both the acting party and the choice its environment makes.  Runs keep their
label list, so that a property may speak about the steps of a run and not only
about its last state.

Invariants are proved once per step and carried to every reachable state by
`Machine.invariant`.  A `Machine.Refinement` maps every step of one machine to
a run of another one; reachability, and with it every invariant, is then
transported along the map.
-/

universe u v

/-- A deterministic labelled step function with one initial state.  The label
carries every choice, so a disabled label is the only source of `none`. -/
structure Machine (State : Type u) (Label : Type v) where
  initial : State
  step : State -> Label -> Option State

namespace Machine

variable {State Other : Type u} {Label OtherLabel : Type v}

/-- Execute a list of labels, failing at the first disabled one. -/
def run (machine : Machine State Label) : State -> List Label -> Option State
  | state, [] => some state
  | state, label :: labels =>
      match machine.step state label with
      | some next => run machine next labels
      | none => none

/-- A state at the end of some run from the initial state. -/
def Reachable (machine : Machine State Label) (state : State) : Prop :=
  Exists fun labels => machine.run machine.initial labels = some state

variable (machine : Machine State Label)

@[simp] theorem run_nil (state : State) : machine.run state [] = some state := rfl

theorem run_cons_eq_some_iff {state final : State} {label : Label} {labels : List Label} :
    machine.run state (label :: labels) = some final ↔
      Exists fun next => machine.step state label = some next ∧
        machine.run next labels = some final := by
  cases stepped : machine.step state label with
  | none => simp only [run, stepped, reduceCtorEq, false_and, exists_false]
  | some next =>
      simp only [run, stepped, Option.some.injEq]
      constructor
      · intro rest
        exact ⟨next, rfl, rest⟩
      · rintro ⟨found, same, rest⟩
        exact same ▸ rest

theorem run_append_eq_some_iff {state final : State} {before after : List Label} :
    machine.run state (before ++ after) = some final ↔
      Exists fun middle => machine.run state before = some middle ∧
        machine.run middle after = some final := by
  induction before generalizing state with
  | nil => simp only [List.nil_append, run_nil, Option.some.injEq, exists_eq_left']
  | cons label labels ih =>
      simp only [List.cons_append, run_cons_eq_some_iff, ih]
      constructor
      · rintro ⟨next, stepped, middle, first, second⟩
        exact ⟨middle, ⟨next, stepped, first⟩, second⟩
      · rintro ⟨middle, ⟨next, stepped, first⟩, second⟩
        exact ⟨next, stepped, middle, first, second⟩

theorem run_singleton_eq_some_iff {state final : State} {label : Label} :
    machine.run state [label] = some final ↔ machine.step state label = some final := by
  rw [run_cons_eq_some_iff]
  simp only [run_nil, Option.some.injEq, exists_eq_right]

theorem reachable_initial : machine.Reachable machine.initial :=
  ⟨[], rfl⟩

variable {machine}

theorem Reachable.run {state final : State} {labels : List Label}
    (reachable : machine.Reachable state)
    (executed : machine.run state labels = some final) : machine.Reachable final := by
  rcases reachable with ⟨before, started⟩
  exact ⟨before ++ labels,
    (machine.run_append_eq_some_iff).mpr ⟨state, started, executed⟩⟩

theorem Reachable.step {state next : State} {label : Label}
    (reachable : machine.Reachable state)
    (stepped : machine.step state label = some next) : machine.Reachable next :=
  reachable.run ((machine.run_singleton_eq_some_iff).mpr stepped)

/-- A property preserved by every enabled step survives a whole run.  The
label is available to the step, which may depend on it. -/
theorem run_preserves (property : State -> Prop)
    (preserved : forall state label next, property state ->
      machine.step state label = some next -> property next)
    {state final : State} {labels : List Label} (start : property state)
    (executed : machine.run state labels = some final) : property final := by
  induction labels generalizing state with
  | nil =>
      cases executed
      exact start
  | cons label labels ih =>
      rcases (machine.run_cons_eq_some_iff).mp executed with ⟨next, stepped, rest⟩
      exact ih (preserved state label next start stepped) rest

/-- The invariant rule: an inductive property holds in every reachable state. -/
theorem invariant (property : State -> Prop) (start : property machine.initial)
    (preserved : forall state label next, property state ->
      machine.step state label = some next -> property next)
    {state : State} (reachable : machine.Reachable state) : property state := by
  rcases reachable with ⟨labels, executed⟩
  exact run_preserves property preserved start executed

/-- The invariant rule for a property whose preservation may use that the
state before the step is itself reachable. -/
theorem reachable_invariant (property : State -> Prop) (start : property machine.initial)
    (preserved : forall state label next, machine.Reachable state -> property state ->
      machine.step state label = some next -> property next)
    {state : State} (reachable : machine.Reachable state) : property state := by
  have both : machine.Reachable state ∧ property state := by
    apply machine.invariant (fun state => machine.Reachable state ∧ property state)
      ⟨machine.reachable_initial, start⟩ _ reachable
    intro before label next held stepped
    exact ⟨held.1.step stepped, preserved before label next held.1 held.2 stepped⟩
  exact both.2

section Observed

variable {Note : Type v} (note : State -> Label -> List Note)

/-- The notes of an observer who sees every step of a run, with the state it
starts from. -/
def observed (machine : Machine State Label) : State -> List Label -> List Note
  | _, [] => []
  | state, label :: labels =>
      match machine.step state label with
      | some next => note state label ++ observed machine next labels
      | none => []

variable {note}

/-- The notes of a run that goes on behind another one. -/
theorem observed_append {state middle : State} {before after : List Label}
    (executed : machine.run state before = some middle) :
    machine.observed note state (before ++ after) =
      machine.observed note state before ++ machine.observed note middle after := by
  induction before generalizing state with
  | nil =>
      cases executed
      rfl
  | cons label labels ih =>
      rcases (machine.run_cons_eq_some_iff).mp executed with ⟨next, stepped, rest⟩
      rw [List.cons_append]
      simp only [observed, stepped, List.append_assoc, ih rest]

/-- Every note is taken at a step of the run. -/
theorem label_of_mem_observed {state : State} {labels : List Label} {noted : Note}
    (member : noted ∈ machine.observed note state labels) :
    Exists fun before => Exists fun label => label ∈ labels ∧ noted ∈ note before label := by
  induction labels generalizing state with
  | nil => cases member
  | cons label labels ih =>
      simp only [observed] at member
      split at member
      · rcases List.mem_append.mp member with here | later
        · exact ⟨state, label, List.mem_cons_self, here⟩
        · rcases ih later with ⟨before, other, listed, taken⟩
          exact ⟨before, other, List.mem_cons_of_mem label listed, taken⟩
      · cases member

/-- Every step of a completed run is noted. -/
theorem observed_of_mem_label {state final : State} {labels : List Label} {label : Label}
    (executed : machine.run state labels = some final) (listed : label ∈ labels) :
    Exists fun before => Exists fun after => machine.step before label = some after ∧
      forall noted, noted ∈ note before label -> noted ∈ machine.observed note state labels := by
  induction labels generalizing state with
  | nil => cases listed
  | cons first labels ih =>
      rcases (machine.run_cons_eq_some_iff).mp executed with ⟨next, stepped, rest⟩
      simp only [observed, stepped]
      cases listed with
      | head => exact ⟨state, next, stepped, fun noted taken => List.mem_append_left _ taken⟩
      | tail _ later =>
          rcases ih rest later with ⟨before, after, same, kept⟩
          exact ⟨before, after, same, fun noted taken =>
            List.mem_append_right _ (kept noted taken)⟩

/-- The invariant rule for a state together with the notes so far. -/
theorem run_preserves_observed (property : State -> List Note -> Prop)
    (preserved : forall state label next notes, property state notes ->
      machine.step state label = some next -> property next (notes ++ note state label))
    {state final : State} {labels : List Label} {notes : List Note}
    (start : property state notes) (executed : machine.run state labels = some final) :
    property final (notes ++ machine.observed note state labels) := by
  induction labels generalizing state notes with
  | nil =>
      cases executed
      rw [observed, List.append_nil]
      exact start
  | cons label labels ih =>
      rcases (machine.run_cons_eq_some_iff).mp executed with ⟨next, stepped, rest⟩
      have later := ih (preserved state label next notes start stepped) rest
      simp only [observed, stepped]
      rw [← List.append_assoc]
      exact later

end Observed

/-- The rule for a machine that another one follows label by label, as long as
an invariant holds.  A label without a counterpart is not seen. -/
theorem run_simulates {abstract : Machine Other OtherLabel} (map : State -> Other)
    (seen : Label -> Option OtherLabel) (property : State -> Prop)
    (simulate : forall state label next, property state ->
      machine.step state label = some next ->
        property next ∧ abstract.run (map state) (seen label).toList = some (map next))
    {state final : State} {labels : List Label} (start : property state)
    (executed : machine.run state labels = some final) :
    property final ∧ abstract.run (map state) (labels.filterMap seen) = some (map final) := by
  induction labels generalizing state with
  | nil =>
      cases executed
      exact ⟨start, rfl⟩
  | cons label labels ih =>
      rcases (machine.run_cons_eq_some_iff).mp executed with ⟨next, stepped, rest⟩
      rcases simulate state label next start stepped with ⟨held, first⟩
      rcases ih held rest with ⟨last, later⟩
      have split : (label :: labels).filterMap seen =
          (seen label).toList ++ labels.filterMap seen := by
        cases counterpart : seen label with
        | none => exact List.filterMap_cons_none counterpart
        | some other => exact List.filterMap_cons_some counterpart
      rw [split]
      exact ⟨last, (abstract.run_append_eq_some_iff).mpr ⟨map next, first, later⟩⟩

/-- A run of allowed steps only leads from one state to the other. -/
def Leads (machine : Machine State Label) (allowed : Label -> Prop) (before after : State) :
    Prop :=
  Exists fun labels => machine.run before labels = some after ∧
    forall label, label ∈ labels -> allowed label

section Leads

variable {allowed : Label -> Prop} {before middle after : State}

theorem Leads.single {label : Label} (stepped : machine.step before label = some after)
    (member : allowed label) : machine.Leads allowed before after := by
  refine ⟨[label], (machine.run_singleton_eq_some_iff).mpr stepped, ?_⟩
  intro other listed
  rw [List.mem_singleton.mp listed]
  exact member

theorem Leads.trans (first : machine.Leads allowed before middle)
    (second : machine.Leads allowed middle after) : machine.Leads allowed before after := by
  rcases first with ⟨labels, executed, all⟩
  rcases second with ⟨later, went, also⟩
  refine ⟨labels ++ later, (machine.run_append_eq_some_iff).mpr ⟨middle, executed, went⟩, ?_⟩
  intro label listed
  rcases List.mem_append.mp listed with old | new
  · exact all label old
  · exact also label new

end Leads

/-- Every step of the concrete machine is a run of the abstract one, after
its state has been mapped.  An invisible step maps to the empty run. -/
structure Refinement (concrete : Machine State Label) (abstract : Machine Other OtherLabel) where
  map : State -> Other
  initial_map : map concrete.initial = abstract.initial
  simulate : forall state label next, concrete.step state label = some next ->
    Exists fun labels => abstract.run (map state) labels = some (map next)

theorem Refinement.reachable {concrete : Machine State Label}
    {abstract : Machine Other OtherLabel} (refinement : Refinement concrete abstract)
    {state : State} (reachable : concrete.Reachable state) :
    abstract.Reachable (refinement.map state) := by
  apply concrete.invariant (fun state => abstract.Reachable (refinement.map state))
    _ _ reachable
  · rw [refinement.initial_map]
    exact abstract.reachable_initial
  · intro before label next held stepped
    rcases refinement.simulate before label next stepped with ⟨labels, executed⟩
    exact held.run executed

end Machine
end XoaProxy
