import XoaProxy.Foundation.Machine

namespace XoaProxy

/-!
# Programs under interference

A program is a list of commands that always succeed.  Before each of them, and
behind the last one, an environment may disturb the state any number of times.

`Triple` is partial correctness for every such interleaving.  Its rules ask for
assertions that the environment cannot invalidate, so that a program is proved
command by command.  `Promises` is the weakest assertion from which the rest of
a program leads to another one; it is kept by every step, which makes it the
invariant of a machine that carries the rest of its program in its state.
-/

universe u

/-- A command changes the state, an event may be impossible. -/
structure Interference (State Command Event : Type u) where
  perform : State -> Command -> State
  disturb : State -> Event -> Option State

namespace Interference

variable {State Command Event : Type u} (system : Interference State Command Event)

/-- The program is executed, with events in between. -/
inductive Executes : List Command -> State -> State -> Prop
  | done (state : State) : Executes [] state state
  | disturbed {program : List Command} {state next final : State} (event : Event)
      (disturbed : system.disturb state event = some next)
      (rest : Executes program next final) : Executes program state final
  | performed {program : List Command} {state final : State} (command : Command)
      (rest : Executes program (system.perform state command) final) :
      Executes (command :: program) state final

/-- The environment cannot invalidate the assertion. -/
def Stable (assertion : State -> Prop) : Prop :=
  forall state event next, assertion state -> system.disturb state event = some next ->
    assertion next

def Triple (before : State -> Prop) (program : List Command) (after : State -> Prop) : Prop :=
  forall state final, before state -> system.Executes program state final -> after final

def Promises (program : List Command) (after : State -> Prop) (state : State) : Prop :=
  forall final, system.Executes program state final -> after final

variable {system}

theorem Executes.undisturbed (program : List Command) (state : State) :
    system.Executes program state (program.foldl system.perform state) := by
  induction program generalizing state with
  | nil => exact .done state
  | cons command program ih => exact .performed command (ih _)

theorem Executes.append {first second : List Command} {state final : State}
    (executed : system.Executes (first ++ second) state final) :
    Exists fun middle => system.Executes first state middle ∧
      system.Executes second middle final := by
  generalize all : first ++ second = program at executed
  induction executed generalizing first with
  | done state =>
      rcases List.append_eq_nil_iff.mp all with ⟨rfl, rfl⟩
      exact ⟨state, .done state, .done state⟩
  | disturbed event disturbed _ ih =>
      rcases ih all with ⟨middle, before, after⟩
      exact ⟨middle, .disturbed event disturbed before, after⟩
  | @performed program state final command rest ih =>
      cases first with
      | nil =>
          cases all
          exact ⟨state, .done state, .performed command rest⟩
      | cons other first =>
          cases all
          rcases ih rfl with ⟨middle, before, after⟩
          exact ⟨middle, .performed command before, after⟩

namespace Triple

variable {before middle after : State -> Prop}

theorem nil (stable : system.Stable before) : system.Triple before [] before := by
  intro state final holds executed
  generalize none : ([] : List Command) = program at executed
  induction executed with
  | done state => exact holds
  | disturbed event disturbed _ ih => exact ih (stable _ event _ holds disturbed) none
  | performed command _ _ => cases none

theorem cons {command : Command} {program : List Command} (stable : system.Stable before)
    (step : forall state, before state -> middle (system.perform state command))
    (rest : system.Triple middle program after) :
    system.Triple before (command :: program) after := by
  intro state final holds executed
  generalize all : command :: program = whole at executed
  induction executed with
  | done state => cases all
  | disturbed event disturbed _ ih => exact ih (stable _ event _ holds disturbed) all
  | performed other executed _ =>
      cases all
      exact rest _ _ (step _ holds) executed

theorem append {first second : List Command} (front : system.Triple before first middle)
    (back : system.Triple middle second after) : system.Triple before (first ++ second) after := by
  intro state final holds executed
  rcases executed.append with ⟨between, begun, ended⟩
  exact back _ _ (front _ _ holds begun) ended

theorem promises {program : List Command} {state : State}
    (triple : system.Triple before program after) (holds : before state) :
    system.Promises program after state :=
  fun final executed => triple state final holds executed

end Triple

namespace Promises

variable {after : State -> Prop} {program : List Command} {state : State}

theorem disturbed {event : Event} {next : State} (promises : system.Promises program after state)
    (disturbed : system.disturb state event = some next) :
    system.Promises program after next :=
  fun final executed => promises final (.disturbed event disturbed executed)

theorem performed {command : Command}
    (promises : system.Promises (command :: program) after state) :
    system.Promises program after (system.perform state command) :=
  fun final executed => promises final (.performed command executed)

theorem finished (promises : system.Promises [] after state) : after state :=
  promises state (.done state)

end Promises

end Interference
end XoaProxy
