import XoaProxy.Foundation.Machine

namespace XoaProxy
namespace Lifecycle

/-!
# The activity counter and its idle future

`Activity` is a watch channel with the number of active requests.  A watch
pairs its value with a version that every change increments, so a receiver can
tell that something happened even when the value is the same as before.

`Idle` is the future of `Activity::idle` between two polls.  One poll runs the
loop from the point where the future is suspended; `advance` is one piece of
it, up to the next jump, suspension or return.
-/

/-- A watch channel. -/
structure Watch where
  value : Nat
  version : Nat
deriving DecidableEq, Repr

namespace Watch

def channel (value : Nat) : Watch := ⟨value, 0⟩

def sendModify (watch : Watch) (modify : Nat -> Nat) : Watch :=
  ⟨modify watch.value, watch.version + 1⟩

/-- The value, and the version that is seen from now on. -/
def borrowAndUpdate (watch : Watch) : Nat × Nat :=
  (watch.value, watch.version)

/-- A receiver is told about a change when it has not seen the version. -/
def changed (watch : Watch) (seen : Nat) : Bool :=
  decide (watch.version ≠ seen)

end Watch

abbrev Activity := Watch

namespace Activity

def initial : Activity := Watch.channel 0

def enter (activity : Activity) : Activity :=
  activity.sendModify fun active => active + 1

/-- The end of an `ActiveRequest`. -/
def dropActiveRequest (activity : Activity) : Activity :=
  activity.sendModify fun active => active - 1

end Activity

/-- The future of `idle`: not yet polled, suspended in the `select` of a
window, suspended while requests are active, or completed. -/
inductive Idle where
  | unpolled
  | selecting (seen deadline : Nat)
  | changing (seen : Nat)
  | returned
deriving DecidableEq, Repr

/-- A point of the loop from which a poll goes on. -/
inductive Point where
  | head
  | select (seen deadline : Nat)
  | changed (seen : Nat)
deriving DecidableEq, Repr

/-- What a piece of the loop leads to. -/
inductive Progress where
  | goto (point : Point)
  | suspend (idle : Idle)
  | ready

/-- One piece of the loop.  The `select` is biased: a change is looked for
before the deadline. -/
def Point.advance (timeout now : Nat) (activity : Activity) : Point -> Progress
  | .head =>
      let (active, seen) := activity.borrowAndUpdate
      if active = 0 then .goto (.select seen (now + timeout)) else .goto (.changed seen)
  | .select seen deadline =>
      if activity.changed seen then .goto .head
      else if deadline ≤ now then .ready
      else .suspend (.selecting seen deadline)
  | .changed seen =>
      if activity.changed seen then .goto .head else .suspend (.changing seen)

/-- A poll from a point on, with the number of times it returns to the head of
the loop.  It has no result when the fuel does not suffice. -/
def runPoll (timeout now : Nat) (activity : Activity) : Nat -> Point -> Option (Idle × Nat)
  | 0, _ => none
  | fuel + 1, point =>
      match point.advance timeout now activity with
      | .ready => some (.returned, 0)
      | .suspend idle => some (idle, 0)
      | .goto .head =>
          (runPoll timeout now activity fuel .head).map fun later => (later.1, later.2 + 1)
      | .goto next => runPoll timeout now activity fuel next

/-- Where a poll continues.  A completed future is not polled again. -/
def Idle.point : Idle -> Option Point
  | .unpolled => some .head
  | .selecting seen deadline => some (.select seen deadline)
  | .changing seen => some (.changed seen)
  | .returned => none

/-- The future after a pass through the head of the loop in which nothing
changes any more. -/
def settle (timeout now : Nat) (activity : Activity) : Idle :=
  if activity.value = 0 then
    if now + timeout ≤ now then .returned else .selecting activity.version (now + timeout)
  else .changing activity.version

/-- The future after a poll. -/
def Idle.poll (timeout now : Nat) (activity : Activity) : Idle -> Idle
  | .unpolled => settle timeout now activity
  | .selecting seen deadline =>
      if activity.changed seen then settle timeout now activity
      else if deadline ≤ now then .returned
      else .selecting seen deadline
  | .changing seen =>
      if activity.changed seen then settle timeout now activity else .changing seen
  | .returned => .returned

/-- How often a poll returns to the head of the loop. -/
def Idle.reevaluations (activity : Activity) : Idle -> Nat
  | .unpolled | .returned => 0
  | .selecting seen _ | .changing seen => if activity.changed seen then 1 else 0

section Loop

variable (timeout now : Nat) (activity : Activity)

@[simp] theorem changed_version : activity.changed activity.version = false :=
  decide_eq_false (not_not_intro rfl)

theorem runPoll_head (fuel : Nat) :
    runPoll timeout now activity (fuel + 2) .head = some (settle timeout now activity, 0) := by
  by_cases quiet : activity.value = 0
  · by_cases due : now + timeout ≤ now
    · simp only [runPoll, Point.advance, Watch.borrowAndUpdate, settle, quiet, due, if_true,
        changed_version, Bool.false_eq_true, if_false]
    · simp only [runPoll, Point.advance, Watch.borrowAndUpdate, settle, quiet, due, if_true,
        changed_version, Bool.false_eq_true, if_false]
  · simp only [runPoll, Point.advance, Watch.borrowAndUpdate, settle, quiet, if_false,
      changed_version, Bool.false_eq_true]

/-- Every poll ends after at most three pieces, and `Idle.poll` is what it
leaves behind. -/
theorem runPoll_settles {idle : Idle} {point : Point} (suspended : idle.point = some point)
    {fuel : Nat} (enough : 3 ≤ fuel) :
    runPoll timeout now activity fuel point =
      some (idle.poll timeout now activity, idle.reevaluations activity) := by
  obtain ⟨fuel, rfl⟩ := Nat.exists_eq_add_of_le' enough
  cases idle with
  | unpolled =>
      cases suspended
      exact runPoll_head timeout now activity (fuel + 1)
  | returned => cases suspended
  | selecting seen deadline =>
      cases suspended
      rw [runPoll, Point.advance, Idle.poll, Idle.reevaluations]
      cases activity.changed seen with
      | true =>
          simp only [if_true, runPoll_head]
          rfl
      | false =>
          by_cases due : deadline ≤ now <;>
            simp only [due, Bool.false_eq_true, if_false, if_true]
  | changing seen =>
      cases suspended
      rw [runPoll, Point.advance, Idle.poll, Idle.reevaluations]
      cases activity.changed seen with
      | true =>
          simp only [if_true, runPoll_head]
          rfl
      | false => simp only [Bool.false_eq_true, if_false]

end Loop

/-! ## The counter and the future together -/

/-- What the counter and the future of `idle` observe. -/
inductive Event where
  | enter
  | leave
  | poll (now : Nat)
deriving DecidableEq, Repr

structure Tracker where
  activity : Activity
  idle : Idle
deriving DecidableEq, Repr

def Tracker.initial : Tracker := ⟨Activity.initial, .unpolled⟩

def Tracker.observe (timeout : Nat) (tracker : Tracker) : Event -> Tracker
  | .enter => { tracker with activity := tracker.activity.enter }
  | .leave => { tracker with activity := tracker.activity.dropActiveRequest }
  | .poll now => { tracker with idle := tracker.idle.poll timeout now tracker.activity }

/-- The tracker after a sequence of events. -/
def Tracker.after (timeout : Nat) (events : List Event) : Tracker :=
  events.foldl (Tracker.observe timeout) Tracker.initial

theorem Tracker.after_append (timeout : Nat) (events : List Event) (event : Event) :
    Tracker.after timeout (events ++ [event]) =
      (Tracker.after timeout events).observe timeout event := by
  rw [after, List.foldl_append]
  rfl

/-- The counter and the future as a machine. -/
def activityMachine (timeout : Nat) : Machine Tracker Event where
  initial := Tracker.initial
  step := fun tracker event => some (tracker.observe timeout event)

theorem activityMachine_run (timeout : Nat) (tracker : Tracker) (events : List Event) :
    (activityMachine timeout).run tracker events =
      some (events.foldl (Tracker.observe timeout) tracker) := by
  induction events generalizing tracker with
  | nil => rfl
  | cons event events ih => exact ih (tracker.observe timeout event)

/-- Every reachable tracker has a history. -/
theorem exists_history {timeout : Nat} {tracker : Tracker}
    (reachable : (activityMachine timeout).Reachable tracker) :
    Exists fun events => tracker = Tracker.after timeout events := by
  rcases reachable with ⟨events, executed⟩
  rw [activityMachine_run] at executed
  exact ⟨events, (Option.some.inj executed).symm⟩

end Lifecycle
end XoaProxy
