import XoaProxy.Lifecycle.Config
import XoaProxy.Lifecycle.IdleWindow

namespace XoaProxy
namespace Lifecycle

/-!
# Deadlines on a bounded clock

The idle future adds its timeout to the current instant whenever it opens a
window.  An instant counts seconds in a signed word of 64 bits, the timeout
seconds in an unsigned one, and a sum that does not fit panics.

`ClockIdle` is the idle future with this addition.  As long as no sum fails it
is the future of `Idle` on a clock of nanoseconds, and the law of the idle
window holds for it.  `Fits` says on the history alone that no sum fails.
-/

/-- The seconds of an instant are below this bound, and not below its negation. -/
def secondsLimit : Nat := 9223372036854775808

def nanosPerSec : Nat := 1000000000

/-- The nanoseconds from the first instant to behind the last one. -/
def clockEnd : Nat := 2 * secondsLimit * nanosPerSec

/-- `std::time::Instant` on Linux. -/
structure Instant where
  secs : Int
  nanos : Nat
  lower : -(secondsLimit : Int) ≤ secs
  upper : secs < secondsLimit
  proper : nanos < nanosPerSec
deriving DecidableEq

namespace Instant

/-- `Instant + Duration`, where a missing sum is a panic.  The seconds are
added first; a second is carried when the nanoseconds are full. -/
def add (instant : Instant) (duration : Duration) : Option Instant :=
  if fits : instant.secs + duration.secs < secondsLimit then
    if full : nanosPerSec ≤ instant.nanos + duration.nanos then
      if carried : instant.secs + duration.secs + 1 < secondsLimit then
        some ⟨instant.secs + duration.secs + 1, instant.nanos + duration.nanos - nanosPerSec,
          by have := instant.lower; omega, carried, by
            have := instant.proper
            have := duration.proper
            unfold nanosPerSec at *
            omega⟩
      else
        none
    else
      some ⟨instant.secs + duration.secs, instant.nanos + duration.nanos,
        by have := instant.lower; omega, fits, by omega⟩
  else
    none

/-- Instants are compared by their seconds first. -/
def le (first second : Instant) : Bool :=
  first.secs < second.secs || (first.secs = second.secs && first.nanos ≤ second.nanos)

/-- The nanoseconds since the first instant. -/
def ticks (instant : Instant) : Nat :=
  (instant.secs + secondsLimit).toNat * nanosPerSec + instant.nanos

end Instant

def Duration.ticks (duration : Duration) : Nat :=
  duration.secs * nanosPerSec + duration.nanos

namespace Instant

theorem le_iff (first second : Instant) :
    first.le second = true ↔ first.ticks ≤ second.ticks := by
  have lowerFirst := first.lower
  have lowerSecond := second.lower
  have properFirst := first.proper
  have properSecond := second.proper
  simp only [le, ticks, nanosPerSec, Bool.or_eq_true, Bool.and_eq_true, decide_eq_true_eq] at *
  omega

theorem le_eq (first second : Instant) :
    first.le second = decide (first.ticks ≤ second.ticks) := by
  rw [Bool.eq_iff_iff, le_iff, decide_eq_true_eq]

theorem ticks_add {instant sum : Instant} {duration : Duration}
    (added : instant.add duration = some sum) :
    sum.ticks = instant.ticks + duration.ticks := by
  have lower := instant.lower
  have unit : nanosPerSec = 1000000000 := rfl
  unfold add at added
  split at added
  · split at added
    · split at added
      · cases added
        simp only [ticks, Duration.ticks, unit]
        omega
      · cases added
    · cases added
      simp only [ticks, Duration.ticks, unit]
      omega
  · cases added

/-- Whole seconds can be added exactly if the seconds fit. -/
theorem add_fromSecs_isSome_iff (instant : Instant) {secs : Nat} (fits : secs < UInt64.size) :
    (instant.add (.fromSecs secs fits)).isSome = true ↔
      instant.secs + secs < secondsLimit := by
  have proper := instant.proper
  unfold add
  have empty : ¬ nanosPerSec ≤ instant.nanos + (Duration.fromSecs secs fits).nanos := by
    simp only [Duration.fromSecs, Nat.add_zero, Nat.not_le]
    exact proper
  split
  · rename_i small
    exact ⟨fun _ => small, fun _ => rfl⟩
  · rename_i large
    constructor
    · intro impossible
      cases impossible
    · intro small
      exact absurd small large

end Instant

/-! ## The idle future on this clock -/

/-- The future of `idle`, which may have panicked. -/
inductive ClockIdle where
  | unpolled
  | selecting (seen : Nat) (deadline : Instant)
  | changing (seen : Nat)
  | returned
  | panicked
deriving DecidableEq

inductive ClockEvent where
  | enter
  | leave
  | poll (now : Instant)
deriving DecidableEq

section Polls

variable (timeout : Duration) (now : Instant) (activity : Activity)

/-- The head of the loop, up to the suspension that follows. -/
def openWindow : ClockIdle :=
  if activity.value = 0 then
    match now.add timeout with
    | none => .panicked
    | some deadline =>
        if deadline.le now then .returned else .selecting activity.version deadline
  else .changing activity.version

/-- The future after a poll. -/
def ClockIdle.poll : ClockIdle -> ClockIdle
  | .unpolled => openWindow timeout now activity
  | .selecting seen deadline =>
      if activity.changed seen then openWindow timeout now activity
      else if deadline.le now then .returned
      else .selecting seen deadline
  | .changing seen =>
      if activity.changed seen then openWindow timeout now activity else .changing seen
  | .returned => .returned
  | .panicked => .panicked

end Polls

/-- A poll goes through the head of the loop. -/
def ClockIdle.restarts (activity : Activity) : ClockIdle -> Bool
  | .unpolled => true
  | .selecting seen _ | .changing seen => activity.changed seen
  | .returned | .panicked => false

/-- The future is over, in one way or the other. -/
def ClockIdle.ended : ClockIdle -> Bool
  | .returned | .panicked => true
  | .unpolled | .selecting _ _ | .changing _ => false

structure ClockTracker where
  activity : Activity
  idle : ClockIdle
deriving DecidableEq

namespace ClockTracker

def initial : ClockTracker := ⟨Activity.initial, .unpolled⟩

variable (timeout : Duration)

def observe (tracker : ClockTracker) : ClockEvent -> ClockTracker
  | .enter => { tracker with activity := tracker.activity.enter }
  | .leave => { tracker with activity := tracker.activity.dropActiveRequest }
  | .poll now => { tracker with idle := tracker.idle.poll timeout now tracker.activity }

def after (events : List ClockEvent) : ClockTracker :=
  events.foldl (observe timeout) initial

/-- A poll computes the sum of its instant and the timeout. -/
def Computes (tracker : ClockTracker) : Prop :=
  tracker.idle.restarts tracker.activity = true ∧ tracker.activity.value = 0

instance (tracker : ClockTracker) : Decidable tracker.Computes :=
  inferInstanceAs (Decidable (_ ∧ _))

theorem after_append (events : List ClockEvent) (event : ClockEvent) :
    after timeout (events ++ [event]) = (after timeout events).observe timeout event := by
  rw [after, List.foldl_append]
  rfl

/-- A panicked future stays panicked. -/
theorem panicked_append {events : List ClockEvent}
    (panicked : (after timeout events).idle = .panicked) (later : List ClockEvent) :
    (after timeout (events ++ later)).idle = .panicked := by
  induction later using List.reverseRecOn with
  | nil => rw [List.append_nil]; exact panicked
  | append_singleton later event ih =>
      rw [← List.append_assoc, after_append]
      cases event with
      | enter => exact ih
      | leave => exact ih
      | poll now =>
          change ClockIdle.poll _ _ _ _ = _
          rw [ih]
          rfl

end ClockTracker

def ClockEvent.plain : ClockEvent -> Event
  | .enter => .enter
  | .leave => .leave
  | .poll now => .poll now.ticks

/-- The history of a run, with every instant in nanoseconds. -/
def plainHistory (events : List ClockEvent) : List Event :=
  events.map ClockEvent.plain

/-- The future without the range of its clock; there is none for a panic. -/
def ClockIdle.plain : ClockIdle -> Option Idle
  | .unpolled => some .unpolled
  | .selecting seen deadline => some (.selecting seen deadline.ticks)
  | .changing seen => some (.changing seen)
  | .returned => some .returned
  | .panicked => none

section Plain

variable {timeout : Duration} {now : Instant} {activity : Activity}

/-- The loop opens a window as on the unbounded clock, unless it panics. -/
theorem openWindow_plain :
    (openWindow timeout now activity).plain =
      if activity.value = 0 ∧ now.add timeout = none then none
      else some (settle timeout.ticks now.ticks activity) := by
  unfold openWindow settle
  by_cases quiet : activity.value = 0
  · cases added : now.add timeout with
    | none => simp only [quiet, if_true, and_self, ClockIdle.plain]
    | some deadline =>
        have sum := Instant.ticks_add added
        by_cases due : now.ticks + timeout.ticks ≤ now.ticks <;>
          simp [quiet, Instant.le_eq, sum, due, ClockIdle.plain]
  · simp only [quiet, if_false, false_and, ClockIdle.plain]

theorem ClockIdle.poll_of_restarts {idle : ClockIdle} (again : idle.restarts activity = true) :
    idle.poll timeout now activity = openWindow timeout now activity := by
  cases idle with
  | unpolled => rfl
  | selecting seen deadline => exact if_pos again
  | changing seen => exact if_pos again
  | returned => cases again
  | panicked => cases again

theorem ClockIdle.restarts_plain {idle : ClockIdle} {plain : Idle}
    (known : idle.plain = some plain) : idle.restarts activity = plain.restarts activity := by
  cases idle with
  | panicked => cases known
  | unpolled => cases known; rfl
  | selecting seen deadline => cases known; rfl
  | changing seen => cases known; rfl
  | returned => cases known; rfl

/-- A poll that does not go through the head of the loop computes no sum. -/
theorem poll_plain_of_resting {idle : ClockIdle} {plain : Idle} (known : idle.plain = some plain)
    (resting : idle.restarts activity = false) :
    (idle.poll timeout now activity).plain =
      some (plain.poll timeout.ticks now.ticks activity) := by
  cases idle with
  | unpolled => cases resting
  | returned => cases known; rfl
  | panicked => cases known
  | changing seen =>
      cases known
      change activity.changed seen = false at resting
      rw [ClockIdle.poll, Idle.poll, resting, if_neg Bool.false_ne_true, if_neg Bool.false_ne_true]
      rfl
  | selecting seen deadline =>
      cases known
      change activity.changed seen = false at resting
      rw [ClockIdle.poll, Idle.poll, resting, if_neg Bool.false_ne_true, if_neg Bool.false_ne_true]
      by_cases due : deadline.ticks ≤ now.ticks <;>
        simp [Instant.le_eq, due, ClockIdle.plain]

/-- A poll is one of the unbounded clock, unless it computes a sum that does
not fit. -/
theorem poll_plain {idle : ClockIdle} {plain : Idle} (known : idle.plain = some plain) :
    (idle.poll timeout now activity).plain =
      if (ClockTracker.mk activity idle).Computes ∧ now.add timeout = none then none
      else some (plain.poll timeout.ticks now.ticks activity) := by
  cases again : idle.restarts activity with
  | true =>
      have plainAgain := ClockIdle.restarts_plain known ▸ again
      rw [ClockIdle.poll_of_restarts again, Idle.poll_of_restarts plainAgain, openWindow_plain]
      simp only [ClockTracker.Computes, again, true_and]
  | false =>
      have computesNone : ¬ (ClockTracker.mk activity idle).Computes := by
        rintro ⟨restarts, _⟩
        rw [again] at restarts
        cases restarts
      rw [if_neg fun overflow => computesNone overflow.1]
      exact poll_plain_of_resting known again

end Plain

/-- A poll behind `before` opens a window: none is open yet, no request is
active and no earlier poll has closed a full idle window. -/
structure Opens (timeout : Nat) (before : List Event) : Prop where
  closed : windowStart before = none
  quiet : active before = 0
  waiting : forall earlier time later, before = earlier ++ .poll time :: later ->
    ¬ Quiet timeout earlier time

/-- Every poll that opens a window does so while the clock, in seconds, is
still this far from its end. -/
def Fits (secs : Nat) (events : List ClockEvent) : Prop :=
  forall before now later, events = before ++ .poll now :: later ->
    Opens (secs * nanosPerSec) (plainHistory before) ->
      now.secs + (secs : Int) < secondsLimit

theorem opens_iff (timeout : Nat) (before : List Event) :
    Opens timeout before ↔
      windowStart before = none ∧ active before = 0 ∧
        (Tracker.after timeout before).idle ≠ .returned := by
  rw [Ne, returned_iff]
  constructor
  · intro opens
    refine ⟨opens.closed, opens.quiet, ?_⟩
    rintro ⟨earlier, time, later, split, early⟩
    exact opens.waiting earlier time later split early
  · rintro ⟨closed, quiet, waiting⟩
    exact ⟨closed, quiet, fun earlier time later split early =>
      waiting ⟨earlier, time, later, split, early⟩⟩

namespace ClockTracker

variable {timeout : Duration} {events : List ClockEvent}

/-- What a tracker is on the clock of nanoseconds behind the same history. -/
structure Follows (timeout : Duration) (events : List ClockEvent) (tracker : ClockTracker) :
    Prop where
  activity : tracker.activity = (Tracker.after timeout.ticks (plainHistory events)).activity
  idle : tracker.idle.plain = some (Tracker.after timeout.ticks (plainHistory events)).idle

theorem plainHistory_append (events : List ClockEvent) (event : ClockEvent) :
    plainHistory (events ++ [event]) = plainHistory events ++ [event.plain] :=
  List.map_append

/-- The sums that the future computes are those of the polls that open a
window. -/
theorem Follows.computes_iff {tracker : ClockTracker} (follows : Follows timeout events tracker) :
    tracker.Computes ↔ Opens timeout.ticks (plainHistory events) := by
  have tracks := tracks_after timeout.ticks (plainHistory events)
  have stored := tracks.stored
  rw [← follows.activity] at stored
  rw [Computes, ClockIdle.restarts_plain follows.idle, stored.restarts_iff, follows.activity,
    tracks.value, opens_iff]
  constructor
  · rintro ⟨⟨closed, waiting⟩, quiet⟩
    exact ⟨closed, quiet, waiting⟩
  · rintro ⟨closed, quiet, waiting⟩
    exact ⟨⟨closed, waiting⟩, quiet⟩

/-- The event computes a sum that does not fit. -/
def Overflows (timeout : Duration) (tracker : ClockTracker) : ClockEvent -> Prop
  | .enter | .leave => False
  | .poll now => tracker.Computes ∧ now.add timeout = none

/-- Any other event keeps both clocks together. -/
theorem Follows.observe {tracker : ClockTracker} (follows : Follows timeout events tracker)
    {event : ClockEvent} (representable : ¬ Overflows timeout tracker event) :
    Follows timeout (events ++ [event]) (tracker.observe timeout event) := by
  rcases follows with ⟨activity, idle⟩
  constructor
  · rw [plainHistory_append, Tracker.after_append]
    cases event with
    | enter => exact congrArg Activity.enter activity
    | leave => exact congrArg Activity.dropActiveRequest activity
    | poll now => exact activity
  · rw [plainHistory_append, Tracker.after_append]
    cases event with
    | enter => exact idle
    | leave => exact idle
    | poll now =>
        change (tracker.idle.poll timeout now tracker.activity).plain = _
        rw [poll_plain idle]
        refine (if_neg representable).trans ?_
        rw [activity]
        rfl

theorem Follows.panics {tracker : ClockTracker} (follows : Follows timeout events tracker)
    {event : ClockEvent} (overflows : Overflows timeout tracker event) :
    (tracker.observe timeout event).idle = .panicked := by
  cases event with
  | enter => exact overflows.elim
  | leave => exact overflows.elim
  | poll now =>
      change tracker.idle.poll timeout now tracker.activity = _
      have failed : (tracker.idle.poll timeout now tracker.activity).plain = none :=
        (poll_plain follows.idle).trans (if_pos overflows)
      generalize tracker.idle.poll timeout now tracker.activity = idle at failed ⊢
      cases idle with
      | panicked => rfl
      | unpolled => cases failed
      | selecting seen deadline => cases failed
      | changing seen => cases failed
      | returned => cases failed

/-- A future that has not panicked is over exactly when it has returned. -/
theorem Follows.ended_iff {tracker : ClockTracker} (follows : Follows timeout events tracker) :
    tracker.idle.ended = true ↔
      (Tracker.after timeout.ticks (plainHistory events)).idle = .returned := by
  have idle := follows.idle
  generalize tracker.idle = clocked at idle ⊢
  generalize (Tracker.after timeout.ticks (plainHistory events)).idle = plain at idle ⊢
  cases clocked with
  | panicked => cases idle
  | unpolled => cases idle; decide
  | returned => cases idle; decide
  | selecting seen deadline =>
      cases idle
      simp only [ClockIdle.ended, Bool.false_eq_true, reduceCtorEq]
  | changing seen =>
      cases idle
      simp only [ClockIdle.ended, Bool.false_eq_true, reduceCtorEq]

/-- As long as it has not panicked, the future is the one of the unbounded
clock. -/
theorem follows_after (running : (after timeout events).idle ≠ .panicked) :
    Follows timeout events (after timeout events) := by
  induction events using List.reverseRecOn with
  | nil => exact ⟨rfl, rfl⟩
  | append_singleton events event ih =>
      have follows := ih fun panicked => running (panicked_append timeout panicked [event])
      rw [after_append] at running ⊢
      exact follows.observe fun overflows => running (follows.panics overflows)

end ClockTracker

/-! ## No idle setting breaks the deadlines, while the clock is far from its end -/

theorem Fits.front {secs : Nat} {events : List ClockEvent} {event : ClockEvent}
    (fits : Fits secs (events ++ [event])) : Fits secs events := by
  intro before now later split
  apply fits before now (later ++ [event])
  rw [split, List.append_assoc, List.cons_append]

section Runs

open ClockTracker

variable {secs : Nat} {events : List ClockEvent}

theorem ticks_fromSecs (small : secs < UInt64.size) :
    (Duration.fromSecs secs small).ticks = secs * nanosPerSec :=
  Nat.add_zero _

/-- A sum is missing exactly if the seconds do not fit. -/
theorem add_fromSecs_eq_none_iff (small : secs < UInt64.size) (now : Instant) :
    now.add (.fromSecs secs small) = none ↔ ¬ now.secs + (secs : Int) < secondsLimit := by
  rw [← Instant.add_fromSecs_isSome_iff now small, Bool.not_eq_true,
    Option.isSome_eq_false_iff, Option.isNone_iff_eq_none]

/-- On the clock of nanoseconds: the sum is behind the last instant. -/
theorem add_fromSecs_eq_none_iff_ticks (small : secs < UInt64.size) (now : Instant) :
    now.add (.fromSecs secs small) = none ↔ clockEnd ≤ now.ticks + secs * nanosPerSec := by
  have lower := now.lower
  have proper := now.proper
  rw [add_fromSecs_eq_none_iff, Instant.ticks]
  simp only [clockEnd, secondsLimit, nanosPerSec] at *
  omega

theorem Fits.running (fits : Fits secs events) (small : secs < UInt64.size) :
    (after (.fromSecs secs small) events).idle ≠ .panicked := by
  induction events using List.reverseRecOn with
  | nil => nofun
  | append_singleton events event ih =>
      have follows := follows_after (ih fits.front)
      rw [after_append]
      have representable : ¬ Overflows (.fromSecs secs small)
          (after (.fromSecs secs small) events) event := by
        cases event with
        | enter => exact not_false
        | leave => exact not_false
        | poll now =>
            rintro ⟨computes, missing⟩
            rw [follows.computes_iff, ticks_fromSecs] at computes
            exact (add_fromSecs_eq_none_iff small now).mp missing (fits events now [] rfl computes)
      have next := (follows.observe representable).idle
      intro panicked
      rw [panicked] at next
      cases next

end Runs

/-- The deadlines of the idle future are computed without a panic, and it ends
only behind a full quiet time. -/
structure DeadlinesHold (timeout : Duration) (events : List ClockEvent) : Prop where
  sums : forall before now later, events = before ++ .poll now :: later ->
    (ClockTracker.after timeout before).Computes -> (now.add timeout).isSome = true
  running : (ClockTracker.after timeout events).idle ≠ .panicked
  patient : forall before now later, events = before ++ .poll now :: later ->
    (ClockTracker.after timeout before).idle.ended = false ->
    (ClockTracker.after timeout (before ++ [.poll now])).idle.ended = true ->
      Quiet timeout.ticks (plainHistory before) now.ticks

section Runs

open ClockTracker

variable {timeout : Duration} {events : List ClockEvent}

theorem running_front {before later : List ClockEvent}
    (running : (after timeout (before ++ later)).idle ≠ .panicked) :
    (after timeout before).idle ≠ .panicked :=
  fun panicked => running (panicked_append timeout panicked later)

/-- A future that ends without a panic does so behind a full quiet time. -/
theorem patient_of_running {before : List ClockEvent} {now : Instant}
    (running : (after timeout (before ++ [.poll now])).idle ≠ .panicked)
    (waiting : (after timeout before).idle.ended = false)
    (ended : (after timeout (before ++ [.poll now])).idle.ended = true) :
    Quiet timeout.ticks (plainHistory before) now.ticks := by
  have earlier := follows_after (running_front running)
  have later := follows_after running
  have pending : (Tracker.after timeout.ticks (plainHistory before)).idle ≠ .returned := by
    rw [Ne, ← earlier.ended_iff, waiting]
    exact Bool.false_ne_true
  have returned := later.ended_iff.mp ended
  rw [plainHistory_append] at returned
  exact (poll_returned_iff pending now.ticks).mp returned

/-- The idle future of a configuration meets its deadlines in a run exactly if
every poll of it that opens a window comes before the clock is too close to its
end. -/
theorem deadlinesHold_iff_fits (environment : Environment) (events : List ClockEvent) :
    DeadlinesHold (Config.load environment).idleTimeout events ↔
      Fits (idleSeconds environment.idleSeconds) events := by
  have small := (idleSeconds_spec environment.idleSeconds).2
  constructor
  · intro holds before now later split opens
    have running := holds.running
    rw [split] at running
    have follows := follows_after (running_front running)
    rw [← ticks_fromSecs small] at opens
    have sum := holds.sums before now later split (follows.computes_iff.mpr opens)
    exact (Instant.add_fromSecs_isSome_iff now small).mp sum
  · intro fits
    have running := fits.running small
    have front {before later : List ClockEvent} {now : Instant}
        (split : events = before ++ .poll now :: later) :
        (after (Config.load environment).idleTimeout (before ++ [.poll now])).idle ≠ .panicked := by
      rw [split, ← List.singleton_append, ← List.append_assoc] at running
      exact running_front running
    constructor
    · intro before now later split computes
      have follows := follows_after (running_front (front split))
      have opens := follows.computes_iff.mp computes
      rw [Config.load, ticks_fromSecs] at opens
      exact (Instant.add_fromSecs_isSome_iff now small).mpr (fits before now later split opens)
    · exact running
    · intro before now later split waiting ended
      exact patient_of_running (front split) waiting ended

end Runs

/-- The last setting that the configuration accepts. -/
def longestIdle : Environment where
  port := none
  bind := none
  idleSeconds := some (encode "18446744073709551615".toList)
  listenPid := none
  listenFds := none

def clockStart : Instant := ⟨0, 0, by decide, by decide, by decide⟩

theorem idleSeconds_longestIdle :
    idleSeconds longestIdle.idleSeconds = 18446744073709551615 := by
  have read : envVar longestIdle.idleSeconds = some "18446744073709551615".toList :=
    envVar_eq_some_iff.mpr rfl
  rw [idleSeconds, read]
  rfl

/-- With the longest idle timeout the future ends in a panic at its first poll,
also in the first second of the clock. -/
theorem longestIdle_panics :
    ¬ DeadlinesHold (Config.load longestIdle).idleTimeout [.poll clockStart] := by
  intro holds
  apply holds.running
  have missing : clockStart.add (Config.load longestIdle).idleTimeout = none := by
    rw [Config.load, add_fromSecs_eq_none_iff, idleSeconds_longestIdle]
    decide
  have follows : ClockTracker.Follows (Config.load longestIdle).idleTimeout []
      ClockTracker.initial := ⟨rfl, rfl⟩
  have computes : ClockTracker.initial.Computes := ⟨rfl, rfl⟩
  have overflows : ClockTracker.Overflows (Config.load longestIdle).idleTimeout
      ClockTracker.initial (.poll clockStart) := ⟨computes, missing⟩
  exact follows.panics overflows

end Lifecycle
end XoaProxy
