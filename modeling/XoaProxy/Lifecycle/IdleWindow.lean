import XoaProxy.Lifecycle.Activity
import Mathlib.Data.List.Induction

namespace XoaProxy
namespace Lifecycle

/-!
# The law of the idle window

The history of a process is a list of entering and leaving requests and of
polls of the idle future, each poll with the time it happens at.  Nothing is
assumed about the times or about how many changes lie between two polls.

`Quiet` says on the history alone when a poll closes a full idle window.  The
future returns at the first quiet poll and at no other one.  The invariant
`Tracks` relates what the suspended future has stored, a version and a
deadline, to the history: a stored version that is still current means that a
window is open, and the deadline is then counted from its first poll.
-/

def Event.isPoll : Event -> Bool
  | .poll _ => true
  | .enter | .leave => false

/-- The number of active requests behind a history. -/
def active (events : List Event) : Nat :=
  events.foldl (fun count event =>
    match event with
    | .enter => count + 1
    | .leave => count - 1
    | .poll _ => count) 0

/-- The polls behind the last change of a history, if there are any.  The
first of them happens at `start`. -/
structure Window (events past : List Event) (start : Nat) (polls : List Event) : Prop where
  split : events = past ++ .poll start :: polls
  opened : past = [] ∨ Exists fun earlier => Exists fun change =>
    past = earlier ++ [change] ∧ change.isPoll = false
  still : forall event, event ∈ polls -> event.isPoll = true

/-- A poll at `now` behind a history closes a full idle window: no request is
active since its first poll, which is at least the timeout ago. -/
def Quiet (timeout : Nat) (before : List Event) (now : Nat) : Prop :=
  Exists fun past => Exists fun start => Exists fun polls =>
    Window (before ++ [.poll now]) past start polls ∧ active past = 0 ∧ start + timeout ≤ now

/-- The future has not returned behind `before` and returns at the next poll. -/
def ReturnsAt (timeout : Nat) (before : List Event) (now : Nat) : Prop :=
  (Tracker.after timeout before).idle ≠ .returned ∧
    (Tracker.after timeout (before ++ [.poll now])).idle = .returned

/-- The time of the first poll behind the last change. -/
def windowStart (events : List Event) : Option Nat :=
  events.foldl (fun start event =>
    match event with
    | .poll now => some (start.getD now)
    | .enter | .leave => none) none

theorem windowStart_poll (events : List Event) (now : Nat) :
    windowStart (events ++ [.poll now]) = some ((windowStart events).getD now) := by
  rw [windowStart, List.foldl_append]
  rfl

theorem windowStart_change (events : List Event) {change : Event}
    (changes : change.isPoll = false) : windowStart (events ++ [change]) = none := by
  rw [windowStart, List.foldl_append]
  cases change with
  | poll now => cases changes
  | enter => rfl
  | leave => rfl

/-- No window is open in the beginning and right behind a change. -/
theorem windowStart_eq_none_iff (events : List Event) :
    windowStart events = none ↔
      (events = [] ∨ Exists fun earlier => Exists fun change =>
        events = earlier ++ [change] ∧ change.isPoll = false) := by
  constructor
  · intro closed
    rcases List.eq_nil_or_concat' events with empty | ⟨earlier, last, rfl⟩
    · exact Or.inl empty
    · right
      refine ⟨earlier, last, rfl, ?_⟩
      cases last with
      | poll now =>
          rw [windowStart_poll] at closed
          cases closed
      | enter => rfl
      | leave => rfl
  · rintro (rfl | ⟨earlier, change, rfl, changes⟩)
    · rfl
    · exact windowStart_change earlier changes

theorem active_polls (past polls : List Event)
    (still : forall event, event ∈ polls -> event.isPoll = true) :
    active (past ++ polls) = active past := by
  induction polls using List.reverseRecOn with
  | nil => rw [List.append_nil]
  | append_singleton polls last ih =>
      have before := ih fun event member => still event (List.mem_append_left _ member)
      have poll := still last (List.mem_append_right _ (List.mem_singleton_self last))
      rw [← List.append_assoc, active, List.foldl_append]
      cases last with
      | poll now => exact before
      | enter => cases poll
      | leave => cases poll

theorem Window.start {events past polls : List Event} {start : Nat}
    (window : Window events past start polls) : windowStart events = some start := by
  rcases window with ⟨rfl, opened, still⟩
  induction polls using List.reverseRecOn with
  | nil =>
      rw [windowStart_poll, (windowStart_eq_none_iff past).mpr opened]
      rfl
  | append_singleton polls last ih =>
      have before := ih fun event member => still event (List.mem_append_left _ member)
      have poll := still last (List.mem_append_right _ (List.mem_singleton_self last))
      cases last with
      | poll now => rw [← List.cons_append, ← List.append_assoc, windowStart_poll, before]; rfl
      | enter => cases poll
      | leave => cases poll

theorem Window.of_start {events : List Event} {start : Nat}
    (opened : windowStart events = some start) :
    Exists fun past => Exists fun polls => Window events past start polls := by
  induction events using List.reverseRecOn with
  | nil => cases opened
  | append_singleton events last ih =>
      cases last with
      | enter => rw [windowStart_change events rfl] at opened; cases opened
      | leave => rw [windowStart_change events rfl] at opened; cases opened
      | poll now =>
          rw [windowStart_poll] at opened
          cases before : windowStart events with
          | none =>
              rw [before] at opened
              cases opened
              exact ⟨events, [], rfl, (windowStart_eq_none_iff events).mp before,
                fun _ impossible => nomatch impossible⟩
          | some earlier =>
              rw [before] at opened
              cases opened
              rcases ih before with ⟨past, polls, window⟩
              refine ⟨past, polls ++ [.poll now], ?_, window.opened, ?_⟩
              · rw [window.split, List.append_assoc, List.cons_append]
              · intro event member
                rcases List.mem_append.mp member with earlier | last
                · exact window.still event earlier
                · rw [List.mem_singleton.mp last]
                  rfl

/-- No request enters or leaves in a window. -/
theorem Window.active_front {events past polls front : List Event} {start : Nat}
    (window : Window events past start polls) (initial : front <+: .poll start :: polls) :
    active (past ++ front) = active past := by
  apply active_polls
  intro event member
  cases initial.subset member with
  | head => rfl
  | tail _ member => exact window.still event member

theorem active_poll (events : List Event) (now : Nat) :
    active (events ++ [.poll now]) = active events :=
  active_polls events [.poll now] fun _ member => List.mem_singleton.mp member ▸ rfl

theorem Window.active_eq {before past polls : List Event} {start now : Nat}
    (window : Window (before ++ [.poll now]) past start polls) : active before = active past := by
  rw [← active_poll before now, window.split]
  exact window.active_front List.prefix_rfl

/-- A quiet poll, by the start of the window that it extends or opens. -/
theorem quiet_iff (timeout : Nat) (before : List Event) (now : Nat) :
    Quiet timeout before now ↔
      active before = 0 ∧ (windowStart before).getD now + timeout ≤ now := by
  constructor
  · rintro ⟨past, start, polls, window, quiet, due⟩
    have opened := window.start
    rw [windowStart_poll, Option.some.injEq] at opened
    rw [window.active_eq, opened]
    exact ⟨quiet, due⟩
  · rintro ⟨quiet, due⟩
    rcases Window.of_start (windowStart_poll before now) with ⟨past, polls, window⟩
    exact ⟨past, _, polls, window, window.active_eq.symm.trans quiet, due⟩

/-- The number of changes that a suspended future has not seen. -/
def Idle.unseen (activity : Activity) : Idle -> Nat
  | .unpolled | .returned => 0
  | .selecting seen _ | .changing seen => activity.version - seen

/-- What the future has stored agrees with the history. -/
def Stored (timeout : Nat) (events : List Event) (activity : Activity) : Idle -> Prop
  | .unpolled => windowStart events = none
  | .selecting seen deadline =>
      seen ≤ activity.version ∧
        if activity.changed seen then windowStart events = none
        else active events = 0 ∧ Exists fun start =>
          windowStart events = some start ∧ deadline = start + timeout
  | .changing seen =>
      seen ≤ activity.version ∧
        if activity.changed seen then windowStart events = none
        else active events ≠ 0 ∧ (windowStart events).isSome = true
  | .returned => True

/-- The next poll goes through the head of the loop. -/
def Idle.restarts (activity : Activity) : Idle -> Bool
  | .unpolled => true
  | .selecting seen _ | .changing seen => activity.changed seen
  | .returned => false

theorem Idle.poll_of_restarts {timeout now : Nat} {activity : Activity} {idle : Idle}
    (again : idle.restarts activity = true) :
    idle.poll timeout now activity = settle timeout now activity := by
  cases idle with
  | unpolled => rfl
  | selecting seen deadline => exact if_pos again
  | changing seen => exact if_pos again
  | returned => cases again

/-- The loop begins again where no window is open. -/
theorem Stored.restarts_iff {timeout : Nat} {events : List Event} {activity : Activity}
    {idle : Idle} (stored : Stored timeout events activity idle) :
    idle.restarts activity = true ↔ windowStart events = none ∧ idle ≠ .returned := by
  cases idle with
  | unpolled => exact iff_of_true rfl ⟨stored, nofun⟩
  | returned => exact iff_of_false Bool.false_ne_true fun running => running.2 rfl
  | selecting seen deadline =>
      rcases stored with ⟨_, stored⟩
      cases news : activity.changed seen with
      | true =>
          rw [news, if_pos rfl] at stored
          exact iff_of_true news ⟨stored, nofun⟩
      | false =>
          rw [news, if_neg Bool.false_ne_true] at stored
          rcases stored with ⟨_, start, opened, _⟩
          simp [Idle.restarts, news, opened]
  | changing seen =>
      rcases stored with ⟨_, stored⟩
      cases news : activity.changed seen with
      | true =>
          rw [news, if_pos rfl] at stored
          exact iff_of_true news ⟨stored, nofun⟩
      | false =>
          rw [news, if_neg Bool.false_ne_true] at stored
          rcases Option.isSome_iff_exists.mp stored.2 with ⟨start, opened⟩
          simp [Idle.restarts, news, opened]

structure Tracks (timeout : Nat) (events : List Event) (tracker : Tracker) : Prop where
  value : tracker.activity.value = active events
  stored : Stored timeout events tracker.activity tracker.idle

/-- A change is news to every suspended future. -/
theorem changed_of_le {seen version value : Nat} (old : seen ≤ version) :
    Watch.changed ⟨value, version + 1⟩ seen = true := by
  unfold Watch.changed
  rw [decide_eq_true_eq]
  change version + 1 ≠ seen
  omega

theorem Stored.change {timeout : Nat} {events : List Event} {activity : Activity} {idle : Idle}
    (stored : Stored timeout events activity idle) {change : Event}
    (changes : change.isPoll = false) (value : Nat) :
    Stored timeout (events ++ [change]) ⟨value, activity.version + 1⟩ idle := by
  have closed := windowStart_change events changes
  cases idle with
  | unpolled => exact closed
  | returned => trivial
  | selecting seen deadline =>
      refine ⟨Nat.le_succ_of_le stored.1, ?_⟩
      rw [changed_of_le stored.1, if_pos rfl]
      exact closed
  | changing seen =>
      refine ⟨Nat.le_succ_of_le stored.1, ?_⟩
      rw [changed_of_le stored.1, if_pos rfl]
      exact closed

/-- A pass through the head of the loop opens the window of this poll. -/
theorem Stored.settle {timeout : Nat} {events : List Event} {activity : Activity}
    (value : activity.value = active events) (closed : windowStart events = none) (now : Nat) :
    Stored timeout (events ++ [.poll now]) activity (settle timeout now activity) := by
  have opened : windowStart (events ++ [.poll now]) = some now := by
    rw [windowStart_poll, closed]
    rfl
  have same := active_poll events now
  unfold Lifecycle.settle
  split
  · split
    · trivial
    · refine ⟨Nat.le_refl _, ?_⟩
      rw [changed_version, if_neg Bool.false_ne_true]
      exact ⟨by omega, now, opened, rfl⟩
  · refine ⟨Nat.le_refl _, ?_⟩
    rw [changed_version, if_neg Bool.false_ne_true]
    exact ⟨by omega, by rw [opened]; rfl⟩

theorem Stored.poll {timeout : Nat} {events : List Event} {activity : Activity} {idle : Idle}
    (value : activity.value = active events) (stored : Stored timeout events activity idle)
    (now : Nat) :
    Stored timeout (events ++ [.poll now]) activity (idle.poll timeout now activity) := by
  have same := active_poll events now
  cases again : idle.restarts activity with
  | true =>
      rw [Idle.poll_of_restarts again]
      exact Stored.settle value (stored.restarts_iff.mp again).1 now
  | false =>
      cases idle with
      | unpolled => cases again
      | returned => trivial
      | selecting seen deadline =>
          change activity.changed seen = false at again
          rcases stored with ⟨old, stored⟩
          rw [again, if_neg Bool.false_ne_true] at stored
          rcases stored with ⟨quiet, start, opened, due⟩
          rw [Idle.poll, again, if_neg Bool.false_ne_true]
          split
          · trivial
          · refine ⟨old, ?_⟩
            rw [again, if_neg Bool.false_ne_true, windowStart_poll, opened]
            exact ⟨same.trans quiet, start, rfl, due⟩
      | changing seen =>
          change activity.changed seen = false at again
          rcases stored with ⟨old, stored⟩
          rw [again, if_neg Bool.false_ne_true] at stored
          rw [Idle.poll, again, if_neg Bool.false_ne_true]
          refine ⟨old, ?_⟩
          rw [again, if_neg Bool.false_ne_true, windowStart_poll]
          exact ⟨same ▸ stored.1, rfl⟩

theorem Tracks.observe {timeout : Nat} {events : List Event} {tracker : Tracker}
    (tracks : Tracks timeout events tracker) (event : Event) :
    Tracks timeout (events ++ [event]) (tracker.observe timeout event) := by
  cases event with
  | enter =>
      refine ⟨?_, tracks.stored.change rfl _⟩
      rw [active, List.foldl_append]
      exact congrArg (fun count => count + 1) tracks.value
  | leave =>
      refine ⟨?_, tracks.stored.change rfl _⟩
      rw [active, List.foldl_append]
      exact congrArg (fun count => count - 1) tracks.value
  | poll now =>
      refine ⟨?_, tracks.stored.poll tracks.value now⟩
      rw [active, List.foldl_append]
      exact tracks.value

theorem tracks_after (timeout : Nat) (events : List Event) :
    Tracks timeout events (Tracker.after timeout events) := by
  induction events using List.reverseRecOn with
  | nil => exact ⟨rfl, rfl⟩
  | append_singleton events event ih =>
      rw [Tracker.after_append]
      exact ih.observe event

theorem reevaluations_le {activity : Activity} {seen : Nat} (old : seen ≤ activity.version) :
    (if activity.changed seen then 1 else 0) ≤ 1 ∧
      (if activity.changed seen then 1 else 0) ≤ activity.version - seen := by
  by_cases news : activity.version = seen
  · simp [Watch.changed, news]
  · simp only [Watch.changed, decide_eq_true news, if_true]
    omega

/-! ## The future returns at the first quiet poll -/

/-- A future that has not returned does so exactly at a quiet poll. -/
theorem poll_returned_iff {timeout : Nat} {before : List Event}
    (running : (Tracker.after timeout before).idle ≠ .returned) (now : Nat) :
    (Tracker.after timeout (before ++ [.poll now])).idle = .returned ↔
      Quiet timeout before now := by
  rw [Tracker.after_append, quiet_iff]
  have tracks := tracks_after timeout before
  generalize Tracker.after timeout before = tracker at running tracks ⊢
  rcases tracker with ⟨activity, idle⟩
  rcases tracks with ⟨value, stored⟩
  change activity.value = active before at value
  change Idle.poll timeout now activity idle = .returned ↔ _
  cases again : idle.restarts activity with
  | true =>
      rw [Idle.poll_of_restarts again, (stored.restarts_iff.mp again).1, ← value, settle]
      by_cases quiet : activity.value = 0 <;> by_cases due : now + timeout ≤ now <;>
        simp [quiet, due]
  | false =>
      cases idle with
      | returned => exact absurd rfl running
      | unpolled => cases again
      | selecting seen deadline =>
          change activity.changed seen = false at again
          rcases stored with ⟨_, stored⟩
          rw [again, if_neg Bool.false_ne_true] at stored
          rcases stored with ⟨quiet, start, opened, rfl⟩
          rw [Idle.poll, again, if_neg Bool.false_ne_true, opened, Option.getD_some]
          by_cases due : start + timeout ≤ now <;> simp [quiet, due]
      | changing seen =>
          change activity.changed seen = false at again
          rcases stored with ⟨_, stored⟩
          rw [again, if_neg Bool.false_ne_true] at stored
          rw [Idle.poll, again, if_neg Bool.false_ne_true]
          simp [stored.1]

/-- A completed future stays completed. -/
theorem returned_append {timeout : Nat} {events : List Event}
    (returned : (Tracker.after timeout events).idle = .returned) (later : List Event) :
    (Tracker.after timeout (events ++ later)).idle = .returned := by
  induction later using List.reverseRecOn with
  | nil => rw [List.append_nil]; exact returned
  | append_singleton later event ih =>
      rw [← List.append_assoc, Tracker.after_append]
      cases event with
      | enter => exact ih
      | leave => exact ih
      | poll now =>
          change Idle.poll _ _ _ _ = _
          rw [ih]
          rfl

/-- The future has returned behind a history exactly if a quiet poll is in it. -/
theorem returned_iff (timeout : Nat) (events : List Event) :
    (Tracker.after timeout events).idle = .returned ↔
      Exists fun earlier => Exists fun time => Exists fun later =>
        events = earlier ++ .poll time :: later ∧ Quiet timeout earlier time := by
  induction events using List.reverseRecOn with
  | nil =>
      constructor
      · intro impossible
        cases impossible
      · rintro ⟨earlier, time, later, impossible, _⟩
        cases earlier <;> cases impossible
  | append_singleton events event ih =>
      constructor
      · intro returned
        by_cases before : (Tracker.after timeout events).idle = .returned
        · rcases ih.mp before with ⟨earlier, time, later, rfl, quiet⟩
          exact ⟨earlier, time, later ++ [event], by simp only [List.append_assoc,
            List.cons_append], quiet⟩
        · cases event with
          | poll now => exact ⟨events, now, [], rfl, (poll_returned_iff before now).mp returned⟩
          | enter => rw [Tracker.after_append] at returned; exact absurd returned before
          | leave => rw [Tracker.after_append] at returned; exact absurd returned before
      · rintro ⟨earlier, time, later, split, quiet⟩
        rw [split, ← List.singleton_append, ← List.append_assoc]
        apply returned_append
        by_cases before : (Tracker.after timeout earlier).idle = .returned
        · exact returned_append before [.poll time]
        · exact (poll_returned_iff before time).mpr quiet

/-- The polls of the loop behind a history, from any suspended future: three
pieces of fuel suffice, and the head of the loop is not entered again more
often than there are unseen changes. -/
def PollsTerminate (timeout : Nat) (tracker : Tracker) : Prop :=
  forall now point, tracker.idle.point = some point -> forall fuel, 3 ≤ fuel ->
    Exists fun reevaluations =>
      runPoll timeout now tracker.activity fuel point =
          some (tracker.idle.poll timeout now tracker.activity, reevaluations) ∧
        reevaluations ≤ 1 ∧ reevaluations ≤ tracker.idle.unseen tracker.activity

theorem Tracks.pollsTerminate {timeout : Nat} {events : List Event} {tracker : Tracker}
    (tracks : Tracks timeout events tracker) : PollsTerminate timeout tracker := by
  intro now point suspended fuel enough
  refine ⟨_, runPoll_settles timeout now tracker.activity suspended enough, ?_⟩
  have stored := tracks.stored
  cases idle : tracker.idle with
  | unpolled => exact ⟨Nat.zero_le _, Nat.zero_le _⟩
  | returned => exact ⟨Nat.zero_le _, Nat.zero_le _⟩
  | selecting seen deadline =>
      rw [idle] at stored
      exact reevaluations_le stored.1
  | changing seen =>
      rw [idle] at stored
      exact reevaluations_le stored.1

/-- The idle future returns at a poll exactly when this is the first quiet
poll.  The counter is zero then and throughout the window, and every poll on
the way terminates. -/
theorem idle_returns_at_first_quiet_poll (timeout : Nat) (positive : 0 < timeout)
    (before : List Event) (now : Nat) :
    (ReturnsAt timeout before now ↔
      Quiet timeout before now ∧
        forall earlier time later, before = earlier ++ .poll time :: later ->
          ¬ Quiet timeout earlier time) ∧
    (ReturnsAt timeout before now ->
      (Tracker.after timeout before).activity.value = 0 ∧
        Exists fun past => Exists fun start => Exists fun polls =>
          Window (before ++ [.poll now]) past start polls ∧ start < now ∧
            forall front, front <+: .poll start :: polls -> active (past ++ front) = 0) ∧
    PollsTerminate timeout (Tracker.after timeout before) := by
  have law : ReturnsAt timeout before now ↔
      Quiet timeout before now ∧
        forall earlier time later, before = earlier ++ .poll time :: later ->
          ¬ Quiet timeout earlier time := by
    constructor
    · rintro ⟨running, returned⟩
      refine ⟨(poll_returned_iff running now).mp returned, ?_⟩
      intro earlier time later split quiet
      exact running ((returned_iff timeout before).mpr ⟨earlier, time, later, split, quiet⟩)
    · rintro ⟨quiet, first⟩
      have running : (Tracker.after timeout before).idle ≠ .returned := by
        intro returned
        rcases (returned_iff timeout before).mp returned with ⟨earlier, time, later, split, early⟩
        exact first earlier time later split early
      exact ⟨running, (poll_returned_iff running now).mpr quiet⟩
  refine ⟨law, ?_, (tracks_after timeout before).pollsTerminate⟩
  intro returns
  rcases (law.mp returns).1 with ⟨past, start, polls, window, quiet, due⟩
  refine ⟨?_, past, start, polls, window, by omega, ?_⟩
  · rw [(tracks_after timeout before).value, window.active_eq, quiet]
  · intro front initial
    rw [window.active_front initial, quiet]

/-- A history in which a request enters and leaves between two polls: the
window starts again, and only the poll at 20 closes it. -/
theorem idle_returns_behind_short_request :
    let before : List Event := [.poll 0, .poll 9, .enter, .leave, .poll 10, .poll 19]
    (ReturnsAt 10 before 20 ↔
      Quiet 10 before 20 ∧
        forall earlier time later, before = earlier ++ .poll time :: later ->
          ¬ Quiet 10 earlier time) ∧
    (ReturnsAt 10 before 20 ->
      (Tracker.after 10 before).activity.value = 0 ∧
        Exists fun past => Exists fun start => Exists fun polls =>
          Window (before ++ [.poll 20]) past start polls ∧ start < 20 ∧
            forall front, front <+: .poll start :: polls -> active (past ++ front) = 0) ∧
    PollsTerminate 10 (Tracker.after 10 before) :=
  idle_returns_at_first_quiet_poll 10 (by decide) _ 20

example : ReturnsAt 10 [.poll 0, .poll 9, .enter, .leave, .poll 10, .poll 19] 20 := by
  unfold ReturnsAt
  decide

end Lifecycle
end XoaProxy
