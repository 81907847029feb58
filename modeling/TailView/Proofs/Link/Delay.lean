import Mathlib.Algebra.Ring.Nat
import Mathlib.Data.List.DropRight
import Mathlib.Data.List.Induction
import TailView.Link.Connection

/-!
# How long to wait before the next attempt

A connection that is closed again and again waits longer each time: the delay doubles from closing
to closing, up to a ceiling, and starts anew when the connection opens.  The count of failures has
32 bits, the factor has 32 bits, and a time has a longest value, but none of that shows: the delay
is the one of exact arithmetic after every history of the connection.
-/

namespace TailView
namespace Connection

/-! ## Histories of a connection -/

/-- What happens to a connection. -/
inductive Event
  /-- An attempt to connect starts. -/
  | dials
  /-- The attempt succeeds. -/
  | opens
  /-- The connection is closed or the attempt fails. -/
  | closes
  /-- It is time to keep the connection alive. -/
  | beats
  /-- A command becomes the current one. -/
  | asks (command : Command)
  /-- The current command is forgotten. -/
  | ends
deriving DecidableEq

/-- The connection after an event. -/
def perform (connection : Connection) : Event → Connection
  | .dials => connection.dial
  | .opens => connection.opened
  | .closes => connection.closed
  | .beats => connection
  | .asks command => (connection.issue command).1
  | .ends => connection.stop.1

/-- The connection after a history. -/
def run (connection : Connection) (events : List Event) : Connection :=
  events.foldl perform connection

/-- How often a connection was closed since it was last open, or since the start. -/
def closings (events : List Event) : Nat :=
  (events.rtakeWhile fun event => event ≠ .opens).count .closes

variable {connection : Connection} {events since : List Event}

theorem run_concat (connection : Connection) (events : List Event) (event : Event) :
    connection.run (events ++ [event]) = (connection.run events).perform event :=
  List.foldl_concat ..

theorem closings_concat_opens (events : List Event) : closings (events ++ [.opens]) = 0 := by
  rw [closings, List.rtakeWhile_concat_neg _ _ _ (by decide), List.count_nil]

theorem closings_concat (events : List Event) {event : Event} (notOpening : event ≠ .opens) :
    closings (events ++ [event]) = closings events + [event].count .closes := by
  have goesOn : decide (event ≠ .opens) = true := decide_eq_true notOpening
  rw [closings, List.rtakeWhile_concat_pos (fun event : Event => event ≠ .opens) _ _ goesOn,
    List.count_append, closings]

/-- Until the connection opens, further closings are counted. -/
theorem closings_append (events : List Event) (notOpened : .opens ∉ since) :
    closings (events ++ since) = closings events + since.count .closes := by
  induction since using List.reverseRecOn with
  | nil => rw [List.append_nil, List.count_nil, Nat.add_zero]
  | append_singleton since event inductionHypothesis =>
      rw [List.mem_append, List.mem_singleton, not_or] at notOpened
      rw [← List.append_assoc, closings_concat _ (Ne.symm notOpened.2),
        inductionHypothesis notOpened.1, List.count_append, Nat.add_assoc]

/-- Nothing changes the times that a connection keeps. -/
theorem policy_run (connection : Connection) (events : List Event) :
    (connection.run events).policy = connection.policy := by
  induction events generalizing connection with
  | nil => rfl
  | cons event rest inductionHypothesis =>
      have kept : (connection.perform event).policy = connection.policy := by cases event <;> rfl
      exact (inductionHypothesis (connection.perform event)).trans kept

/-- The count of failures follows the closings up to the greatest number that it can be. -/
theorem failures_run (fresh : connection.failures = 0) (events : List Event) :
    (connection.run events).failures = min (closings events) maxFailures := by
  -- the induction is on the end of the history, where an opening cuts off what was before
  induction events using List.reverseRecOn with
  | nil => exact fresh
  | append_singleton events event inductionHypothesis =>
      rw [run_concat]
      by_cases opening : event = .opens
      · rw [opening, closings_concat_opens]
        rfl
      · rw [closings_concat events opening]
        cases event with
        | opens => exact absurd rfl opening
        | closes =>
            have counted : ((connection.run events).perform .closes).failures =
                min ((connection.run events).failures + 1) maxFailures := rfl
            rw [counted, inductionHypothesis, List.count_singleton_self]
            omega
        | dials | beats | asks | ends => exact inductionHypothesis

/-! ## Delays in exact arithmetic -/

/-- The times that decide the delays are not too long to be kept. -/
structure Policy.Kept (policy : Policy) : Prop where
  /-- The first delay can be kept. -/
  reconnect_le : policy.reconnect ≤ longestTime
  /-- The ceiling can be kept. -/
  ceiling_le : policy.ceiling ≤ longestTime

/-- The delay after a number of closings without an opening, in exact arithmetic: the first delay,
doubled for each of them but not more than sixteen times, up to the ceiling. -/
def Policy.exactDelay (policy : Policy) (closings : Nat) : Nat :=
  min (policy.reconnect * 2 ^ min closings 16) (max policy.reconnect policy.ceiling)

section Exact

variable {policy : Policy}

/-- The factor fits into 32 bits as often as the delay can double. -/
theorem toNat_one_shiftLeft {doublings : Nat} (few : doublings ≤ maxDoublings) :
    (1 <<< UInt32.ofNat doublings : UInt32).toNat = 2 ^ doublings := by
  have atMost : doublings < 32 := Nat.lt_of_le_of_lt few (by decide)
  have small : doublings < 2 ^ 32 := Nat.lt_trans atMost (by decide)
  have fits : 2 ^ doublings < 2 ^ 32 := Nat.pow_lt_pow_right (by decide) atMost
  rw [UInt32.toNat_shiftLeft, UInt32.toNat_ofNat_of_lt' small, UInt32.toNat_one,
    Nat.mod_eq_of_lt atMost, Nat.one_shiftLeft, Nat.mod_eq_of_lt fits]

/-- A time that is cut off at the longest time is above the ceiling, so it does not matter where it
is cut off. -/
theorem Policy.Kept.delay_eq (kept : policy.Kept) (closings : Nat) :
    policy.delay (min (closings + 1) maxFailures) = policy.exactDelay closings := by
  have doublings : min (min (closings + 1) maxFailures - 1) maxDoublings = min closings 16 := by
    simp only [maxFailures, maxDoublings, UInt32.size]
    omega
  have few : min closings 16 ≤ maxDoublings := Nat.min_le_right ..
  have highest : max policy.ceiling policy.reconnect ≤ longestTime :=
    Nat.max_le.mpr ⟨kept.ceiling_le, kept.reconnect_le⟩
  rw [delay, exactDelay, doublings, timesAsLong, toNat_one_shiftLeft few, Nat.min_assoc,
    Nat.min_eq_right highest, Nat.max_comm]

theorem Policy.exactDelay_mono (policy : Policy) {fewer more : Nat} (le : fewer ≤ more) :
    policy.exactDelay fewer ≤ policy.exactDelay more := by
  have doubled : 2 ^ min fewer 16 ≤ 2 ^ min more 16 := Nat.pow_le_pow_right (by decide) (by omega)
  have longer := Nat.mul_le_mul_left policy.reconnect doubled
  unfold exactDelay
  omega

theorem Policy.exactDelay_zero (policy : Policy) : policy.exactDelay 0 = policy.reconnect := by
  rw [exactDelay, Nat.zero_min, Nat.pow_zero, Nat.mul_one, Nat.min_eq_left (Nat.le_max_left ..)]

theorem Policy.reconnect_le_exactDelay (policy : Policy) (closings : Nat) :
    policy.reconnect ≤ policy.exactDelay closings := by
  have least := policy.exactDelay_mono (Nat.zero_le closings)
  rwa [exactDelay_zero] at least

theorem Policy.exactDelay_le (policy : Policy) (closings : Nat) :
    policy.exactDelay closings ≤ max policy.reconnect policy.ceiling :=
  Nat.min_le_right ..

end Exact

/-- A connection that is closed waits as long as exact arithmetic says: the first delay, doubled for
each closing before this one since the connection was last open, at most sixteen times and up to the
ceiling.  So the delay lies between the first delay and the ceiling, it stays the first one if the
ceiling is not above that, it does not decrease while the connection does not open, and it is the
first one again at the first closing after it has opened. -/
theorem delay_closed_run {policy : Policy} (kept : policy.Kept) (events : List Event) :
    let start : Connection := { policy }
    let delay := fun events => (start.run events).closed.delay
    let highest := max policy.reconnect policy.ceiling
    delay events = min (policy.reconnect * 2 ^ min (closings events) 16) highest ∧
      (policy.reconnect ≤ delay events ∧ delay events ≤ highest) ∧
      (policy.ceiling ≤ policy.reconnect → delay events = policy.reconnect) ∧
      (∀ since, .opens ∉ since → delay events ≤ delay (events ++ since)) ∧
      ∀ since, .opens ∉ since → .closes ∉ since →
        delay (events ++ .opens :: since) = policy.reconnect := by
  intro start delay highest
  have exact_delay : ∀ events, delay events = policy.exactDelay (closings events) := by
    intro events
    have failures : (start.run events).closed.failures =
        min ((start.run events).failures + 1) maxFailures := rfl
    have capped : min (min (closings events) maxFailures + 1) maxFailures =
        min (closings events + 1) maxFailures := by omega
    have counted : (start.run events).failures = min (closings events) maxFailures :=
      failures_run rfl events
    have samePolicy : (start.run events).closed.policy = policy := policy_run start events
    rw [← kept.delay_eq, ← capped, ← counted, ← failures]
    exact congrArg (fun policy : Policy => policy.delay _) samePolicy
  have least := policy.reconnect_le_exactDelay (closings events)
  have most := policy.exactDelay_le (closings events)
  refine ⟨exact_delay events, ?_, ?_, ?_, ?_⟩
  · rw [exact_delay]
    exact ⟨least, most⟩
  · intro low
    rw [Nat.max_eq_left low] at most
    rw [exact_delay]
    exact Nat.le_antisymm most least
  · intro since notOpened
    rw [exact_delay, exact_delay, closings_append events notOpened]
    exact policy.exactDelay_mono (Nat.le_add_right ..)
  · intro since notOpened notClosed
    have none : closings (events ++ .opens :: since) = 0 := by
      rw [List.append_cons, closings_append _ notOpened, closings_concat_opens,
        List.count_eq_zero_of_not_mem notClosed]
    rw [exact_delay, none, policy.exactDelay_zero]

/-- With times of 64 bits the doubled delay is too long to be kept, which the ceiling hides; after
an opening the first delay is back. -/
theorem delay_closed_run_longTimes :
    let policy : Policy := { reconnect := 2 ^ 63, ceiling := 2 ^ 64 - 1 }
    let start : Connection := { policy }
    let failing := (List.replicate 17 [Event.dials, Event.closes]).flatten
    policy.Kept ∧ longestTime < policy.reconnect * 2 ^ 16 ∧
      (start.run failing).closed.delay = policy.ceiling ∧
      (start.run (failing ++ .opens :: [.beats, .ends, .dials])).closed.delay =
        policy.reconnect := by
  intro policy start failing
  have kept : policy.Kept := ⟨by decide, by decide⟩
  obtain ⟨exact_delay, -, -, -, startsAnew⟩ := delay_closed_run kept failing
  have highest : min (policy.reconnect * 2 ^ min (closings failing) 16)
      (max policy.reconnect policy.ceiling) = policy.ceiling := by decide +kernel
  exact ⟨kept, by decide, exact_delay.trans highest,
    startsAnew [.beats, .ends, .dials] (by decide) (by decide)⟩

end Connection
end TailView
