import Sms112.Model.Smpp

/-!
# Deadlines

`sms112_make_timespec_timeout` adds seconds and microseconds to the clock and
carries at most one second over. The time it means is always right; the
nanoseconds stay below a second as long as the microseconds stay below two.
-/

namespace Sms112

open Resumption

/-- What `pthread_mutex_timedlock` accepts. -/
def Timespec.IsNormalised (timeSpec : Timespec) : Prop :=
  0 ≤ timeSpec.tvNsec ∧ timeSpec.tvNsec < 1000000000

instance (timeSpec : Timespec) : Decidable timeSpec.IsNormalised :=
  inferInstanceAs (Decidable (_ ∧ _))

/-- The time since the epoch in nanoseconds. -/
def Timespec.nanoseconds (timeSpec : Timespec) : Int :=
  timeSpec.tvSec * 1000000000 + timeSpec.tvNsec

/-- The normalised time some seconds and microseconds after a reading of the
clock. -/
structure Timespec.IsDeadline
    (timeSpec : Timespec)
    (clock : TimeOfDay)
    (sec addUSec : Nat) : Prop where
  normalised : timeSpec.IsNormalised
  exact : timeSpec.nanoseconds =
    (clock.tvSec + sec) * 1000000000 + (clock.tvUsec + addUSec : Nat) * 1000

/-- The result of `sms112_make_timespec_timeout` for a reading of the
clock. -/
def deadlineAt (clock : TimeOfDay) (sec addUSec : Nat) : Timespec :=
  if clock.tvUsec + addUSec < 1000000 then
    { tvSec := clock.tvSec + sec
      tvNsec := (clock.tvUsec + addUSec : Nat) * 1000 }
  else
    { tvSec := clock.tvSec + sec + 1
      tvNsec := ((clock.tvUsec : Int) - 1000000 + addUSec) * 1000 }

theorem makeTimespecTimeout_eval
    (thread : Thread)
    (oracle : Op → Choice)
    (state : State)
    (timeSpec : Timespec)
    (sec addUSec : Nat) :
    (makeTimespecTimeout timeSpec sec addUSec).eval (exec thread) oracle
        state =
      let clock := (exec thread .gettimeofday (oracle .gettimeofday) state).1
      if clock.ret = 0 then ((0, deadlineAt clock sec addUSec), state)
      else ((-1, timeSpec), state) := by
  rw [makeTimespecTimeout, Program.eval_bind, Program.eval_call]
  dsimp only
  split
  next read =>
    unfold deadlineAt
    split
    next whole => rfl
    next carried => rfl
  next failed => rfl

/-- The time meant is right whatever is added. -/
theorem deadlineAt_nanoseconds
    (clock : TimeOfDay)
    (sec addUSec : Nat) :
    (deadlineAt clock sec addUSec).nanoseconds =
      (clock.tvSec + sec) * 1000000000 +
        (clock.tvUsec + addUSec : Nat) * 1000 := by
  unfold deadlineAt Timespec.nanoseconds
  split
  next whole => rfl
  next carried =>
    dsimp only
    omega

/-- One carried second is enough for less than two seconds of
microseconds. -/
theorem deadlineAt_isNormalised_iff
    (clock : TimeOfDay)
    (sec addUSec : Nat) :
    (deadlineAt clock sec addUSec).IsNormalised ↔
      clock.tvUsec + addUSec < 2000000 := by
  unfold deadlineAt Timespec.IsNormalised
  split
  next whole =>
    dsimp only
    omega
  next carried =>
    dsimp only
    omega

/-- When the clock is read, what is made is the deadline asked for exactly if
the microseconds of both add up to less than two seconds. -/
theorem makeTimespecTimeout_isDeadline_iff
    (thread : Thread)
    (oracle : Op → Choice)
    (state : State)
    (timeSpec : Timespec)
    (sec addUSec : Nat)
    (clock : TimeOfDay)
    (reading : (exec thread .gettimeofday (oracle .gettimeofday) state).1 =
      clock)
    (read : clock.ret = 0) :
    let made := ((makeTimespecTimeout timeSpec sec addUSec).eval
      (exec thread) oracle state).1
    (made.1 = 0 ∧ made.2.IsDeadline clock sec addUSec) ↔
      clock.tvUsec + addUSec < 2000000 := by
  rw [makeTimespecTimeout_eval]
  dsimp only
  rw [reading, if_pos read]
  constructor
  · rintro ⟨-, deadline⟩
    exact (deadlineAt_isNormalised_iff clock sec addUSec).mp
      deadline.normalised
  · intro small
    exact ⟨rfl,
      { normalised := (deadlineAt_isNormalised_iff clock sec addUSec).mpr
          small
        exact := deadlineAt_nanoseconds clock sec addUSec }⟩

/-- A clock that stands at the start of a second. -/
def fullSecond : TimeOfDay where
  ret := 0
  tvSec := 1700000000
  tvUsec := 0

/-- Half a second after a full one. -/
theorem makeTimespecTimeout_isDeadline_iff_half :
    let made := ((makeTimespecTimeout ⟨0, 0⟩ 1 500000).eval
      (exec (.requester 0)) (fun _ => { sec := 1700000000 }) {}).1
    (made.1 = 0 ∧ made.2.IsDeadline fullSecond 1 500000) ↔
      fullSecond.tvUsec + 500000 < 2000000 :=
  makeTimespecTimeout_isDeadline_iff (.requester 0)
    (fun _ => { sec := 1700000000 }) {} ⟨0, 0⟩ 1 500000 fullSecond rfl rfl

/-- Two seconds of microseconds leave a full second of nanoseconds. -/
theorem makeTimespecTimeout_denormalised :
    let made := ((makeTimespecTimeout ⟨0, 0⟩ 0 2000000).eval
      (exec (.requester 0)) (fun _ => { sec := 1700000000 }) {}).1
    made = (0, ⟨1700000001, 1000000000⟩) ∧
      ¬ made.2.IsDeadline fullSecond 0 2000000 := by
  refine ⟨by decide, ?_⟩
  intro deadline
  exact absurd deadline.normalised (by decide)

end Sms112
