/-!
# Tickers

A ticker fires at a fixed period. The first tick comes one period after the start. A late tick is
not repeated for those that were missed: the next one falls on the period again.
Times are in milliseconds.
-/

namespace RunWatch

structure Ticker where
  period : Nat
  /-- When the next tick is due; none before the start. -/
  due : Option Nat := none
  /-- The number of ticks so far. -/
  count : Nat := 0
  /-- The number of ticks after which it stops, the first tick in any case. -/
  last : Option Nat := none
  stopped : Bool := false
  deriving DecidableEq, Repr

namespace Ticker

/-- A tick that is late by no more than this counts as on time. -/
def slack : Nat := 5

/-- When the tick after one that was due at `due` and fires at `now` is due. -/
def next (period due now : Nat) : Nat :=
  if now ≤ due + slack then due + period else now + period - (now - due) % period

theorem lt_next {period due now : Nat} (hp : 0 < period) : due < next period due now := by
  unfold next
  split
  · omega
  · have := Nat.mod_lt (now - due) hp
    omega

/-- Starts counting, unless that has happened. A ticker without a period stops at once. -/
def start (now : Nat) (t : Ticker) : Ticker :=
  if t.due.isSome || t.stopped then t
  else if t.period = 0 then { t with stopped := true }
  else { t with due := some (now + t.period) }

/-- When a running ticker fires next. -/
def due? (t : Ticker) : Option Nat :=
  if t.stopped then none else t.due

def stop (t : Ticker) : Ticker :=
  { t with stopped := true }

/-- One tick at a time that is not before it is due. -/
def fire (now due : Nat) (t : Ticker) : Ticker :=
  { t with
    due := some (next t.period due now)
    count := t.count + 1
    stopped := t.stopped || t.last.any (· ≤ t.count + 1) }

theorem due?_eq_some {t : Ticker} {due : Nat} (h : t.due? = some due) : t.due = some due := by
  unfold due? at h
  split at h
  · cases h
  · exact h

/-- Fires all that is due by now, late as it may be; says how often. -/
def catchUp (now : Nat) (t : Ticker) : Ticker × Nat :=
  match h : t.due? with
  | none => (t, 0)
  | some due =>
    if hd : due ≤ now ∧ 0 < t.period then
      have : now + 1 - (t.fire now due).due.getD 0 < now + 1 - t.due.getD 0 := by
        have := @lt_next t.period due now hd.2
        simp only [fire, due?_eq_some h, Option.getD_some]
        omega
      let (t, n) := catchUp now (t.fire now due)
      (t, n + 1)
    else (t, 0)
termination_by now + 1 - t.due.getD 0

/-- Lets time pass up to and including a moment; each tick fires when it is due. Gives the times of
the ticks. -/
def advance (target : Nat) (t : Ticker) : Ticker × List Nat :=
  match h : t.due? with
  | none => (t, [])
  | some due =>
    if hd : due ≤ target ∧ 0 < t.period then
      have : target + 1 - (t.fire due due).due.getD 0 < target + 1 - t.due.getD 0 := by
        have := @lt_next t.period due due hd.2
        simp only [fire, due?_eq_some h, Option.getD_some]
        omega
      let (t, times) := advance target (t.fire due due)
      (t, due :: times)
    else (t, [])
termination_by target + 1 - t.due.getD 0

end Ticker

end RunWatch
