import RunWatch.Clock.Ticker

/-!
# Ticking step by step

A ticker with its clock: what is done to them, and which ticks come of it.
-/

namespace RunWatch.Rehearsal

structure Beat where
  ticker : Ticker
  now : Nat := 0
  /-- The handle still exists. -/
  held : Bool := true
  deriving DecidableEq

namespace Beat

inductive Step where
  /-- Time passes, and every tick comes when it is due. -/
  | advance (duration : Nat)
  /-- The clock leaps, and the ticker runs only afterwards. -/
  | jump (duration : Nat)
  | cancel
  /-- The handle is dropped. -/
  | release
  | rest
  deriving DecidableEq

/-- Takes a step; gives the times of the ticks. -/
def play (b : Beat) : Step → Beat × List Nat
  | .advance duration =>
    let target := b.now + duration
    let (ticker, times) := (b.ticker.start b.now).advance target
    ({ b with ticker, now := target }, times)
  | .jump duration =>
    let now := b.now + duration
    let (ticker, ticks) := (b.ticker.start now).catchUp now
    ({ b with ticker, now }, List.replicate ticks now)
  | .cancel => ({ b with ticker := b.ticker.stop }, [])
  | .release => ({ b with ticker := b.ticker.stop, held := false }, [])
  | .rest => ({ b with ticker := b.ticker.start b.now }, [])

/-- Whether the ticker has stopped, as far as the handle tells. -/
def finished? (b : Beat) : Option Bool :=
  if b.held then some b.ticker.stopped else none

end Beat

end RunWatch.Rehearsal
