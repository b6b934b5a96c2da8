/-
Module: SpreadFlow.Zip.Host
Purpose: Hosts that tick a zip node into an output they keep.
Main exports: Zip.Host, Zip.Host.tick, Zip.Bank, Zip.Bank.step
-/
import SpreadFlow.Zip.Composed

namespace SpreadFlow.Zip

/-!
A host runs one zip node, tick after tick, into the same output.  Every tick counts.  One that
fails leaves the output of the last tick that succeeded.  A bank holds hosts that share nothing.
-/

/-- A zip node with the output it is evaluated into. -/
structure Host where
  configuration : Configuration
  output : Rows := .empty
  /-- The number of ticks, without a bound.  A host counts in a word of 64 bits, but no run is long
  enough to fill it. -/
  ticks : Nat := 0
deriving Repr, DecidableEq

/-- One evaluation with the current input: its outcome, and the host afterwards. -/
def Host.tick (host : Host) (input : Input) : Outcome Event Failure Unit × Host :=
  let (outcome, output) := refill host.configuration input host.output
  (outcome.mapError AbsentSlice.failure, { host with output, ticks := host.ticks + 1 })

/-- Hosts in a fixed order. -/
abbrev Bank := List Host

/-- A tick addressed to one host of a bank. -/
structure Step where
  host : Nat
  input : Input
deriving Repr, DecidableEq

/-- What a step gives: the outcome of the tick, and its host afterwards. -/
structure Report where
  outcome : Outcome Event Failure Unit
  host : Host

namespace Bank

/-- Ticks the addressed host and leaves all others alone.  There is no step for a host that is not
in the bank. -/
def step (bank : Bank) (given : Step) : Option (Report × Bank) :=
  bank[given.host]?.map fun host =>
    let (outcome, ticked) := host.tick given.input
    (⟨outcome, ticked⟩, bank.set given.host ticked)

/-- The reports of a sequence of steps, and the bank after the last. -/
def run (bank : Bank) : List Step → Option (List Report × Bank)
  | [] => some ([], bank)
  | given :: steps => do
      let (report, after) ← bank.step given
      let (reports, last) ← run after steps
      some (report :: reports, last)

end Bank

end SpreadFlow.Zip
