/-
Module: SpreadFlow.Proofs.Zip.Interleaving
Purpose: What hosts show while their ticks are interleaved, and that each of them is as it would be
  alone.
Main exports: Zip.Bank.fresh, Zip.Bank.inputsFor, Zip.Bank.history, Zip.LastRows, Zip.Host.run,
  Zip.Bank.run_project, Zip.Bank.run_interleaved
-/
import SpreadFlow.Proofs.Zip.Refill
import SpreadFlow.Zip.Host

namespace SpreadFlow.Zip

/-!
A step changes the host it is addressed to and no other.  By induction over the steps, a bank's run
seen from one slot is the run of the host there on the inputs addressed to it, whatever comes
between them.  All that is said about many hosts is therefore said about one.

A host's output is tied to one input of its past: that of the last tick that succeeded.  A tick
that fails leaves the output alone, and one that succeeds leaves nothing of it.
-/

/-- The rows are those that an evaluation gives for the input of the last tick that succeeded, or
what the host showed at the start if there is none. -/
def LastRows (configuration : Configuration) (start : Rows) (ticks : List (Input × Report))
    (rows : Rows) : Prop :=
  (rows = start ∧ ∀ tick ∈ ticks, tick.2.outcome.result ≠ .ok ()) ∨
    ∃ before tick after, ticks = before ++ tick :: after ∧
      tick.2.outcome.result = .ok () ∧ (∀ later ∈ after, later.2.outcome.result ≠ .ok ()) ∧
      (evaluate configuration tick.1).result = .ok rows

/-! ### One host -/

/-- The reports of a host that ticks alone, and the host after the last tick. -/
def Host.run (host : Host) : List Input → List Report × Host
  | [] => ([], host)
  | input :: inputs =>
      let (outcome, ticked) := host.tick input
      let (reports, last) := ticked.run inputs
      (⟨outcome, ticked⟩ :: reports, last)

/-- Everything a tick can do.  It is counted in both cases. -/
theorem Host.tick_cases (host : Host) (input : Input) :
    ((host.tick input).1.result ≠ .ok () ∧
      (host.tick input).2 = { host with ticks := host.ticks + 1 }) ∨
    ((host.tick input).1.result = .ok () ∧
      (evaluate host.configuration input).result = .ok input.rows ∧
      (host.tick input).2 = { host with output := input.rows, ticks := host.ticks + 1 }) := by
  rcases refill_cases host.configuration input host.output with
    ⟨slice, -, untouched⟩ | ⟨accepted, filled⟩
  · left
    rw [Host.tick, untouched]
    refine ⟨?_, rfl⟩
    intro success
    cases success
  · right
    rw [Host.tick, filled]
    exact ⟨rfl, evaluate_of_accepted accepted, rfl⟩

theorem Host.tick_ticks (host : Host) (input : Input) :
    (host.tick input).2.ticks = host.ticks + 1 := rfl

/-- What the output shows after one tick and then some more. -/
theorem LastRows.cons {host : Host} {input : Input} {ticks : List (Input × Report)} {rows : Rows}
    (shown : LastRows host.configuration (host.tick input).2.output ticks rows) :
    LastRows host.configuration host.output
      ((input, ⟨(host.tick input).1, (host.tick input).2⟩) :: ticks) rows := by
  rcases shown with ⟨kept, failed⟩ | ⟨before, tick, after, split, success, failed, evaluated⟩
  · -- Nothing succeeded later, so the first tick decides.
    rcases host.tick_cases input with ⟨failedFirst, unchanged⟩ | ⟨success, evaluated, changed⟩
    · left
      refine ⟨by rw [kept, unchanged], ?_⟩
      intro tick member
      rcases List.mem_cons.mp member with rfl | later
      · exact failedFirst
      · exact failed tick later
    · right
      refine ⟨[], _, ticks, rfl, success, failed, ?_⟩
      rw [kept, changed]
      exact evaluated
  · right
    exact ⟨_ :: before, tick, after, by rw [split]; rfl, success, failed, evaluated⟩

theorem Host.length_run (host : Host) (inputs : List Input) :
    (host.run inputs).1.length = inputs.length := by
  induction inputs generalizing host with
  | nil => rfl
  | cons input inputs inductionHypothesis =>
      exact congrArg Nat.succ (inductionHypothesis (host.tick input).2)

/-- After a run every tick is counted and the output shows the last success. -/
theorem Host.run_spec (host : Host) (inputs : List Input) :
    (host.run inputs).2.configuration = host.configuration ∧
      (host.run inputs).2.ticks = host.ticks + inputs.length ∧
      LastRows host.configuration host.output (inputs.zip (host.run inputs).1)
        (host.run inputs).2.output := by
  induction inputs generalizing host with
  | nil =>
      refine ⟨rfl, rfl, .inl ⟨rfl, ?_⟩⟩
      intro tick member
      cases member
  | cons input inputs inductionHypothesis =>
      obtain ⟨configuration, ticks, shown⟩ := inductionHypothesis (host.tick input).2
      refine ⟨configuration, ?_, shown.cons⟩
      change ((host.tick input).2.run inputs).2.ticks = _
      rw [ticks, host.tick_ticks, List.length_cons, Nat.add_assoc, Nat.add_comm 1]

namespace Bank

/-! ### Many hosts -/

/-- Hosts that have not ticked yet, one for each configuration. -/
def fresh (configurations : List Configuration) : Bank :=
  configurations.map fun configuration => { configuration }

/-- The inputs of the steps addressed to one host, in order. -/
def inputsFor (slot : Nat) (steps : List Step) : List Input :=
  (steps.filter fun step => step.host = slot).map Step.input

/-- The ticks of one host in a run: each with its input and its report, in order. -/
def history (slot : Nat) (steps : List Step) (reports : List Report) : List (Input × Report) :=
  ((steps.zip reports).filter fun pair => pair.1.host = slot).map
    fun pair => (pair.1.input, pair.2)

theorem step_eq {bank : Bank} {given : Step} {host : Host} (found : bank[given.host]? = some host) :
    bank.step given =
      some (⟨(host.tick given.input).1, (host.tick given.input).2⟩,
        bank.set given.host (host.tick given.input).2) := by
  rw [step, found]
  rfl

theorem run_cons_eq_some {bank after last : Bank} {given : Step} {steps : List Step}
    {report : Report} {reports : List Report} (stepped : bank.step given = some (report, after))
    (ran : run after steps = some (reports, last)) :
    bank.run (given :: steps) = some (report :: reports, last) := by
  simp only [run, stepped, Option.bind_eq_bind, Option.bind_some, ran]

/-- Steps that are addressed to hosts of the bank can be run, and each is reported. -/
theorem exists_run {bank : Bank} {steps : List Step}
    (addressed : ∀ step ∈ steps, step.host < bank.length) :
    ∃ reports last, bank.run steps = some (reports, last) ∧
      reports.length = steps.length ∧ last.length = bank.length := by
  induction steps generalizing bank with
  | nil => exact ⟨[], bank, rfl, rfl, rfl⟩
  | cons given steps inductionHypothesis =>
      have inside : given.host < bank.length := addressed given List.mem_cons_self
      have stepped := step_eq (List.getElem?_eq_getElem inside)
      have addressedLater : ∀ step ∈ steps,
          step.host < (bank.set given.host (bank[given.host].tick given.input).2).length := by
        intro step member
        rw [List.length_set]
        exact addressed step (List.mem_cons_of_mem given member)
      obtain ⟨reports, last, ran, reported, kept⟩ := inductionHypothesis addressedLater
      rw [List.length_set] at kept
      exact ⟨_, last, run_cons_eq_some stepped ran, congrArg Nat.succ reported, kept⟩

/-- A run is the run of its first part and then that of the rest. -/
theorem run_append {bank middle last : Bank} {before after : List Step}
    {earlier later : List Report} (first : bank.run before = some (earlier, middle))
    (second : middle.run after = some (later, last)) :
    bank.run (before ++ after) = some (earlier ++ later, last) := by
  induction before generalizing bank earlier with
  | nil =>
      cases first
      exact second
  | cons given before inductionHypothesis =>
      simp only [run, Option.bind_eq_bind, Option.bind_eq_some_iff] at first
      obtain ⟨⟨report, next⟩, stepped, ⟨reports, reached⟩, ran, same⟩ := first
      cases same
      exact run_cons_eq_some stepped (inductionHypothesis ran)

/-- Seen from one slot, a run is that of the host there on the inputs addressed to it. -/
theorem run_project {bank last : Bank} {steps : List Step} {reports : List Report}
    (ran : bank.run steps = some (reports, last)) {slot : Nat} {host : Host}
    (found : bank[slot]? = some host) :
    last[slot]? = some (host.run (inputsFor slot steps)).2 ∧
      history slot steps reports =
        (inputsFor slot steps).zip (host.run (inputsFor slot steps)).1 := by
  induction steps generalizing bank reports host with
  | nil =>
      cases ran
      exact ⟨found, rfl⟩
  | cons given steps inductionHypothesis =>
      simp only [run, Option.bind_eq_bind, Option.bind_eq_some_iff] at ran
      obtain ⟨⟨report, next⟩, stepped, ⟨reportsLater, reached⟩, ranLater, same⟩ := ran
      cases same
      by_cases here : given.host = slot
      · have inside : slot < bank.length := (List.getElem?_eq_some_iff.mp found).1
        have foundGiven : bank[given.host]? = some host := by rw [here, found]
        rw [step_eq foundGiven] at stepped
        cases stepped
        have foundNext : (bank.set given.host (host.tick given.input).2)[slot]? =
            some (host.tick given.input).2 := by
          rw [here, List.getElem?_set_self inside]
        obtain ⟨reachedHost, reported⟩ := inductionHypothesis ranLater foundNext
        have inputs : inputsFor slot (given :: steps) = given.input :: inputsFor slot steps := by
          simp [inputsFor, here]
        rw [inputs]
        refine ⟨reachedHost, ?_⟩
        simp only [history] at reported
        simp [history, here, reported, Host.run]
      · have foundNext : next[slot]? = some host := by
          simp only [step, Option.map_eq_some_iff] at stepped
          obtain ⟨other, -, same⟩ := stepped
          cases same
          rw [List.getElem?_set_ne here, found]
        obtain ⟨reachedHost, reported⟩ := inductionHypothesis ranLater foundNext
        have inputs : inputsFor slot (given :: steps) = inputsFor slot steps := by
          simp [inputsFor, here]
        rw [inputs]
        refine ⟨reachedHost, ?_⟩
        simp only [history] at reported
        simp [history, here, reported]

/-- A bank of one host runs as the host does. -/
theorem run_singleton (host : Host) (inputs : List Input) :
    Bank.run [host] (inputs.map (Step.mk 0)) =
      some ((host.run inputs).1, [(host.run inputs).2]) := by
  induction inputs generalizing host with
  | nil => rfl
  | cons input inputs inductionHypothesis =>
      have stepped : Bank.step [host] ⟨0, input⟩ =
          some (⟨(host.tick input).1, (host.tick input).2⟩, [(host.tick input).2]) := rfl
      exact run_cons_eq_some stepped (inductionHypothesis (host.tick input).2)

theorem getElem?_fresh {configurations : List Configuration} {slot : Nat}
    {configuration : Configuration} (found : configurations[slot]? = some configuration) :
    (fresh configurations)[slot]? = some { configuration } := by
  rw [fresh, List.getElem?_map, found]
  rfl

theorem length_fresh (configurations : List Configuration) :
    (fresh configurations).length = configurations.length :=
  List.length_map _

/-- No step is lost when a sequence is seen slot by slot. -/
theorem mem_of_inputsFor_eq {steps reordered : List Step}
    (same : ∀ slot, inputsFor slot reordered = inputsFor slot steps) {step : Step}
    (member : step ∈ reordered) : ∃ other ∈ steps, other.host = step.host := by
  have seen : step.input ∈ inputsFor step.host reordered :=
    List.mem_map.mpr ⟨step, List.mem_filter.mpr ⟨member, decide_eq_true rfl⟩, rfl⟩
  rw [same, inputsFor] at seen
  obtain ⟨other, filtered, -⟩ := List.mem_map.mp seen
  obtain ⟨otherMember, otherHost⟩ := List.mem_filter.mp filtered
  exact ⟨other, otherMember, of_decide_eq_true otherHost⟩

/-- After any run from the start, the host at a slot has counted the ticks addressed to it and shows
the rows of the last of them that succeeded.  Its reports are those of the same ticks alone. -/
theorem run_fresh {configurations : List Configuration} {steps : List Step}
    {reports : List Report} {last : Bank}
    (ran : (fresh configurations).run steps = some (reports, last)) {slot : Nat}
    {configuration : Configuration} (found : configurations[slot]? = some configuration) :
    ∃ host, last[slot]? = some host ∧ host.configuration = configuration ∧
      host.ticks = (inputsFor slot steps).length ∧
      LastRows configuration .empty (history slot steps reports) host.output ∧
      (fresh [configuration]).run ((inputsFor slot steps).map (Step.mk 0)) =
        some ((history slot steps reports).map Prod.snd, [host]) := by
  obtain ⟨reached, reported⟩ := run_project ran (getElem?_fresh found)
  obtain ⟨kept, counted, shown⟩ := Host.run_spec { configuration } (inputsFor slot steps)
  have alone := run_singleton { configuration } (inputsFor slot steps)
  have reportsAlone := List.map_snd_zip
    (Nat.le_of_eq (Host.length_run { configuration } (inputsFor slot steps)))
  refine ⟨_, reached, kept, ?_, ?_, ?_⟩
  · rw [counted, Nat.zero_add]
  · rw [reported]
    exact shown
  · rw [reported, reportsAlone]
    exact alone

/-- The state in the middle of a run is the end of a run of its own. -/
theorem run_split {bank last : Bank} {before after : List Step} {reports : List Report}
    (addressed : ∀ step ∈ before ++ after, step.host < bank.length)
    (ran : bank.run (before ++ after) = some (reports, last)) :
    ∃ earlier later middle, reports = earlier ++ later ∧ earlier.length = before.length ∧
      bank.run before = some (earlier, middle) ∧ middle.run after = some (later, last) := by
  obtain ⟨earlier, middle, first, reported, kept⟩ :=
    exists_run fun step member => addressed step (List.mem_append_left after member)
  obtain ⟨later, reached, second, -, -⟩ : ∃ later reached,
      middle.run after = some (later, reached) ∧
      later.length = after.length ∧ reached.length = middle.length := by
    apply exists_run
    intro step member
    rw [kept]
    exact addressed step (List.mem_append_right before member)
  have whole := run_append first second
  rw [ran] at whole
  cases whole
  exact ⟨earlier, later, middle, rfl, reported, first, second⟩

/-- Steps in another order, with the same inputs for each slot, end in the same bank with the same
reports for each slot. -/
theorem run_reordered {bank last : Bank} {steps reordered : List Step} {reports : List Report}
    (addressed : ∀ step ∈ steps, step.host < bank.length)
    (ran : bank.run steps = some (reports, last)) (kept : last.length = bank.length)
    (same : ∀ slot, inputsFor slot reordered = inputsFor slot steps) :
    ∃ others, bank.run reordered = some (others, last) ∧ others.length = reordered.length ∧
      ∀ slot < bank.length, history slot reordered others = history slot steps reports := by
  have addressedToo : ∀ step ∈ reordered, step.host < bank.length := by
    intro step member
    obtain ⟨other, otherMember, sameHost⟩ := mem_of_inputsFor_eq same member
    exact sameHost ▸ addressed other otherMember
  obtain ⟨others, otherLast, otherRan, otherReported, otherKept⟩ := exists_run addressedToo
  have sameLast : otherLast = last := by
    apply List.ext_getElem?
    intro slot
    by_cases inside : slot < bank.length
    · have found := List.getElem?_eq_getElem inside
      rw [(run_project otherRan found).1, (run_project ran found).1, same slot]
    · have past : bank.length ≤ slot := Nat.le_of_not_lt inside
      rw [List.getElem?_eq_none (otherKept ▸ past), List.getElem?_eq_none (kept ▸ past)]
  refine ⟨others, sameLast ▸ otherRan, otherReported, ?_⟩
  intro slot inside
  have found := List.getElem?_eq_getElem inside
  rw [(run_project otherRan found).2, (run_project ran found).2, same slot]

/-- However the ticks of several hosts are interleaved, after every step each host has counted its
own ticks and shows the rows of the last of them that succeeded.  Its reports and its end are
those of its own ticks run alone, so they are the same in every order that keeps each host's. -/
theorem run_interleaved (configurations : List Configuration) (steps : List Step)
    (addressed : ∀ step ∈ steps, step.host < configurations.length) :
    ∃ reports last, (fresh configurations).run steps = some (reports, last) ∧
      reports.length = steps.length ∧
      (∀ before after, steps = before ++ after → ∃ earlier later bank,
        reports = earlier ++ later ∧ earlier.length = before.length ∧
        (fresh configurations).run before = some (earlier, bank) ∧
        bank.run after = some (later, last) ∧
        ∀ slot configuration, configurations[slot]? = some configuration → ∃ host,
          bank[slot]? = some host ∧ host.configuration = configuration ∧
          host.ticks = (inputsFor slot before).length ∧
          LastRows configuration .empty (history slot before earlier) host.output) ∧
      (∀ slot configuration, configurations[slot]? = some configuration → ∃ host,
        last[slot]? = some host ∧
        (fresh [configuration]).run ((inputsFor slot steps).map (Step.mk 0)) =
          some ((history slot steps reports).map Prod.snd, [host])) ∧
      ∀ reordered, (∀ slot, inputsFor slot reordered = inputsFor slot steps) →
        ∃ others, (fresh configurations).run reordered = some (others, last) ∧
          others.length = reordered.length ∧
          ∀ slot < configurations.length,
            history slot reordered others = history slot steps reports := by
  rw [← length_fresh configurations] at addressed ⊢
  obtain ⟨reports, last, ran, reported, kept⟩ := exists_run addressed
  refine ⟨reports, last, ran, reported, ?_, ?_, fun _ => run_reordered addressed ran kept⟩
  · rintro before after rfl
    obtain ⟨earlier, later, bank, split, reportedFirst, first, second⟩ := run_split addressed ran
    refine ⟨earlier, later, bank, split, reportedFirst, first, second, ?_⟩
    intro slot configuration found
    obtain ⟨host, reached, same, counted, shown, -⟩ := run_fresh first found
    exact ⟨host, reached, same, counted, shown⟩
  · intro slot configuration found
    obtain ⟨host, reached, -, -, -, alone⟩ := run_fresh ran found
    exact ⟨host, reached, alone⟩

/-- A strict and a lenient host in turns.  The strict one fails at its second tick and goes on
showing the two rows of its first; moving its ticks to the front changes nothing. -/
theorem run_interleaved_strict_and_lenient :
    let full : Input := ⟨.ofList [some .empty, some .empty], .ofList [1, 2]⟩
    let lacking : Input := ⟨.ofList [none], .ofList [3]⟩
    let steps : List Step := [⟨0, full⟩, ⟨1, lacking⟩, ⟨0, lacking⟩, ⟨1, full⟩]
    let strictFirst : List Step := [⟨0, full⟩, ⟨0, lacking⟩, ⟨1, lacking⟩, ⟨1, full⟩]
    (∀ step ∈ steps, step.host < [Configuration.mk .reject, ⟨.empty⟩].length) ∧
      ∃ reports others last host,
        (fresh [⟨.reject⟩, ⟨.empty⟩]).run steps = some (reports, last) ∧
        (fresh [⟨.reject⟩, ⟨.empty⟩]).run strictFirst = some (others, last) ∧
        last[0]? = some host ∧ host.ticks = 2 ∧ host.output = full.rows ∧
        LastRows ⟨.reject⟩ .empty (history 0 steps reports) host.output := by
  intro full lacking steps strictFirst
  have addressed : ∀ step ∈ steps, step.host < [Configuration.mk .reject, ⟨.empty⟩].length := by
    decide
  obtain ⟨reports, last, ran, -, after, -, reorder⟩ :=
    run_interleaved [⟨.reject⟩, ⟨.empty⟩] steps addressed
  obtain ⟨others, otherRan, -, -⟩ := reorder strictFirst (by
    intro slot
    rcases slot with _ | _ | slot
    · rfl
    · rfl
    · rfl)
  obtain ⟨earlier, later, bank, split, -, first, rest, hosts⟩ := after steps [] rfl
  cases rest
  obtain ⟨host, reached, -, counted, shown⟩ := hosts 0 ⟨.reject⟩ rfl
  rw [List.append_nil] at split
  have outputs : ((fresh [⟨.reject⟩, ⟨.empty⟩]).run steps).bind (·.2[0]?.map Host.output) =
      some full.rows := by
    decide
  rw [first, Option.bind_some, reached] at outputs
  exact ⟨addressed, reports, others, last, host, ran, otherRan, reached, counted,
    Option.some.inj outputs, split ▸ shown⟩

end Bank

end SpreadFlow.Zip
