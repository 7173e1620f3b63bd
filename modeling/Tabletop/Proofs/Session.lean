import Tabletop.Proofs.Correspondence
import Tabletop.Proofs.Oblivious
import Tabletop.Proofs.Retention
import Tabletop.Proofs.Succession
import Tabletop.Session

/-!
# Sessions that the dice do not see

Steps that roll no dice, and steps that fail before they ask the source, leave the source as
it is.  So they can be left out of a session, and the listener can be switched on and off or
exchanged, without any change to what comes of the other steps.
-/

namespace Tabletop

/-- A subject can be rolled: the order that it makes denotes a pool and has a text to be
recorded under. -/
def Subject.Playable (subject : Subject) : Prop :=
  ∃ order pool source,
    subject.order = .ok order ∧
      order.denoted = .ok pool ∧ Play.sourceText order = .ok source

namespace Session

open Play

/-- Whether a step rolls dice, if nothing is wrong with it. -/
def Step.rolls : Step → Bool
  | roll _ => true
  | rollMany _ _ => true
  | _ => false

/-- A step gets to the dice: there is at least one roll to make, of something that can be
rolled. -/
def Step.Plays : Step → Prop
  | roll subject => subject.Playable
  | rollMany subject times => 1 ≤ times ∧ subject.Playable
  | _ => False

/-- A step fails before its first request of the source. -/
def Step.FailsUndrawn [RandomSource σ] (step : Step) (table : Table σ) : Prop :=
  (∃ fault, (step.perform.run table).1 = .error fault) ∧ ¬ Draws step.perform table

/-- What is seen of a step: what it gives, or its fault, and the number of requests made of
the source up to its end. -/
def Report.seen (report : Report) : Except Fault Answer × Nat :=
  (report.result, report.draws)

theorem Step.rolls_of_plays
    {step : Step}
    (plays : step.Plays) :
    step.rolls = true := by
  cases step with
  | roll _ => rfl
  | rollMany _ _ => rfl
  | _ => contradiction

section Steps

variable [RandomSource σ] {step : Step}

/-! ## Single steps -/

/-- A step has a property if the rolls that it makes have it. -/
theorem perform_of_rolls
    {holds : ∀ {α : Type}, Play σ α → Prop}
    (composable : ComposableInPlay holds)
    (once : ∀ subject order,
      step = .roll subject → subject.order = .ok order → holds (Play.roll order))
    (often : ∀ subject order times,
      step = .rollMany subject times → subject.order = .ok order →
        holds (Play.rollMany order times)) :
    holds step.perform := by
  have ordered {α : Type} (subject : Subject) (next : Order → Play σ α)
      (holdsNext : ∀ order, subject.order = .ok order → holds (next order)) :
      holds (Play.ofExcept subject.order >>= next) := by
    cases made : subject.order with
    | error fault => exact composable.ofExcept (.error fault)
    | ok order => exact holdsNext order made
  cases step with
  | roll subject =>
      apply ordered
      intro order made
      exact composable.map (once subject order rfl made) _
  | rollMany subject times =>
      apply ordered
      intro order made
      exact composable.map (often subject order times rfl made) _
  | parse text => exact composable.map (composable.parse text) _
  | isValid text => exact composable.pure _
  | describe subject =>
      apply ordered
      intro order _
      exact composable.map (composable.describe order) _
  | describeShort subject =>
      apply ordered
      intro order _
      exact composable.map (composable.describeShort order) _
  | checkLimits subject times limits =>
      apply ordered
      intro order _
      exact composable.map (composable.checkLimits limits order times) _
  | listen enabled => exact composable.pure _

/-- What a step does depends on the past through the source alone. -/
theorem corresponds_perform (step : Step) :
    Corresponds Eq (step.perform : Play σ Answer) step.perform := by
  apply perform_of_rolls composable_corresponds.inPlay
  · intro subject order _ _
    exact composable_corresponds.inPlay.roll (fun sides => corresponds_draw (dieBounds sides)) order
  · intro subject order times _ _
    exact corresponds_rollMany order times

theorem perform_roll_of_order
    {subject : Subject}
    {order : Order}
    (made : subject.order = .ok order) :
    (Step.roll subject).perform =
      (roll order >>= fun outcome => pure (.outcome outcome) : Play σ Answer) := by
  simp only [Step.perform, made, ofExcept_ok, pure_bind]

theorem perform_rollMany_of_order
    {subject : Subject}
    {order : Order}
    (made : subject.order = .ok order)
    (times : Int) :
    (Step.rollMany subject times).perform =
      (rollMany order times >>= fun outcomes => pure (.outcomes outcomes) : Play σ Answer) := by
  simp only [Step.perform, made, ofExcept_ok, pure_bind]

/-- A step that would roll but does not get to the dice fails. -/
theorem run_perform_of_not_plays
    (rolls : step.rolls = true)
    (idle : ¬ step.Plays)
    (table : Table σ) :
    ∃ fault after,
      step.perform.run table = (.error fault, after) ∧ after.Alike table := by
  have unread (order : Order) : (table.afterReading order).Alike table :=
    ⟨table.source_afterReading order, table.calls_afterReading order⟩
  have unplayable {subject : Subject} {order : Order} (made : subject.order = .ok order)
      (unplayed : ¬ subject.Playable) (pool : Pool) (source : String)
      (denoted : order.denoted = .ok pool) : sourceText order ≠ .ok source :=
    fun sourced => unplayed ⟨order, pool, source, made, denoted, sourced⟩
  cases step with
  | roll subject =>
      cases made : subject.order with
      | error fault => exact ⟨fault, table, by simp [Step.perform, run_bind, made], .refl table⟩
      | ok order =>
          obtain ⟨fault, ran⟩ :=
            run_reading_of_not_denoted (unplayable made idle) Play.rollPool table
          refine ⟨fault, _, ?_, unread order⟩
          rw [perform_roll_of_order made, run_bind, Play.roll, ran]
  | rollMany subject times =>
      cases made : subject.order with
      | error fault => exact ⟨fault, table, by simp [Step.perform, run_bind, made], .refl table⟩
      | ok order =>
          rw [perform_rollMany_of_order made, run_bind]
          by_cases positive : 1 ≤ times
          · have unplayed : ¬ subject.Playable := fun playable => idle ⟨positive, playable⟩
            obtain ⟨fault, ran⟩ :=
              run_reading_of_not_denoted (unplayable made unplayed)
                (fun pool source => Play.rollTimes pool source times.toNat []) table
            refine ⟨fault, _, ?_, unread order⟩
            rw [rollMany_of_one_le order positive, ran]
          · rw [rollMany_of_lt_one order (by omega)]
            exact ⟨_, table, rfl, .refl table⟩
  | _ => contradiction

/-- A step that does not get to the dice makes no request of the source. -/
theorem quiet_perform_of_not_plays
    (idle : ¬ step.Plays) :
    Quiet (step.perform : Play σ Answer) := by
  cases rolls : step.rolls with
  | true =>
      intro table
      obtain ⟨fault, after, ran, alike⟩ := run_perform_of_not_plays rolls idle table
      rw [ran]
      exact ⟨alike.source, alike.calls⟩
  | false =>
      apply perform_of_rolls composable_quiet.inPlay
      · rintro subject order rfl
        contradiction
      · rintro subject order times rfl
        contradiction

/-- A step that gets to the dice asks the source, at whatever table. -/
theorem draws_perform
    (plays : step.Plays)
    (table : Table σ) :
    Draws (step.perform : Play σ Answer) table := by
  cases step with
  | roll subject =>
      obtain ⟨order, pool, source, made, denoted, sourced⟩ := plays
      rw [perform_roll_of_order made, roll_eq_rollPool denoted sourced]
      apply draws_bind (draws_rollPool pool source table)
      intro outcome
      exact composable_oblivious.pure _
  | rollMany subject times =>
      obtain ⟨positive, order, pool, source, made, denoted, sourced⟩ := plays
      rw [perform_rollMany_of_order made]
      apply draws_bind (draws_rollMany positive denoted sourced table)
      intro outcomes
      exact composable_oblivious.pure _
  | _ => contradiction

theorem plays_iff (step : Step) (table : Table σ) :
    step.Plays ↔ step.rolls = true ∧ ¬ step.FailsUndrawn table := by
  constructor
  · intro plays
    exact ⟨Step.rolls_of_plays plays, fun fails => fails.2 (draws_perform plays table)⟩
  · rintro ⟨rolls, getsOn⟩
    by_contra idle
    obtain ⟨fault, after, ran, alike⟩ := run_perform_of_not_plays rolls idle table
    apply getsOn
    unfold Step.FailsUndrawn Draws
    rw [ran, alike.calls]
    exact ⟨⟨fault, rfl⟩, Nat.lt_irrefl _⟩

/-! ## Sessions -/

/-- What is seen of a step is the same at tables that are alike, and steps that do not get
to the dice leave tables alike. -/
theorem unwinds_perform :
    Unwinds
      (fun (table : Table σ) (step : Step) =>
        ((step.perform.run table).1, (step.perform.run table).2.calls.size))
      (fun table step => (step.perform.run table).2)
      Table.Alike id Step.Plays where
  shows := by
    rintro left right step _ alike rfl
    obtain ⟨outcomes, after⟩ := corresponds_perform step left right alike
    exact Prod.ext outcomes.eq (congrArg Array.size after.calls)
  stays := by
    rintro left right step _ alike rfl
    exact (corresponds_perform step left right alike).2
  skips := by
    intro left right step alike idle
    obtain ⟨source, calls⟩ := quiet_perform_of_not_plays idle left
    exact Table.Alike.trans ⟨source, calls⟩ alike

/-- Whoever listens, what is seen of a session is what is seen of its steps. -/
theorem map_seen_run
    (listener : Log.Listener)
    (table : Table σ)
    (steps : List Step) :
    (run listener table steps).1.map Report.seen =
      sightings
        (fun table step => ((step.perform.run table).1, (step.perform.run table).2.calls.size))
        (fun table step => (step.perform.run table).2) table steps := by
  induction steps generalizing listener table with
  | nil => rfl
  | cons step steps inductionHypothesis =>
      rw [sightings, ← inductionHypothesis (step.adjust listener)]
      rfl

theorem spares_rolls (steps : List Step) :
    Spares Step.Plays (steps.map Step.rolls) steps :=
  Spares.of_test (fun _ => Step.rolls_of_plays) steps

theorem map_seen_run_retain
    {left right : Table σ}
    {marks : List Bool}
    {steps : List Step}
    (alike : left.Alike right)
    (spares : Spares Step.Plays marks steps)
    (listener other : Log.Listener) :
    (run other right (retain marks steps)).1.map Report.seen =
      retain marks ((run listener left steps).1.map Report.seen) := by
  rw [map_seen_run, map_seen_run]
  exact unwinds_perform.sightings_retain alike spares rfl

/-- A step gets to the dice exactly if it rolls and does not fail before its first request,
whatever the table is.  All other steps leave the source as it is and ask it nothing.  Any
of them can be left out of a session, and anybody or nobody can listen, without any change
to the answers, the faults and the numbers of requests of the steps that stay.  So what is
seen of the steps that roll depends on these steps and on the source alone. -/
theorem run_undisturbed :
    (∀ (step : Step) (table : Table σ),
      step.Plays ↔ step.rolls = true ∧ ¬ step.FailsUndrawn table) ∧
    (∀ (step : Step) (table : Table σ),
      ¬ step.Plays →
        (step.perform.run table).2.source = table.source ∧
          (step.perform.run table).2.calls = table.calls) ∧
    (∀ (listener other : Log.Listener) (left right : Table σ)
        (marks : List Bool) (steps : List Step),
      left.Alike right →
        Spares Step.Plays marks steps →
          (run other right (retain marks steps)).1.map Report.seen =
            retain marks ((run listener left steps).1.map Report.seen)) ∧
    (∀ (listener other : Log.Listener) (left right : Table σ) (steps others : List Step),
      left.Alike right →
        steps.filter Step.rolls = others.filter Step.rolls →
          retain (steps.map Step.rolls) ((run listener left steps).1.map Report.seen) =
            retain (others.map Step.rolls) ((run other right others).1.map Report.seen)) := by
  refine ⟨plays_iff, ?_, ?_, ?_⟩
  · intro step table idle
    exact quiet_perform_of_not_plays idle table
  · intro listener other left right marks steps alike spares
    exact map_seen_run_retain alike spares listener other
  · intro listener other left right steps others alike sameRolls
    rw [← map_seen_run_retain alike (spares_rolls steps) listener other,
      ← map_seen_run_retain (.refl right) (spares_rolls others) other other,
      retain_map_eq_filter, retain_map_eq_filter, sameRolls]

end Steps

/-- Between two rolls, a text that is no notation is rolled and another one is described, and
the listener is switched off; the rolls are as they are by themselves, where nobody listens. -/
theorem run_undisturbed_misspelt :
    let table := Table.opening (ScriptedSource.congruential 7)
    let listener : Log.Listener := { threshold := some .debug, enabled := true }
    let nobody : Log.Listener := { threshold := none, enabled := false }
    let first : Step := .roll (.written "4d6kh3")
    let misspelt : Step := .roll (.written "four dice")
    let last : Step := .rollMany (.written "2d6") 2
    let session := [first, misspelt, .describe (.written "d%"), .listen false, last]
    let marks := [true, false, false, false, true]
    (first.Plays ∧ first.rolls = true ∧ ¬ first.FailsUndrawn table) ∧
    (¬ misspelt.Plays ∧
      (misspelt.perform.run table).2.source = table.source ∧
        (misspelt.perform.run table).2.calls = table.calls) ∧
    (Spares Step.Plays marks session ∧
      (run nobody table [first, last]).1.map Report.seen =
        retain marks ((run listener table session).1.map Report.seen)) ∧
    (session.filter Step.rolls = [first, misspelt, last].filter Step.rolls ∧
      retain (session.map Step.rolls) ((run listener table session).1.map Report.seen) =
        retain ([first, misspelt, last].map Step.rolls)
          ((run nobody table [first, misspelt, last]).1.map Report.seen)) := by
  intro table listener nobody first misspelt last session marks
  have undisturbed := run_undisturbed (σ := ScriptedSource)
  have plays : first.Plays := by
    have parsed : Notation.parse "4d6kh3" = .ok Pool.fourDice := by decide +kernel
    exact ⟨.written "4d6kh3", Pool.fourDice, "4d6kh3", rfl, parsed, rfl⟩
  have idle : ¬ misspelt.Plays := by
    rintro ⟨order, pool, source, made, denoted, -⟩
    obtain rfl := Except.ok.inj made
    have rejected : (Notation.parse "four dice").toBool = false := by decide +kernel
    rw [show Notation.parse "four dice" = .ok pool from denoted] at rejected
    contradiction
  have spares : Spares Step.Plays marks session := by
    intro position step marked present
    match position with
    | 0 => cases marked
    | 1 =>
        obtain rfl := Option.some.inj present
        exact idle
    | 2 | 3 =>
        obtain rfl := Option.some.inj present
        exact id
    | 4 => cases marked
    | position + 5 => cases marked
  exact ⟨⟨plays, (undisturbed.1 first table).mp plays⟩,
    ⟨idle, undisturbed.2.1 misspelt table idle⟩,
    ⟨spares, undisturbed.2.2.1 listener nobody table table marks session (.refl table) spares⟩,
    ⟨rfl, undisturbed.2.2.2 listener nobody table table _ _ (.refl table) rfl⟩⟩

end Session
end Tabletop
