import Tabletop.Proofs.Order

/-!
# Properties of composed work

Work at a table is made of few kinds of steps.  A property of work that each kind of
step has, and that going on from one step to the next keeps, is a property of all
work that is made of such steps; so it is enough to look at the steps.
-/

namespace Tabletop
namespace Play

/-- A property that computing has, and turning texts down and writing outcomes down, and
that going on keeps.  Reading orders and rolling dice are made of such steps, but for the
dice. -/
structure ComposableInPlay (holds : ∀ {α : Type}, Play σ α → Prop) : Prop where
  ofExcept : ∀ {α : Type} (outcome : Except Fault α), holds (ofExcept outcome)
  reject : ∀ text : String, holds (note (rejection text))
  record : ∀ outcome : Outcome, holds (Play.ofExcept outcome.record >>= note)
  bind : ∀ {α β : Type} {work : Play σ α} {next : α → Play σ β},
    holds work → (∀ value, holds (next value)) → holds (work >>= next)

/-- A property that computing and writing records have, and that going on and trying
out keep. -/
structure Composable (holds : ∀ {α : Type}, Play σ α → Prop) : Prop where
  ofExcept : ∀ {α : Type} (outcome : Except Fault α), holds (ofExcept outcome)
  note : ∀ record : Log.Record, holds (note record)
  bind : ∀ {α β : Type} {work : Play σ α} {next : α → Play σ β},
    holds work → (∀ value, holds (next value)) → holds (work >>= next)
  attempt : ∀ {α : Type} {work : Play σ α}, holds work → holds work.attempt

namespace Composable

variable {holds : ∀ {α : Type}, Play σ α → Prop}

theorem inPlay (composable : Composable holds) : ComposableInPlay holds where
  ofExcept := composable.ofExcept
  reject text := composable.note (rejection text)
  record outcome := composable.bind (composable.ofExcept outcome.record) composable.note
  bind := composable.bind

theorem pure (composable : Composable holds) (value : α) :
    holds (Pure.pure value : Play σ α) :=
  composable.ofExcept (.ok value)

end Composable

namespace ComposableInPlay

variable {holds : ∀ {α : Type}, Play σ α → Prop}

theorem pure (composable : ComposableInPlay holds) (value : α) :
    holds (Pure.pure value : Play σ α) :=
  composable.ofExcept (.ok value)

/-- What is made of a value afterwards is made by computing. -/
theorem map
    (composable : ComposableInPlay holds)
    {work : Play σ α}
    (works : holds work)
    (make : α → β) :
    holds (work >>= fun value => Pure.pure (make value)) :=
  composable.bind works fun value => composable.pure (make value)

/-! ## Reading orders -/

theorem parse (composable : ComposableInPlay holds) (text : String) :
    holds (Play.parse text) := by
  by_cases valid : Notation.isValid text
  · rw [parse_of_isValid valid]
    exact composable.ofExcept (Notation.parse text)
  · rw [parse_of_not_isValid valid]
    apply composable.bind (composable.reject text)
    intro _
    exact composable.ofExcept (Notation.parse text)

theorem resolve (composable : ComposableInPlay holds) (order : Order) :
    holds (Play.resolve order) := by
  cases order with
  | written text => exact composable.parse text
  | pool pool => exact composable.pure pool

theorem checkLimits
    (composable : ComposableInPlay holds)
    (limits : Limits)
    (order : Order)
    (times : Int) :
    holds (Play.checkLimits limits order times) := by
  apply composable.bind (composable.resolve order)
  intro pool
  exact composable.ofExcept (limits.check pool times)

theorem describe (composable : ComposableInPlay holds) (order : Order) :
    holds (Play.describe order) := by
  apply composable.bind (composable.resolve order)
  intro pool
  exact composable.ofExcept pool.describe

theorem describeShort (composable : ComposableInPlay holds) (order : Order) :
    holds (Play.describeShort order) := by
  apply composable.bind (composable.resolve order)
  intro pool
  exact composable.ofExcept pool.short

/-! ## Rolling -/

/-- What follows the dice of a roll: the outcome is settled and written down. -/
theorem settling
    (composable : ComposableInPlay holds)
    (pool : Pool)
    (source : String)
    (drawn : List Int) :
    holds (Play.ofExcept (settle pool source drawn) >>= fun outcome =>
      Play.ofExcept outcome.record >>= fun record =>
        Play.note record >>= fun _ => Pure.pure outcome) := by
  apply composable.bind (composable.ofExcept (settle pool source drawn))
  intro outcome
  rw [← bind_assoc]
  apply composable.bind (composable.record outcome)
  intro _
  exact composable.pure outcome

section Rolling

variable [RandomSource σ]

theorem rollDice
    (composable : ComposableInPlay holds)
    {sides : Nat}
    (draws : holds (draw (dieBounds sides)))
    (count : Nat)
    (rolled : List Int) :
    holds (Play.rollDice sides count rolled) := by
  induction count generalizing rolled with
  | zero => exact composable.pure rolled.reverse
  | succ count inductionHypothesis =>
      apply composable.bind draws
      intro value
      exact inductionHypothesis (value :: rolled)

theorem rollPool
    (composable : ComposableInPlay holds)
    {pool : Pool}
    (draws : holds (draw (dieBounds pool.sides)))
    (source : String) :
    holds (Play.rollPool pool source) := by
  apply composable.bind (composable.rollDice draws pool.count [])
  intro drawn
  exact composable.settling pool source drawn

theorem roll
    (composable : ComposableInPlay holds)
    (draws : ∀ sides : Nat, holds (draw (dieBounds sides)))
    (order : Order) :
    holds (Play.roll order) := by
  apply composable.bind (composable.resolve order)
  intro pool
  apply composable.bind (composable.ofExcept (sourceText order))
  intro source
  exact composable.rollPool (draws pool.sides) source

theorem rollTimes
    (composable : ComposableInPlay holds)
    {pool : Pool}
    (draws : holds (draw (dieBounds pool.sides)))
    (source : String)
    (times : Nat)
    (outcomes : List Outcome) :
    holds (Play.rollTimes pool source times outcomes) := by
  induction times generalizing outcomes with
  | zero => exact composable.pure outcomes.reverse
  | succ times inductionHypothesis =>
      apply composable.bind (composable.rollPool draws source)
      intro outcome
      exact inductionHypothesis (outcome :: outcomes)

/-- Rolling has the property if asking for a single die has it. -/
theorem rollMany
    (composable : ComposableInPlay holds)
    (draws : ∀ sides : Nat, holds (draw (dieBounds sides)))
    (order : Order)
    (times : Int) :
    holds (Play.rollMany order times) := by
  by_cases tooFew : times < 1
  · rw [rollMany_of_lt_one order tooFew]
    exact composable.ofExcept (.error _)
  · rw [rollMany_of_one_le order (by omega)]
    apply composable.bind (composable.resolve order)
    intro pool
    apply composable.bind (composable.ofExcept (sourceText order))
    intro source
    exact composable.rollTimes (draws pool.sides) source times.toNat []

end Rolling

end ComposableInPlay
end Play
end Tabletop
