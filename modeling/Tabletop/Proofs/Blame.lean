import Tabletop.Limits
import Tabletop.Proofs.Order

/-!
# Work that blames no value

A pool that exists is not refused any more: whatever is done with it, the values that it was put
together from are not what a fault is about.  The one exception is what the random source itself
says when it fails, because it may say anything.
-/

namespace Tabletop

/-- A fault does not say that a value is wrong for a pool, unless the random source says so. -/
def Fault.BlamesNoValue (fault : Fault) : Prop :=
  fault.kind = "InvalidRollError" → ∃ failure, fault = .source failure

theorem Fault.blamesNoValue_of_kind_ne
    {fault : Fault}
    (other : fault.kind ≠ "InvalidRollError") :
    fault.BlamesNoValue :=
  fun same => absurd same other

theorem Fault.blamesNoValue_source (failure : SourceFailure) :
    (source failure).BlamesNoValue :=
  fun _ => ⟨failure, rfl⟩

theorem Fault.blamesNoValue_numberTooLong : numberTooLong.BlamesNoValue :=
  blamesNoValue_of_kind_ne (by decide)

theorem Fault.blamesNoValue_raised
    {fault : Fault}
    (blameless : fault.BlamesNoValue) :
    fault.raised.BlamesNoValue := by
  unfold raised
  split
  · exact blameless
  · exact blamesNoValue_numberTooLong

/-! ## Computations -/

/-- A computation fails only for reasons that blame no value. -/
def Fault.Blameless (outcome : Except Fault α) : Prop :=
  ∀ fault, outcome = .error fault → fault.BlamesNoValue

namespace Fault.Blameless

theorem ok (value : α) : Blameless (.ok value) :=
  nofun

theorem error
    {fault : Fault}
    (blameless : fault.BlamesNoValue) :
    Blameless (.error fault : Except Fault α) := by
  rintro _ ⟨⟩
  exact blameless

theorem bind
    {step : Except Fault α}
    {next : α → Except Fault β}
    (blameless : Blameless step)
    (blamelessNext : ∀ value, Blameless (next value)) :
    Blameless (step >>= next) := by
  cases step with
  | ok value => exact blamelessNext value
  | error fault => exact error (blameless fault rfl)

theorem map
    {step : Except Fault α}
    (blameless : Blameless step)
    (make : α → β) :
    Blameless (step >>= fun value => pure (make value)) :=
  blameless.bind fun value => ok (make value)

theorem mapM
    {step : α → Except Fault β}
    (blameless : ∀ value, Blameless (step value))
    (values : List α) :
    Blameless (values.mapM step) := by
  induction values with
  | nil => exact ok []
  | cons value values inductionHypothesis =>
      rw [List.mapM_cons]
      exact (blameless value).bind fun first => inductionHypothesis.map (first :: ·)

end Fault.Blameless

open Fault

theorem Numeral.blameless_write (number : Int) : Blameless (write number) := by
  unfold write
  split
  · exact .ok _
  · exact .error blamesNoValue_numberTooLong

theorem Pool.blameless_short (pool : Pool) : Blameless pool.short := by
  apply (Numeral.blameless_write pool.count).bind
  intro count
  apply (Numeral.blameless_write pool.sides).bind
  intro sides
  cases pool.selection with
  | none => exact .ok _
  | some selection =>
      dsimp only
      split
      · exact (Numeral.blameless_write selection.count).map _
      · exact .ok _

theorem Limits.blameless_check
    (limits : Limits)
    (pool : Pool)
    (times : Int) :
    Blameless (limits.check pool times) := by
  apply Blameless.bind
  · unfold checkDice
    split
    · exact .error (blamesNoValue_raised (blamesNoValue_of_kind_ne (by simp [kind])))
    · exact .ok ()
  · intro _
    unfold checkTimes
    split
    · exact .error (blamesNoValue_raised (blamesNoValue_of_kind_ne (by simp [kind])))
    · split
      · exact .error (blamesNoValue_raised (blamesNoValue_of_kind_ne (by simp [kind])))
      · exact .ok ()

/-! ## Outcomes -/

theorem Roll.blameless_selectEach (values : List Int) (dice : List Die) :
    Blameless (selectEach values dice) := by
  induction values generalizing dice with
  | nil => exact .ok dice
  | cons value values inductionHypothesis =>
      unfold selectEach
      split
      · exact .error (blamesNoValue_of_kind_ne (by simp [kind]))
      · exact inductionHypothesis _

theorem Roll.blameless_keep (selection : Option Selection) (rolls : List Int) :
    Blameless (keep selection rolls) := by
  cases selection with
  | none => exact .ok _
  | some selection =>
      apply ((blameless_selectEach _ _).map _).bind
      rintro ⟨selected, others⟩
      cases selection.mode <;> exact .ok _

theorem Outcome.blameless_writeList (numbers : List Int) : Blameless (writeList numbers) :=
  (Blameless.mapM Numeral.blameless_write numbers).map _

theorem Outcome.blameless_record (outcome : Outcome) : Blameless outcome.record := by
  apply (blameless_writeList outcome.kept).bind
  intro kept
  apply (blameless_writeList outcome.dropped).bind
  intro dropped
  exact (Numeral.blameless_write outcome.total).map _

theorem Outcome.blameless_jsonOfAll (outcomes : List Outcome) : Blameless (jsonOfAll outcomes) :=
  (Blameless.mapM (fun outcome => outcome.pool.blameless_short.map _) outcomes).map _

namespace Play

theorem blameless_settle (pool : Pool) (source : String) (rolls : List Int) :
    Fault.Blameless (settle pool source rolls) :=
  (Roll.blameless_keep pool.selection rolls).map _

/-! ## Work at a table -/

/-- Work fails only for reasons that blame no value, whatever the source answers. -/
def Blameless (work : Play σ α) : Prop :=
  ∀ table, Fault.Blameless (work.run table).1

namespace Blameless

theorem ofExcept
    {outcome : Except Fault α}
    (blameless : Fault.Blameless outcome) :
    Blameless (Play.ofExcept outcome : Play σ α) :=
  fun _ => blameless

theorem pure (value : α) : Blameless (Pure.pure value : Play σ α) :=
  fun _ => .ok value

theorem note (record : Log.Record) : Blameless (Play.note record : Play σ Unit) :=
  fun _ => .ok ()

theorem bind
    {work : Play σ α}
    {next : α → Play σ β}
    (blameless : Blameless work)
    (blamelessNext : ∀ value, Blameless (next value)) :
    Blameless (work >>= next) := by
  intro table
  rw [run_bind]
  have first := blameless table
  rcases ran : work.run table with ⟨fault | value, after⟩
  · rw [ran] at first
    exact .error (first fault rfl)
  · exact blamelessNext value after

theorem draw [RandomSource σ] (bounds : Bounds) : Blameless (Play.draw bounds : Play σ Int) := by
  intro table
  rw [run_draw]
  cases (RandomSource.draw bounds table.source).1 with
  | ok value => exact .ok value
  | error failure => exact .error (blamesNoValue_source failure)

end Blameless

section Rolling

variable [RandomSource σ]

theorem blameless_rollDice (sides count : Nat) (rolled : List Int) :
    Blameless (rollDice sides count rolled : Play σ (List Int)) := by
  induction count generalizing rolled with
  | zero => exact .pure rolled.reverse
  | succ count inductionHypothesis =>
      apply (Blameless.draw (dieBounds sides)).bind
      intro value
      exact inductionHypothesis (value :: rolled)

theorem blameless_rollPool (pool : Pool) (source : String) :
    Blameless (rollPool pool source : Play σ Outcome) := by
  apply (blameless_rollDice pool.sides pool.count []).bind
  intro rolls
  apply (Blameless.ofExcept (blameless_settle pool source rolls)).bind
  intro outcome
  apply (Blameless.ofExcept outcome.blameless_record).bind
  intro record
  apply (Blameless.note record).bind
  intro _
  exact .pure outcome

theorem blameless_rollTimes
    (pool : Pool)
    (source : String)
    (times : Nat)
    (outcomes : List Outcome) :
    Blameless (rollTimes pool source times outcomes : Play σ (List Outcome)) := by
  induction times generalizing outcomes with
  | zero => exact .pure outcomes.reverse
  | succ times inductionHypothesis =>
      apply (blameless_rollPool pool source).bind
      intro outcome
      exact inductionHypothesis (outcome :: outcomes)

/-- Rolling a pool that exists blames none of its values. -/
theorem blameless_rollMany (pool : Pool) (times : Int) :
    Blameless (rollMany (.pool pool) times : Play σ (List Outcome)) := by
  by_cases tooFew : times < 1
  · rw [rollMany_of_lt_one (.pool pool) tooFew]
    exact fun _ => .error (blamesNoValue_raised (blamesNoValue_of_kind_ne (by simp [kind])))
  · rw [rollMany_of_one_le (.pool pool) (by omega)]
    apply (Blameless.pure pool).bind
    intro rolled
    apply (Blameless.ofExcept pool.blameless_short).bind
    intro source
    exact blameless_rollTimes rolled source times.toNat []

end Rolling
end Play
end Tabletop
