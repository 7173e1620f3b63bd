import Tabletop.Proofs.Correspondence

/-!
# Outcomes under a text

An outcome is recorded under the text that was rolled.  Nothing else about a roll depends on
that text: a pool is rolled alike under any text, and a notation is rolled like the pool that
it stands for.
-/

namespace Tabletop

/-! ## Outcomes under another text -/

namespace Outcome

/-- An outcome recorded under another text. -/
def recordedAs (source : String) (outcome : Outcome) : Outcome :=
  { outcome with source }

/-- The outcome of a pool, recorded under a text. -/
structure IsOf (pool : Pool) (source : String) (outcome : Outcome) : Prop where
  pool : outcome.pool = pool
  source : outcome.source = source

/-- Outcomes of a pool, all recorded under a text. -/
def AllOf (pool : Pool) (source : String) (outcomes : List Outcome) : Prop :=
  ∀ outcome ∈ outcomes, outcome.IsOf pool source

theorem allOf_map_recordedAs
    {pool : Pool}
    {source : String}
    {outcomes : List Outcome}
    (allOf : AllOf pool source outcomes)
    (other : String) :
    AllOf pool other (outcomes.map (recordedAs other)) := by
  unfold AllOf
  rw [List.forall_mem_map]
  intro outcome member
  exact { pool := (allOf outcome member).pool, source := rfl }

/-- Whether an outcome can be written down does not depend on its text. -/
theorem liftRel_record (source : String) (outcome : Outcome) :
    Fault.LiftRel (fun _ _ => True) outcome.record (outcome.recordedAs source).record := by
  unfold record recordedAs
  apply (Fault.LiftRel.refl _).bind
  rintro kept _ rfl
  apply (Fault.LiftRel.refl _).bind
  rintro dropped _ rfl
  apply (Fault.LiftRel.refl _).bind
  rintro total _ rfl
  exact .ok trivial

end Outcome

namespace Play

open Outcome

variable {pool : Pool} {text short : String}

/-! ## A notation and its pool -/

/-- A notation names the pool that it stands for, and nothing is written down about it. -/
theorem resolve_written
    (parsed : Notation.parse text = .ok pool) :
    (resolve (.written text) : Play σ Pool) = resolve (.pool pool) := by
  change Play.parse text = _
  rw [parse_of_isValid (Notation.isValid_of_parse parsed), parsed]
  rfl

theorem checkLimits_written
    (parsed : Notation.parse text = .ok pool)
    (limits : Limits)
    (times : Int) :
    (checkLimits limits (.written text) times : Play σ Unit) =
      checkLimits limits (.pool pool) times := by
  unfold checkLimits
  rw [resolve_written parsed]

/-! ## Rolling under another text -/

theorem liftRel_settle (pool : Pool) (text short : String) (drawn : List Int) :
    Fault.LiftRel (fun left right => left.IsOf pool text ∧ right = left.recordedAs short)
      (settle pool text drawn) (settle pool short drawn) := by
  unfold settle
  apply (Fault.LiftRel.refl (Roll.keep pool.selection drawn)).bind
  rintro ⟨kept, dropped⟩ _ rfl
  exact .ok ⟨⟨rfl, rfl⟩, rfl⟩

section Rolling

variable [RandomSource σ]

/-- A pool comes to the same outcome whatever text it is recorded under. -/
theorem corresponds_rollPool (pool : Pool) (text short : String) :
    Corresponds (fun left right => left.IsOf pool text ∧ right = left.recordedAs short)
      (rollPool pool text : Play σ Outcome) (rollPool pool short) := by
  unfold rollPool
  apply (composable_corresponds.inPlay.rollDice (corresponds_draw (dieBounds pool.sides)) _ _).bind
  rintro drawn _ rfl
  apply (corresponds_ofExcept (liftRel_settle pool text short drawn)).bind
  rintro outcome _ ⟨settled, rfl⟩
  apply (corresponds_ofExcept (liftRel_record short outcome)).bind
  intro left right _
  apply (corresponds_note left right).bind
  intro _ _ _
  exact corresponds_pure ⟨settled, rfl⟩

theorem corresponds_rollTimes
    {earlier : List Outcome}
    (allOf : AllOf pool text earlier)
    (short : String)
    (times : Nat) :
    Corresponds (fun left right => AllOf pool text left ∧ right = left.map (recordedAs short))
      (rollTimes pool text times earlier : Play σ (List Outcome))
      (rollTimes pool short times (earlier.map (recordedAs short))) := by
  induction times generalizing earlier with
  | zero =>
      refine corresponds_pure ⟨?_, List.map_reverse.symm⟩
      exact fun outcome member => allOf outcome (List.mem_reverse.mp member)
  | succ times inductionHypothesis =>
      apply (corresponds_rollPool pool text short).bind
      rintro outcome _ ⟨settled, rfl⟩
      exact inductionHypothesis (List.forall_mem_cons.mpr ⟨settled, allOf⟩)

/-- A notation is rolled like its pool. -/
theorem corresponds_rollMany_written
    (parsed : Notation.parse text = .ok pool)
    (written : pool.short = .ok short)
    (times : Int) :
    Corresponds (fun left right => AllOf pool text left ∧ right = left.map (recordedAs short))
      (rollMany (.written text) times : Play σ (List Outcome)) (rollMany (.pool pool) times) := by
  by_cases tooFew : times < 1
  · rw [rollMany_of_lt_one _ tooFew, rollMany_of_lt_one _ tooFew]
    exact corresponds_ofExcept (.error _)
  · rw [rollMany_of_one_le _ (by omega), rollMany_of_one_le _ (by omega), resolve_written parsed,
      resolve, pure_bind, pure_bind, sourceText, sourceText, written]
    exact corresponds_rollTimes (List.forall_mem_nil _) short times.toNat

end Rolling

end Play
end Tabletop
