import Tabletop.Proofs.Composition
import Tabletop.Proofs.Supervision

/-!
# Corresponding work

Two pieces of work correspond if, at tables with the same source, they make the same
requests of it, and then fail with the same fault or give values that are related.
What they write down is their own affair.
-/

namespace Tabletop

/-- Tables with the same source, at which the same requests were made. -/
structure Table.Alike (left right : Table σ) : Prop where
  /-- The sources are the same. -/
  source : left.source = right.source
  /-- The requests so far are the same. -/
  calls : left.calls = right.calls

namespace Table.Alike

variable {first second third : Table σ}

theorem refl (table : Table σ) : table.Alike table :=
  ⟨rfl, rfl⟩

theorem symm (alike : first.Alike second) : second.Alike first :=
  ⟨alike.source.symm, alike.calls.symm⟩

theorem trans (earlier : first.Alike second) (later : second.Alike third) :
    first.Alike third :=
  ⟨earlier.source.trans later.source, earlier.calls.trans later.calls⟩

end Table.Alike

theorem Table.alike_noted (table : Table σ) (record : Log.Record) :
    (table.noted record).Alike table :=
  ⟨rfl, rfl⟩

theorem Table.alike_notedAll (table : Table σ) (records : List Log.Record) :
    (table.notedAll records).Alike table :=
  ⟨rfl, rfl⟩

/-- The same fault on both sides, or values that are related. -/
inductive Fault.LiftRel (related : α → β → Prop) :
    Except Fault α → Except Fault β → Prop
  | ok {left : α} {right : β} : related left right → LiftRel related (.ok left) (.ok right)
  | error (fault : Fault) : LiftRel related (.error fault) (.error fault)

namespace Fault.LiftRel

theorem refl (outcome : Except Fault α) : LiftRel Eq outcome outcome := by
  cases outcome with
  | error fault => exact .error fault
  | ok value => exact .ok rfl

theorem eq {left right : Except Fault α} (same : LiftRel Eq left right) : left = right := by
  cases same with
  | ok equal => rw [equal]
  | error fault => rfl

theorem eq_map
    {make : β → α}
    {left : Except Fault α}
    {right : Except Fault β}
    (made : LiftRel (fun leftValue rightValue => leftValue = make rightValue) left right) :
    left = right.map make := by
  cases made with
  | ok equal => rw [equal]; rfl
  | error fault => rfl

theorem map_eq
    {make : α → β}
    {left : Except Fault α}
    {right : Except Fault β}
    (made : LiftRel (fun leftValue rightValue => rightValue = make leftValue) left right) :
    right = left.map make := by
  cases made with
  | ok equal => rw [equal]; rfl
  | error fault => rfl

theorem imp
    {related weaker : α → β → Prop}
    {left : Except Fault α}
    {right : Except Fault β}
    (outcomes : LiftRel related left right)
    (implies : ∀ leftValue rightValue, related leftValue rightValue →
      weaker leftValue rightValue) :
    LiftRel weaker left right := by
  cases outcomes with
  | ok values => exact .ok (implies _ _ values)
  | error fault => exact .error fault

theorem mapError
    {related : α → β → Prop}
    {left : Except Fault α}
    {right : Except Fault β}
    (outcomes : LiftRel related left right)
    (change : Fault → Fault) :
    LiftRel related (left.mapError change) (right.mapError change) := by
  cases outcomes with
  | ok values => exact .ok values
  | error fault => exact .error (change fault)

/-- Related outcomes stay related under steps that take related values to related
outcomes. -/
theorem bind
    {related : α → β → Prop}
    {relatedNext : γ → δ → Prop}
    {left : Except Fault α}
    {right : Except Fault β}
    {leftNext : α → Except Fault γ}
    {rightNext : β → Except Fault δ}
    (first : LiftRel related left right)
    (second : ∀ leftValue rightValue, related leftValue rightValue →
      LiftRel relatedNext (leftNext leftValue) (rightNext rightValue)) :
    LiftRel relatedNext (left >>= leftNext) (right >>= rightNext) := by
  cases first with
  | ok values => exact second _ _ values
  | error fault => exact .error fault

end Fault.LiftRel

namespace Play

/-- Work corresponds to other work, with related values. -/
def Corresponds
    (related : α → β → Prop)
    (left : Play σ α)
    (right : Play σ β) : Prop :=
  ∀ leftTable rightTable : Table σ,
    leftTable.Alike rightTable →
      Fault.LiftRel related (left.run leftTable).1 (right.run rightTable).1 ∧
        (left.run leftTable).2.Alike (right.run rightTable).2

theorem corresponds_ofExcept
    {related : α → β → Prop}
    {left : Except Fault α}
    {right : Except Fault β}
    (outcomes : Fault.LiftRel related left right) :
    Corresponds related (ofExcept left : Play σ α) (ofExcept right) :=
  fun _ _ alike => ⟨outcomes, alike⟩

theorem corresponds_pure
    {related : α → β → Prop}
    {left : α}
    {right : β}
    (values : related left right) :
    Corresponds related (pure left : Play σ α) (pure right) :=
  corresponds_ofExcept (.ok values)

theorem corresponds_note (left right : Log.Record) :
    Corresponds Eq (note left : Play σ Unit) (note right) :=
  fun _ _ alike => ⟨.refl _, ⟨alike.source, alike.calls⟩⟩

theorem corresponds_openGenerator
    [RandomSource σ]
    {seed : Option (Supplied Int)}
    (accepted : RandomSource.acceptSeed σ seed = .ok ()) :
    Corresponds Eq (openGenerator seed : Play σ Unit) (pure ()) := by
  intro left right alike
  rw [run_openGenerator accepted]
  exact ⟨.refl _, ⟨alike.source, alike.calls⟩⟩

theorem corresponds_draw [RandomSource σ] (bounds : Bounds) :
    Corresponds Eq (draw bounds : Play σ Int) (draw bounds) := by
  intro left right alike
  rw [run_draw, run_draw, alike.source, alike.calls]
  exact ⟨.refl _, ⟨rfl, rfl⟩⟩

namespace Corresponds

variable {related : α → β → Prop}

theorem bind
    {relatedNext : γ → δ → Prop}
    {left : Play σ α}
    {right : Play σ β}
    {leftNext : α → Play σ γ}
    {rightNext : β → Play σ δ}
    (first : Corresponds related left right)
    (second : ∀ leftValue rightValue, related leftValue rightValue →
      Corresponds relatedNext (leftNext leftValue) (rightNext rightValue)) :
    Corresponds relatedNext (left >>= leftNext) (right >>= rightNext) := by
  intro leftTable rightTable alike
  obtain ⟨outcomes, after⟩ := first leftTable rightTable alike
  rw [run_bind, run_bind]
  rcases leftRan : left.run leftTable with ⟨leftOutcome, leftAfter⟩
  rcases rightRan : right.run rightTable with ⟨rightOutcome, rightAfter⟩
  rw [leftRan, rightRan] at outcomes after
  cases outcomes with
  | ok values => exact second _ _ values leftAfter rightAfter after
  | error fault => exact ⟨.error fault, after⟩

theorem imp
    {weaker : α → β → Prop}
    {left : Play σ α}
    {right : Play σ β}
    (works : Corresponds related left right)
    (implies : ∀ leftValue rightValue, related leftValue rightValue →
      weaker leftValue rightValue) :
    Corresponds weaker left right := by
  intro leftTable rightTable alike
  obtain ⟨outcomes, after⟩ := works leftTable rightTable alike
  exact ⟨outcomes.imp implies, after⟩

/-- What is made of the same values is made of them afterwards. -/
theorem map
    {left right : Play σ α}
    (works : Corresponds Eq left right)
    (make : α → β) :
    Corresponds (fun made value => made = make value)
      (left >>= fun value => pure (make value)) right := by
  rw [← bind_pure right]
  apply works.bind
  rintro value _ rfl
  exact corresponds_pure rfl

theorem attempt
    {left : Play σ α}
    {right : Play σ β}
    (works : Corresponds related left right) :
    Corresponds (Fault.LiftRel related) left.attempt right.attempt := by
  intro leftTable rightTable alike
  obtain ⟨outcomes, after⟩ := works leftTable rightTable alike
  exact ⟨.ok outcomes, after⟩

/-- Work that only opens a generator can come first on one side. -/
theorem after_openGenerator
    [RandomSource σ]
    {left : Play σ α}
    {right : Play σ β}
    {seed : Option (Supplied Int)}
    (accepted : RandomSource.acceptSeed σ seed = .ok ())
    (works : Corresponds related left right) :
    Corresponds related (openGenerator seed >>= fun _ => left) right := by
  rw [← pure_bind () fun _ => right]
  exact (corresponds_openGenerator accepted).bind fun _ _ _ => works

end Corresponds

/-- Work that is made of corresponding steps corresponds to itself. -/
theorem composable_corresponds :
    Composable (fun {α : Type} (work : Play σ α) => Corresponds Eq work work) where
  ofExcept outcome := corresponds_ofExcept (.refl outcome)
  note record := corresponds_note record record
  bind first second := first.bind fun _ _ same => same ▸ second _
  attempt works := by
    intro left right alike
    obtain ⟨outcomes, after⟩ := works left right alike
    exact ⟨.ok outcomes.eq, after⟩

/-- Work that corresponds to itself does the same at tables with the same source. -/
theorem corresponds_rollMany [RandomSource σ] (order : Order) (times : Int) :
    Corresponds Eq (rollMany order times : Play σ (List Outcome)) (rollMany order times) :=
  composable_corresponds.inPlay.rollMany (fun sides => corresponds_draw (dieBounds sides))
    order times

end Play
end Tabletop
