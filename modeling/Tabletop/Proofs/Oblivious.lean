import Tabletop.Proofs.Composition

/-!
# Work that does not look back

What happened at a table before is remembered but never consulted: work does at any
table what it does at a table where nothing has happened yet, with the same source.
So the requests made of the source only ever grow: work is quiet if it adds none, and
it draws if it adds one.
-/

namespace Tabletop

/-! ## Histories -/

/-- A table with what happened at a later one added to what happened before; the
source is that of the later one. -/
def Table.followedBy (table later : Table σ) : Table σ where
  source := later.source
  calls := table.calls ++ later.calls
  records := table.records ++ later.records
  generators := table.generators ++ later.generators

namespace Table

@[simp] theorem source_followedBy (table later : Table σ) :
    (table.followedBy later).source = later.source :=
  rfl

@[simp] theorem calls_followedBy (table later : Table σ) :
    (table.followedBy later).calls = table.calls ++ later.calls :=
  rfl

theorem followedBy_opening (table : Table σ) :
    table.followedBy (Table.opening table.source) = table := by
  unfold followedBy opening
  simp only [Array.append_empty]

theorem followedBy_assoc (first second third : Table σ) :
    (first.followedBy second).followedBy third =
      first.followedBy (second.followedBy third) := by
  unfold followedBy
  simp only [Array.append_assoc]

end Table

namespace Play

/-! ## Oblivious work -/

/-- Work does the same at every table with the same source. -/
def Oblivious (work : Play σ α) : Prop :=
  ∀ table : Table σ,
    work.run table =
      ((work.run (Table.opening table.source)).1,
        table.followedBy (work.run (Table.opening table.source)).2)

namespace Oblivious

variable {work : Play σ α}

theorem outcome_eq
    (oblivious : Oblivious work)
    {left right : Table σ}
    (same : left.source = right.source) :
    (work.run left).1 = (work.run right).1 := by
  rw [oblivious left, oblivious right, same]

theorem source_eq
    (oblivious : Oblivious work)
    {left right : Table σ}
    (same : left.source = right.source) :
    (work.run left).2.source = (work.run right).2.source := by
  rw [oblivious left, oblivious right, same]
  rfl

theorem calls_eq (oblivious : Oblivious work) (table : Table σ) :
    (work.run table).2.calls =
      table.calls ++ (work.run (Table.opening table.source)).2.calls := by
  rw [oblivious table, Table.calls_followedBy]

theorem prefix_calls (oblivious : Oblivious work) (table : Table σ) :
    table.calls.toList <+: (work.run table).2.calls.toList := by
  rw [oblivious.calls_eq table, Array.toList_append]
  exact List.prefix_append _ _

end Oblivious

theorem oblivious_draw [RandomSource σ] (bounds : Bounds) :
    Oblivious (draw bounds : Play σ Int) := by
  intro table
  simp only [run_draw]
  unfold Table.followedBy Table.opening
  simp

/-- What follows oblivious work goes on at a table with the same source, so it is
oblivious to the past before the work as well as to the work. -/
theorem oblivious_bind
    {work : Play σ α}
    {next : α → Play σ β}
    (first : Oblivious work)
    (second : ∀ value, Oblivious (next value)) :
    Oblivious (work >>= next) := by
  intro table
  rw [run_bind, run_bind, first table]
  rcases (work.run (Table.opening table.source)) with ⟨fault | value, middle⟩
  · rfl
  · dsimp only
    rw [second value (table.followedBy middle), second value middle, Table.source_followedBy,
      Table.followedBy_assoc]

theorem composable_oblivious : Composable (@Oblivious σ) where
  ofExcept := by
    intro _ outcome table
    simp only [run_ofExcept, Table.followedBy_opening]
  note := by
    intro record table
    simp only [run_note]
    unfold Table.followedBy Table.opening
    simp
  bind := oblivious_bind
  attempt := by
    intro _ work oblivious table
    rw [run_attempt, run_attempt, oblivious table]

/-! ## Quiet work -/

/-- Work makes no request of the source and leaves it as it is. -/
def Quiet (work : Play σ α) : Prop :=
  ∀ table : Table σ,
    (work.run table).2.source = table.source ∧ (work.run table).2.calls = table.calls

theorem quiet_bind
    {work : Play σ α}
    {next : α → Play σ β}
    (first : Quiet work)
    (second : ∀ value, Quiet (next value)) :
    Quiet (work >>= next) := by
  intro table
  obtain ⟨source, calls⟩ := first table
  rw [run_bind]
  rcases ran : work.run table with ⟨fault | value, middle⟩
  · rw [ran] at source calls
    exact ⟨source, calls⟩
  · rw [ran] at source calls
    obtain ⟨sourceNext, callsNext⟩ := second value middle
    exact ⟨sourceNext.trans source, callsNext.trans calls⟩

theorem composable_quiet : Composable (@Quiet σ) where
  ofExcept := by
    intro _ outcome table
    exact ⟨rfl, rfl⟩
  note := by
    intro record table
    exact ⟨rfl, rfl⟩
  bind := quiet_bind
  attempt := by
    intro _ work quiet
    exact quiet

/-! ## Work that asks the source -/

/-- Work makes a request of the source, whatever comes of it. -/
def Draws (work : Play σ α) (table : Table σ) : Prop :=
  table.calls.size < (work.run table).2.calls.size

theorem draws_bind
    {work : Play σ α}
    {next : α → Play σ β}
    {table : Table σ}
    (first : Draws work table)
    (second : ∀ value, Oblivious (next value)) :
    Draws (work >>= next) table := by
  unfold Draws at first ⊢
  rw [run_bind]
  rcases ran : work.run table with ⟨fault | value, middle⟩
  · rw [ran] at first
    exact first
  · rw [ran] at first
    have later := ((second value).prefix_calls middle).length_le
    rw [Array.length_toList, Array.length_toList] at later
    exact Nat.lt_of_lt_of_le first later

theorem draws_bind_of_run
    {work : Play σ α}
    {next : α → Play σ β}
    {before middle : Table σ}
    {value : α}
    (ran : work.run before = (.ok value, middle))
    (same : middle.calls = before.calls)
    (second : Draws (next value) middle) :
    Draws (work >>= next) before := by
  unfold Draws at second ⊢
  rw [run_bind, ran, ← same]
  exact second

section Rolling

variable [RandomSource σ]

theorem draws_draw (bounds : Bounds) (table : Table σ) :
    Draws (draw bounds) table := by
  unfold Draws
  rw [run_draw]
  simp

theorem draws_rollDice
    (sides : Nat)
    {count : Nat}
    (positive : 1 ≤ count)
    (rolled : List Int)
    (table : Table σ) :
    Draws (rollDice sides count rolled) table := by
  cases count with
  | zero => contradiction
  | succ count =>
      apply draws_bind (draws_draw (dieBounds sides) table)
      intro value
      exact composable_oblivious.inPlay.rollDice (oblivious_draw _) count (value :: rolled)

theorem draws_rollPool (pool : Pool) (source : String) (table : Table σ) :
    Draws (rollPool pool source) table := by
  apply draws_bind (draws_rollDice pool.sides pool.count_pos [] table)
  intro drawn
  exact composable_oblivious.inPlay.settling pool source drawn

theorem draws_rollTimes
    (pool : Pool)
    (source : String)
    {times : Nat}
    (positive : 1 ≤ times)
    (outcomes : List Outcome)
    (table : Table σ) :
    Draws (rollTimes pool source times outcomes) table := by
  cases times with
  | zero => contradiction
  | succ times =>
      apply draws_bind (draws_rollPool pool source table)
      intro outcome
      exact composable_oblivious.inPlay.rollTimes (oblivious_draw _) source times
        (outcome :: outcomes)

/-- Rolling an order that denotes a pool at least once asks the source. -/
theorem draws_rollMany
    {order : Order}
    {pool : Pool}
    {source : String}
    {times : Int}
    (positive : 1 ≤ times)
    (denoted : order.denoted = .ok pool)
    (sourced : sourceText order = .ok source)
    (table : Table σ) :
    Draws (rollMany order times) table := by
  unfold Draws
  rw [rollMany_of_one_le order positive, run_reading_of_denoted denoted sourced]
  exact draws_rollTimes pool source (by omega) [] table

end Rolling

end Play
end Tabletop
