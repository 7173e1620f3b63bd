import Tabletop.Log
import Tabletop.Supplied

/-!
# The table

Play happens at a table.  The table holds the random source, and remembers every
request made of it, every record written, and every generator that was opened.
Work at the table may fail; what it did before it failed stays done.
-/

namespace Tabletop

/-- The state of play. -/
structure Table (σ : Type) where
  /-- The random source as it is now. -/
  source : σ
  /-- The requests made of the source so far. -/
  calls : Array Bounds
  /-- The records written so far. -/
  records : Array Log.Record
  /-- The seeds of the generators opened so far; none for a generator without a
  seed. -/
  generators : Array (Option (Supplied Int))

/-- A table where nothing has happened yet. -/
def Table.opening (source : σ) : Table σ :=
  { source, calls := #[], records := #[], generators := #[] }

/-- The different requests made so far, in the order of their first use. -/
def Table.distinctCalls (table : Table σ) : List Bounds :=
  table.calls.toList.eraseDups

/-- A seed is accepted for a generator on sources of a kind: a number always, no seed at
all, too, and a seed that was left blank only where the sources take it. -/
def RandomSource.acceptSeed
    (σ : Type)
    [RandomSource σ] : Option (Supplied Int) → Except Fault Unit
  | none => .ok ()
  | some (.value _) => .ok ()
  | some .blank => if takesBlank σ then .ok () else .error .blankSeed

/-- Work at a table, which may fail. -/
abbrev Play (σ : Type) := ExceptT Fault (StateM (Table σ))

namespace Play

/-- The outcome of work at a table, and the table afterwards. -/
def run (work : Play σ α) (table : Table σ) : Except Fault α × Table σ :=
  StateT.run (ExceptT.run work) table

/-- Work that only computes. -/
def ofExcept (outcome : Except Fault α) : Play σ α :=
  ExceptT.mk (pure outcome)

/-- Change the table. -/
def update (change : Table σ → Table σ) : Play σ Unit :=
  ExceptT.mk (fun table => (.ok (), change table))

/-- The outcome of work, without failing where the work fails. -/
def attempt (work : Play σ α) : Play σ (Except Fault α) :=
  ExceptT.mk (fun table =>
    match work.run table with
    | (outcome, after) => (.ok outcome, after))

/-- Write a record. -/
def note (record : Log.Record) : Play σ Unit :=
  update fun table => { table with records := table.records.push record }

/-- Open a generator with a seed, or without one, if that is accepted.  All generators draw
from the source of the table. -/
def openGenerator [RandomSource σ] (seed : Option (Supplied Int)) : Play σ Unit := do
  ofExcept (RandomSource.acceptSeed σ seed)
  update fun table => { table with generators := table.generators.push seed }

/-- Ask the source for a number; the request counts even if the source fails. -/
def draw [RandomSource σ] (bounds : Bounds) : Play σ Int :=
  ExceptT.mk fun table =>
    match RandomSource.draw bounds table.source with
    | (answer, source) =>
        (answer.mapError .source,
          { table with source, calls := table.calls.push bounds })

/-! ## Runs -/

/-- Work that is done already leaves the table as it is. -/
@[simp] theorem run_pure (value : α) (table : Table σ) :
    (pure value : Play σ α).run table = (.ok value, table) :=
  rfl

/-- Work that fails at once leaves the table as it is. -/
@[simp] theorem run_throw (fault : Fault) (table : Table σ) :
    (throw fault : Play σ α).run table = (.error fault, table) :=
  rfl

/-- Work that only computes leaves the table as it is. -/
@[simp] theorem run_ofExcept (outcome : Except Fault α) (table : Table σ) :
    (ofExcept outcome).run table = (outcome, table) :=
  rfl

/-- Work goes on at the table that the first part left, unless that failed. -/
theorem run_bind
    (work : Play σ α)
    (next : α → Play σ β)
    (table : Table σ) :
    Play.run (work >>= next) table =
      match work.run table with
      | (.ok value, after) => (next value).run after
      | (.error fault, after) => (.error fault, after) := by
  change StateT.run (ExceptT.run (work >>= next)) table = _
  rw [ExceptT.run_bind, StateT.run_bind]
  unfold run
  rcases StateT.run (ExceptT.run work) table with ⟨_ | _, _⟩ <;> rfl

/-- Trying work out changes the table as the work does, and never fails. -/
@[simp] theorem run_attempt (work : Play σ α) (table : Table σ) :
    work.attempt.run table = (.ok (work.run table).1, (work.run table).2) :=
  rfl

/-- Writing a record adds it after the others. -/
@[simp] theorem run_note (record : Log.Record) (table : Table σ) :
    (note record).run table =
      (.ok (), { table with records := table.records.push record }) :=
  rfl

/-- Opening a generator remembers its seed. -/
theorem run_openGenerator
    [RandomSource σ]
    {seed : Option (Supplied Int)}
    (accepted : RandomSource.acceptSeed σ seed = .ok ())
    (table : Table σ) :
    (openGenerator seed).run table =
      (.ok (), { table with generators := table.generators.push seed }) := by
  unfold openGenerator
  rw [run_bind, run_ofExcept, accepted]
  rfl

/-- No generator is opened with a seed that is not accepted. -/
theorem run_openGenerator_of_error
    [RandomSource σ]
    {seed : Option (Supplied Int)}
    {fault : Fault}
    (refused : RandomSource.acceptSeed σ seed = .error fault)
    (table : Table σ) :
    (openGenerator seed).run table = (.error fault, table) := by
  unfold openGenerator
  rw [run_bind, run_ofExcept, refused]

/-- A request is remembered whether the source answers or fails. -/
@[simp] theorem run_draw
    [RandomSource σ]
    (bounds : Bounds)
    (table : Table σ) :
    (draw bounds).run table =
      ((RandomSource.draw bounds table.source).1.mapError .source,
        { table with
          source := (RandomSource.draw bounds table.source).2
          calls := table.calls.push bounds }) :=
  rfl

end Play
end Tabletop
