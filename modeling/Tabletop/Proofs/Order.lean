import Tabletop.Limits
import Tabletop.Proofs.Pool

/-!
# Reading orders

An order denotes a pool, or there is a reason why it denotes none.  Reading it at a
table gives just that, and leaves the table as it is apart from the record of a text
that is no notation.
-/

namespace Tabletop

/-- The pool that an order denotes, or why it denotes none. -/
def Order.denoted : Order → Except Fault Pool
  | .written text => Notation.parse text
  | .pool given => .ok given

theorem Order.denoted_pool (pool : Pool) :
    (Order.pool pool).denoted = .ok pool :=
  rfl

/-- The table after an order was read: a text that is no notation is written down. -/
def Table.afterReading (table : Table σ) : Order → Table σ
  | .written text =>
      if Notation.isValid text then table
      else { table with records := table.records.push (Play.rejection text) }
  | .pool _ => table

@[simp] theorem Table.source_afterReading (table : Table σ) (order : Order) :
    (table.afterReading order).source = table.source := by
  unfold afterReading
  split
  · split <;> rfl
  · rfl

@[simp] theorem Table.calls_afterReading (table : Table σ) (order : Order) :
    (table.afterReading order).calls = table.calls := by
  unfold afterReading
  split
  · split <;> rfl
  · rfl

/-- A text that stands for a pool is a notation. -/
theorem Notation.isValid_of_parse
    {text : String}
    {pool : Pool}
    (parsed : Notation.parse text = .ok pool) :
    Notation.isValid text = true := by
  unfold Notation.parse at parsed
  unfold Notation.isValid
  cases found : Notation.read? text.toList with
  | none => simp [found] at parsed
  | some parts => rfl

/-- Nothing is written down about an order that denotes a pool. -/
theorem Table.afterReading_of_denoted
    (table : Table σ)
    {order : Order}
    {pool : Pool}
    (denoted : order.denoted = .ok pool) :
    table.afterReading order = table := by
  cases order with
  | pool other => rfl
  | written text => exact if_pos (Notation.isValid_of_parse denoted)

namespace Play

theorem parse_of_isValid
    {text : String}
    (valid : Notation.isValid text = true) :
    (parse text : Play σ Pool) = ofExcept (Notation.parse text) := by
  unfold parse
  rw [if_pos valid]

theorem parse_of_not_isValid
    {text : String}
    (invalid : ¬ Notation.isValid text = true) :
    (parse text : Play σ Pool) =
      note (rejection text) >>= fun _ => ofExcept (Notation.parse text) := by
  unfold parse
  rw [if_neg invalid]

theorem run_parse (text : String) (table : Table σ) :
    (parse text).run table =
      (Notation.parse text, table.afterReading (.written text)) := by
  unfold Table.afterReading
  by_cases valid : Notation.isValid text
  · simp [valid, parse_of_isValid valid]
  · simp [valid, parse_of_not_isValid valid, run_bind]

/-- An order is read as the pool that it denotes. -/
theorem run_resolve (order : Order) (table : Table σ) :
    (resolve order).run table = (order.denoted, table.afterReading order) := by
  cases order with
  | written text => exact run_parse text table
  | pool pool => rfl

theorem run_resolve_of_denoted
    {order : Order}
    {pool : Pool}
    (denoted : order.denoted = .ok pool)
    (table : Table σ) :
    (resolve order).run table = (.ok pool, table) := by
  rw [run_resolve, denoted, table.afterReading_of_denoted denoted]

/-- Describing an order reads it, and then only computes. -/
theorem run_describeShort (order : Order) (table : Table σ) :
    (describeShort order).run table =
      (order.denoted >>= Pool.short, table.afterReading order) := by
  unfold describeShort
  rw [run_bind, run_resolve]
  cases order.denoted with
  | error fault => rfl
  | ok pool => simp only [run_ofExcept, Fault.ok_bind]

theorem run_describeShort_of_denoted
    {order : Order}
    {pool : Pool}
    {written : String}
    (denoted : order.denoted = .ok pool)
    (short : pool.short = .ok written)
    (table : Table σ) :
    (describeShort order).run table = (.ok written, table) := by
  rw [run_describeShort, denoted, table.afterReading_of_denoted denoted]
  simp only [Fault.ok_bind, short]

theorem run_checkLimits_of_denoted
    {order : Order}
    {pool : Pool}
    (denoted : order.denoted = .ok pool)
    (limits : Limits)
    (times : Int)
    (table : Table σ) :
    (checkLimits limits order times).run table = (limits.check pool times, table) := by
  unfold checkLimits
  rw [run_bind, run_resolve_of_denoted denoted]
  rfl

theorem rollMany_of_lt_one
    [RandomSource σ]
    (order : Order)
    {times : Int}
    (tooFew : times < 1) :
    (rollMany order times : Play σ (List Outcome)) =
      throw (.raised (.tooFewRolls times)) := by
  unfold rollMany
  rw [if_pos tooFew]
  rfl

/-- Rolling many times goes on only if the number of times is positive. -/
theorem rollMany_of_one_le
    [RandomSource σ]
    (order : Order)
    {times : Int}
    (positive : 1 ≤ times) :
    (rollMany order times : Play σ (List Outcome)) =
      resolve order >>= fun pool =>
        ofExcept (sourceText order) >>= fun source =>
          rollTimes pool source times.toNat [] := by
  unfold rollMany
  rw [if_neg (by omega)]

/-- Work on what an order names is work on the pool that it denotes, at a table that is
as it was. -/
theorem run_reading_of_denoted
    {order : Order}
    {pool : Pool}
    {source : String}
    (denoted : order.denoted = .ok pool)
    (sourced : sourceText order = .ok source)
    (next : Pool → String → Play σ α)
    (table : Table σ) :
    Play.run (resolve order >>= fun pool => ofExcept (sourceText order) >>= next pool) table =
      (next pool source).run table := by
  rw [run_bind, run_resolve_of_denoted denoted]
  dsimp only
  rw [run_bind, run_ofExcept, sourced]

/-- Work on what an order names comes to nothing if the order denotes no pool or has no text
to be recorded under. -/
theorem run_reading_of_not_denoted
    {order : Order}
    (unreadable : ∀ pool source, order.denoted = .ok pool → sourceText order ≠ .ok source)
    (next : Pool → String → Play σ α)
    (table : Table σ) :
    ∃ fault,
      Play.run (resolve order >>= fun pool => ofExcept (sourceText order) >>= next pool) table =
        (.error fault, table.afterReading order) := by
  rw [run_bind, run_resolve]
  cases denoted : order.denoted with
  | error fault => exact ⟨fault, rfl⟩
  | ok pool =>
      cases sourced : sourceText order with
      | error fault => exact ⟨fault, rfl⟩
      | ok source => exact absurd sourced (unreadable pool source denoted)

end Play
end Tabletop
