import Tabletop.Proofs.Composition
import Tabletop.Proofs.Roll.Rendering

/-!
# What is written at a table

Records are only ever added after those that are there.  Reading orders and rolling dice add
none but those of texts that are no notations and of outcomes.
-/

namespace Tabletop

namespace Log

/-- Someone who hears what is written at the debug level and above. -/
def Listener.debugging : Log.Listener where
  threshold := some .debug
  enabled := true

theorem Listener.heard_debugging
    {records : List Record}
    (loud : ∀ record ∈ records, record.level ≠ .trace) :
    debugging.heard records = records := by
  apply List.filter_eq_self.mpr
  intro record member
  have untraced := loud record member
  unfold hears debugging
  cases level : record.level with
  | trace => contradiction
  | _ => rfl

/-- A record of play: of a text that is no notation, or of the outcome of a roll. -/
inductive Record.IsOfPlay : Record → Prop
  | rejected (text : String) : IsOfPlay (Play.rejection text)
  | rolled {outcome : Outcome} {record : Record} :
      outcome.record = .ok record → IsOfPlay record

/-- The level and the first letters of a record of play tell it from others. -/
theorem Record.IsOfPlay.shape
    {record : Record}
    (isOfPlay : record.IsOfPlay) :
    record.level = .debug ∧
      (record.message.toList.take 2 = ['P', 'A'] ∨ record.message.toList.take 2 = ['R', 'O']) := by
  cases isOfPlay with
  | rejected text =>
      refine ⟨rfl, .inl ?_⟩
      simp [Play.rejection, Record.debug]
  | rolled written =>
      obtain ⟨-, rfl⟩ := Outcome.record_eq_ok_iff.mp written
      refine ⟨rfl, .inr ?_⟩
      simp [Record.debug]

end Log

/-- What an array holds after its first items. -/
theorem toList_extract_of_append
    {items : Array α}
    {earlier later : List α}
    (whole : items.toList = earlier ++ later) :
    (items.extract earlier.length).toList = later := by
  have size : items.size = earlier.length + later.length := by
    rw [← Array.length_toList, whole, List.length_append]
  rw [Array.toList_extract, List.extract_eq_take_drop, whole, List.drop_left,
    List.take_of_length_le (by omega)]

namespace Play

/-- Work adds records of a kind, and takes none away. -/
def Writes (kind : Log.Record → Prop) (work : Play σ α) : Prop :=
  ∀ table : Table σ, ∃ written,
    (work.run table).2.records.toList = table.records.toList ++ written ∧
      ∀ record ∈ written, kind record

variable {kind : Log.Record → Prop}

theorem writes_of_records_eq
    {work : Play σ α}
    (same : ∀ table, (work.run table).2.records = table.records) :
    Writes kind work := by
  intro table
  exact ⟨[], by rw [same, List.append_nil], List.forall_mem_nil kind⟩

theorem writes_note
    {record : Log.Record}
    (isOfKind : kind record) :
    Writes kind (note record : Play σ Unit) := by
  intro table
  exact ⟨[record], Array.toList_push, List.forall_mem_singleton.mpr isOfKind⟩

/-- What is written first comes before what is written after it. -/
theorem writes_bind
    {work : Play σ α}
    {next : α → Play σ β}
    (first : Writes kind work)
    (second : ∀ value, Writes kind (next value)) :
    Writes kind (work >>= next) := by
  intro table
  obtain ⟨written, records, ofKind⟩ := first table
  rw [run_bind]
  rcases ran : work.run table with ⟨fault | value, middle⟩
  · rw [ran] at records
    exact ⟨written, records, ofKind⟩
  · rw [ran] at records
    obtain ⟨later, recordsLater, ofKindLater⟩ := second value middle
    refine ⟨written ++ later, ?_, List.forall_mem_append.mpr ⟨ofKind, ofKindLater⟩⟩
    rw [recordsLater, records, List.append_assoc]

theorem writes_draw [RandomSource σ] (bounds : Bounds) :
    Writes kind (draw bounds : Play σ Int) :=
  writes_of_records_eq fun _ => rfl

/-- Reading orders and settling rolls writes records of play. -/
theorem composable_writes :
    ComposableInPlay (fun {α : Type} (work : Play σ α) => Writes Log.Record.IsOfPlay work) where
  ofExcept outcome := writes_of_records_eq fun _ => rfl
  reject text := writes_note (.rejected text)
  record outcome := by
    cases written : outcome.record with
    | error fault => exact writes_of_records_eq fun _ => rfl
    | ok record => exact writes_note (.rolled written)
  bind := writes_bind

end Play
end Tabletop
