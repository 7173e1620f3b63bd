import Tabletop.Operation
import Tabletop.Proofs.Datum
import Tabletop.Proofs.Numeral

/-!
# Supervision

A supervised piece of work is done once, between the two records of its operation, and its
outcome is passed on as it is.  The records have to be put into words, which is not always
possible: what the work is given may hold a number beyond the digit limit, and then the work is
not done at all; and there may be no words for the fault that it fails with, and then another
fault takes its place.  Of the faults of this library only a failure of the source can be such.
-/

namespace Tabletop

/-- A table with one more record. -/
def Table.noted (table : Table σ) (record : Log.Record) : Table σ :=
  { table with records := table.records.push record }

@[simp] theorem Table.toList_records_noted (table : Table σ) (record : Log.Record) :
    (table.noted record).records.toList = table.records.toList ++ [record] :=
  Array.toList_push

/-- A table with more records. -/
def Table.notedAll (table : Table σ) (records : List Log.Record) : Table σ :=
  { table with records := table.records ++ records }

@[simp] theorem Table.toList_records_notedAll (table : Table σ) (records : List Log.Record) :
    (table.notedAll records).records.toList = table.records.toList ++ records :=
  Array.toList_appendList

theorem Table.notedAll_append (table : Table σ) (first second : List Log.Record) :
    table.notedAll (first ++ second) = (table.notedAll first).notedAll second := by
  have appended : table.records ++ (first ++ second) = table.records ++ first ++ second :=
    List.foldl_append
  unfold Table.notedAll
  rw [appended]

theorem Play.run_note_eq_noted (record : Log.Record) (table : Table σ) :
    (note record).run table = (.ok (), table.noted record) :=
  rfl

namespace Fault

/-! ## Words of faults -/

/-- What is left of a fault that is put into words: the fault, or the one that is met instead
if there are none. -/
def survivor (fault : Fault) : Fault :=
  match fault.words with
  | .ok _ => fault
  | .error other => other

theorem survivor_of_written
    {fault : Fault}
    {words : String}
    (written : fault.written = .ok words) :
    fault.survivor = fault := by
  unfold Fault.written at written
  unfold survivor
  cases told : fault.words with
  | ok elements => rfl
  | error other =>
      rw [told] at written
      cases written

theorem survivor_of_not_written
    {fault other : Fault}
    (unwritten : fault.written = .error other) :
    fault.survivor = other := by
  unfold Fault.written at unwritten
  unfold survivor
  cases told : fault.words with
  | ok elements =>
      rw [told] at unwritten
      cases unwritten
  | error instead =>
      rw [told] at unwritten
      exact Except.error.inj unwritten

/-- Only a failure of the source can be without words of characters. -/
theorem words_eq_of_ne_source
    {fault : Fault}
    (other : ∀ failure, fault ≠ .source failure) :
    fault.words = .ok (Text.elements fault.wording) := by
  cases fault with
  | source failure => exact absurd rfl (other failure)
  | _ => rfl

theorem ne_source_of_isDice
    {fault : Fault}
    (dice : fault.isDice = true)
    (failure : SourceFailure) :
    fault ≠ .source failure := by
  rintro rfl
  cases dice

theorem written_eq_of_ne_source
    {fault : Fault}
    (other : ∀ failure, fault ≠ .source failure) :
    fault.written = .ok fault.wording := by
  rw [written, words_eq_of_ne_source other]
  exact congrArg Except.ok (Text.shown_elements fault.wording)

theorem survivor_of_isDice
    {fault : Fault}
    (dice : fault.isDice = true) :
    fault.survivor = fault :=
  survivor_of_written (written_eq_of_ne_source (ne_source_of_isDice dice))

/-- A fault that does not survive is a failure of the source, and so is what is left of it. -/
theorem isDice_survivor (fault : Fault) : fault.survivor.isDice = fault.isDice := by
  cases fault with
  | source failure =>
      cases failure with
      | worded kind words => rfl
      | wordless kind instead => rfl
  | _ => rfl

end Fault

namespace Datum

/-! ## Rows and mappings -/

/-- The items of a sequence can be put into words if each of them can. -/
theorem forall_mem_numbersOfItems_iff {items : List Datum} :
    (∀ number ∈ numbersOfItems items, Numeral.Writable number) ↔
      ∀ value ∈ items, value.Worded := by
  induction items with
  | nil => simp [numbersOfItems]
  | cons item items inductionHypothesis =>
      rw [numbersOfItems, List.forall_mem_append, inductionHypothesis, List.forall_mem_cons]
      rfl

theorem worded_mapping_iff {entries : List (String × Datum)} :
    (mapping entries).Worded ↔ ∀ entry ∈ entries, entry.2.Worded := by
  change (∀ number ∈ numbersOfEntries entries, Numeral.Writable number) ↔ _
  induction entries with
  | nil => simp [numbersOfEntries]
  | cons entry entries inductionHypothesis =>
      rw [numbersOfEntries, List.forall_mem_append, inductionHypothesis, List.forall_mem_cons]
      rfl

/-- A row is shown exactly if each of its values can be put into words. -/
theorem limitedBy_shownRow (items : List Datum) :
    Fault.LimitedBy (∀ value ∈ items, value.Worded) (shownRow items) := by
  rw [← forall_mem_numbersOfItems_iff, ← and_true (∀ number ∈ _, _)]
  refine (limitedBy_shownItems items).bind fun parts => ?_
  -- The last step lays the items out, whether there is one or more, and cannot fail.
  split
  · exact .of_ok _
  · exact .of_ok _

end Datum

namespace Operation

/-! ## The records of an operation -/

/-- What an operation is given can be put into words. -/
structure Worded (operation : Operation) : Prop where
  row : ∀ value ∈ operation.row, value.Worded
  named : ∀ entry ∈ operation.named, entry.2.Worded

/-- A record that opens an operation: with its name, and with what it is given in words. -/
def Opens (operation : Operation) (record : Log.Record) : Prop :=
  ∃ given, record = .debug ("OP | op=" ++ operation.name ++ " | args=" ++ given)

/-- A record that closes an operation with an outcome: of its success, or of the fault in
words. -/
inductive Closes (operation : Operation) (word : Fault → Except Fault String) :
    Except Fault α → Log.Record → Prop
  | success (value : α) : Closes operation word (.ok value) operation.success
  | failure {fault : Fault} {words : String} :
      word fault = .ok words →
        Closes operation word (.error fault) (operation.failure fault.kind words)

/-- An operation is opened exactly if what it is given can be put into words. -/
theorem limitedBy_opening (operation : Operation) :
    Fault.LimitedBy operation.Worded operation.opening := by
  have both := (Datum.limitedBy_shownRow operation.row).bind fun row =>
    (Datum.limitedBy_shown (.mapping operation.named)).map fun named =>
      Log.Record.debug ("OP | op=" ++ operation.name ++ " | args=" ++ row ++ " " ++ named)
  refine both.congr ?_
  rw [Datum.worded_mapping_iff]
  exact ⟨fun worded => ⟨worded.1, worded.2⟩, fun worded => ⟨worded.row, worded.named⟩⟩

theorem opens_of_opening
    {operation : Operation}
    {record : Log.Record}
    (opening : operation.opening = .ok record) :
    operation.Opens record := by
  obtain ⟨row, _, rest⟩ := Fault.bind_eq_ok_iff.mp opening
  obtain ⟨named, _, result⟩ := Fault.bind_eq_ok_iff.mp rest
  refine ⟨row ++ " " ++ named, ?_⟩
  rw [← Except.ok.inj result]
  simp only [String.append_assoc]

theorem closes_of_closing
    {operation : Operation}
    {word : Fault → Except Fault String}
    {outcome : Except Fault α}
    {record : Log.Record}
    (closing : operation.closing word outcome = .ok record) :
    operation.Closes word outcome record := by
  cases outcome with
  | ok value =>
      obtain rfl := Except.ok.inj closing
      exact .success value
  | error fault =>
      obtain ⟨words, worded, result⟩ := Fault.bind_eq_ok_iff.mp closing
      obtain rfl := Except.ok.inj result
      exact .failure worded

/-! ## Supervised work -/

section Supervision

variable {operation : Operation} {word : Fault → Except Fault String} {record : Log.Record}

/-- Work whose operation cannot be opened is not done. -/
theorem run_superviseWording_of_not_opened
    {fault : Fault}
    (opening : operation.opening = .error fault)
    (word : Fault → Except Fault String)
    (work : Play σ α)
    (table : Table σ) :
    (operation.superviseWording word work).run table = (.error fault, table) := by
  unfold superviseWording
  rw [Play.run_bind, Play.run_ofExcept, opening]

/-- Work whose operation is opened is done at the table with the record of that; what comes
after it depends on whether its outcome can be put into words. -/
theorem run_superviseWording
    (opening : operation.opening = .ok record)
    (word : Fault → Except Fault String)
    (work : Play σ α)
    (table : Table σ) :
    (operation.superviseWording word work).run table =
      let done := work.run (table.noted record)
      match operation.closing word done.1 with
      | .ok closing => (done.1, done.2.noted closing)
      | .error other => (.error other, done.2) := by
  unfold superviseWording
  rw [Play.run_bind, Play.run_ofExcept, opening]
  dsimp only
  rw [Play.run_bind, Play.run_note_eq_noted]
  dsimp only
  rw [Play.run_bind, Play.run_attempt]
  dsimp only
  rw [Play.run_bind, Play.run_ofExcept]
  cases operation.closing word (work.run (table.noted record)).1 with
  | error other => rfl
  | ok closing => rfl

theorem run_superviseWording_of_closing
    {closing : Log.Record}
    {work : Play σ α}
    {table : Table σ}
    (opening : operation.opening = .ok record)
    (closes : operation.closing word (work.run (table.noted record)).1 = .ok closing) :
    (operation.superviseWording word work).run table =
      ((work.run (table.noted record)).1, (work.run (table.noted record)).2.noted closing) := by
  rw [run_superviseWording opening]
  dsimp only
  rw [closes]

theorem run_superviseWording_of_not_closing
    {other : Fault}
    {work : Play σ α}
    {table : Table σ}
    (opening : operation.opening = .ok record)
    (unclosed : operation.closing word (work.run (table.noted record)).1 = .error other) :
    (operation.superviseWording word work).run table =
      (.error other, (work.run (table.noted record)).2) := by
  rw [run_superviseWording opening]
  dsimp only
  rw [unclosed]

/-- An outcome is closed exactly if its fault, if it is one, can be put into words. -/
theorem exists_closing
    {outcome : Except Fault α}
    (operation : Operation)
    (utterable : ∀ fault, outcome = .error fault → ∃ words, word fault = .ok words) :
    ∃ closing, operation.closing word outcome = .ok closing := by
  cases outcome with
  | ok value => exact ⟨_, rfl⟩
  | error fault =>
      obtain ⟨words, worded⟩ := utterable fault rfl
      exact ⟨_, Fault.bind_eq_ok_iff.mpr ⟨words, worded, rfl⟩⟩

/-- Work is done exactly once, between the two records of its operation: its value or its
fault is passed on, and what it writes stands between them.  This is so for whatever work,
wherever what it is given and the fault that it fails with can be put into words.  If what it
is given cannot, because it holds a number beyond the digit limit, the work is not done and
nothing is written; if its fault cannot, the fault of that takes its place, and there is no
record at the end. -/
theorem supervise_transparent
    (operation : Operation)
    (word : Fault → Except Fault String)
    (work : Play σ α)
    (table : Table σ) :
    let supervised := (operation.superviseWording word work).run table
    (operation.Worded →
      ∃ opening,
        operation.Opens opening ∧
          let done := work.run (table.noted opening)
          ((∀ fault, done.1 = .error fault → ∃ words, word fault = .ok words) →
            ∃ closing,
              operation.Closes word done.1 closing ∧
                supervised = (done.1, done.2.noted closing) ∧
                  ∀ written,
                    done.2.records.toList = (table.noted opening).records.toList ++ written →
                      supervised.2.records.toList =
                        table.records.toList ++ opening :: (written ++ [closing])) ∧
          (∀ fault other,
            done.1 = .error fault → word fault = .error other →
              supervised = (.error other, done.2))) ∧
    (¬ operation.Worded → supervised = (.error .numberTooLong, table)) := by
  intro supervised
  refine ⟨fun worded => ?opened, fun unworded => ?notOpened⟩
  case notOpened =>
    have opening := operation.limitedBy_opening.error unworded
    exact run_superviseWording_of_not_opened opening word work table
  case opened =>
    obtain ⟨opening, opened⟩ := operation.limitedBy_opening.ok worded
    refine ⟨opening, opens_of_opening opened, ?_⟩
    intro done
    refine ⟨fun utterable => ?_, fun fault other failed unutterable => ?_⟩
    · obtain ⟨closing, closes⟩ := operation.exists_closing utterable
      have result : supervised = (done.1, done.2.noted closing) :=
        run_superviseWording_of_closing opened closes
      refine ⟨closing, closes_of_closing closes, result, fun written records => ?_⟩
      rw [result, Table.toList_records_noted, records, Table.toList_records_noted]
      simp
    · have unclosed : operation.closing word done.1 = .error other := by
        rw [failed, closing, unutterable]
        rfl
      exact run_superviseWording_of_not_closing opened unclosed

/-- The operation of doubling a number. -/
def doubling (number : Int) : Operation :=
  { name := "double", row := [.integer number], named := [] }

theorem worded_doubling_iff {number : Int} :
    (doubling number).Worded ↔ Numeral.Writable number := by
  rw [← Datum.worded_integer_iff]
  exact ⟨fun worded => List.forall_mem_singleton.mp worded.row,
    fun worded => ⟨List.forall_mem_singleton.mpr worded, nofun⟩⟩

/-- Work that writes and then gives a value is done between the records of an operation that is
given a small number, and is not done for one that is given a number beyond the digit limit; a
fault that there are no words for is replaced. -/
theorem supervise_transparent_halfWay :
    let tooLong : Int := (10 ^ Numeral.digitLimit : Nat)
    let step : Log.Record := .debug "half way"
    let work (outcome : Except Fault Nat) : Play ScriptedSource Nat :=
      Play.note step >>= fun _ => Play.ofExcept outcome
    let table := Table.opening (ScriptedSource.script [])
    let wordless : Fault → Except Fault String := fun _ => .error .numberTooLong
    let mute : Fault := .foreign "Boom" ""
    ((doubling 4).Worded ∧
      ∃ opening closing,
        ((doubling 4).superviseWording wordless (work (.ok 8))).run table =
          (.ok 8, ((table.noted opening).noted step).noted closing)) ∧
    (wordless mute = .error .numberTooLong ∧
      ∃ opening,
        ((doubling 4).superviseWording wordless (work (.error mute))).run table =
          (.error .numberTooLong, (table.noted opening).noted step)) ∧
    (¬ (doubling tooLong).Worded ∧
      ((doubling tooLong).superviseWording wordless (work (.ok 8))).run table =
        (.error .numberTooLong, table)) := by
  intro tooLong step work table wordless mute
  have worded : (doubling 4).Worded := worded_doubling_iff.mpr (by decide +kernel)
  have unworded : ¬ (doubling tooLong).Worded :=
    mt worded_doubling_iff.mp Numeral.not_writable_pow_digitLimit
  obtain ⟨opening, -, passed, -⟩ :=
    (supervise_transparent (doubling 4) wordless (work (.ok 8)) table).1 worded
  obtain ⟨closing, -, ran, -⟩ := passed nofun
  obtain ⟨otherOpening, -, -, replaced⟩ :=
    (supervise_transparent (doubling 4) wordless (work (.error mute)) table).1 worded
  have undone :=
    (supervise_transparent (doubling tooLong) wordless (work (.ok 8)) table).2 unworded
  exact ⟨⟨worded, opening, closing, ran⟩, ⟨rfl, otherOpening, replaced mute _ rfl rfl⟩, unworded,
    undone⟩

/-- Work that gives a value at every table is not done where the number that it is given is
beyond the digit limit: the value is not given, and no record is written. -/
theorem supervise_transparent_not_writable :
    let operation := doubling (10 ^ Numeral.digitLimit : Nat)
    let work : Play ScriptedSource Nat := Play.note (.debug "half way") >>= fun _ => pure 8
    let table := Table.opening (ScriptedSource.script [])
    (∀ before, (work.run before).1 = .ok 8) ∧
      ((operation.supervise work).run table).1 = .error .numberTooLong ∧
        ((operation.supervise work).run table).2.records = #[] := by
  intro operation work table
  have unworded : ¬ operation.Worded :=
    mt worded_doubling_iff.mp Numeral.not_writable_pow_digitLimit
  have ran : (operation.supervise work).run table = (.error .numberTooLong, table) :=
    run_superviseWording_of_not_opened (operation.limitedBy_opening.error unworded) _ work table
  rw [ran]
  exact ⟨fun _ => rfl, rfl, rfl⟩

/-! ## Faults in the words that they have -/

theorem run_supervise_of_not_opened
    {fault : Fault}
    (opening : operation.opening = .error fault)
    (work : Play σ α)
    (table : Table σ) :
    (operation.supervise work).run table = (.error fault, table) :=
  run_superviseWording_of_not_opened opening _ work table

/-- The records that close an operation: there is one, unless it failed with a fault that has
no words. -/
def closings (operation : Operation) (outcome : Except Fault α) : List Log.Record :=
  match operation.closing Fault.written outcome with
  | .ok record => [record]
  | .error _ => []

theorem closings_of_written
    {fault : Fault}
    {words : String}
    (written : fault.written = .ok words)
    (operation : Operation) :
    operation.closings (.error fault : Except Fault α) =
      [operation.failure fault.kind words] := by
  rw [closings, closing, written]
  rfl

theorem closings_of_not_written
    {fault other : Fault}
    (unwritten : fault.written = .error other)
    (operation : Operation) :
    operation.closings (.error fault : Except Fault α) = [] := by
  rw [closings, closing, unwritten]
  rfl

/-- Work whose operation is opened is done at the table with the record of that, and is closed
if there are words for what came of it.  A fault without words does not survive. -/
theorem run_supervise
    (opening : operation.opening = .ok record)
    (work : Play σ α)
    (table : Table σ) :
    (operation.supervise work).run table =
      let done := work.run (table.noted record)
      (done.1.mapError Fault.survivor, done.2.notedAll (operation.closings done.1)) := by
  rw [supervise, run_superviseWording opening]
  dsimp only
  cases (work.run (table.noted record)).1 with
  | ok value => rfl
  | error fault =>
      change _ = (Except.error fault.survivor, _)
      cases written : fault.written with
      | ok words =>
          rw [closings_of_written written, closing, written, Fault.survivor_of_written written]
          rfl
      | error other =>
          rw [closings_of_not_written written, closing, written,
            Fault.survivor_of_not_written written]
          rfl

end Supervision

end Operation
end Tabletop
