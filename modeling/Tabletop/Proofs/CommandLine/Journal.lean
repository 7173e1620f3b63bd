import Tabletop.Proofs.CommandLine.Rolling
import Tabletop.Proofs.Records
import Tabletop.Proofs.Roll.Journal

/-!
# The journal of a command

A command that rolls or describes leaves a journal: a record that opens its operation, then
either that its text is no notation, or what the rolls that it completed came to, and last a
record that closes the operation in the way in which the program ends.  The level that is set
up decides who hears the journal, and nothing else.
-/

namespace Tabletop

/-! ## Reading a text -/

/-- What is written when a text is read: that it is no notation, if it is none. -/
def Play.rejections (text : String) : List Log.Record :=
  if Notation.isValid text then [] else [rejection text]

theorem Play.rejections_of_divides
    {parts : Notation}
    {text : String}
    (divides : parts.Divides text) :
    rejections text = [] :=
  if_pos (Notation.isValid_iff.mpr ⟨parts, divides⟩)

theorem Play.rejections_of_not_divides
    {text : String}
    (outside : ∀ parts : Notation, ¬ parts.Divides text) :
    rejections text = [rejection text] :=
  if_neg fun valid => not_exists.mpr outside (Notation.isValid_iff.mp valid)

theorem Table.records_afterReading (table : Table σ) (text : String) :
    (table.afterReading (.written text)).records.toList =
      table.records.toList ++ Play.rejections text := by
  unfold afterReading Play.rejections
  dsimp only
  split
  · exact (List.append_nil _).symm
  · exact Array.toList_push

namespace CommandLine

open Play

/-! ## Describing -/

theorem records_describeText (text : String) (short : Bool) (table : Table σ) :
    ((describeText text short).run table).2.records.toList =
      table.records.toList ++ rejections text := by
  rw [← Table.records_afterReading]
  cases short
  all_goals
    simp only [describeText, describe, describeShort, if_true, if_false, Bool.false_eq_true]
    rw [run_bind, run_resolve]
    cases (Order.written text).denoted with
    | error fault => rfl
    | ok pool => rfl

/-! ## Rolling -/

section Rolling

variable [RandomSource σ]

/-- The outcomes of the rolls that are completed when a text is rolled a number of times
within limits: of none if that is not admitted. -/
def completedWithin
    (limits : Limits)
    (text : String)
    (times : Supplied Int)
    (seed : Option (Supplied Int))
    (table : Table σ) : List Outcome :=
  match admitted σ limits text times seed with
  | .ok (pool, number) => completedRolls pool text number.toNat table
  | .error _ => []

/-- A text that is rolled leaves that it is no notation, or the entries of the rolls that are
completed. -/
theorem records_rollText
    (limits : Limits)
    (text : String)
    (times : Supplied Int)
    (seed : Option (Supplied Int))
    (json : Bool)
    (table : Table σ) :
    ((rollText limits text times seed json).run table).2.records.toList =
      table.records.toList ++
        (rejections text ++ (completedWithin limits text times seed table).map Outcome.entry) := by
  rw [run_rollText, completedWithin]
  cases admits : admitted σ limits text times seed with
  | error fault =>
      dsimp only
      rw [Table.records_afterReading, List.map_nil, List.append_nil]
  | ok admission =>
      obtain ⟨pool, number⟩ := admission
      obtain ⟨parsed, -, -, -⟩ := admitted_eq_ok admits
      have read : rejections text = [] := if_pos (Notation.isValid_of_parse parsed)
      let opened : Table σ := { table with generators := table.generators.push seed }
      have rolled := records_rollTimes pool text number.toNat opened
      rw [completedRolls_withGenerators] at rolled
      dsimp only
      rw [read, List.nil_append, run_bind]
      rcases ran : (rollTimes pool text number.toNat []).run opened with ⟨fault | outcomes, after⟩
      all_goals
        rw [ran] at rolled
        exact rolled

/-- A text that is rolled with success was rolled as many times as was asked for, and what is
given are those outcomes as text. -/
theorem completedWithin_of_rollText
    {limits : Limits}
    {text printed : String}
    {times : Supplied Int}
    {seed : Option (Supplied Int)}
    {json : Bool}
    {before after : Table σ}
    (ran : (rollText limits text times seed json).run before = (.ok printed, after)) :
    times = .value (completedWithin limits text times seed before).length ∧
      outcomesText json (completedWithin limits text times seed before) = .ok printed := by
  rw [run_rollText] at ran
  unfold completedWithin
  cases admits : admitted σ limits text times seed with
  | error fault =>
      rw [admits] at ran
      cases ran
  | ok admission =>
      obtain ⟨pool, number⟩ := admission
      rw [admits] at ran
      dsimp only at ran ⊢
      obtain ⟨outcomes, middle, rolled, finishing⟩ := run_bind_eq_ok_iff.mp ran
      obtain ⟨finished, -⟩ := run_ofExcept_eq_ok_iff.mp finishing
      obtain ⟨completed, length⟩ := completedRolls_of_rollTimes rolled
      rw [completedRolls_withGenerators] at completed
      obtain ⟨-, given, checked, -⟩ := admitted_eq_ok admits
      have positive := (Limits.check_eq_ok_iff.mp checked).2.1
      rw [completed, length, Int.toNat_of_nonneg (by omega)]
      exact ⟨given, finished⟩

/-! ## Tasks -/

/-- Work on a text that is supervised as an operation. -/
structure Task (σ : Type) where
  /-- The operation. -/
  operation : Operation
  /-- The text that the work reads. -/
  text : String
  /-- The work, which gives what is printed. -/
  work : Play σ String

/-- The task of a command; a command to serve has none. -/
def Command.task? (settings : Settings) : Command → Option (Task σ)
  | .roll text times seed json =>
      some {
        operation := rollOperation (rolledText settings text) times seed json
        text := rolledText settings text
        work := rollText settings.limits (rolledText settings text) times seed json }
  | .describe text short =>
      some {
        operation := describeOperation text short
        text
        work := describeText text short }
  | .serve _ _ => none

/-- The outcomes of the rolls that a command completes. -/
def Command.completed (settings : Settings) (table : Table σ) : Command → List Outcome
  | .roll text times seed _ =>
      completedWithin settings.limits (rolledText settings text) times seed table
  | .describe _ _ => []
  | .serve _ _ => []

/-- The records inside of a task: that its text is no notation, and the entries of the rolls
that its command completes. -/
def Command.inside
    (settings : Settings)
    (task : Task σ)
    (table : Table σ)
    (command : Command) : List Log.Record :=
  rejections task.text ++ (command.completed settings table).map Outcome.entry

variable {settings : Settings} {command : Command} {task : Task σ}

theorem Command.perform_of_task
    (tasked : command.task? settings = some task) :
    command.perform settings =
      (task.operation.supervise task.work >>= fun printed => pure (.text printed)) := by
  cases command with
  | roll text times seed json =>
      obtain rfl := Option.some.inj tasked
      rfl
  | describe text short =>
      obtain rfl := Option.some.inj tasked
      rfl
  | serve host port => cases tasked

theorem Command.exists_opening_of_task
    (writable : command.Writable)
    (tasked : command.task? settings = some task) :
    ∃ record, task.operation.opening = .ok record := by
  cases command with
  | roll text times seed json =>
      obtain rfl := Option.some.inj tasked
      exact opening_rollOperation (rolledText settings text) writable.1 writable.2 json
  | describe text short =>
      obtain rfl := Option.some.inj tasked
      cases short
      all_goals exact ⟨_, rfl⟩
  | serve host port => cases tasked

/-- The work of a task leaves the records inside of it. -/
theorem Command.records_of_task
    (tasked : command.task? settings = some task)
    (table : Table σ) :
    (task.work.run table).2.records.toList =
      table.records.toList ++ command.inside settings task table := by
  cases command with
  | roll text times seed json =>
      obtain rfl := Option.some.inj tasked
      exact records_rollText settings.limits (rolledText settings text) times seed json table
  | describe text short =>
      obtain rfl := Option.some.inj tasked
      rw [inside, completed, List.map_nil, List.append_nil]
      exact records_describeText text short table
  | serve host port => cases tasked

theorem Command.completed_congr
    {left right : Table σ}
    (alike : left.Alike right)
    (settings : Settings)
    (command : Command) :
    command.completed settings left = command.completed settings right := by
  cases command with
  | roll text times seed json =>
      unfold completed completedWithin
      dsimp only
      cases admitted σ settings.limits (rolledText settings text) times seed with
      | error fault => rfl
      | ok admission =>
          exact completedRolls_congr alike admission.1 (rolledText settings text)
            admission.2.toNat
  | describe text short => rfl
  | serve host port => rfl

/-- A text that is no notation is not rolled. -/
theorem Command.completed_of_not_divides
    (tasked : command.task? settings = some task)
    (outside : ∀ parts : Notation, ¬ parts.Divides task.text)
    (table : Table σ) :
    command.completed settings table = [] := by
  cases command with
  | roll text times seed json =>
      obtain rfl := Option.some.inj tasked
      have refused := Notation.parse_of_not_divides outside
      unfold completed completedWithin admitted
      dsimp only at refused ⊢
      rw [refused, Fault.error_bind]
  | describe text short => rfl
  | serve host port => rfl

/-- The outcomes of a roll that succeeds are as many as were asked for, and are what is
printed. -/
theorem Command.completed_of_run_roll
    {text : Option String}
    {times : Supplied Int}
    {seed : Option (Supplied Int)}
    {json : Bool}
    {printed : String}
    {before after : Table σ}
    (tasked : (Command.roll text times seed json).task? settings = some task)
    (ran : task.work.run before = (.ok printed, after)) :
    times = .value ((Command.roll text times seed json).completed settings before).length ∧
      outcomesText json ((Command.roll text times seed json).completed settings before) =
        .ok printed := by
  obtain rfl := Option.some.inj tasked
  exact completedWithin_of_rollText ran

/-! ## Runs -/

/-- An operation is concluded by the way in which its work and the program end: by one record
of success, of a fault of the caller's dice, which is reported, or of another one, which
escapes; and by none if there are no words for the fault, in whose place another one
escapes. -/
inductive Concludes (operation : Operation) :
    Except Fault String → Report → List Log.Record → Prop
  | success {printed : String} {report : Report} :
      report.ending = .exit 0 → report.output = printed ++ "\n" →
        Concludes operation (.ok printed) report [operation.success]
  | refusal {fault : Fault} {report : Report} :
      fault.isDice = true →
        report.ending = .exit 2 →
          report.errors = "error: " ++ fault.wording ++ "\n" →
            Concludes operation (.error fault) report [operation.failure fault.kind fault.wording]
  | escape {fault : Fault} {words : String} {report : Report} :
      ¬ fault.isDice = true →
        fault.written = .ok words →
          report.ending = .escape fault →
            Concludes operation (.error fault) report [operation.failure fault.kind words]
  | unwritten {fault other : Fault} {report : Report} :
      ¬ fault.isDice = true →
        fault.written = .error other →
          report.ending = .escape other →
            Concludes operation (.error fault) report []

theorem concludes_ofOutcome
    (operation : Operation)
    (heard : List Log.Record)
    (outcome : Except Fault String) :
    Concludes operation outcome
      (Report.ofOutcome heard ((outcome.mapError Fault.survivor).map .text))
      (operation.closings outcome) := by
  cases outcome with
  | ok printed => exact .success rfl rfl
  | error fault =>
      change Concludes operation _ (Report.ofOutcome heard (.error fault.survivor)) _
      by_cases dice : fault.isDice = true
      · have written := Fault.written_eq_of_ne_source (Fault.ne_source_of_isDice dice)
        rw [Fault.survivor_of_written written, Report.ofOutcome, if_pos dice,
          Operation.closings_of_written written]
        exact .refusal dice rfl rfl
      · have foreign : ¬ fault.survivor.isDice = true := by
          rwa [Fault.isDice_survivor]
        rw [Report.ofOutcome, if_neg foreign]
        cases written : fault.written with
        | ok words =>
            rw [Operation.closings_of_written written]
            exact .escape dice written (by rw [Fault.survivor_of_written written])
        | error other =>
            rw [Operation.closings_of_not_written written]
            exact .unwritten dice written (by rw [Fault.survivor_of_not_written written])

theorem Report.heard_ofOutcome (heard : List Log.Record) (outcome : Except Fault Product) :
    (Report.ofOutcome heard outcome).heard = heard := by
  cases outcome with
  | ok product =>
      cases product with
      | text text => rfl
      | service service => rfl
  | error fault =>
      rw [ofOutcome]
      split
      · rfl
      · rfl

/-- The program exits with success only after work that gave what is printed. -/
theorem Concludes.eq_ok_of_ending
    {operation : Operation}
    {ended : Except Fault String}
    {report : Report}
    {closing : List Log.Record}
    (concludes : Concludes operation ended report closing)
    (ending : report.ending = .exit 0) :
    ∃ printed, ended = .ok printed ∧ report.output = printed ++ "\n" := by
  cases concludes with
  | @success printed _ _ output => exact ⟨printed, rfl, output⟩
  | refusal _ other => cases other.symm.trans ending
  | escape _ _ other => cases other.symm.trans ending
  | unwritten _ _ other => cases other.symm.trans ending

/-! ## Journals -/

/-- A command leaves these records at a table: one that opens the operation of its task, and
then those of its text and its rolls. -/
structure Leaves
    (settings : Settings)
    (command : Command)
    (task : Task σ)
    (table : Table σ)
    (opening : Log.Record)
    (inside : List Log.Record) : Prop where
  /-- The first record names the operation and what it is given. -/
  opens : task.operation.Opens opening
  /-- A text that is no notation is written down, once. -/
  rejected : (∀ parts : Notation, ¬ parts.Divides task.text) → inside = [rejection task.text]
  /-- For a notation there is one entry for each roll that is completed, in their order. -/
  rolled :
    ∀ parts : Notation, parts.Divides task.text →
      inside = (command.completed settings table).map Outcome.entry

/-- A run writes a journal, which ends in the way in which the work of its task and the
program end. -/
structure Keeps
    (settings : Settings)
    (command : Command)
    (task : Task σ)
    (table : Table σ)
    (level : Log.Level)
    (opening : Log.Record)
    (inside closing : List Log.Record)
    (ran : Report × Table σ) : Prop where
  /-- Just the journal is written. -/
  written :
    ran.2.records.toList = table.records.toList ++ opening :: (inside ++ closing)
  /-- What is at the level or above it is heard. -/
  heard :
    ran.1.heard =
      (opening :: (inside ++ closing)).filter fun record =>
        level.severity ≤ record.level.severity
  /-- Everything is heard at the debug level. -/
  debugging : level = .debug → ran.1.heard = opening :: (inside ++ closing)
  /-- The end of the journal tells how the work and the program end. -/
  concludes :
    Concludes task.operation (task.work.run (table.noted opening)).1 ran.1 closing
  /-- A roll that succeeds completes as many rolls as it is asked for, and prints them. -/
  printed :
    ∀ text times seed json,
      command = .roll text times seed json →
        ran.1.ending = .exit 0 →
          times = .value (command.completed settings table).length ∧
            ∃ words,
              outcomesText json (command.completed settings table) = .ok words ∧
                ran.1.output = words ++ "\n"

theorem level_ne_trace_of_mem_journal
    {opening : Log.Record}
    (opens : task.operation.Opens opening)
    (command : Command)
    (table : Table σ)
    (ended : Except Fault α) :
    ∀ record ∈
      opening :: (command.inside settings task table ++ task.operation.closings ended),
      record.level ≠ .trace := by
  obtain ⟨given, rfl⟩ := opens
  have rejected : ∀ record ∈ rejections task.text, record.level ≠ .trace := by
    unfold rejections
    split
    · exact List.forall_mem_nil _
    · exact List.forall_mem_singleton.mpr nofun
  have rolled : ∀ record ∈ (command.completed settings table).map Outcome.entry,
      record.level ≠ .trace :=
    List.forall_mem_map.mpr fun _ _ => nofun
  have closed : ∀ record ∈ task.operation.closings ended, record.level ≠ .trace := by
    cases ended with
    | ok value => exact List.forall_mem_singleton.mpr nofun
    | error fault =>
        cases written : fault.written with
        | ok words =>
            rw [Operation.closings_of_written written]
            exact List.forall_mem_singleton.mpr nofun
        | error other =>
            rw [Operation.closings_of_not_written written]
            exact List.forall_mem_nil _
  exact List.forall_mem_cons.mpr ⟨nofun, List.forall_mem_append.mpr
    ⟨List.forall_mem_append.mpr ⟨rejected, rolled⟩, closed⟩⟩

theorem leaves_of_task
    {opening : Log.Record}
    (tasked : command.task? settings = some task)
    (opened : task.operation.opening = .ok opening)
    (table : Table σ) :
    Leaves settings command task table opening (command.inside settings task table) where
  opens := Operation.opens_of_opening opened
  rejected := by
    intro outside
    rw [Command.inside, Command.completed_of_not_divides tasked outside table,
      rejections_of_not_divides outside]
    rfl
  rolled := by
    intro parts divides
    rw [Command.inside, rejections_of_divides divides]
    rfl

section Runs

variable {environment : Option String} {arguments : List String} {invocation : Invocation}

/-- To carry out a command is to do its task between the records of its operation, and to
report what comes of it, with a fault in words. -/
theorem run_of_task
    {level : Log.Level}
    {opening : Log.Record}
    (read : Invocation.read settings arguments = .ok invocation)
    (tasked : invocation.command.task? settings = some task)
    (opened : task.operation.opening = .ok opening)
    (logged : invocation.setup settings environment = .ok level)
    (table : Table σ) :
    let done := task.work.run (table.noted opening)
    let closing := task.operation.closings done.1
    let journal := opening :: (invocation.command.inside settings task table ++ closing)
    let listener : Log.Listener := { threshold := some level, enabled := true }
    (done.2.notedAll closing).records.toList = table.records.toList ++ journal ∧
      run settings environment arguments table =
        (Report.ofOutcome (listener.heard journal)
          ((done.1.mapError Fault.survivor).map .text), done.2.notedAll closing) := by
  intro done closing journal listener
  have written :
      (done.2.notedAll closing).records.toList = table.records.toList ++ journal := by
    have same := invocation.command.completed_congr (table.alike_noted opening) settings
    rw [Table.toList_records_notedAll, Command.records_of_task tasked, Command.inside, same,
      ← Command.inside, Table.toList_records_noted]
    simp only [List.append_assoc, List.cons_append, List.nil_append, journal]
  have added := toList_extract_of_append written
  rw [Array.length_toList] at added
  refine ⟨written, ?_⟩
  unfold run Invocation.perform
  simp only [read, logged]
  rw [← added, Command.perform_of_task tasked, run_bind, Operation.run_supervise opened]
  dsimp only [done, closing]
  cases (task.work.run (table.noted opening)).1 with
  | ok printed => rfl
  | error fault => rfl

theorem keeps_of_task
    {level : Log.Level}
    {opening : Log.Record}
    (read : Invocation.read settings arguments = .ok invocation)
    (tasked : invocation.command.task? settings = some task)
    (opened : task.operation.opening = .ok opening)
    (logged : invocation.setup settings environment = .ok level)
    (table : Table σ) :
    Keeps settings invocation.command task table level opening
      (invocation.command.inside settings task table)
      (task.operation.closings (task.work.run (table.noted opening)).1)
      (run settings environment arguments table) := by
  obtain ⟨written, ran⟩ := run_of_task read tasked opened logged table
  have concludes := concludes_ofOutcome task.operation
    (run settings environment arguments table).1.heard (task.work.run (table.noted opening)).1
  rw [ran] at concludes ⊢
  rw [Report.heard_ofOutcome] at concludes
  refine {
    written := written
    heard := Report.heard_ofOutcome _ _
    debugging := ?debugging
    concludes := concludes
    printed := ?printed }
  case debugging =>
    rintro rfl
    rw [Report.heard_ofOutcome]
    exact Log.Listener.heard_debugging
      (level_ne_trace_of_mem_journal (Operation.opens_of_opening opened) _ table _)
  case printed =>
    intro text times seed json commanded ending
    have same := invocation.command.completed_congr (table.alike_noted opening) settings
    obtain ⟨words, succeeded, output⟩ := concludes.eq_ok_of_ending ending
    rw [commanded] at tasked
    obtain ⟨asked, worded⟩ := Command.completed_of_run_roll tasked (Prod.ext succeeded rfl)
    rw [← commanded, same] at asked worded
    exact ⟨asked, words, worded, output⟩

/-- A command to roll or to describe leaves one journal at a table, whatever the environment:
a record that opens its operation; inside, that its text is no notation, or the entries of the
rolls that it completes; and a record that closes the operation with success or with the fault
that the program ends with.  There is none at the end if the work ends with a fault that there
are no words for, and then the program ends with another fault.  At the debug level the whole
of the journal is heard, and at any other level the records at that level or above it. -/
theorem run_journal
    (read : Invocation.read settings arguments = .ok invocation)
    (tasked : invocation.command.task? settings = some task)
    (table : Table σ) :
    ∃ opening inside closing,
      Leaves settings invocation.command task table opening inside ∧
        ∀ environment level,
          invocation.setup settings environment = .ok level →
            Keeps settings invocation.command task table level opening inside closing
              (run settings environment arguments table) := by
  obtain ⟨opening, opened⟩ :=
    Command.exists_opening_of_task (Invocation.writable_of_read read) tasked
  exact ⟨opening, _, _, leaves_of_task tasked opened table, fun environment level logged =>
    keeps_of_task read tasked opened logged table⟩

end Runs

end Rolling

/-- Two dice are to be rolled three times, and the source has no number left for the second
die of the third roll: two rolls are written down between the records of the operation. -/
theorem run_journal_exhausted :
    let command := Command.roll (some "2d6") (.value 3) none false
    let invocation : Invocation := { debug := true, command }
    let arguments := ["--debug", "roll", "2d6", "--times", "3"]
    let operation := rollOperation "2d6" (.value 3) none false
    let work : Play ScriptedSource String :=
      rollText Settings.standard.limits "2d6" (.value 3) none false
    let ran := run .standard none arguments (Table.opening (ScriptedSource.script [1, 2, 3, 4, 5]))
    Invocation.read .standard arguments = .ok invocation ∧
      command.task? .standard = some { operation, text := "2d6", work } ∧
        invocation.setup .standard none = .ok .debug ∧
          ran.1.ending = .escape (.source ScriptedSource.exhausted) ∧
            ∃ opening ended closing,
              operation.Opens opening ∧
                Concludes operation ended ran.1 closing ∧
                  closing = [operation.failure "RuntimeError" "rng exhausted"] ∧
                    ran.1.heard =
                      [opening,
                        .debug "ROLL | source=2d6 | kept=[1, 2] | dropped=[] | total=3",
                        .debug "ROLL | source=2d6 | kept=[3, 4] | dropped=[] | total=7"] ++
                        closing := by
  intro command invocation arguments operation work ran
  let table := Table.opening (ScriptedSource.script [1, 2, 3, 4, 5])
  have read : Invocation.read .standard arguments = .ok invocation := by decide +kernel
  have tasked : command.task? .standard = some { operation, text := "2d6", work } := by
    simp [Command.task?, rolledText, command, operation, work]
  have logged : invocation.setup .standard none = .ok .debug := by decide +kernel
  have ended : ran.1.ending = .escape (.source ScriptedSource.exhausted) := by decide +kernel
  have valid : Notation.isValid "2d6" = true := by decide +kernel
  obtain ⟨parts, divides⟩ := Notation.isValid_iff.mp valid
  have entries : (command.completed .standard table).map Outcome.entry =
      [.debug "ROLL | source=2d6 | kept=[1, 2] | dropped=[] | total=3",
        .debug "ROLL | source=2d6 | kept=[3, 4] | dropped=[] | total=7"] := by
    decide +kernel
  have last : ran.1.heard.drop 3 = [operation.failure "RuntimeError" "rng exhausted"] := by
    decide +kernel
  obtain ⟨opening, inside, closing, leaves, keeps⟩ := run_journal read tasked table
  have kept := keeps none .debug logged
  have heard : ran.1.heard = opening :: (inside ++ closing) := kept.debugging rfl
  rw [leaves.rolled parts divides, entries] at heard
  rw [heard] at last
  exact ⟨read, tasked, logged, ended, opening, _, closing, leaves.opens, kept.concludes, last,
    heard⟩

/-- One die is to be rolled with a source whose failure has no words.  The other failure that is
met instead escapes, and no record closes the operation. -/
theorem run_journal_not_written :
    let arguments := ["--debug", "roll", "1d6"]
    let table := Table.opening (FailingSource.mk .ofLongNumber)
    let ran := run .standard none arguments table
    ran.1.ending = .escape (.source .longNumber) ∧
      ran.1.heard =
        [.debug
          "OP | op=roll | args=('1d6',) \x7b'times': 1, 'seed': None, 'as_json': False\x7d"] := by
  decide +kernel

end CommandLine
end Tabletop
