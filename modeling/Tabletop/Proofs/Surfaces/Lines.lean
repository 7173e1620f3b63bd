import Tabletop.Proofs.Completion
import Tabletop.Proofs.Notation.Padding
import Tabletop.Proofs.Roll.Rendering
import Tabletop.Proofs.Surfaces.Admission
import Tabletop.Proofs.Web.Structured

/-!
# Lines of outcomes

A notation between blanks is rolled like the notation alone, and its outcomes are shown and
written down alike, as long as the blanks are cut.  The program then prints one line for
each outcome.  The one blank that is not cut stays in the line and in the record, with what
stands between it and the notation.
-/

namespace Tabletop

open CommandLine Play

/-! ## Outcomes under another text -/

namespace Outcome

theorem Writable.recordedAs
    {outcome : Outcome}
    (writable : outcome.Writable)
    (source : String) :
    (outcome.recordedAs source).Writable :=
  ⟨writable.kept, writable.dropped, writable.total⟩

theorem record_recordedAs
    {outcome : Outcome}
    {source : String}
    (same : Text.trim source = Text.trim outcome.source) :
    (outcome.recordedAs source).record = outcome.record := by
  unfold Outcome.record recordedAs
  dsimp only
  rw [same]

/-- Outcomes that can be written down are shown alike exactly if their texts are. -/
theorem line_recordedAs_eq_iff
    {outcome : Outcome}
    (writable : outcome.Writable)
    (source : String) :
    (outcome.recordedAs source).line = outcome.line ↔
      Text.trim source = Text.trim outcome.source := by
  rw [line_of_writable (writable.recordedAs source), line_of_writable writable, Except.ok.injEq]
  exact String.append_left_inj outcome.lineTail

theorem record_recordedAs_eq_iff
    {outcome : Outcome}
    (writable : outcome.Writable)
    (source : String) :
    (outcome.recordedAs source).record = outcome.record ↔
      Text.trim source = Text.trim outcome.source := by
  constructor
  · intro same
    rw [record_eq_ok_iff.mpr ⟨writable.recordedAs source, rfl⟩,
      record_eq_ok_iff.mpr ⟨writable, rfl⟩] at same
    have messages := congrArg Log.Record.message (Except.ok.inj same)
    have sources := (String.append_left_inj outcome.recordTail).mp messages
    exact (String.append_right_inj _).mp sources
  · exact record_recordedAs

end Outcome

namespace Play

/-! ## Notations between blanks -/

/-- A pool is rolled alike under texts that are shown alike. -/
theorem rollPool_recordedAs
    [RandomSource σ]
    {text other : String}
    (same : Text.trim other = Text.trim text)
    (pool : Pool) :
    (rollPool pool other : Play σ Outcome) =
      rollPool pool text >>= fun outcome => pure (outcome.recordedAs other) := by
  unfold rollPool
  simp only [bind_assoc, pure_bind]
  refine bind_congr fun drawn => ?_
  unfold settle
  cases Roll.keep pool.selection drawn with
  | error fault => rfl
  | ok sides =>
      let outcome : Outcome :=
        { total := Roll.total sides.1, pool, kept := sides.1, dropped := sides.2, source := text }
      have written : (outcome.recordedAs other).record = outcome.record :=
        Outcome.record_recordedAs same
      change (ofExcept (outcome.recordedAs other).record >>= fun record =>
          note record >>= fun _ => pure (outcome.recordedAs other)) =
        ofExcept outcome.record >>= fun record =>
          note record >>= fun _ => pure (outcome.recordedAs other)
      rw [written]

/-- A notation is looked up without a word about it. -/
theorem resolve_of_divides
    {parts : Notation}
    {text : String}
    (divides : parts.Divides text) :
    (resolve (.written text) : Play σ Pool) = ofExcept (Notation.parse text) :=
  parse_of_isValid (Notation.isValid_iff.mpr ⟨parts, divides⟩)

section Padded

variable {parts : Notation} {text : String} {before after : List Char}

/-- A notation between blanks is read as the notation. -/
theorem resolve_padded
    (bare : parts.IsBare text)
    (blank : ∀ character ∈ before ++ after, Text.IsBlank character) :
    (resolve (.written (Text.padded before text after)) : Play σ Pool) =
      resolve (.written text) := by
  rw [resolve_of_divides (bare.divides_padded blank), resolve_of_divides bare.toDivides,
    bare.parse_padded blank]

variable [RandomSource σ]

/-- Blanks around a notation change nothing about what is rolled, but the text that it is
recorded under. -/
theorem corresponds_roll_padded
    (bare : parts.IsBare text)
    (blank : ∀ character ∈ before ++ after, Text.IsBlank character) :
    Corresponds
      (fun alone padded =>
        alone.source = text ∧ padded = alone.recordedAs (Text.padded before text after))
      (roll (.written text) : Play σ Outcome)
      (roll (.written (Text.padded before text after))) := by
  unfold roll
  rw [resolve_padded bare blank]
  apply (composable_corresponds.inPlay.resolve (.written text)).bind
  rintro pool _ rfl
  exact (corresponds_rollPool pool text _).imp
    fun _ _ related => ⟨related.1.source, related.2⟩

theorem corresponds_rollMany_padded
    (bare : parts.IsBare text)
    (blank : ∀ character ∈ before ++ after, Text.IsBlank character)
    (times : Int) :
    Corresponds
      (fun alone padded =>
        (∀ outcome ∈ alone, outcome.source = text) ∧
          padded = alone.map (Outcome.recordedAs (Text.padded before text after)))
      (rollMany (.written text) times : Play σ (List Outcome))
      (rollMany (.written (Text.padded before text after)) times) := by
  by_cases tooFew : times < 1
  · rw [rollMany_of_lt_one _ tooFew, rollMany_of_lt_one _ tooFew]
    exact corresponds_ofExcept (.error _)
  · rw [rollMany_of_one_le _ (by omega), rollMany_of_one_le _ (by omega), resolve_padded bare blank]
    apply (composable_corresponds.inPlay.resolve (.written text)).bind
    rintro pool _ rfl
    apply (corresponds_rollTimes (List.forall_mem_nil _) _ times.toNat).imp
    rintro alone padded ⟨allOf, related⟩
    exact ⟨fun outcome member => (allOf outcome member).source, related⟩

/-- Where the blanks are cut, what is written down is the same, too. -/
theorem roll_padded
    (bare : parts.IsBare text)
    (blank : ∀ character ∈ before ++ after, Text.IsBlank character)
    (cut : '\uFEFF' ∉ before ++ after) :
    (roll (.written (Text.padded before text after)) : Play σ Outcome) =
      roll (.written text) >>= fun outcome =>
        pure (outcome.recordedAs (Text.padded before text after)) := by
  have same : Text.trim (Text.padded before text after) = Text.trim text := by
    rw [(bare.trim_padded_eq_iff blank).mpr cut, bare.trim_eq]
  unfold roll
  rw [resolve_padded bare blank, bind_assoc]
  refine bind_congr fun pool => ?_
  exact rollPool_recordedAs same pool

/-- An outcome of a notation is shown and written down alike between blanks exactly where the
blanks are cut. -/
theorem shown_recordedAs_padded_iff
    {outcome : Outcome}
    (bare : parts.IsBare text)
    (blank : ∀ character ∈ before ++ after, Text.IsBlank character)
    (writable : outcome.Writable)
    (source : outcome.source = text) :
    let recorded := outcome.recordedAs (Text.padded before text after)
    (recorded.line = outcome.line ↔ '\uFEFF' ∉ before ++ after) ∧
      (recorded.record = outcome.record ↔ '\uFEFF' ∉ before ++ after) := by
  intro recorded
  have shown := bare.trim_padded_eq_iff blank
  rw [Outcome.line_recordedAs_eq_iff writable, Outcome.record_recordedAs_eq_iff writable, source,
    bare.trim_eq]
  exact ⟨shown, shown⟩

end Padded

end Play

/-! ## Lines of outcomes -/

/-- Outcomes that can be written down are shown one by one, each after the same text. -/
theorem Outcome.mapM_line_of_writable
    {outcomes : List Outcome}
    {text : String}
    (writable : ∀ outcome ∈ outcomes, outcome.Writable)
    (shown : ∀ outcome ∈ outcomes, Text.trim outcome.source = text) :
    outcomes.mapM Outcome.line = .ok (outcomes.map fun outcome => text ++ outcome.lineTail) := by
  induction outcomes with
  | nil => rfl
  | cons outcome outcomes inductionHypothesis =>
      rw [List.forall_mem_cons] at writable shown
      rw [List.mapM_cons, line_of_writable writable.1, inductionHypothesis writable.2 shown.2,
        shown.1]
      rfl

theorem Notation.IsBare.plain
    {parts : Notation}
    {text : String}
    (bare : parts.IsBare text) :
    Text.Plain text := by
  intro character member
  obtain ⟨low, high⟩ := bare.isVisible character member
  exact ⟨Char.le_trans (by decide) low, high⟩

/-- Lines that are joined and ended by line feeds can be told apart. -/
theorem Text.splitOn_lines
    {lines : List String}
    (plain : ∀ line ∈ lines, Text.Plain line)
    (nonempty : lines ≠ []) :
    (String.intercalate "\n" lines ++ "\n").toList.splitOn '\n' =
      lines.map String.toList ++ [[]] := by
  have joined : (String.intercalate "\n" lines ++ "\n").toList =
      ['\n'].intercalate (lines.map String.toList ++ [[]]) := by
    rw [String.toList_append, String.toList_intercalate]
    clear plain
    induction lines with
    | nil => contradiction
    | cons first rest inductionHypothesis =>
        cases rest with
        | nil => simp
        | cons second others =>
            have later := inductionHypothesis (List.cons_ne_nil _ _)
            simp only [List.map_cons, List.cons_append, List.intercalate_cons_cons,
              List.append_assoc] at later ⊢
            rw [later]
            rfl
  rw [joined]
  apply List.splitOn_intercalate
  · rw [List.forall_mem_append, List.forall_mem_map]
    refine ⟨?_, by simp⟩
    intro line member feed
    exact absurd (plain line member '\n' feed).1 (by decide)
  · simp

namespace CommandLine

/-- What the program reports of so many rolls: a line for each outcome, in their order, or
nothing but that it fails. -/
inductive Prints (times : Int) : Except Fault (List Outcome) → Report → Prop
  | lines {outcomes : List Outcome} {lines : List String} {report : Report} :
      outcomes.mapM Outcome.line = .ok lines → lines.length = times →
        (∀ line ∈ lines, Text.Plain line) → report.ending = .exit 0 →
          report.output.toList.splitOn '\n' = lines.map String.toList ++ [[]] →
            Prints times (.ok outcomes) report
  | nothing {fault : Fault} {report : Report} :
      report.ending ≠ .exit 0 → report.output = "" → Prints times (.error fault) report

theorem prints_of_error
    (times : Int)
    (heard : List Log.Record)
    (fault reported : Fault) :
    Prints times (.error fault) (Report.ofOutcome heard (.error reported)) := by
  unfold Report.ofOutcome
  dsimp only
  split
  · exact .nothing (by simp) rfl
  · exact .nothing (by simp) rfl

/-- Outcomes are printed by the lines of others that are shown alike. -/
theorem prints_of_lines
    {times : Int}
    {outcomes others : List Outcome}
    {lines : List String}
    (shown : outcomes.mapM Outcome.line = .ok lines)
    (alike : others.mapM Outcome.line = .ok lines)
    (plain : ∀ line ∈ lines, Text.Plain line)
    (length : lines.length = times)
    (positive : 1 ≤ times)
    (heard : List Log.Record) :
    Prints times (.ok outcomes)
      (Report.ofOutcome heard
        (((outcomesText false others).mapError Fault.survivor).map .text)) := by
  have nonempty : lines ≠ [] := by
    rintro rfl
    rw [List.length_nil] at length
    omega
  have printed : outcomesText false others = .ok (String.intercalate "\n" lines) := by
    rw [outcomesText, if_neg (by decide), alike, Fault.ok_bind]
    rfl
  rw [printed]
  exact .lines shown length plain rfl (Text.splitOn_lines plain nonempty)

/-- What the limits say of a notation between blanks they say of the notation. -/
theorem verdict_padded
    {parts : Notation}
    {text : String}
    {before after : List Char}
    (bare : parts.IsBare text)
    (blank : ∀ character ∈ before ++ after, Text.IsBlank character)
    (limits : Limits)
    (times : Int) :
    limits.verdict (.written (Text.padded before text after)) times =
      limits.verdict (.written text) times := by
  rw [Limits.verdict, Order.denoted, bare.parse_padded blank]
  rfl

/-- Where the blanks are cut, a notation between blanks is printed like the notation. -/
theorem prints_of_asks
    [RandomSource σ]
    {parts : Notation}
    {text : String}
    {before after : List Char}
    {settings : Settings}
    {environment : Option String}
    {arguments : List String}
    {times : Int}
    {seed : Option (Supplied Int)}
    (bare : parts.IsBare text)
    (blank : ∀ character ∈ before ++ after, Text.IsBlank character)
    (cut : '\uFEFF' ∉ before ++ after)
    (admitted : settings.limits.verdict (.written text) times = .ok ())
    (asks : Asks settings environment arguments (Text.padded before text after) times seed false)
    (accepted : RandomSource.acceptSeed σ seed = .ok ())
    (table : Table σ) :
    Prints times ((rollMany (.written text) times).run table).1
      (run settings environment arguments table).1 := by
  obtain ⟨pool, denoted, checked⟩ := Fault.bind_eq_ok_iff.mp admitted
  obtain ⟨-, positive, -⟩ := Limits.check_eq_ok_iff.mp checked
  let whole := Text.padded before text after
  have admittedWhole : settings.limits.verdict (.written whole) times = .ok () := by
    rw [verdict_padded bare blank]
    exact admitted
  obtain ⟨heard, reported, -⟩ := run_of_asks asks accepted table
  rw [run_rollWithin_of_admitted admittedWhole, run_bind] at reported
  obtain ⟨rolled, -⟩ := corresponds_rollMany_padded bare blank times table table (.refl table)
  rcases alone : (rollMany (.written text) times).run table with ⟨outcome, later⟩
  rcases padded : (rollMany (.written whole) times).run table with ⟨other, laterOther⟩
  rw [alone, padded] at rolled
  rw [reported, padded]
  cases rolled with
  | error fault => exact prints_of_error times heard fault fault.survivor
  | @ok outcomes others related =>
      obtain ⟨sources, rfl⟩ := related
      have shown : outcomes.mapM Outcome.line =
          .ok (outcomes.map fun outcome => text ++ outcome.lineTail) := by
        apply Outcome.mapM_line_of_writable (writable_of_rollMany alone)
        intro outcome member
        rw [sources outcome member, bare.trim_eq]
      have shownOthers : (outcomes.map (Outcome.recordedAs whole)).mapM Outcome.line =
          .ok ((outcomes.map (Outcome.recordedAs whole)).map fun outcome =>
            text ++ outcome.lineTail) := by
        apply Outcome.mapM_line_of_writable (writable_of_rollMany padded)
        rw [List.forall_mem_map]
        exact fun _ _ => (bare.trim_padded_eq_iff blank).mpr cut
      rw [List.map_map] at shownOthers
      refine prints_of_lines shown shownOthers ?_ ?_ positive heard
      · rw [List.forall_mem_map]
        exact fun outcome _ => Text.plain_append.mpr ⟨bare.plain, outcome.plain_lineTail⟩
      · rw [List.length_map]
        exact (completes_of_rollMany positive denoted rfl alone).length

/-- The program succeeds with what it prints where all rolls come off. -/
theorem exit_of_prints
    [RandomSource σ]
    {limits : Limits}
    {text : String}
    {times : Int}
    {pool : Pool}
    {table : Table σ}
    {report : Report}
    (prints : Prints times ((rollMany (.written text) times).run table).1 report)
    (admitted : limits.verdict (.written text) times = .ok ())
    (parsed : Notation.parse text = .ok pool)
    (few : Numeral.Writable (pool.count * pool.sides : Nat))
    (never : RandomSource.NeverFails table.source)
    (keeps : RandomSource.KeepsBounds table.source) :
    report.ending = .exit 0 := by
  obtain ⟨_, _, checked⟩ := Fault.bind_eq_ok_iff.mp admitted
  obtain ⟨-, positive, -⟩ := Limits.check_eq_ok_iff.mp checked
  obtain ⟨outcomes, later, rolled⟩ := exists_run_rollMany parsed few never keeps positive
  rw [rolled] at prints
  cases prints with
  | lines _ _ _ ending _ => exact ending

end CommandLine

namespace Surfaces

/-- Blanks around a notation make no difference to what is rolled.  Exactly where none of
them is U+FEFF, which is not cut, outcomes are shown and written down as those of the
notation alone; and then the program prints a line for each of them, unless it fails with a
seed that is not accepted. -/
theorem padded_shown
    [RandomSource σ]
    {parts : Notation}
    {text : String}
    {before after : List Char}
    (bare : parts.IsBare text)
    (blank : ∀ character ∈ before ++ after, Text.IsBlank character)
    (table : Table σ) :
    let whole := Text.padded before text after
    let ran := (roll (.written whole)).run table
    let alone := (roll (.written text)).run table
    ran.1 = alone.1.map (Outcome.recordedAs whole) ∧ ran.2.Alike alone.2 ∧
    (∀ outcome, alone.1 = .ok outcome →
      ((outcome.recordedAs whole).line = outcome.line ↔ '\uFEFF' ∉ before ++ after) ∧
        ((outcome.recordedAs whole).record = outcome.record ↔ '\uFEFF' ∉ before ++ after)) ∧
    ('\uFEFF' ∉ before ++ after →
      ran.2 = alone.2 ∧
        ∀ settings environment arguments times seed,
          settings.limits.verdict (.written text) times = .ok () →
            CommandLine.Asks settings environment arguments whole times seed false →
              (∀ fault, RandomSource.acceptSeed σ seed = .error fault →
                ProgramEscapes fault table (run settings environment arguments table)) ∧
              (RandomSource.acceptSeed σ seed = .ok () →
                Prints times ((rollMany (.written text) times).run table).1
                    (run settings environment arguments table).1 ∧
                  ∀ pool, Notation.parse text = .ok pool →
                    Numeral.Writable (pool.count * pool.sides : Nat) →
                      RandomSource.NeverFails table.source →
                        RandomSource.KeepsBounds table.source →
                          (run settings environment arguments table).1.ending = .exit 0)) := by
  intro whole ran alone
  obtain ⟨related, alike⟩ := corresponds_roll_padded bare blank table table (.refl table)
  refine ⟨?outcome, alike.symm, ?texts, ?cut⟩
  case outcome => exact (related.imp fun _ _ same => same.2).map_eq
  case texts =>
    intro outcome came
    have source : outcome.source = text := by
      change Fault.LiftRel _ alone.1 ran.1 at related
      rw [came] at related
      generalize ran.1 = other at related
      cases related with
      | ok same => exact same.1
    exact shown_recordedAs_padded_iff bare blank (writable_of_roll (Prod.ext came rfl)) source
  case cut =>
    intro cut
    constructor
    · change ((roll (.written whole)).run table).2 = ((roll (.written text)).run table).2
      rw [roll_padded bare blank cut, run_bind]
      rcases (roll (.written text)).run table with ⟨fault | outcome, later⟩
      · rfl
      · rfl
    · intro settings environment arguments times seed admitted asks
      have admittedWhole : settings.limits.verdict (.written whole) times = .ok () := by
        rw [verdict_padded bare blank]
        exact admitted
      refine ⟨fun _ refused => programEscapes_of_asks admittedWhole refused asks table, ?_⟩
      intro accepted
      have prints := prints_of_asks bare blank cut admitted asks accepted table
      exact ⟨prints, fun _ => exit_of_prints prints admitted⟩

/-- Two dice are rolled twice between an ideographic space and a line feed. -/
theorem padded_shown_twoDice :
    let whole := Text.padded ['\u3000'] "2d6" ['\n']
    let table := Table.opening (ScriptedSource.congruential 7)
    let arguments := ["roll", whole, "--times", "2"]
    (∃ parts : Notation, parts.IsBare "2d6") ∧
      (∀ character ∈ ['\u3000'] ++ ['\n'], Text.IsBlank character) ∧
        '\uFEFF' ∉ ['\u3000'] ++ ['\n'] ∧
          CommandLine.Asks .standard none arguments whole 2 none false ∧
            Settings.standard.limits.verdict (.written "2d6") 2 = .ok () ∧
              Notation.parse "2d6" = .ok twoDice ∧
                RandomSource.NeverFails table.source ∧
                  RandomSource.KeepsBounds table.source ∧
                    ∃ outcome,
                      ((roll (.written "2d6")).run table).1 = .ok outcome ∧
                        (outcome.recordedAs whole).line = outcome.line ∧
                          Prints 2 ((rollMany (.written "2d6") 2).run table).1
                            (run .standard none arguments table).1 ∧
                              (run .standard none arguments table).1.ending = .exit 0 := by
  intro whole table arguments
  let parts : Notation :=
    { leading := []
      count := ['2']
      letter := 'd'
      sides := ['6']
      clauses := []
      trailing := [] }
  have bare : parts.IsBare "2d6" :=
    .of_read? (by decide +kernel) rfl rfl
  have blank : ∀ character ∈ ['\u3000'] ++ ['\n'], Text.IsBlank character :=
    List.all_iff_forall_prop.mp (by decide)
  have cut : '\uFEFF' ∉ ['\u3000'] ++ ['\n'] := by decide
  have read : Invocation.read .standard arguments =
      .ok { debug := false, command := .roll (some whole) (.value 2) none false } := by
    decide +kernel
  have asks : CommandLine.Asks .standard none arguments whole 2 none false :=
    .intro read rfl (by decide) (setup_standard _)
  have admitted : Settings.standard.limits.verdict (.written "2d6") 2 = .ok () := by
    decide +kernel
  have parsed : Notation.parse "2d6" = .ok twoDice := by decide +kernel
  have few : Numeral.Writable (twoDice.count * twoDice.sides : Nat) := by decide +kernel
  have never : RandomSource.NeverFails table.source := ScriptedSource.neverFails_congruential 7
  have keeps : RandomSource.KeepsBounds table.source := ScriptedSource.keepsBounds_congruential 7
  obtain ⟨-, -, texts, shown⟩ := padded_shown bare blank table
  obtain ⟨-, programs⟩ := shown cut
  obtain ⟨prints, succeeds⟩ := (programs _ _ _ _ _ admitted asks).2 rfl
  obtain ⟨_, outcome, rolled, came⟩ := rolled_text_of_neverFails parsed never keeps
  rw [if_pos (rolled.tallies.writable_total few)] at came
  exact ⟨⟨_, bare⟩, blank, cut, asks, admitted, parsed, never, keeps, outcome, came,
    (texts outcome came).1.mpr cut, prints, succeeds twoDice parsed few never keeps⟩

/-- A die behind U+FEFF and a line feed is shown and written down with both of them, and takes
two lines. -/
theorem padded_shown_not_cut :
    let whole := Text.padded ['\uFEFF', '\n'] "1d6" []
    let table := Table.opening (ScriptedSource.script [3])
    let ran := (roll (.written whole)).run table
    let alone := (roll (.written "1d6")).run table
    (∃ parts : Notation, parts.IsBare "1d6") ∧
      (∀ character ∈ ['\uFEFF', '\n'], Text.IsBlank character) ∧
        (ran.1 >>= Outcome.line) = .ok "\uFEFF\n1d6 = 3" ∧
          (alone.1 >>= Outcome.line) = .ok "1d6 = 3" ∧
            ran.2.records ≠ alone.2.records ∧
              (run .standard none ["roll", whole] table).1.output = "\uFEFF\n1d6 = 3\n" := by
  intro whole table ran alone
  let parts : Notation :=
    { leading := []
      count := ['1']
      letter := 'd'
      sides := ['6']
      clauses := []
      trailing := [] }
  have bare : parts.IsBare "1d6" :=
    .of_read? (by decide +kernel) rfl rfl
  refine ⟨⟨_, bare⟩, List.all_iff_forall_prop.mp (by decide), ?_, ?_, ?_, ?_⟩
  all_goals decide +kernel

end Surfaces

end Tabletop
