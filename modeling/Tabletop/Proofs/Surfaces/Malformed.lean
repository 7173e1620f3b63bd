import Tabletop.Proofs.Surfaces.Admission

/-!
# Malformed texts on the command line

A text that is not in the grammar is refused in words that name it, and the source is not
asked, whichever command it is given to and whatever else the arguments say.  Only to roll
the empty text is to roll the standard notation: the program takes it for no text at all.
-/

namespace Tabletop

open CommandLine Play Web

namespace Surfaces

section Commands

variable [RandomSource σ] {settings : Settings} {environment : Option String}
  {arguments : List String} {invocation : Invocation} {level : Log.Level} {fault : Fault}

/-! ## Commands that fail -/

theorem programRefuses_of_perform
    (dice : fault.isDice = true)
    (read : Invocation.read settings arguments = .ok invocation)
    (logged : invocation.setup settings environment = .ok level)
    (performs : Corresponds (fun product printed => product = .text printed)
      (invocation.command.perform settings : Play σ Product) (Play.ofExcept (.error fault)))
    (table : Table σ) :
    ProgramRefuses fault table (run settings environment arguments table) := by
  obtain ⟨heard, reported, alike⟩ := run_of_perform read logged performs table
  rw [run_ofExcept, Except.map, Report.ofOutcome, if_pos dice] at reported
  exact {
    ending := by rw [reported]
    output := by rw [reported]
    errors := by rw [reported]
    alike }

theorem programEscapes_of_perform
    (foreign : ¬ fault.isDice = true)
    (read : Invocation.read settings arguments = .ok invocation)
    (logged : invocation.setup settings environment = .ok level)
    (performs : Corresponds (fun product printed => product = .text printed)
      (invocation.command.perform settings : Play σ Product) (Play.ofExcept (.error fault)))
    (table : Table σ) :
    ProgramEscapes fault table (run settings environment arguments table) := by
  obtain ⟨heard, reported, alike⟩ := run_of_perform read logged performs table
  rw [run_ofExcept, Except.map, Report.ofOutcome, if_neg foreign] at reported
  exact {
    ending := by rw [reported]
    output := by rw [reported]
    errors := by rw [reported]
    alike }

/-- A text whose reading or whose dice are at fault is not rolled by the command that rolls,
whatever is asked of it besides. -/
theorem corresponds_perform_of_refused
    {text : String}
    {times : Supplied Int}
    {seed : Option (Supplied Int)}
    {json : Bool}
    (read : Invocation.read settings arguments = .ok invocation)
    (commanded : invocation.command = .roll (some text) times seed json)
    (nonempty : text ≠ "")
    (refused : (Notation.parse text >>= settings.limits.checkDice) = .error fault) :
    Corresponds (fun product printed => product = .text printed)
      (invocation.command.perform settings : Play σ Product)
      (Play.ofExcept (.error fault.survivor)) := by
  have writable := Invocation.writable_of_read read
  rw [commanded] at writable ⊢
  change Corresponds _ _ (Play.ofExcept (.error fault) : Play σ String).surviving
  apply corresponds_perform_roll writable
  rw [rolledText, if_neg nonempty]
  exact corresponds_rollText_of_not_admitted (admitted_of_refused refused times seed) json

/-! ## Malformed texts -/

/-- An empty text to roll is taken for none, so that the standard notation is rolled. -/
theorem run_roll_empty
    {times : Supplied Int}
    {seed : Option (Supplied Int)}
    {json : Bool}
    (read : Invocation.read settings arguments = .ok invocation)
    (commanded : invocation.command = .roll (some "") times seed json)
    (table : Table σ) :
    run settings environment arguments table =
      ({ invocation with command := .roll none times seed json } : Invocation).perform
        settings environment table := by
  obtain ⟨debug, command⟩ := invocation
  obtain rfl : command = _ := commanded
  unfold CommandLine.run Invocation.perform
  simp only [read]
  rfl

/-- A text that is not in the grammar is refused by both commands that take one, with an
exit code of two, nothing on the output stream, words that name the text on the error
stream, and no request.  The one text that is not refused is the empty one where it is to
be rolled: that is to roll what is rolled without a text. -/
theorem malformed_refused
    {text : String}
    (outside : ∀ parts : Notation, ¬ parts.Divides text)
    (read : Invocation.read settings arguments = .ok invocation)
    (logged : invocation.setup settings environment = .ok level)
    (table : Table σ) :
    let running := run settings environment arguments table
    (∀ short, invocation.command = .describe text short →
      ProgramRefuses (.badNotation text) table running) ∧
    (∀ times seed json, invocation.command = .roll (some text) times seed json → text ≠ "" →
      ProgramRefuses (.badNotation text) table running) ∧
    (∀ times seed json, invocation.command = .roll (some text) times seed json → text = "" →
      running =
        ({ invocation with command := .roll none times seed json } : Invocation).perform
          settings environment table) := by
  have parsed := Notation.parse_of_not_divides outside
  refine ⟨?describe, ?roll, ?empty⟩
  case describe =>
    intro short commanded
    refine programRefuses_of_perform rfl read logged ?_ table
    rw [commanded]
    exact corresponds_perform_describe (corresponds_describeText_of_refused parsed short)
  case roll =>
    intro times seed json commanded nonempty
    have refused : (Notation.parse text >>= settings.limits.checkDice) =
        .error (.badNotation text) := by
      rw [parsed, Fault.error_bind]
    exact programRefuses_of_perform rfl read logged
      (corresponds_perform_of_refused read commanded nonempty refused) table
  case empty =>
    rintro times seed json commanded rfl
    exact run_roll_empty read commanded table

end Commands

/-- Dice in words are not rolled, an empty text is not described, and to roll it is to roll
the standard notation. -/
theorem malformed_refused_fourDice :
    let table := Table.opening (ScriptedSource.script [42])
    ProgramRefuses (.badNotation "four dice") table
        (run .standard none (rollArguments "four dice" 2) table) ∧
      ProgramRefuses (.badNotation "") table (run .standard none ["describe", ""] table) ∧
        run .standard none ["roll", ""] table =
          ({ debug := false, command := .roll none (.value 1) none false } :
            Invocation).perform .standard none table := by
  intro table
  have writable : Numeral.Writable (2 : Nat) := by decide +kernel
  have words : ∀ parts : Notation, ¬ parts.Divides "four dice" :=
    Notation.not_divides_of_not_isValid (by decide +kernel)
  have empty : ∀ parts : Notation, ¬ parts.Divides "" :=
    Notation.not_divides_of_not_isValid (by decide +kernel)
  have operand : IsNotation "four dice" := isNotation_of_not_dash (by decide)
  have rolls := read_rollArguments .standard operand (by decide) writable
  have describes : Invocation.read .standard ["describe", ""] =
      .ok { debug := false, command := .describe "" false } := by
    decide +kernel
  have rollsEmpty : Invocation.read .standard ["roll", ""] =
      .ok { debug := false, command := .roll (some "") (.value 1) none false } := by
    decide +kernel
  refine ⟨?_, ?_, ?_⟩
  · exact (malformed_refused words rolls (setup_standard _) table).2.1 _ _ _ rfl (by decide)
  · exact (malformed_refused empty describes (setup_standard _) table).1 _ rfl
  · exact (malformed_refused empty rollsEmpty (setup_standard _) table).2.2 _ _ _ rfl rfl

/-- The empty text is not in the grammar, and yet to roll it succeeds. -/
theorem malformed_refused_not_empty :
    let running := run .standard none ["roll", ""] (Table.opening (ScriptedSource.script [42]))
    (∀ parts : Notation, ¬ parts.Divides "") ∧
      running.1.ending = .exit 0 ∧
        running.1.output = "1d100 = 42\n" ∧ running.2.calls.size = 1 := by
  intro running
  exact ⟨Notation.not_divides_of_not_isValid (by decide +kernel), by decide +kernel⟩

end Surfaces
end Tabletop
