import Tabletop.Proofs.Surfaces.Malformed

/-!
# Too many dice on the surfaces

A notation with more dice than the limit allows is refused in words on both surfaces, and
the source is not asked.  That takes numerals that can be converted.  Where one of them is
beyond the digit limit, reading the text fails before its dice are counted, and the surfaces
do not take that for a fault of the caller's dice.
-/

namespace Tabletop

open CommandLine Play Web

/-- What is refused for its text or its dice is refused whatever the number of times. -/
theorem Limits.verdict_of_refused
    {limits : Limits}
    {text : String}
    {fault : Fault}
    (refused : (Notation.parse text >>= limits.checkDice) = .error fault)
    (times : Int) :
    limits.verdict (.written text) times = .error fault := by
  rw [verdict, Order.denoted]
  cases parsed : Notation.parse text with
  | error other =>
      rw [parsed] at refused
      exact refused
  | ok pool =>
      rw [parsed, Fault.ok_bind] at refused
      rw [Fault.ok_bind, check, refused, Fault.error_bind]

namespace Surfaces

/-- The program is told to roll a text, whatever it is told besides, and the log can be set
up. -/
def TellsToRoll
    (settings : Settings)
    (environment : Option String)
    (arguments : List String)
    (text : String) : Prop :=
  ∃ invocation level times seed json,
    Invocation.read settings arguments = .ok invocation ∧
      invocation.command = .roll (some text) times seed json ∧
        invocation.setup settings environment = .ok level

/-- The service answers that it went wrong itself, without a word about the request, and
asks the source nothing. -/
structure ServiceFails
    (before : Table σ)
    (answering : Except Fault Response × Table σ) : Prop where
  answer : ∃ detail, answering.1 = .ok (.failed 500 "Internal server error" detail)
  alike : answering.2.Alike before

section Oversize

variable [RandomSource σ] {settings : Settings} {text : String} {parts : Notation}

/-! ## Faults of the surfaces -/

theorem programRefuses_of_tellsToRoll
    {environment : Option String}
    {arguments : List String}
    {fault : Fault}
    (nonempty : text ≠ "")
    (refused : (Notation.parse text >>= settings.limits.checkDice) = .error fault)
    (dice : fault.isDice = true)
    (tells : TellsToRoll settings environment arguments text)
    (table : Table σ) :
    ProgramRefuses fault table (run settings environment arguments table) := by
  obtain ⟨invocation, level, times, seed, json, read, commanded, logged⟩ := tells
  have performs := corresponds_perform_of_refused (σ := σ) read commanded nonempty refused
  rw [Fault.survivor_of_isDice dice] at performs
  exact programRefuses_of_perform dice read logged performs table

theorem programEscapes_of_tellsToRoll
    {environment : Option String}
    {arguments : List String}
    {fault : Fault}
    (nonempty : text ≠ "")
    (refused : (Notation.parse text >>= settings.limits.checkDice) = .error fault)
    (foreign : ¬ fault.isDice = true)
    (tells : TellsToRoll settings environment arguments text)
    (table : Table σ) :
    ProgramEscapes fault.survivor table (run settings environment arguments table) := by
  obtain ⟨invocation, level, times, seed, json, read, commanded, logged⟩ := tells
  have performs := corresponds_perform_of_refused (σ := σ) read commanded nonempty refused
  rw [← Fault.isDice_survivor] at foreign
  exact programEscapes_of_perform foreign read logged performs table

theorem serviceFails_of_asks
    {times : Int}
    {app : App}
    {request : Request}
    {fault : Fault}
    (refused : settings.limits.verdict (.written text) times = .error fault)
    (ofService : fault.OfService)
    (asks : App.Asks app request settings (.written text) times)
    (table : Table σ) :
    ServiceFails table ((app.respond request).run table) := by
  obtain ⟨answered, alike⟩ := App.run_respond_of_asks asks table
  rw [run_rollWithin_of_refused refused] at answered alike
  have failure := App.faultAnswer_of_ofService ofService app
  have unasked : (table.afterReading (.written text)).Alike table := ⟨by simp, by simp⟩
  exact {
    answer := ⟨_, by rw [answered, App.concluded, failure]⟩
    alike := alike.trans unasked }

/-! ## More dice than the limit -/

/-- Dice that can be counted are counted before anything else. -/
theorem checkDice_of_convertible
    (divides : parts.Divides text)
    (convertible : parts.Convertible)
    (oversize : settings.maxDice.1 < Numeral.valueOrOne parts.count) :
    (Notation.parse text >>= settings.limits.checkDice) =
      .error (.tooManyDice (Numeral.valueOrOne parts.count) settings.maxDice.1) := by
  obtain ⟨pool, denotes⟩ := divides.grammatical.exists_denotes
  have parsed := Notation.parse_eq_ok_iff.mpr ⟨parts, divides, convertible, denotes⟩
  have more : settings.limits.dice < pool.count := by
    rw [denotes.count]
    exact Int.ofNat_lt.mpr oversize
  rw [parsed, Fault.ok_bind, Limits.checkDice_of_lt (Limits.nonnegative_limits settings)
    (writable_count parsed) more, denotes.count]
  rfl

/-- A numeral beyond the digit limit is at fault before the dice are counted. -/
theorem checkDice_of_not_convertible
    (divides : parts.Divides text)
    (long : ¬ parts.Convertible) :
    ∃ digits, 4300 < digits ∧
      (Notation.parse text >>= settings.limits.checkDice) = .error (.numeralTooLong digits) := by
  obtain ⟨digits, many, failed⟩ := Notation.pool_of_not_convertible divides.grammatical long
  exact ⟨digits, many, by rw [divides.parse_eq, failed, Fault.error_bind]⟩

/-- A notation with more dice than the limit is never rolled, and the source is not asked.
Where its numerals can be converted, the program refuses with an exit code of two and the
service with a status of 422, in words that name the number of dice and the limit.  Where a
numeral is beyond the digit limit, the fault escapes from the program, and the service
answers with a status of 500. -/
theorem oversize_refused
    (divides : parts.Divides text)
    (oversize : settings.maxDice.1 < Numeral.valueOrOne parts.count)
    (table : Table σ) :
    (parts.Convertible →
      let fault := Fault.tooManyDice (Numeral.valueOrOne parts.count) settings.maxDice.1
      (∀ environment arguments, TellsToRoll settings environment arguments text →
        ProgramRefuses fault table (run settings environment arguments table)) ∧
      (∀ app request times, App.Asks app request settings (.written text) times →
        ServiceRefuses 422 fault table ((app.respond request).run table))) ∧
    (¬ parts.Convertible →
      ∃ digits, 4300 < digits ∧
        (∀ environment arguments, TellsToRoll settings environment arguments text →
          ProgramEscapes (.numeralTooLong digits) table
            (run settings environment arguments table)) ∧
        (∀ app request times, App.Asks app request settings (.written text) times →
          ServiceFails table ((app.respond request).run table))) := by
  have nonempty := divides.ne_empty
  constructor
  · intro convertible fault
    have refused := checkDice_of_convertible divides convertible oversize
    constructor
    · intro environment arguments tells
      exact programRefuses_of_tellsToRoll nonempty refused rfl tells table
    · intro app request times asks
      exact serviceRefuses_of_asks (Limits.verdict_of_refused refused times) rfl asks table
  · intro long
    obtain ⟨digits, many, refused⟩ := checkDice_of_not_convertible divides long
    have ofService : (Fault.numeralTooLong digits).OfService :=
      ⟨rfl, Text.ofElements?_elements _⟩
    refine ⟨digits, many, ?_, ?_⟩
    · intro environment arguments tells
      exact programEscapes_of_tellsToRoll nonempty refused Bool.false_ne_true tells table
    · intro app request times asks
      exact serviceFails_of_asks (Limits.verdict_of_refused refused times) ofService asks table

end Oversize

/-! ## Fixed arguments -/

theorem tellsToRoll_of_asks
    {settings : Settings}
    {environment : Option String}
    {arguments : List String}
    {text : String}
    {times : Int}
    {seed : Option (Supplied Int)}
    {json : Bool}
    (asks : CommandLine.Asks settings environment arguments text times seed json) :
    TellsToRoll settings environment arguments text := by
  obtain ⟨read, commanded, nonempty, logged⟩ := asks
  exact ⟨_, _, _, _, _, read, commanded, logged⟩

/-- One die more than the standard settings allow. -/
def thousandAndOne : Notation :=
  { leading := []
    count := ['1', '0', '0', '1']
    letter := 'd'
    sides := ['6']
    clauses := []
    trailing := [] }

/-- One die too many is refused on both sides. -/
theorem oversize_refused_thousandAndOne :
    let table := Table.opening (ScriptedSource.script [3])
    let app := App.create .standard 0
    thousandAndOne.Divides "1001d6" ∧
      Settings.standard.maxDice.1 < Numeral.valueOrOne thousandAndOne.count ∧
        thousandAndOne.Convertible ∧
          ProgramRefuses (.tooManyDice 1001 1000) table
            (run .standard none (rollArguments "1001d6" 2) table) ∧
          ServiceRefuses 422 (.tooManyDice 1001 1000) table
            ((app.respond (App.rollQuery "1001d6" (Numeral.text 2) 0)).run table) := by
  intro table app
  have found : Notation.read? "1001d6".toList = some thousandAndOne := by decide +kernel
  obtain ⟨grammatical, whole⟩ := Notation.read?_sound found
  have divides : thousandAndOne.Divides "1001d6" := ⟨grammatical, whole⟩
  have oversize : Settings.standard.maxDice.1 < Numeral.valueOrOne thousandAndOne.count := by
    decide +kernel
  have convertible : thousandAndOne.Convertible := by
    refine { count := by decide, sides := by decide, selection := nofun }
  have writable : Numeral.Writable (2 : Nat) := by decide +kernel
  have refused := (oversize_refused divides oversize table).1 convertible
  refine ⟨divides, oversize, convertible, ?_, ?_⟩
  · exact refused.1 _ _ (tellsToRoll_of_asks
      (asks_rollArguments divides.ne_empty divides.head?_ne_dash (by decide) writable))
  · exact refused.2 app _ _
      (App.asks_rollQuery (App.ready_create .standard 0) (by decide) writable "1001d6" 0)

/-- A number of dice that cannot be written has a numeral that cannot be converted. -/
theorem not_convertible_of_not_printable
    {pool : Pool}
    (many : ¬ Numeral.Printable pool.count) :
    ¬ pool.canonical.Convertible :=
  fun convertible => many convertible.count

theorem maxDice_lt_tooManyToWrite :
    Settings.standard.maxDice.1 < Pool.tooManyToWrite.count := by
  have exponent : 4 ≤ Numeral.digitLimit := by decide
  calc
    1000 < 10 ^ 4 := by decide
    _ ≤ 10 ^ Numeral.digitLimit := Nat.pow_le_pow_right (by decide) exponent

/-- Far too many dice are not refused: a fault of another kind escapes. -/
theorem oversize_refused_not_convertible :
    let parts := Pool.tooManyToWrite.canonical
    let text := String.ofList parts.flatten
    let table := Table.opening (ScriptedSource.script [3])
    parts.Divides text ∧
      Settings.standard.maxDice.1 < Numeral.valueOrOne parts.count ∧
        TellsToRoll .standard none (rollArguments text 2) text ∧
          ∃ fault, fault.kind = "ValueError" ∧
            (run .standard none (rollArguments text 2) table).1.ending = .escape fault := by
  intro parts text table
  have divides : parts.Divides text := Pool.tooManyToWrite.divides_canonical
  have oversize : Settings.standard.maxDice.1 < Numeral.valueOrOne parts.count := by
    rw [← Pool.tooManyToWrite.canonical_denotes.count]
    exact maxDice_lt_tooManyToWrite
  have many : ¬ Numeral.Printable Pool.tooManyToWrite.count :=
    Nat.not_le_of_lt (Numeral.lt_length_digits_pow Numeral.digitLimit (by decide))
  have long : ¬ parts.Convertible := not_convertible_of_not_printable many
  have writable : Numeral.Writable (2 : Nat) := by decide +kernel
  have tells : TellsToRoll .standard none (rollArguments text 2) text :=
    tellsToRoll_of_asks
      (asks_rollArguments divides.ne_empty divides.head?_ne_dash (by decide) writable)
  obtain ⟨digits, -, refused⟩ : ∃ digits, 4300 < digits ∧
      (Notation.parse text >>= Settings.standard.limits.checkDice) =
        .error (.numeralTooLong digits) :=
    checkDice_of_not_convertible divides long
  have escapes := programEscapes_of_tellsToRoll divides.ne_empty refused Bool.false_ne_true tells
    table
  exact ⟨divides, oversize, tells, _, rfl, escapes.ending⟩

end Surfaces
end Tabletop
