import Tabletop.CommandLine.Invocation
import Tabletop.Proofs.WholeNumber

/-!
# What readings of arguments hold

Every setting of a reading was made by a switch of the grammar, from what was supplied
to it.  So the numbers that an invocation holds can all be written.
-/

namespace Tabletop
namespace CommandLine

theorem Stop.bind_eq_ok_iff
    {step : Except Stop α}
    {next : α → Except Stop β}
    {result : β} :
    (step >>= next) = .ok result ↔
      ∃ value, step = .ok value ∧ next value = .ok result := by
  cases step with
  | error stop => simp [bind, Except.bind]
  | ok value => simp [bind, Except.bind]

/-- A switch in an argument is one of the grammar. -/
def Token.Known (grammar : Grammar ε) : Token ε → Prop
  | switch _ named _ _ => named ∈ grammar.switches
  | _ => True

namespace Grammar

variable {grammar : Grammar ε}

/-! ## Switches of the grammar -/

theorem mem_switches_of_mem_spellings
    {entry : String × Switch ε}
    (member : entry ∈ grammar.spellings) :
    entry.2 ∈ grammar.switches := by
  obtain ⟨switch, present, spelt⟩ := List.mem_flatMap.mp member
  obtain ⟨spelling, _, rfl⟩ := List.mem_map.mp spelt
  exact present

theorem mem_switches_of_find?
    {spelling : String}
    {switch : Switch ε}
    (found : grammar.find? spelling = some switch) :
    switch ∈ grammar.switches := by
  obtain ⟨earlier, later, whole, _⟩ := List.lookup_eq_some_iff.mp found
  have member : (spelling, switch) ∈ grammar.spellings := by simp [whole]
  exact mem_switches_of_mem_spellings member

theorem mem_switches_of_mem_candidates
    {argument : String}
    {candidate : String × Switch ε × Option String}
    (member : candidate ∈ grammar.candidates argument) :
    candidate.2.1 ∈ grammar.switches := by
  unfold candidates at member
  split at member
  · obtain ⟨entry, kept, rfl⟩ := List.mem_map.mp member
    exact mem_switches_of_mem_spellings (List.mem_filter.mp kept).1
  · dsimp only at member
    split at member
    · contradiction
    · rename_i found
      obtain rfl := List.mem_singleton.mp member
      exact mem_switches_of_find? found
  · contradiction

theorem known_of_classifyDashed
    {argument : String}
    {token : Token ε}
    (classified : grammar.classifyDashed argument = .ok token) :
    token.Known grammar := by
  unfold classifyDashed at classified
  dsimp only at classified
  split at classified
  · rename_i found
    obtain rfl := Except.ok.inj classified
    exact mem_switches_of_find? found
  · split at classified
    · rename_i spelling named attached only
      obtain rfl := Except.ok.inj classified
      have member : (spelling, named, attached) ∈ grammar.candidates argument := by
        rw [only]
        exact List.mem_singleton_self _
      exact mem_switches_of_mem_candidates member
    · split at classified <;> obtain rfl := Except.ok.inj classified <;> trivial
    · contradiction

theorem known_of_classify
    {argument : String}
    {token : Token ε}
    (classified : grammar.classify argument = .ok token) :
    token.Known grammar := by
  unfold classify at classified
  split at classified
  · split at classified
    · rename_i found
      obtain rfl := Except.ok.inj classified
      exact mem_switches_of_find? found
    · split at classified
      · obtain rfl := Except.ok.inj classified
        trivial
      · exact known_of_classifyDashed classified
  · obtain rfl := Except.ok.inj classified
    trivial

theorem known_of_tokens
    {arguments : List String}
    {tokens : List (Token ε)}
    (classified : grammar.tokens arguments = .ok tokens) :
    ∀ token ∈ tokens, token.Known grammar := by
  induction arguments generalizing tokens with
  | nil =>
      obtain rfl := Except.ok.inj classified
      simp
  | cons argument arguments inductionHypothesis =>
      unfold Grammar.tokens at classified
      split at classified
      · obtain rfl := Except.ok.inj classified
        simp [Token.Known]
      · obtain ⟨first, firstClassified, rest⟩ := Stop.bind_eq_ok_iff.mp classified
        obtain ⟨later, laterClassified, result⟩ := Stop.bind_eq_ok_iff.mp rest
        obtain rfl := Except.ok.inj result
        rw [List.forall_mem_cons]
        exact ⟨known_of_classify firstClassified, inductionHypothesis laterClassified⟩

/-! ## Switches that are carried out -/

/-- All switches that were gathered are of the grammar. -/
def Gathers (grammar : Grammar ε) (gathered : Gathered ε) : Prop :=
  ∀ entry ∈ gathered.switches, entry.1 ∈ grammar.switches

theorem gathers_of_gatherBare
    {next : Option String}
    {switch : Switch ε}
    {gathered : Gathered ε}
    (known : switch ∈ grammar.switches)
    (result : grammar.gatherBare next switch = .ok gathered) :
    grammar.Gathers gathered := by
  unfold gatherBare at result
  split at result
  · split at result
    · obtain rfl := Except.ok.inj result
      simpa [Gathers] using known
    · contradiction
  · obtain rfl := Except.ok.inj result
    simpa [Gathers] using known

theorem gathers_of_gatherGiven
    {switch : Switch ε}
    {value : String}
    {gathered : Gathered ε}
    (known : switch ∈ grammar.switches)
    (result : grammar.gatherGiven switch value = .ok gathered) :
    grammar.Gathers gathered := by
  unfold gatherGiven at result
  split at result
  · obtain rfl := Except.ok.inj result
    simpa [Gathers] using known
  · contradiction

theorem gathers_of_gatherCluster
    {next : Option String}
    {switch : Switch ε}
    {characters : List Char}
    {gathered : Gathered ε}
    (known : switch ∈ grammar.switches)
    (result : grammar.gatherCluster next switch characters = .ok gathered) :
    grammar.Gathers gathered := by
  induction characters generalizing switch gathered with
  | nil => exact gathers_of_gatherGiven known result
  | cons character characters inductionHypothesis =>
      unfold gatherCluster at result
      dsimp only at result
      split at result
      · exact gathers_of_gatherGiven known result
      · split at result
        · contradiction
        · rename_i further found
          have furtherKnown := mem_switches_of_find? found
          split at result
          · obtain ⟨later, gathers, final⟩ := Stop.bind_eq_ok_iff.mp result
            obtain rfl := Except.ok.inj final
            exact List.forall_mem_cons.mpr ⟨known, gathers_of_gatherBare furtherKnown gathers⟩
          · obtain ⟨later, gathers, final⟩ := Stop.bind_eq_ok_iff.mp result
            obtain rfl := Except.ok.inj final
            exact List.forall_mem_cons.mpr ⟨known, inductionHypothesis furtherKnown gathers⟩

theorem gathers_of_gather
    {next attached : Option String}
    {switch : Switch ε}
    {spelling : String}
    {gathered : Gathered ε}
    (known : switch ∈ grammar.switches)
    (result : grammar.gather next switch spelling attached = .ok gathered) :
    grammar.Gathers gathered := by
  unfold gather at result
  split at result
  · exact gathers_of_gatherBare known result
  · split at result
    · exact gathers_of_gatherGiven known result
    · exact gathers_of_gatherCluster known result

/-- A property of every setting that a switch of the grammar can make. -/
def Makes (grammar : Grammar ε) (holds : ε → Prop) : Prop :=
  ∀ switch ∈ grammar.switches, ∀ supplied setting,
    grammar.carryOut switch supplied = .ok setting → holds setting

variable {holds : ε → Prop}

theorem Makes.carryOutAll
    (makes : grammar.Makes holds)
    {switches : List (Switch ε × Supplied String)}
    {settings : List ε}
    (known : ∀ entry ∈ switches, entry.1 ∈ grammar.switches)
    (result : grammar.carryOutAll switches = .ok settings) :
    ∀ setting ∈ settings, holds setting := by
  induction switches generalizing settings with
  | nil =>
      obtain rfl := Except.ok.inj result
      simp
  | cons entry switches inductionHypothesis =>
      obtain ⟨setting, carriedOut, rest⟩ := Stop.bind_eq_ok_iff.mp result
      obtain ⟨later, carriedOutLater, final⟩ := Stop.bind_eq_ok_iff.mp rest
      obtain rfl := Except.ok.inj final
      rw [List.forall_mem_cons] at known ⊢
      exact ⟨makes entry.1 known.1 entry.2 setting carriedOut,
        inductionHypothesis known.2 carriedOutLater⟩

/-! ## Settings of a reading -/

theorem Makes.takeSwitch
    (makes : grammar.Makes holds)
    {reading later : Reading ε}
    {arguments : List (Token ε)}
    {token : Token ε}
    {number : Nat}
    (known : token.Known grammar)
    (earlier : ∀ setting ∈ reading.settings, holds setting)
    (result : grammar.takeSwitch reading arguments token = .ok (later, number)) :
    ∀ setting ∈ later.settings, holds setting := by
  unfold Grammar.takeSwitch at result
  split at result
  · obtain ⟨gathered, gathers, rest⟩ := Stop.bind_eq_ok_iff.mp result
    obtain ⟨settings, carriedOut, final⟩ := Stop.bind_eq_ok_iff.mp rest
    obtain ⟨rfl, -⟩ := Prod.mk.inj (Except.ok.inj final)
    have made := makes.carryOutAll (gathers_of_gather known gathers) carriedOut
    intro setting member
    exact (List.mem_append.mp member).elim (earlier setting) (made setting)
  · obtain ⟨rfl, -⟩ := Prod.mk.inj (Except.ok.inj result)
    exact earlier

theorem settings_of_takeOperand
    {reading later : Reading ε}
    {arguments : List (Token ε)}
    {number : Nat}
    (result : grammar.takeOperand reading arguments = .ok (later, number)) :
    later.settings = reading.settings := by
  unfold takeOperand at result
  dsimp only at result
  repeat' split at result
  all_goals first
    | contradiction
    | obtain ⟨rfl, -⟩ := Prod.mk.inj (Except.ok.inj result)
      rfl

/-- What every step of a reading preserves, as long as the arguments are of some kind. -/
structure Preserves
    (grammar : Grammar ε)
    (kind : Token ε → Prop)
    (holds : Reading ε → Prop) : Prop where
  /-- Taking a switch preserves it. -/
  switch :
    ∀ {reading later arguments token number},
      (∀ other ∈ token :: arguments, kind other) → holds reading →
        grammar.takeSwitch reading arguments token = .ok (later, number) → holds later
  /-- Taking the operand preserves it. -/
  operand :
    ∀ {reading later arguments number},
      (∀ other ∈ arguments, kind other) → holds reading →
        grammar.takeOperand reading arguments = .ok (later, number) → holds later
  /-- It does not depend on the arguments that fit nowhere. -/
  extras :
    ∀ {reading} extras, holds reading → holds { reading with extras }

namespace Preserves

variable {kind : Token ε → Prop} {valid : Reading ε → Prop}

theorem finish
    (preserves : grammar.Preserves kind valid)
    {reading later : Reading ε}
    {arguments : List (Token ε)}
    (all : ∀ token ∈ arguments, kind token)
    (earlier : valid reading)
    (result : grammar.finish reading arguments = .ok later) :
    valid later := by
  obtain ⟨⟨taken, number⟩, takenOperand, final⟩ := Stop.bind_eq_ok_iff.mp result
  obtain rfl := Except.ok.inj final
  apply preserves.extras
  exact preserves.operand all earlier takenOperand

/-- What each step preserves, taking all arguments preserves. -/
theorem take
    (preserves : grammar.Preserves kind valid)
    {reading later : Reading ε}
    {arguments : List (Token ε)}
    (all : ∀ token ∈ arguments, kind token)
    (earlier : valid reading)
    (result : grammar.take reading arguments = .ok later) :
    valid later := by
  have dropped {token : Token ε} {rest : List (Token ε)} {number : Nat}
      (all : ∀ other ∈ token :: rest, kind other) : ∀ other ∈ rest.drop number, kind other :=
    fun other member => all other (List.mem_cons_of_mem _ (List.mem_of_mem_drop member))
  fun_induction Grammar.take grammar reading arguments generalizing later with
  | case1 reading =>
      obtain rfl := Except.ok.inj result
      exact earlier
  | case2 reading token rest _ _ inductionHypothesis =>
      obtain ⟨⟨taken, number⟩, takenSwitch, further⟩ := Stop.bind_eq_ok_iff.mp result
      have held := preserves.switch all earlier takenSwitch
      exact inductionHypothesis taken number (dropped all) held further
  | case3 reading token rest _ _ extraHypothesis operandHypothesis =>
      obtain ⟨⟨taken, number⟩, takenOperand, further⟩ := Stop.bind_eq_ok_iff.mp result
      have held := preserves.operand all earlier takenOperand
      dsimp only at further
      split at further
      · have rest := (List.forall_mem_cons.mp all).2
        exact extraHypothesis taken rest (preserves.extras _ held) further
      · exact operandHypothesis taken number (dropped all) held further
  | case4 reading arguments => exact preserves.finish all earlier result

end Preserves

theorem read_eq_ok
    {arguments : List String}
    {reading : Reading ε}
    (result : grammar.read arguments = .ok reading) :
    ∃ tokens, grammar.tokens arguments = .ok tokens ∧
      grammar.take Reading.empty tokens = .ok reading := by
  obtain ⟨tokens, classified, rest⟩ := Stop.bind_eq_ok_iff.mp result
  obtain ⟨taken, takenAll, final⟩ := Stop.bind_eq_ok_iff.mp rest
  have same : taken = reading := by
    repeat' split at final
    all_goals first
      | contradiction
      | exact Except.ok.inj final
  exact ⟨tokens, classified, by rw [takenAll, same]⟩

theorem Makes.preserves (makes : grammar.Makes holds) :
    grammar.Preserves (Token.Known grammar)
      (fun reading => ∀ setting ∈ reading.settings, holds setting) where
  switch known earlier taken :=
    makes.takeSwitch (known _ List.mem_cons_self) earlier taken
  operand _ earlier taken := by
    rw [settings_of_takeOperand taken]
    exact earlier
  extras _ earlier := earlier

/-- Every setting of a reading has a property that all settings have that the switches of
the grammar can make. -/
theorem Makes.read
    (makes : grammar.Makes holds)
    {arguments : List String}
    {reading : Reading ε}
    (result : grammar.read arguments = .ok reading) :
    ∀ setting ∈ reading.settings, holds setting := by
  obtain ⟨tokens, classified, taken⟩ := read_eq_ok result
  exact makes.preserves.take (known_of_tokens classified) (by simp [Reading.empty]) taken

end Grammar

/-! ## Numbers of an invocation -/

/-- What is supplied, if it is a number, can be written. -/
def SuppliedWritable (supplied : Supplied Int) : Prop :=
  ∀ number, supplied = .value number → Numeral.Writable number

/-- The numbers of a setting of the command that rolls can be written. -/
def RollSetting.Writable : RollSetting → Prop
  | times number => SuppliedWritable number
  | seed number => SuppliedWritable number
  | json => True

theorem suppliedWritable_of_carryOut
    {grammar : Grammar ε}
    {spellings : List String}
    {name : Supplied Int → ε}
    {supplied : Supplied String}
    {setting : ε}
    (result : grammar.carryOut { spellings, action := .number name } supplied =
      .ok setting) :
    ∃ number, setting = name number ∧ SuppliedWritable number := by
  cases supplied with
  | blank =>
      obtain rfl := Except.ok.inj result
      exact ⟨.blank, rfl, nofun⟩
  | value text =>
      unfold Grammar.carryOut at result
      dsimp only at result
      split at result
      · rename_i number read
        obtain rfl := Except.ok.inj result
        refine ⟨.value number, rfl, ?_⟩
        intro other same
        obtain rfl := Supplied.value.inj same
        exact writable_of_wholeNumber? read
      · contradiction

theorem makes_rollGrammar : rollGrammar.Makes RollSetting.Writable := by
  intro switch member supplied setting result
  simp only [rollGrammar, List.mem_cons, List.not_mem_nil, or_false] at member
  rcases member with rfl | rfl | rfl | rfl
  · contradiction
  · obtain ⟨number, rfl, writable⟩ := suppliedWritable_of_carryOut result
    exact writable
  · obtain ⟨number, rfl, writable⟩ := suppliedWritable_of_carryOut result
    exact writable
  · obtain rfl := Except.ok.inj result
    trivial

/-- The numbers of a command to roll can be written. -/
def Command.Writable : Command → Prop
  | roll _ times seed _ => SuppliedWritable times ∧ ∀ number ∈ seed, SuppliedWritable number
  | _ => True

theorem Command.Writable.withRollSetting
    {command : Command}
    {setting : RollSetting}
    (commandWritable : command.Writable)
    (settingWritable : setting.Writable) :
    (command.withRollSetting setting).Writable := by
  cases command with
  | roll text times seed json =>
      obtain ⟨timesWritable, seedWritable⟩ := commandWritable
      cases setting with
      | times number => exact ⟨settingWritable, seedWritable⟩
      | seed number => exact ⟨timesWritable, by rintro _ ⟨⟩; exact settingWritable⟩
      | json => exact ⟨timesWritable, seedWritable⟩
  | describe text short => cases setting <;> trivial
  | serve host port => cases setting <;> trivial

theorem Reading.writable_rollCommand
    {reading : Reading RollSetting}
    (settings : ∀ setting ∈ reading.settings, setting.Writable) :
    reading.rollCommand.Writable := by
  unfold rollCommand
  apply List.foldlRecOn
  · refine ⟨?_, by simp⟩
    intro number one
    obtain rfl := Supplied.value.inj one
    decide +kernel
  · intro command writable setting member
    exact writable.withRollSetting (settings setting member)

theorem Reading.writable_serveCommand
    (settings : Settings)
    (reading : Reading ServeSetting) :
    (reading.serveCommand settings).Writable := by
  unfold serveCommand
  apply List.foldlRecOn
  · trivial
  · intro command writable setting _
    cases command <;> cases setting <;> exact writable

/-- The numbers that an invocation holds can be written. -/
theorem Invocation.writable_of_read
    {settings : Settings}
    {arguments : List String}
    {invocation : Invocation}
    (result : Invocation.read settings arguments = .ok invocation) :
    invocation.command.Writable := by
  obtain ⟨reading, _, rest⟩ := Stop.bind_eq_ok_iff.mp result
  obtain ⟨⟨command, extras⟩, commandRead, final⟩ := Stop.bind_eq_ok_iff.mp rest
  have writable : command.Writable := by
    unfold readCommand at commandRead
    split at commandRead
    · obtain ⟨rollReading, rollRead, made⟩ := Stop.bind_eq_ok_iff.mp commandRead
      obtain ⟨rfl, -⟩ := Prod.mk.inj (Except.ok.inj made)
      exact Reading.writable_rollCommand (makes_rollGrammar.read rollRead)
    · split at commandRead
      · obtain ⟨describeReading, _, made⟩ := Stop.bind_eq_ok_iff.mp commandRead
        obtain ⟨rfl, -⟩ := Prod.mk.inj (Except.ok.inj made)
        trivial
      · obtain ⟨serveReading, _, made⟩ := Stop.bind_eq_ok_iff.mp commandRead
        obtain ⟨rfl, -⟩ := Prod.mk.inj (Except.ok.inj made)
        exact Reading.writable_serveCommand settings serveReading
  dsimp only at final
  split at final
  · obtain rfl := Except.ok.inj final
    exact writable
  · contradiction

end CommandLine
end Tabletop
