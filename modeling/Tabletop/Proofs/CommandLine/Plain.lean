import Tabletop.Proofs.CommandLine.Reading

/-!
# Plain invocations

The program can be told to roll a notation a number of times and to print the outcomes
as JSON by naming just that.  The notation must be taken for an operand, and most texts
are; the number may be any positive one within the digit limit.
-/

namespace Tabletop
namespace CommandLine

namespace Grammar

variable {grammar : Grammar ε}

/-! ## Roles -/

theorem classify_of_not_dash
    {argument : String}
    (plain : argument.toList.head? ≠ some '-') :
    grammar.classify argument = .ok (.operand argument) := by
  unfold classify
  split
  · rename_i same
    simp [same] at plain
  · rfl

theorem written_of_classify
    {argument : String}
    {token : Token ε}
    (classified : grammar.classify argument = .ok token) :
    token.written = argument := by
  unfold classify classifyDashed at classified
  dsimp only at classified
  repeat' split at classified
  all_goals first
    | contradiction
    | obtain rfl := Except.ok.inj classified
      rfl

theorem tokens_cons
    {argument : String}
    {arguments : List String}
    {token : Token ε}
    {tokens : List (Token ε)}
    (different : argument ≠ "--")
    (first : grammar.classify argument = .ok token)
    (later : grammar.tokens arguments = .ok tokens) :
    grammar.tokens (argument :: arguments) = .ok (token :: tokens) := by
  rw [Grammar.tokens, if_neg different, first]
  simp [later, bind, Except.bind, pure, Except.pure]

theorem written_of_tokens
    {arguments : List String}
    {tokens : List (Token ε)}
    (classified : grammar.tokens arguments = .ok tokens) :
    tokens.map Token.written = arguments := by
  induction arguments generalizing tokens with
  | nil =>
      obtain rfl := Except.ok.inj classified
      rfl
  | cons argument arguments inductionHypothesis =>
      unfold Grammar.tokens at classified
      split at classified
      · rename_i divider
        obtain rfl := Except.ok.inj classified
        simp [Token.written, divider, Function.comp_def]
      · obtain ⟨first, firstClassified, rest⟩ := Stop.bind_eq_ok_iff.mp classified
        obtain ⟨later, laterClassified, result⟩ := Stop.bind_eq_ok_iff.mp rest
        obtain rfl := Except.ok.inj result
        simp [written_of_classify firstClassified, inductionHypothesis laterClassified]

/-! ## Operands that are taken -/

theorem mem_of_operandAt
    {arguments : List (Token ε)}
    {written : String}
    (taken : (operandAt arguments).1 = some written) :
    .operand written ∈ arguments := by
  unfold operandAt at taken
  dsimp only at taken
  split at taken
  · rename_i first later rest
    obtain rfl := Option.some.inj taken
    apply List.mem_of_mem_drop (i := dividers arguments)
    simp [rest]
  · contradiction

/-- Where an operand may be left out, the one that is taken is an argument that was found
to be an operand. -/
theorem preserves_operand
    (optional : grammar.operand = .optional)
    (holds : String → Prop) :
    grammar.Preserves (fun token => ∀ written, token = .operand written → holds written)
      (fun reading => ∀ written ∈ reading.operand, holds written) where
  switch all earlier result := by
    unfold takeSwitch at result
    split at result
    · obtain ⟨gathered, _, rest⟩ := Stop.bind_eq_ok_iff.mp result
      obtain ⟨settings, _, final⟩ := Stop.bind_eq_ok_iff.mp rest
      obtain ⟨rfl, -⟩ := Prod.mk.inj (Except.ok.inj final)
      exact earlier
    · obtain ⟨rfl, -⟩ := Prod.mk.inj (Except.ok.inj result)
      exact earlier
  operand all earlier result := by
    simp only [takeOperand, optional] at result
    split at result
    · obtain ⟨rfl, -⟩ := Prod.mk.inj (Except.ok.inj result)
      exact earlier
    · obtain ⟨rfl, -⟩ := Prod.mk.inj (Except.ok.inj result)
      intro written taken
      exact all _ (mem_of_operandAt taken) written rfl
  extras _ earlier := earlier

theorem mem_tokens_of_read
    (optional : grammar.operand = .optional)
    {arguments : List String}
    {reading : Reading ε}
    {written : String}
    (result : grammar.read arguments = .ok reading)
    (taken : reading.operand = some written) :
    ∃ tokens, grammar.tokens arguments = .ok tokens ∧ .operand written ∈ tokens := by
  obtain ⟨tokens, classified, takenAll⟩ := read_eq_ok result
  refine ⟨tokens, classified, ?_⟩
  refine (preserves_operand optional (.operand · ∈ tokens)).take ?_ ?_ takenAll written taken
  · rintro token member found rfl
    exact member
  · simp [Reading.empty]

end Grammar

/-! ## The notation -/

/-- An argument after the name of the command that rolls is taken for an operand. -/
structure IsNotation (argument : String) : Prop where
  /-- The program itself can tell its role. -/
  classified : ∃ token, globalGrammar.classify argument = .ok token
  /-- For the command it is an operand. -/
  operand : rollGrammar.classify argument = .ok (.operand argument)

theorem isNotation_of_not_dash
    {argument : String}
    (plain : argument.toList.head? ≠ some '-') :
    IsNotation argument :=
  ⟨⟨_, Grammar.classify_of_not_dash plain⟩, Grammar.classify_of_not_dash plain⟩

/-- A bare double dash could stand for several switches. -/
theorem IsNotation.ne_divider
    {argument : String}
    (isNotation : IsNotation argument) :
    argument ≠ "--" := by
  rintro rfl
  have ambiguous : (rollGrammar.classify "--").toBool = false := by decide +kernel
  rw [isNotation.operand] at ambiguous
  contradiction

theorem head?_text_ne_dash {number : Nat} (positive : 1 ≤ number) :
    (Numeral.text number).toList.head? ≠ some '-' := by
  have proper := Numeral.isProper_digits number positive
  rw [Numeral.text_natCast, String.toList_ofList]
  cases written : Numeral.digits number with
  | nil => simp
  | cons first rest =>
      rw [written] at proper
      simpa using proper.1.ne_minus

theorem text_ne_divider {number : Nat} (positive : 1 ≤ number) :
    Numeral.text number ≠ "--" := by
  intro same
  have plain := head?_text_ne_dash positive
  rw [same] at plain
  exact plain (by decide)

/-! ## Taking -/

namespace Grammar

variable {grammar : Grammar ε}

/-- Nothing more is taken once everything is. -/
theorem take_nil_of_settled
    {reading : Reading ε}
    (settled : reading.settled = true) :
    grammar.take reading [] = .ok reading := by
  rw [Grammar.take]
  cases reading
  simp_all [finish, takeOperand, bind, Except.bind, pure, Except.pure]

/-- The name of a command is taken with all that follows it. -/
theorem take_command
    {name word : String}
    {choices : List String}
    (commands : grammar.operand = .command name choices)
    (chosen : word ∈ choices)
    (arguments : List (Token ε)) :
    grammar.take Reading.empty (.operand word :: arguments) =
      .ok { settings := [], settled := true, operand := some word
            rest := arguments.map Token.written, extras := [] } := by
  have taken : grammar.takeOperand Reading.empty (.operand word :: arguments) =
      .ok ({ settings := [], settled := true, operand := some word
             rest := arguments.map Token.written, extras := [] }, arguments.length + 1) := by
    simp [takeOperand, commands, operandAt, dividers, Reading.empty, Token.written, chosen]
  rw [Grammar.take]
  split
  · simp only [Token.isSwitch, taken, bind, Except.bind]
    simp [take_nil_of_settled]
  · simp [finish, taken, bind, Except.bind, pure, Except.pure]

/-- An operand before a switch is taken where it may be. -/
theorem take_operand_switch
    {token : Token ε}
    (optional : grammar.operand = .optional)
    (isSwitch : token.isSwitch = true)
    (written : String)
    (arguments : List (Token ε)) :
    grammar.take Reading.empty (.operand written :: token :: arguments) =
      grammar.take { Reading.empty with settled := true, operand := some written }
        (token :: arguments) := by
  have taken : grammar.takeOperand Reading.empty (.operand written :: token :: arguments) =
      .ok ({ Reading.empty with settled := true, operand := some written }, 1) := by
    cases token <;>
      simp_all [takeOperand, operandAt, dividers, Reading.empty, Token.isSwitch]
  have later : (Token.operand written :: token :: arguments).any Token.isSwitch := by
    simp [isSwitch]
  rw [Grammar.take, if_pos later]
  simp [Token.isSwitch, taken, bind, Except.bind]

/-- A switch is taken with as many of the arguments after it as it takes. -/
theorem take_switch
    {reading later : Reading ε}
    {token : Token ε}
    {arguments : List (Token ε)}
    {number : Nat}
    (isSwitch : token.isSwitch = true)
    (taken : grammar.takeSwitch reading arguments token = .ok (later, number)) :
    grammar.take reading (token :: arguments) =
      grammar.take later (arguments.drop number) := by
  rw [Grammar.take]
  simp [isSwitch, taken, bind, Except.bind]

end Grammar

/-! ## The arguments -/

/-- The arguments that tell the program to roll a notation a number of times and to print
the outcomes as JSON. -/
def rollArguments (written : String) (times : Int) : List String :=
  ["roll", written, "--times", Numeral.text times, "--json"]

theorem classify_text
    {grammar : Grammar ε}
    {number : Nat}
    (positive : 1 ≤ number) :
    grammar.classify (Numeral.text number) = .ok (.operand (Numeral.text number)) :=
  Grammar.classify_of_not_dash (head?_text_ne_dash positive)

theorem globalGrammar_classify_roll :
    globalGrammar.classify "roll" = .ok (.operand "roll") :=
  Grammar.classify_of_not_dash (by decide)

theorem globalGrammar_classify_times :
    globalGrammar.classify "--times" = .ok (.unknown "--times") :=
  rfl

theorem globalGrammar_classify_json :
    globalGrammar.classify "--json" = .ok (.unknown "--json") :=
  rfl

/-- The switch before the number of times. -/
def timesSwitch : Switch RollSetting :=
  { spellings := ["--times", "-t"], action := .number .times }

/-- The switch that asks for JSON. -/
def jsonSwitch : Switch RollSetting :=
  { spellings := ["--json"], action := .flag .json }

theorem rollGrammar_classify_times :
    rollGrammar.classify "--times" = .ok (.switch "--times" timesSwitch "--times" none) :=
  rfl

theorem rollGrammar_classify_json :
    rollGrammar.classify "--json" = .ok (.switch "--json" jsonSwitch "--json" none) :=
  rfl

theorem tokens_rollArguments
    {grammar : Grammar ε}
    {written : String}
    {token timesToken jsonToken : Token ε}
    {times : Nat}
    (different : written ≠ "--")
    (classified : grammar.classify written = .ok token)
    (positive : 1 ≤ times)
    (timesClassified : grammar.classify "--times" = .ok timesToken)
    (jsonClassified : grammar.classify "--json" = .ok jsonToken) :
    grammar.tokens [written, "--times", Numeral.text times, "--json"] =
      .ok [token, timesToken, .operand (Numeral.text times), jsonToken] := by
  have last : grammar.tokens ["--json"] = .ok [jsonToken] :=
    Grammar.tokens_cons (by decide) jsonClassified rfl
  refine Grammar.tokens_cons different classified ?_
  refine Grammar.tokens_cons (by decide) timesClassified ?_
  exact Grammar.tokens_cons (text_ne_divider positive) (classify_text positive) last

/-- After its name, the arguments are left to the command that rolls. -/
theorem globalGrammar_read_roll (arguments : List String) :
    globalGrammar.read ("roll" :: arguments) = do
      let _ ← globalGrammar.tokens arguments
      return { settings := [], settled := true, operand := some "roll"
               rest := arguments, extras := [] } := by
  unfold Grammar.read
  rw [Grammar.tokens, if_neg (by decide), globalGrammar_classify_roll]
  cases classified : globalGrammar.tokens arguments with
  | error stop => rfl
  | ok tokens =>
      simp only [bind, Except.bind, pure, Except.pure]
      rw [Grammar.take_command rfl List.mem_cons_self tokens]
      simp [globalGrammar, Grammar.requiredName, Grammar.written_of_tokens classified]

theorem read_rollGrammar_rollArguments
    {written : String}
    {times : Nat}
    (isNotation : IsNotation written)
    (positive : 1 ≤ times)
    (writable : Numeral.Writable times) :
    rollGrammar.read [written, "--times", Numeral.text times, "--json"] =
      .ok { settings := [.times (.value times), .json], settled := true
            operand := some written, rest := [], extras := [] } := by
  have tokens := tokens_rollArguments isNotation.ne_divider isNotation.operand positive
    rollGrammar_classify_times rollGrammar_classify_json
  have timesTaken (reading : Reading RollSetting) :
      rollGrammar.takeSwitch reading
        [.operand (Numeral.text times), .switch "--json" jsonSwitch "--json" none]
        (.switch "--times" timesSwitch "--times" none) =
      .ok ({ reading with settings := reading.settings ++ [.times (.value times)] }, 1) := by
    simp [Grammar.takeSwitch, Grammar.gather, Grammar.gatherBare, timesSwitch,
      Action.takesValue, Grammar.carryOutAll, Grammar.carryOut, wholeNumber?_text positive writable,
      bind, Except.bind, pure, Except.pure]
  have jsonTaken (reading : Reading RollSetting) :
      rollGrammar.takeSwitch reading [] (.switch "--json" jsonSwitch "--json" none) =
      .ok ({ reading with settings := reading.settings ++ [.json] }, 0) :=
    rfl
  unfold Grammar.read
  rw [tokens]
  simp only [bind, Except.bind]
  rw [Grammar.take_operand_switch rfl rfl, Grammar.take_switch rfl (timesTaken _)]
  rw [List.drop_one, List.tail_cons, Grammar.take_switch rfl (jsonTaken _), List.drop_nil,
    Grammar.take_nil_of_settled rfl]
  rfl

/-! ## The invocation -/

/-- The arguments tell the program just that. -/
theorem read_rollArguments
    {written : String}
    {times : Nat}
    (settings : Settings)
    (isNotation : IsNotation written)
    (positive : 1 ≤ times)
    (writable : Numeral.Writable times) :
    Invocation.read settings (rollArguments written times) =
      .ok { debug := false, command := .roll (some written) (.value times) none true } := by
  obtain ⟨token, classified⟩ := isNotation.classified
  have tokens := tokens_rollArguments isNotation.ne_divider classified positive
    globalGrammar_classify_times globalGrammar_classify_json
  unfold Invocation.read rollArguments
  rw [globalGrammar_read_roll, tokens]
  simp [readCommand, read_rollGrammar_rollArguments isNotation positive writable,
    Reading.rollCommand, Command.withRollSetting, bind, Except.bind, pure, Except.pure]

/-- The notation of a command to roll is the operand that was taken. -/
theorem Reading.rollCommand_eq_roll
    {reading : Reading RollSetting}
    {text : Option String}
    {times : Supplied Int}
    {seed : Option (Supplied Int)}
    {json : Bool}
    (made : reading.rollCommand = .roll text times seed json) :
    reading.operand = text := by
  have takes : ∃ times seed json,
      reading.rollCommand = .roll reading.operand times seed json := by
    refine List.foldlRecOn (motive := fun command =>
      ∃ times seed json, command = Command.roll reading.operand times seed json) _ _ ?_ ?_
    · exact ⟨_, _, _, rfl⟩
    · rintro command ⟨times, seed, json, rfl⟩ setting _
      cases setting <;> exact ⟨_, _, _, rfl⟩
  obtain ⟨_, _, _, same⟩ := takes
  rw [made] at same
  exact (Command.roll.inj same).1.symm

/-- The arguments after the name of the command are looked at twice: by the program for their
roles, and by the command that takes the notation. -/
theorem tokens_of_read_rollArguments
    {settings : Settings}
    {written : String}
    {times : Int}
    {invocation : Invocation}
    {number : Supplied Int}
    {seed : Option (Supplied Int)}
    {json : Bool}
    (result : Invocation.read settings (rollArguments written times) = .ok invocation)
    (taken : invocation.command = .roll (some written) number seed json) :
    (∃ tokens, globalGrammar.tokens [written, "--times", Numeral.text times, "--json"] =
      .ok tokens) ∧
    ∃ tokens, rollGrammar.tokens [written, "--times", Numeral.text times, "--json"] =
        .ok tokens ∧
      .operand written ∈ tokens := by
  obtain ⟨reading, globalRead, rest⟩ := Stop.bind_eq_ok_iff.mp result
  rw [rollArguments, globalGrammar_read_roll] at globalRead
  obtain ⟨globalTokens, globalClassified, made⟩ := Stop.bind_eq_ok_iff.mp globalRead
  obtain rfl := Except.ok.inj made
  obtain ⟨⟨command, extras⟩, commandRead, final⟩ := Stop.bind_eq_ok_iff.mp rest
  obtain ⟨rollReading, rollRead, same⟩ := Stop.bind_eq_ok_iff.mp commandRead
  obtain ⟨rfl, rfl⟩ := Prod.mk.inj (Except.ok.inj same)
  have operand : rollReading.operand = some written := by
    dsimp only at final
    split at final
    · obtain rfl := Except.ok.inj final
      exact Reading.rollCommand_eq_roll taken
    · contradiction
  exact ⟨⟨globalTokens, globalClassified⟩, Grammar.mem_tokens_of_read rfl rollRead operand⟩

/-- Only a notation is taken in its place. -/
theorem isNotation_of_read
    {settings : Settings}
    {written : String}
    {times : Nat}
    {invocation : Invocation}
    {number : Supplied Int}
    {seed : Option (Supplied Int)}
    {json : Bool}
    (positive : 1 ≤ times)
    (result : Invocation.read settings (rollArguments written times) = .ok invocation)
    (taken : invocation.command = .roll (some written) number seed json) :
    IsNotation written := by
  obtain ⟨⟨globalTokens, globalClassified⟩, tokens, classified, member⟩ :=
    tokens_of_read_rollArguments result taken
  by_cases divider : written = "--"
  · subst divider
    obtain rfl := Except.ok.inj classified
    simp [(text_ne_divider positive).symm] at member
  · rw [Grammar.tokens, if_neg divider] at globalClassified classified
    obtain ⟨globalToken, globalFirst, -⟩ := Stop.bind_eq_ok_iff.mp globalClassified
    obtain ⟨token, first, later⟩ := Stop.bind_eq_ok_iff.mp classified
    refine ⟨⟨globalToken, globalFirst⟩, ?_⟩
    have allTokens := tokens_rollArguments divider first positive
      rollGrammar_classify_times rollGrammar_classify_json
    rw [Grammar.tokens, if_neg divider, first] at allTokens
    obtain rfl := Except.ok.inj (later.symm.trans allTokens)
    simp only [List.mem_cons, List.not_mem_nil, or_false, reduceCtorEq, false_or] at member
    rcases member with rfl | same
    · exact first
    · obtain rfl := Token.operand.inj same
      exact classify_text positive

end CommandLine
end Tabletop
