import Tabletop.Proofs.Notation.Reading
import Tabletop.Proofs.Order

/-!
# What reading a text comes to

A text is outside the grammar, or within it but with a numeral too long to convert, or it
stands for a pool; the check of a text tells the first apart from the others.  The numbers of
a notation never fail the checks of a pool, because the grammar has no numeral for a number
below their minimums.  Of the clauses only the last is ever converted, so the others may have
numerals of any length.
-/

namespace Tabletop

/-! ## Findings -/

namespace Notation

/-- What reading a text can come to. -/
inductive Finding
  /-- The text is no notation. -/
  | ungrammatical
  /-- The text is a notation with a numeral that is too long to convert. -/
  | unconvertible
  /-- The text is a notation that stands for a pool. -/
  | denoting

namespace Finding

/-- A finding holds of a text, of what the check of the text says, and of what reading it
gives. -/
def Holds (text : String) (valid : Bool) (result : Except Fault Pool) : Finding → Prop
  | ungrammatical => valid = false ∧ result = .error (.badNotation text)
  | unconvertible =>
      valid = true ∧
        (∃ parts : Notation, parts.Divides text ∧
          (4300 < parts.count.length ∨ 4300 < parts.sides.length ∨
            ∃ clause ∈ parts.clauses.getLast?, 4300 < clause.digits.length)) ∧
          ∃ fault, result = .error fault ∧ fault.kind = "ValueError" ∧ fault.isDice = false
  | denoting =>
      valid = true ∧
        ∃ (parts : Notation) (pool : Pool),
          parts.Divides text ∧ parts.Convertible ∧ parts.Denotes pool ∧
            result = .ok pool ∧
              1 ≤ pool.count ∧ 2 ≤ pool.sides ∧
                ∀ selection ∈ pool.selection, 1 ≤ selection.count

variable {text : String} {valid : Bool} {result : Except Fault Pool}

/-- At most one finding holds. -/
theorem Holds.unique
    {first second : Finding}
    (firstHolds : first.Holds text valid result)
    (secondHolds : second.Holds text valid result) :
    first = second := by
  cases first with
  | ungrammatical =>
      obtain ⟨rfl, rfl⟩ := firstHolds
      cases second with
      | ungrammatical => rfl
      | unconvertible => exact absurd secondHolds.1 Bool.false_ne_true
      | denoting => exact absurd secondHolds.1 Bool.false_ne_true
  | unconvertible =>
      obtain ⟨rfl, -, fault, rfl, -⟩ := firstHolds
      cases second with
      | ungrammatical => exact absurd secondHolds.1.symm Bool.false_ne_true
      | unconvertible => rfl
      | denoting =>
          obtain ⟨-, parts, pool, -, -, -, read, -⟩ := secondHolds
          contradiction
  | denoting =>
      obtain ⟨rfl, parts, pool, -, -, -, rfl, -⟩ := firstHolds
      cases second with
      | ungrammatical => exact absurd secondHolds.1.symm Bool.false_ne_true
      | unconvertible =>
          obtain ⟨-, -, fault, failed, -⟩ := secondHolds
          contradiction
      | denoting => rfl

/-- No finding is that a number is below its minimum. -/
theorem Holds.kind_ne
    {finding : Finding}
    {fault : Fault}
    (holds : finding.Holds text valid result)
    (failed : result = .error fault) :
    fault.kind ≠ "InvalidRollError" := by
  cases finding with
  | ungrammatical =>
      obtain rfl := Except.error.inj (holds.2.symm.trans failed)
      change "DiceSyntaxError" ≠ "InvalidRollError"
      decide
  | unconvertible =>
      obtain ⟨-, -, other, otherFailed, kind, -⟩ := holds
      obtain rfl := Except.error.inj (otherFailed.symm.trans failed)
      rw [kind]
      decide
  | denoting =>
      obtain ⟨-, -, pool, -, -, -, read, -⟩ := holds
      rw [read] at failed
      contradiction

end Finding

theorem exists_long_of_not_convertible
    {parts : Notation}
    (long : ¬ parts.Convertible) :
    4300 < parts.count.length ∨ 4300 < parts.sides.length ∨
      ∃ clause ∈ parts.clauses.getLast?, 4300 < clause.digits.length := by
  by_contra short
  rw [not_or, not_or, Nat.not_lt, Nat.not_lt] at short
  obtain ⟨count, sides, none⟩ := short
  refine long ⟨count, sides, fun clause last => ?_⟩
  by_contra clauseLong
  exact none ⟨clause, last, Nat.not_le.mp clauseLong⟩

/-- Some finding holds of every text. -/
theorem exists_holds (text : String) :
    ∃ finding : Finding, finding.Holds text (isValid text) (parse text) := by
  by_cases valid : isValid text = true
  case neg =>
    have outside := not_divides_of_not_isValid valid
    exact ⟨.ungrammatical, Bool.eq_false_iff.mpr valid, parse_of_not_divides outside⟩
  obtain ⟨parts, divides⟩ := isValid_iff.mp valid
  by_cases convertible : parts.Convertible
  · obtain ⟨pool, denotes⟩ := divides.grammatical.exists_denotes
    have read := parse_eq_ok_iff.mpr ⟨parts, divides, convertible, denotes⟩
    exact ⟨.denoting, valid, parts, pool, divides, convertible, denotes, read, pool.count_pos,
      pool.two_le_sides, fun selection _ => selection.count_pos⟩
  · obtain ⟨digits, -, failed⟩ := pool_of_not_convertible divides.grammatical convertible
    exact ⟨.unconvertible, valid, ⟨parts, divides, exists_long_of_not_convertible convertible⟩,
      _, divides.parse_eq.trans failed, rfl, rfl⟩

/-! ## Clauses before the last -/

/-- A notation with other clauses. -/
def withClauses (parts : Notation) (clauses : List Clause) : Notation :=
  { parts with clauses }

/-- Clauses of the grammar in the place of others make a notation again. -/
theorem Divides.withClauses
    {parts : Notation}
    {text : String}
    {clauses : List Clause}
    (divides : parts.Divides text)
    (grammatical : ∀ clause ∈ clauses, clause.Grammatical) :
    (parts.withClauses clauses).Divides
      (String.ofList (parts.withClauses clauses).flatten) where
  grammatical := { divides.grammatical with clauses := grammatical }
  whole := String.toList_ofList.symm

end Notation

namespace Play

theorem run_parse_of_divides
    {parts : Notation}
    {text : String}
    (divides : parts.Divides text)
    (table : Table σ) :
    (parse text).run table = (parts.pool, table) := by
  rw [parse_of_isValid (Notation.isValid_iff.mpr ⟨parts, divides⟩), run_ofExcept,
    divides.parse_eq]

/-- Reading a text comes to exactly one finding: the text fails the check and is refused with
itself as it was given, or it passes and has a numeral too long to convert, or it passes and
stands for a pool within the minimums.  It is never refused for a number below a minimum, and
no clause but the last makes a difference, however long its numeral is. -/
theorem parse_finding (text : String) (table : Table σ) :
    (∃! finding : Notation.Finding,
      finding.Holds text (Notation.isValid text) ((parse text).run table).1) ∧
    (∀ fault, ((parse text).run table).1 = .error fault → fault.kind ≠ "InvalidRollError") ∧
    (∀ (parts : Notation) (clauses : List Clause),
      parts.Divides text →
        (∀ clause ∈ clauses, clause.Grammatical) →
          clauses.getLast? = parts.clauses.getLast? →
            let other := String.ofList (parts.withClauses clauses).flatten
            Notation.isValid other = true ∧
              (parse other).run table = (parse text).run table) := by
  obtain ⟨finding, holds⟩ := Notation.exists_holds text
  have result : ((parse text).run table).1 = Notation.parse text := by rw [run_parse]
  rw [result]
  refine ⟨⟨finding, holds, fun _ otherHolds => otherHolds.unique holds⟩,
    fun _ failed => holds.kind_ne failed, ?_⟩
  intro parts clauses divides grammatical last
  have otherDivides := divides.withClauses grammatical
  refine ⟨Notation.isValid_iff.mpr ⟨_, otherDivides⟩, ?_⟩
  rw [run_parse_of_divides otherDivides, run_parse_of_divides divides,
    otherDivides.grammatical.pool_congr divides.grammatical rfl rfl last]

/-- A clause with a numeral of five thousand digits makes no difference before another one. -/
theorem parse_finding_longClause :
    let last : Clause := { modeLetter := 'd', edgeLetter := 'l', digits := [] }
    let long : Clause :=
      { modeLetter := 'k', edgeLetter := 'H', digits := List.replicate 5000 '9' }
    let parts : Notation :=
      { leading := [], count := ['2'], letter := 'd', sides := ['6'], clauses := [last],
        trailing := [] }
    let other := String.ofList (parts.withClauses [long, last]).flatten
    let table := Table.opening ()
    (((parse "3d6x").run table).1 = .error (.badNotation "3d6x") ∧
      (Fault.badNotation "3d6x").kind ≠ "InvalidRollError") ∧
    (parts.Divides "2d6dl" ∧ (∀ clause ∈ [long, last], clause.Grammatical) ∧
      [long, last].getLast? = parts.clauses.getLast?) ∧
    Notation.isValid other = true ∧ (parse other).run table = (parse "2d6dl").run table := by
  intro last long parts other table
  have refused : ((parse "3d6x").run table).1 = .error (.badNotation "3d6x") := by
    rw [run_parse]
    exact Notation.parse_of_not_divides (Notation.not_divides_of_not_isValid (by decide +kernel))
  have read : Notation.read? "2d6dl".toList = some parts := by decide +kernel
  obtain ⟨grammatical, whole⟩ := Notation.read?_eq_some_iff.mp read
  have divides : parts.Divides "2d6dl" := { grammatical, whole }
  have proper : Numeral.IsProper long.digits := by
    refine ⟨(Numeral.isLeading_iff '9').mp (by decide), fun digit member => ?_⟩
    rw [List.eq_of_mem_replicate member]
    exact (Numeral.isDigit_iff '9').mp (by decide)
  have longGrammatical : long.Grammatical :=
    { modeLetter := by decide, edgeLetter := by decide, digits := .inr proper }
  have clauses : ∀ clause ∈ [long, last], clause.Grammatical :=
    List.forall_mem_cons.mpr ⟨longGrammatical, grammatical.clauses⟩
  exact ⟨⟨refused, (parse_finding "3d6x" table).2.1 _ refused⟩, ⟨divides, clauses, rfl⟩,
    (parse_finding "2d6dl" table).2.2 parts [long, last] divides clauses rfl⟩

end Play
end Tabletop
