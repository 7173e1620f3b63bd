import Tabletop.Pool

/-!
# Putting pools together

A pool or a selection that is put together from numbers has exactly these numbers,
and it can be put together whenever a pool or a selection with these numbers exists.
-/

namespace Tabletop

@[simp] theorem Fault.ok_bind (value : α) (next : α → Except Fault β) :
    (Except.ok value >>= next) = next value :=
  rfl

@[simp] theorem Fault.error_bind (fault : Fault) (next : α → Except Fault β) :
    (Except.error fault >>= next) = .error fault :=
  rfl

/-- Two steps of a computation succeed if the first does and then the second. -/
theorem Fault.bind_eq_ok_iff
    {step : Except Fault α}
    {next : α → Except Fault β}
    {result : β} :
    (step >>= next) = .ok result ↔
      ∃ value, step = .ok value ∧ next value = .ok result := by
  cases step with
  | error fault => simp
  | ok value => simp

theorem Fault.map_eq_error_iff
    {outcome : Except Fault α}
    {change : α → β}
    {fault : Fault} :
    outcome.map change = .error fault ↔ outcome = .error fault := by
  cases outcome with
  | error other => simp [Except.map]
  | ok value => simp [Except.map]

/-- A number is read within the digit limit, as the number that its digits denote. -/
theorem Numeral.read_eq_ok_iff
    {digits : List Char}
    {number : Nat} :
    read digits = .ok number ↔
      digits.length ≤ 4300 ∧ value digits = number := by
  unfold read read? digitLimit
  by_cases short : digits.length ≤ 4300
  · simp [short]
  · simp only [short, if_false, false_and, reduceCtorEq]

theorem Numeral.read_of_long
    {digits : List Char}
    (long : 4300 < digits.length) :
    read digits = .error (.numeralTooLong digits.length) := by
  unfold read read? digitLimit
  rw [if_neg (by omega)]

/-- A number is written within the digit limit, as its text. -/
theorem Numeral.write_eq_ok_iff
    {number : Int}
    {written : String} :
    write number = .ok written ↔ Writable number ∧ text number = written := by
  unfold write text?
  by_cases writable : Writable number
  · simp [writable]
  · simp only [writable, if_false, false_and, reduceCtorEq]

theorem Numeral.write_of_not_writable
    {number : Int}
    (long : ¬ Writable number) :
    write number = .error .numberTooLong := by
  unfold write text?
  rw [if_neg long]

/-- A number passes the check of its field as itself. -/
theorem Field.atLeast_eq_ok_iff
    {field : Field}
    {minimum : Nat}
    {value : Int}
    {number : AtLeast minimum} :
    field.atLeast minimum value = .ok number ↔ value = number.1 := by
  rw [← AtLeast.ofInt?_eq_some_iff]
  unfold atLeast
  cases AtLeast.ofInt? minimum value with
  | none => simp
  | some other => simp

/-- A selection is put together exactly from its own parts. -/
theorem Selection.build_eq_ok_iff
    {mode : Mode}
    {edge : Edge}
    {count : Int}
    {selection : Selection} :
    build mode edge count = .ok selection ↔
      selection.mode = mode ∧ selection.edge = edge ∧ count = selection.count := by
  unfold build
  rw [Fault.bind_eq_ok_iff]
  constructor
  · rintro ⟨number, checked, result⟩
    obtain rfl := Except.ok.inj result
    exact ⟨rfl, rfl, Field.atLeast_eq_ok_iff.mp checked⟩
  · rintro ⟨rfl, rfl, rfl⟩
    exact ⟨⟨selection.count, selection.count_pos⟩,
      Field.atLeast_eq_ok_iff.mpr rfl, rfl⟩

/-- A pool is put together exactly from its own parts. -/
theorem Pool.build_eq_ok_iff
    {count sides : Int}
    {selection : Option Selection}
    {pool : Pool} :
    build count sides selection = .ok pool ↔
      count = pool.count ∧ sides = pool.sides ∧ pool.selection = selection := by
  unfold build
  simp only [Fault.bind_eq_ok_iff]
  constructor
  · rintro ⟨dice, countChecked, faces, sidesChecked, result⟩
    obtain rfl := Except.ok.inj result
    exact ⟨Field.atLeast_eq_ok_iff.mp countChecked,
      Field.atLeast_eq_ok_iff.mp sidesChecked, rfl⟩
  · rintro ⟨rfl, rfl, rfl⟩
    exact ⟨⟨pool.count, pool.count_pos⟩, Field.atLeast_eq_ok_iff.mpr rfl,
      ⟨pool.sides, pool.two_le_sides⟩, Field.atLeast_eq_ok_iff.mpr rfl, rfl⟩

end Tabletop
