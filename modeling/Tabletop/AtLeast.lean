/-!
# Numbers with a minimum

A natural number that is known to be at least some minimum.
-/

namespace Tabletop

/-- A natural number that is at least the minimum. -/
abbrev AtLeast (minimum : Nat) : Type :=
  { number : Nat // minimum ≤ number }

namespace AtLeast

/-- One, which is at least one. -/
def one : AtLeast 1 :=
  ⟨1, Nat.le_refl 1⟩

/-- An integer as a natural number, if it is at least the minimum. -/
def ofInt? (minimum : Nat) (value : Int) : Option (AtLeast minimum) :=
  if bounded : (minimum : Int) ≤ value then some ⟨value.toNat, by omega⟩
  else none

/-- An integer is accepted exactly if it is the accepted number and that is at
least the minimum. -/
theorem ofInt?_eq_some_iff
    {minimum : Nat}
    {value : Int}
    {number : AtLeast minimum} :
    ofInt? minimum value = some number ↔ value = number.1 := by
  have atLeast := number.2
  unfold ofInt?
  split
  · rw [Option.some.injEq, Subtype.ext_iff]
    change value.toNat = number.1 ↔ value = number.1
    omega
  · simp only [reduceCtorEq, false_iff]
    omega

/-- An integer is refused exactly if it is below the minimum. -/
theorem ofInt?_eq_none_iff
    {minimum : Nat}
    {value : Int} :
    ofInt? minimum value = none ↔ value < minimum := by
  unfold ofInt?
  split
  · simp only [reduceCtorEq, false_iff]
    omega
  · simp only [true_iff]
    omega

end AtLeast
end Tabletop
