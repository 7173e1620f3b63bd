import Tabletop.Table

/-!
# Successful runs

Work made of two parts succeeds exactly if both parts do, one after the other.  A generator
is opened unless its seed is blank where that is not taken.
-/

namespace Tabletop

/-- The one seed that is not accepted is a blank one, by sources that do not take it. -/
theorem RandomSource.acceptSeed_eq_error_iff
    [RandomSource σ]
    {seed : Option (Supplied Int)}
    {fault : Fault} :
    acceptSeed σ seed = .error fault ↔
      seed = some .blank ∧ takesBlank σ = false ∧ fault = .blankSeed := by
  cases seed with
  | none => simp [acceptSeed]
  | some supplied =>
      cases supplied with
      | value number => simp [acceptSeed]
      | blank => cases taken : takesBlank σ <;> simp [acceptSeed, taken, eq_comm]

namespace Play

/-! ## Computations -/

@[simp] theorem ofExcept_ok (value : α) :
    (ofExcept (.ok value) : Play σ α) = pure value :=
  rfl

/-- A computation in steps is work in steps. -/
@[simp] theorem ofExcept_bind
    (first : Except Fault α)
    (next : α → Except Fault β) :
    (ofExcept (first >>= next) : Play σ β) =
      ofExcept first >>= fun value => ofExcept (next value) := by
  cases first <;> rfl

/-! ## Success -/

theorem run_bind_eq_ok_iff
    {work : Play σ α}
    {next : α → Play σ β}
    {before after : Table σ}
    {value : β} :
    Play.run (work >>= next) before = (.ok value, after) ↔
      ∃ first middle,
        work.run before = (.ok first, middle) ∧
          (next first).run middle = (.ok value, after) := by
  rw [run_bind]
  rcases ran : work.run before with ⟨fault | first, middle⟩
  · simp
  · constructor
    · intro rest
      exact ⟨first, middle, rfl, rest⟩
    · rintro ⟨other, state, same, rest⟩
      obtain ⟨sameValue, rfl⟩ := Prod.mk.inj same
      obtain rfl := Except.ok.inj sameValue
      exact rest

theorem run_pure_eq_ok_iff
    {given value : α}
    {before after : Table σ} :
    (pure given : Play σ α).run before = (.ok value, after) ↔
      given = value ∧ before = after := by
  simp

theorem run_ofExcept_eq_ok_iff
    {computed : Except Fault α}
    {before after : Table σ}
    {value : α} :
    (ofExcept computed).run before = (.ok value, after) ↔
      computed = .ok value ∧ before = after := by
  simp

/-- A request that succeeds was answered by the source, and is remembered. -/
theorem run_draw_eq_ok
    [RandomSource σ]
    {bounds : Bounds}
    {before after : Table σ}
    {value : Int}
    (ran : (draw bounds).run before = (.ok value, after)) :
    RandomSource.draw bounds before.source = (.ok value, after.source) ∧
      after.calls.toList = before.calls.toList ++ [bounds] := by
  rw [run_draw] at ran
  obtain ⟨answered, rfl⟩ := Prod.mk.inj ran
  constructor
  · rcases drawn : RandomSource.draw bounds before.source with ⟨failure | answer, source⟩
    · rw [drawn] at answered
      contradiction
    · rw [drawn] at answered
      obtain rfl := Except.ok.inj answered
      rfl
  · exact Array.toList_push

end Play
end Tabletop
