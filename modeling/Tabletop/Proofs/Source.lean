import Tabletop.Fault

/-!
# Sources that keep bounds

A random source answers requests in turn.  It keeps bounds if every answer that it
gives lies within the bounds asked for, whatever was asked before.
-/

namespace Tabletop

/-- Some number lies within the bounds. -/
def Bounds.Proper (bounds : Bounds) : Prop :=
  bounds.low ≤ bounds.high

/-- The number lies within the bounds. -/
def Bounds.Contains (bounds : Bounds) (value : Int) : Prop :=
  bounds.low ≤ value ∧ value ≤ bounds.high

namespace RandomSource

variable [RandomSource σ]

/-- The source after it was asked for numbers. -/
def afterRequests (source : σ) (requests : List Bounds) : σ :=
  requests.foldl (fun source bounds => (draw bounds source).2) source

/-- Every answer of the source to a proper request lies within the bounds, now and
after any proper requests. -/
def KeepsBounds (source : σ) : Prop :=
  ∀ earlier : List Bounds,
    (∀ bounds ∈ earlier, bounds.Proper) →
      ∀ (bounds : Bounds) (value : Int),
        bounds.Proper →
          (draw bounds (afterRequests source earlier)).1 = .ok value →
            bounds.Contains value

/-- A source answers requests in turn, with a number for each. -/
inductive Answers : σ → List Bounds → List Int → σ → Prop
  | done (source : σ) : Answers source [] [] source
  | next {source middle later : σ} {bounds : Bounds} {requests : List Bounds}
      {value : Int} {values : List Int} :
      draw bounds source = (.ok value, middle) →
        Answers middle requests values later →
          Answers source (bounds :: requests) (value :: values) later

/-! ## Keeping bounds -/

/-- What every source keeps that answers a proper request holds after any of them. -/
theorem invariant_afterRequests
    (invariant : σ → Prop)
    (step : ∀ (source : σ) (bounds : Bounds),
      invariant source → bounds.Proper → invariant (draw bounds source).2)
    {source : σ}
    (holds : invariant source)
    {earlier : List Bounds}
    (proper : ∀ bounds ∈ earlier, bounds.Proper) :
    invariant (afterRequests source earlier) := by
  induction earlier generalizing source with
  | nil => exact holds
  | cons first earlier inductionHypothesis =>
      rw [List.forall_mem_cons] at proper
      exact inductionHypothesis (step source first holds proper.1) proper.2

/-- A property of sources shows that bounds are kept if every source that has it
keeps the bounds of one request and has it afterwards. -/
theorem keepsBounds_of_invariant
    (invariant : σ → Prop)
    (step : ∀ (source : σ) (bounds : Bounds),
      invariant source → bounds.Proper →
        invariant (draw bounds source).2 ∧
          ∀ value, (draw bounds source).1 = .ok value → bounds.Contains value)
    {source : σ}
    (holds : invariant source) :
    KeepsBounds source := by
  intro earlier proper bounds value boundsProper answered
  have keeps (source : σ) (bounds : Bounds) (held : invariant source) (isProper : bounds.Proper) :
      invariant (draw bounds source).2 :=
    (step source bounds held isProper).1
  have later := invariant_afterRequests invariant keeps holds proper
  exact (step _ bounds later boundsProper).2 value answered

theorem KeepsBounds.contains
    {source : σ}
    (keeps : KeepsBounds source)
    {bounds : Bounds}
    (proper : bounds.Proper)
    {value : Int}
    (answered : (draw bounds source).1 = .ok value) :
    bounds.Contains value :=
  keeps [] (by simp) bounds value proper answered

theorem KeepsBounds.draw
    {source : σ}
    (keeps : KeepsBounds source)
    {bounds : Bounds}
    (proper : bounds.Proper) :
    KeepsBounds (RandomSource.draw bounds source).2 := by
  intro earlier earlierProper
  exact keeps (bounds :: earlier) (List.forall_mem_cons.mpr ⟨proper, earlierProper⟩)

/-! ## Never failing -/

/-- The source answers every proper request with a number, now and after any proper
requests. -/
def NeverFails (source : σ) : Prop :=
  ∀ earlier : List Bounds,
    (∀ bounds ∈ earlier, bounds.Proper) →
      ∀ bounds : Bounds,
        bounds.Proper →
          ∃ value, (draw bounds (afterRequests source earlier)).1 = .ok value

/-- A property of sources shows that they never fail if every source that has it answers
one request and has it afterwards. -/
theorem neverFails_of_invariant
    (invariant : σ → Prop)
    (step : ∀ (source : σ) (bounds : Bounds),
      invariant source → bounds.Proper →
        invariant (draw bounds source).2 ∧ ∃ value, (draw bounds source).1 = .ok value)
    {source : σ}
    (holds : invariant source) :
    NeverFails source := by
  intro earlier proper bounds boundsProper
  have keeps (source : σ) (bounds : Bounds) (held : invariant source) (isProper : bounds.Proper) :
      invariant (draw bounds source).2 :=
    (step source bounds held isProper).1
  have later := invariant_afterRequests invariant keeps holds proper
  exact (step _ bounds later boundsProper).2

theorem NeverFails.answered
    {source : σ}
    (never : NeverFails source)
    {bounds : Bounds}
    (proper : bounds.Proper) :
    ∃ value, (RandomSource.draw bounds source).1 = .ok value :=
  never [] (by simp) bounds proper

theorem NeverFails.draw
    {source : σ}
    (never : NeverFails source)
    {bounds : Bounds}
    (proper : bounds.Proper) :
    NeverFails (RandomSource.draw bounds source).2 := by
  intro earlier earlierProper
  exact never (bounds :: earlier) (List.forall_mem_cons.mpr ⟨proper, earlierProper⟩)

/-! ## Answers in turn -/

namespace Answers

variable {source later : σ} {requests : List Bounds} {values : List Int}

theorem length_eq (answers : Answers source requests values later) :
    values.length = requests.length := by
  induction answers with
  | done source => rfl
  | next _ _ inductionHypothesis =>
      rw [List.length_cons, List.length_cons, inductionHypothesis]

/-- A source that keeps bounds still does so after it answered. -/
theorem keepsBounds
    (answers : Answers source requests values later)
    (proper : ∀ bounds ∈ requests, bounds.Proper)
    (keeps : KeepsBounds source) :
    KeepsBounds later := by
  induction answers with
  | done source => exact keeps
  | next drawn _ inductionHypothesis =>
      rw [List.forall_mem_cons] at proper
      apply inductionHypothesis proper.2
      have keepsNext := keeps.draw proper.1
      rw [drawn] at keepsNext
      exact keepsNext

/-- A source that never fails still does not after it answered. -/
theorem neverFails
    (answers : Answers source requests values later)
    (proper : ∀ bounds ∈ requests, bounds.Proper)
    (never : NeverFails source) :
    NeverFails later := by
  induction answers with
  | done source => exact never
  | next drawn _ inductionHypothesis =>
      rw [List.forall_mem_cons] at proper
      apply inductionHypothesis proper.2
      have neverNext := never.draw proper.1
      rw [drawn] at neverNext
      exact neverNext

/-- The answers of a source that keeps bounds to equal requests all lie within their
bounds. -/
theorem contains_of_mem_replicate
    {bounds : Bounds}
    {count : Nat}
    (answers : Answers source (List.replicate count bounds) values later)
    (proper : bounds.Proper)
    (keeps : KeepsBounds source) :
    ∀ value ∈ values, bounds.Contains value := by
  induction count generalizing source values with
  | zero =>
      cases answers
      simp
  | succ count inductionHypothesis =>
      cases answers with
      | next drawn answers =>
          have keepsNext := keeps.draw proper
          rw [drawn] at keepsNext
          rw [List.forall_mem_cons]
          constructor
          · exact keeps.contains proper (by rw [drawn])
          · exact inductionHypothesis answers keepsNext

end Answers
end RandomSource

/-! ## The congruential generator -/

namespace ScriptedSource

theorem contains_congruentialAnswer
    {bounds : Bounds}
    (proper : bounds.Proper)
    (state : Int) :
    bounds.Contains (congruentialAnswer bounds state) := by
  have width : 0 < bounds.high - bounds.low + 1 := by
    unfold Bounds.Proper at proper
    omega
  have lower := Int.fmod_nonneg_of_pos (state / 8589934592) width
  have upper := Int.fmod_lt_of_pos (state / 8589934592) width
  unfold Bounds.Contains congruentialAnswer
  constructor <;> omega

/-- The congruential generator keeps bounds. -/
theorem keepsBounds_congruential (state : Int) :
    RandomSource.KeepsBounds (congruential state) := by
  refine RandomSource.keepsBounds_of_invariant (fun source => ∃ state, source = congruential state)
    ?_ ⟨state, rfl⟩
  rintro _ bounds ⟨state, rfl⟩ proper
  refine ⟨⟨_, rfl⟩, ?_⟩
  intro value answered
  obtain rfl := Except.ok.inj answered
  exact contains_congruentialAnswer proper _

/-- The congruential generator never fails. -/
theorem neverFails_congruential (state : Int) :
    RandomSource.NeverFails (congruential state) := by
  refine RandomSource.neverFails_of_invariant (fun source => ∃ state, source = congruential state)
    ?_ ⟨state, rfl⟩
  rintro _ bounds ⟨state, rfl⟩ _
  exact ⟨⟨_, rfl⟩, _, rfl⟩

/-! ## The highest numbers -/

theorem keepsBounds_highest : RandomSource.KeepsBounds highest := by
  refine RandomSource.keepsBounds_of_invariant (· = highest) ?_ rfl
  rintro _ bounds rfl proper
  refine ⟨rfl, ?_⟩
  intro value answered
  obtain rfl := Except.ok.inj answered
  exact ⟨proper, Int.le_refl _⟩

theorem neverFails_highest : RandomSource.NeverFails highest := by
  refine RandomSource.neverFails_of_invariant (· = highest) ?_ rfl
  rintro _ bounds rfl _
  exact ⟨rfl, _, rfl⟩

theorem answers_highest
    {later : ScriptedSource}
    {requests : List Bounds}
    {values : List Int}
    (answers : RandomSource.Answers highest requests values later) :
    values = requests.map Bounds.high := by
  generalize given : highest = source at answers
  induction answers with
  | done _ => rfl
  | next drawn _ inductionHypothesis =>
      subst given
      obtain ⟨value, middle⟩ := Prod.mk.inj drawn
      rw [List.map_cons, inductionHypothesis middle, Except.ok.inj value]

end ScriptedSource

/-! ## Sources that fail -/

/-- A source that fails in the same way whatever it is asked for. -/
structure FailingSource where
  /-- The failure. -/
  failure : SourceFailure

instance : RandomSource FailingSource where
  draw _ source := (.error source.failure, source)

namespace SourceFailure

/-- The failure of putting a number beyond the digit limit into words. -/
def longNumber : SourceFailure :=
  .worded "ValueError" (Text.elements Fault.numberTooLong.wording)

/-- A failure that is to be put into words by a number beyond the digit limit. -/
def ofLongNumber : SourceFailure :=
  .wordless "ValueError" longNumber

end SourceFailure
end Tabletop
