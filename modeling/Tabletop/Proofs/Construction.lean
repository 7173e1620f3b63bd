import Tabletop.Pool.Offer
import Tabletop.Proofs.Datum
import Tabletop.Proofs.Limits

/-!
# Pools and selections from offered values

The values offered for a pool or a selection are checked one after another.  If each of them is
what its field takes, then the pool or the selection of exactly these values is made.  Otherwise
the first that is not is refused, in words that show it.
-/

namespace Tabletop

/-! ## Checks -/

/-- The smallest number that a field takes, if it takes numbers. -/
def Field.minimum? : Field → Option Nat
  | selectionMode => none
  | selectionEdge => none
  | selectionCount => some 1
  | diceCount => some 1
  | diceSides => some 2
  | selection => none

/-- A value that is offered for a field. -/
structure Check where
  field : Field
  value : Datum

namespace Check

/-- The value is what the field takes: the mode and the end are themselves, a number is an
integer that is not below the minimum, and among these values the selection can only be none. -/
inductive Passes : Check → Prop
  | mode (value : Mode) : Passes ⟨.selectionMode, .mode value⟩
  | edge (value : Edge) : Passes ⟨.selectionEdge, .edge value⟩
  | number
      {field : Field}
      {minimum : Nat}
      {value : Int}
      (takes : field.minimum? = some minimum)
      (enough : (minimum : Int) ≤ value) : Passes ⟨field, .integer value⟩
  | nothing : Passes ⟨.selection, .nothing⟩

/-- A fault that refuses the value in words: a number is named with the minimum it is below,
and a value of another kind is shown. -/
inductive RefusedWith : Check → Fault → Prop
  | tooSmall
      {field : Field}
      {minimum : Nat}
      {value : Int}
      (takes : field.minimum? = some minimum)
      (below : value < minimum) :
      RefusedWith ⟨field, .integer value⟩ (.tooSmall field minimum value)
  | wrongKind
      {field : Field}
      {value : Datum}
      {shown : String}
      (other : ∀ number, value = .integer number → field.minimum? = none)
      (shows : value.shown = .ok shown) :
      RefusedWith ⟨field, value⟩ (.wrongKind field shown)

/-- A value that fails its check is the fault's reason.  If it can be put into words, it is
refused in words; otherwise what is raised is that a number is beyond the digit limit. -/
structure Blamed (check : Check) (fault : Fault) : Prop where
  worded : check.value.Worded → check.RefusedWith fault ∧ fault.kind = "InvalidRollError"
  unworded : ¬ check.value.Worded → fault = .numberTooLong

variable {field : Field} {value : Datum} {fault : Fault}

theorem RefusedWith.kind_eq
    {check : Check}
    (refused : check.RefusedWith fault) :
    fault.kind = "InvalidRollError" := by
  cases refused <;> rfl

theorem Blamed.of_worded
    {check : Check}
    (worded : check.value.Worded)
    (refused : check.RefusedWith fault) :
    check.Blamed fault where
  worded := fun _ => ⟨refused, refused.kind_eq⟩
  unworded := fun beyond => absurd worded beyond

theorem Blamed.of_not_worded
    {check : Check}
    (beyond : ¬ check.value.Worded) :
    check.Blamed .numberTooLong where
  worded := fun worded => absurd worded beyond
  unworded := fun _ => rfl

theorem passes_mode_iff :
    Passes ⟨.selectionMode, value⟩ ↔ ∃ mode, value = .mode mode := by
  constructor
  · intro passes
    cases passes with
    | mode mode => exact ⟨mode, rfl⟩
    | number takes => cases takes
  · rintro ⟨mode, rfl⟩
    exact .mode mode

theorem passes_edge_iff :
    Passes ⟨.selectionEdge, value⟩ ↔ ∃ edge, value = .edge edge := by
  constructor
  · intro passes
    cases passes with
    | edge edge => exact ⟨edge, rfl⟩
    | number takes => cases takes
  · rintro ⟨edge, rfl⟩
    exact .edge edge

theorem passes_selection_iff :
    Passes ⟨.selection, value⟩ ↔ value = .nothing := by
  constructor
  · intro passes
    cases passes with
    | nothing => rfl
    | number takes => cases takes
  · rintro rfl
    exact .nothing

theorem passes_number_iff
    {minimum : Nat}
    (takes : field.minimum? = some minimum) :
    Passes ⟨field, value⟩ ↔ ∃ number : AtLeast minimum, value = .integer number.1 := by
  constructor
  · intro passes
    cases passes with
    | mode => cases takes
    | edge => cases takes
    | nothing => cases takes
    | number takesOther enough =>
        cases takes.symm.trans takesOther
        refine ⟨⟨_, Int.toNat_le_toNat enough⟩, ?_⟩
        rw [Int.toNat_of_nonneg (by omega)]
  · rintro ⟨number, rfl⟩
    exact .number takes (by exact_mod_cast number.2)

theorem not_passes_of_lt
    {minimum : Nat}
    {value : Int}
    (takes : field.minimum? = some minimum)
    (below : value < minimum) :
    ¬ Passes ⟨field, .integer value⟩ := by
  rw [passes_number_iff takes]
  rintro ⟨number, same⟩
  have enough := number.2
  have value_eq := Datum.integer.inj same
  omega

end Check

/-! ## Outcomes of checks -/

/-- What comes of checks in order: everything passes and something is made, or the first value
that fails is the reason of the fault. -/
structure Settled
    (checks : List Check)
    (Makes : α → Prop)
    (outcome : Except Fault α) : Prop where
  made_iff : ∀ value, outcome = .ok value ↔ Makes value
  passed_iff : (∃ value, outcome = .ok value) ↔ ∀ check ∈ checks, check.Passes
  refused : ∀ passed failed rest,
    checks = passed ++ failed :: rest →
      (∀ check ∈ passed, check.Passes) →
        ¬ failed.Passes →
          ∃ fault, outcome = .error fault ∧ failed.Blamed fault

namespace Settled

/-- Nothing is left to be checked. -/
theorem pure (value : α) : Settled [] (· = value) (.ok value) where
  made_iff := fun other => by rw [Except.ok.injEq, eq_comm]
  passed_iff := by simp
  refused := fun passed failed rest split => by simp at split

/-- The value is what its field takes. -/
theorem of_passes
    {check : Check}
    {Makes : α → Prop}
    {value : α}
    (passes : check.Passes)
    (makes : ∀ other, Makes other ↔ other = value) :
    Settled [check] Makes (.ok value) where
  made_iff := fun other => by rw [Except.ok.injEq, makes, eq_comm]
  passed_iff := by simp [passes]
  refused := by
    intro passed failed rest split _ fails
    have among : failed ∈ [check] := by simp [split]
    rw [List.mem_singleton.mp among] at fails
    exact absurd passes fails

/-- The value is not what its field takes. -/
theorem of_blamed
    {check : Check}
    {Makes : α → Prop}
    {fault : Fault}
    (fails : ¬ check.Passes)
    (makes : ∀ value, ¬ Makes value)
    (blamed : check.Blamed fault) :
    Settled [check] Makes (.error fault) where
  made_iff := fun value => by simp [makes]
  passed_iff := by simp [fails]
  refused := by
    intro passed failed rest split _ _
    have among : failed ∈ [check] := by simp [split]
    obtain rfl := List.mem_singleton.mp among
    exact ⟨fault, rfl, blamed⟩

/-- A value of another kind is refused as it is shown. -/
theorem of_otherKind
    (field : Field)
    (value : Datum)
    {Makes : α → Prop}
    (fails : ¬ Check.Passes ⟨field, value⟩)
    (makes : ∀ made, ¬ Makes made)
    (other : ∀ number, value = .integer number → field.minimum? = none) :
    Settled [⟨field, value⟩] Makes
      (value.shown >>= fun shown => .error (.wrongKind field shown)) := by
  have limited := value.limitedBy_shown
  by_cases worded : value.Worded
  · obtain ⟨shown, shows⟩ := limited.ok worded
    rw [shows]
    exact of_blamed fails makes (.of_worded worded (.wrongKind other shows))
  · rw [limited.error worded]
    exact of_blamed fails makes (.of_not_worded worded)

/-- One thing is checked after another. -/
theorem bind
    {checks more : List Check}
    {Made : α → Prop}
    {Makes : α → β → Prop}
    {step : Except Fault α}
    {next : α → Except Fault β}
    (settled : Settled checks Made step)
    (settledNext : ∀ value, Made value → Settled more (Makes value) (next value)) :
    Settled (checks ++ more) (fun result => ∃ value, Made value ∧ Makes value result)
      (step >>= next) where
  made_iff := by
    intro result
    rw [Fault.bind_eq_ok_iff]
    apply exists_congr
    intro value
    rw [settled.made_iff]
    exact and_congr_right fun made => (settledNext value made).made_iff result
  passed_iff := by
    rw [List.forall_mem_append, ← settled.passed_iff]
    simp only [Fault.bind_eq_ok_iff]
    constructor
    · rintro ⟨result, value, stepped, ended⟩
      have made := (settled.made_iff value).mp stepped
      exact ⟨⟨value, stepped⟩, (settledNext value made).passed_iff.mp ⟨result, ended⟩⟩
    · rintro ⟨⟨value, stepped⟩, passes⟩
      have made := (settled.made_iff value).mp stepped
      obtain ⟨result, ended⟩ := (settledNext value made).passed_iff.mpr passes
      exact ⟨result, value, stepped, ended⟩
  refused := by
    intro passed failed rest split passes fails
    -- The first value to fail is among the later checks, or it is among the earlier ones.
    rcases List.append_eq_append_iff.mp split with ⟨later, rfl, left⟩ | ⟨later, rfl, left⟩
    · rw [List.forall_mem_append] at passes
      obtain ⟨value, rfl⟩ := settled.passed_iff.mpr passes.1
      have made := (settled.made_iff value).mp rfl
      exact (settledNext value made).refused later failed rest left passes.2 fails
    · cases later with
      | nil =>
          rw [List.append_nil] at settled
          obtain ⟨value, rfl⟩ := settled.passed_iff.mpr passes
          have made := (settled.made_iff value).mp rfl
          exact (settledNext value made).refused [] failed rest left.symm (by simp) fails
      | cons first later =>
          obtain ⟨rfl, rfl⟩ := List.cons.inj left
          obtain ⟨fault, rfl, blamed⟩ :=
            settled.refused passed failed later rfl passes fails
          exact ⟨fault, rfl, blamed⟩

/-- What the checks made is made into something else. -/
theorem map
    {checks : List Check}
    {Made : α → Prop}
    {step : Except Fault α}
    (settled : Settled checks Made step)
    (make : α → β) :
    Settled checks (fun result => ∃ value, Made value ∧ result = make value)
      (step >>= fun value => .ok (make value)) := by
  have both := settled.bind fun value _ => Settled.pure (make value)
  rwa [List.append_nil] at both

/-- What is made may be said in other words. -/
theorem congr
    {checks : List Check}
    {Made Makes : α → Prop}
    {outcome : Except Fault α}
    (settled : Settled checks Made outcome)
    (same : ∀ value, Made value ↔ Makes value) :
    Settled checks Makes outcome := by
  rwa [← funext fun value => propext (same value)]

end Settled

/-! ## The checks of the fields -/

theorem Field.writable_minimum
    {field : Field}
    {minimum : Nat}
    (takes : field.minimum? = some minimum) :
    Numeral.Writable minimum := by
  cases field <;> cases takes <;> decide +kernel

theorem Datum.asInteger_bind_of_ne
    (value : Datum)
    (field : Field)
    {next : Int → Except Fault α}
    (other : ∀ number, value ≠ .integer number) :
    (value.asInteger field >>= next) =
      (value.shown >>= fun shown => .error (.wrongKind field shown)) := by
  unfold asInteger
  split
  · exact absurd rfl (other _)
  · rw [bind_assoc]
    rfl

/-- A number that is too small is the reason of the fault that is raised for it. -/
theorem Check.blamed_raised_tooSmall
    {field : Field}
    {minimum : Nat}
    {value : Int}
    (takes : field.minimum? = some minimum)
    (below : value < minimum) :
    Check.Blamed ⟨field, .integer value⟩ (Fault.raised (.tooSmall field minimum value)) := by
  by_cases writable : Numeral.Writable value
  · rw [Fault.raised_of_writable (by simp [Fault.numbers, Field.writable_minimum takes, writable])]
    exact .of_worded ((Datum.worded_integer_iff value).mpr writable) (.tooSmall takes below)
  · rw [Fault.raised, if_neg (by simp [Fault.numbers, writable])]
    exact .of_not_worded fun worded => writable ((Datum.worded_integer_iff value).mp worded)

namespace Settled

/-- A mode is taken as itself, and anything else is shown. -/
theorem asMode (value : Datum) :
    Settled [⟨.selectionMode, value⟩] (fun mode => value = .mode mode) value.asMode := by
  cases value with
  | mode mode => exact .of_passes (.mode mode) fun other => by rw [Datum.mode.injEq, eq_comm]
  | _ =>
      exact of_otherKind .selectionMode _
        (by simp [Check.passes_mode_iff]) (by simp) fun _ _ => rfl

/-- An end is taken as itself, and anything else is shown. -/
theorem asEdge (value : Datum) :
    Settled [⟨.selectionEdge, value⟩] (fun edge => value = .edge edge) value.asEdge := by
  cases value with
  | edge edge => exact .of_passes (.edge edge) fun other => by rw [Datum.edge.injEq, eq_comm]
  | _ =>
      exact of_otherKind .selectionEdge _
        (by simp [Check.passes_edge_iff]) (by simp) fun _ _ => rfl

/-- An integer is taken as itself from its minimum on. -/
theorem atLeast
    {field : Field}
    {minimum : Nat}
    (takes : field.minimum? = some minimum)
    (value : Int) :
    Settled [⟨field, .integer value⟩]
      (fun number : AtLeast minimum => Datum.integer value = .integer number.1)
      (field.atLeast minimum value) := by
  unfold Field.atLeast
  cases fits : AtLeast.ofInt? minimum value with
  | some number =>
      obtain rfl := AtLeast.ofInt?_eq_some_iff.mp fits
      refine .of_passes ((Check.passes_number_iff takes).mpr ⟨number, rfl⟩) fun other => ?_
      rw [Datum.integer.injEq, Int.natCast_inj, ← Subtype.ext_iff, eq_comm]
  | none =>
      have below := AtLeast.ofInt?_eq_none_iff.mp fits
      have fails := Check.not_passes_of_lt takes below
      refine .of_blamed fails (fun number same => fails ?_)
        (Check.blamed_raised_tooSmall takes below)
      exact (Check.passes_number_iff takes).mpr ⟨number, same⟩

/-- A number is taken as itself from its minimum on, and anything else is shown. -/
theorem number
    {field : Field}
    {minimum : Nat}
    (takes : field.minimum? = some minimum)
    (value : Datum) :
    Settled [⟨field, value⟩] (fun number : AtLeast minimum => value = .integer number.1)
      (value.asInteger field >>= field.atLeast minimum) := by
  by_cases isInteger : ∃ number, value = .integer number
  · obtain ⟨number, rfl⟩ := isInteger
    exact atLeast takes number
  · have none (number : AtLeast minimum) : value ≠ .integer number.1 :=
      fun same => isInteger ⟨number.1, same⟩
    rw [value.asInteger_bind_of_ne field fun number same => isInteger ⟨number, same⟩]
    refine of_otherKind field value ?_ none fun number same => absurd ⟨number, same⟩ isInteger
    rw [Check.passes_number_iff takes]
    exact not_exists.mpr none

end Settled

/-! ## Offered values -/

/-- The check of a value, if there is one. -/
def Field.offered (field : Field) : Option Datum → List Check
  | some value => [⟨field, value⟩]
  | none => []

/-- A number of dice that is left out is one. -/
theorem Settled.countOrOne
    (field : Field)
    (takes : field.minimum? = some 1)
    (offered : Option Datum) :
    Settled (field.offered offered)
      (fun number : AtLeast 1 => offered.getD (.integer 1) = .integer number.1)
      (field.countOrOne offered >>= field.atLeast 1) := by
  cases offered with
  | some value => exact .number takes value
  | none =>
      have one : field.atLeast 1 1 = .ok AtLeast.one := Field.atLeast_eq_ok_iff.mpr rfl
      change Settled _ _ (field.atLeast 1 1)
      rw [one]
      refine (Settled.pure AtLeast.one).congr fun number => ?_
      rw [Option.getD_none, Datum.integer.injEq, Subtype.ext_iff]
      change number.1 = 1 ↔ (1 : Int) = number.1
      omega

namespace SelectionOffer

/-- No required value is left out. -/
structure Complete (offer : SelectionOffer) : Prop where
  mode : offer.mode.isSome
  edge : offer.edge.isSome

/-- The values to check, in order. -/
def checks (offer : SelectionOffer) : List Check :=
  Field.selectionMode.offered offer.mode ++
    (Field.selectionEdge.offered offer.edge ++
      Field.selectionCount.offered offer.count)

/-- The selection is the one of the offered values. -/
structure Makes (offer : SelectionOffer) (selection : Selection) : Prop where
  mode : offer.mode = some (.mode selection.mode)
  edge : offer.edge = some (.edge selection.edge)
  count : offer.count.getD (.integer 1) = .integer selection.count

/-- A selection is made if mode, end and number pass their checks in this order. -/
theorem settled_build
    {offer : SelectionOffer}
    (complete : offer.Complete) :
    Settled offer.checks offer.Makes offer.build := by
  obtain ⟨mode, hasMode⟩ := Option.isSome_iff_exists.mp complete.mode
  obtain ⟨edge, hasEdge⟩ := Option.isSome_iff_exists.mp complete.edge
  have inTurn :=
    (Settled.asMode mode).bind fun mode _ => (Settled.asEdge edge).bind fun edge _ =>
      (Settled.countOrOne .selectionCount rfl offer.count).map
        (Selection.ofChecked mode edge)
  have same : offer.build = (mode.asMode >>= fun mode => edge.asEdge >>= fun edge =>
      (Field.selectionCount.countOrOne offer.count >>= Field.selectionCount.atLeast 1) >>=
        fun count => .ok (Selection.ofChecked mode edge count)) := by
    simp only [build, hasMode, hasEdge, Field.required, Fault.ok_bind, bind_assoc]
    rfl
  rw [checks, same, hasMode, hasEdge]
  refine inTurn.congr fun selection => ?_
  constructor
  · rintro ⟨mode, rfl, edge, rfl, count, counted, rfl⟩
    exact ⟨hasMode, hasEdge, counted⟩
  · rintro ⟨modeMade, edgeMade, counted⟩
    exact ⟨selection.mode, Option.some.inj (hasMode.symm.trans modeMade),
      selection.edge, Option.some.inj (hasEdge.symm.trans edgeMade),
      ⟨selection.count, selection.count_pos⟩, counted, rfl⟩

end SelectionOffer

namespace SelectionPart

/-- Nothing required is left out of what is offered. -/
def Complete : SelectionPart → Prop
  | fields offer => offer.Complete
  | _ => True

/-- The values to check before those of the pool. -/
def checksBefore : SelectionPart → List Check
  | fields offer => offer.checks
  | _ => []

/-- The value to check after those of the pool; a selection that was put together needs no
further check. -/
def checksAfter : SelectionPart → List Check
  | other value => [⟨.selection, value⟩]
  | _ => []

/-- The selection is the one that is offered, if one is. -/
def Makes : SelectionPart → Option Selection → Prop
  | none, made => made = Option.none
  | other value, made => value = .nothing ∧ made = Option.none
  | fields offer, made => ∃ selection, offer.Makes selection ∧ made = some selection

/-- A value among those offered is no selection, unless it says that there is none. -/
theorem settled_other (value : Datum) :
    ∃ built, build (.other value) = .ok built ∧
      Settled [⟨.selection, value⟩] (Makes (.other value)) built.check := by
  by_cases nothing : value = .nothing
  · obtain rfl := nothing
    exact ⟨.selection Option.none, rfl, .of_passes .nothing fun made => and_iff_right rfl⟩
  · refine ⟨.other value, by unfold build; split <;> simp_all, ?_⟩
    exact .of_otherKind .selection value (by rwa [Check.passes_selection_iff])
      (fun _ made => nothing made.1) fun _ _ => rfl

end SelectionPart

namespace PoolOffer

/-- No required value is left out, neither of the pool nor of its selection. -/
structure Complete (offer : PoolOffer) : Prop where
  sides : offer.sides.isSome
  selection : offer.selection.Complete

/-- The values to check, in order. -/
def checks (offer : PoolOffer) : List Check :=
  offer.selection.checksBefore ++
    (Field.diceCount.offered offer.count ++
      (Field.diceSides.offered offer.sides ++
        offer.selection.checksAfter))

/-- The pool is the one of the offered values. -/
structure Makes (offer : PoolOffer) (pool : Pool) : Prop where
  count : offer.count.getD (.integer 1) = .integer pool.count
  sides : offer.sides = some (.integer pool.sides)
  selection : offer.selection.Makes pool.selection

theorem makes_iff
    {count : Option Datum}
    {sides : Datum}
    {part : SelectionPart}
    {pool : Pool} :
    Makes ⟨count, some sides, part⟩ pool ↔
      count.getD (.integer 1) = .integer pool.count ∧
        sides = .integer pool.sides ∧ part.Makes pool.selection := by
  constructor
  · rintro ⟨counted, sided, selected⟩
    exact ⟨counted, Option.some.inj sided, selected⟩
  · rintro ⟨counted, rfl, selected⟩
    exact ⟨counted, rfl, selected⟩

/-- The numbers of a pool are checked before what is left of its selection. -/
theorem settled_numbers
    {checksAfter : List Check}
    {Made : Option Selection → Prop}
    {last : Except Fault (Option Selection)}
    (count : Option Datum)
    (sides : Datum)
    (settled : Settled checksAfter Made last) :
    Settled (Field.diceCount.offered count ++ ([⟨.diceSides, sides⟩] ++ checksAfter))
      (fun pool : Pool =>
        count.getD (.integer 1) = .integer pool.count ∧
          sides = .integer pool.sides ∧ Made pool.selection)
      (do
        let count ← Field.diceCount.countOrOne count
        let count ← Field.diceCount.atLeast 1 count
        let sides ← sides.asInteger .diceSides
        let sides ← Field.diceSides.atLeast 2 sides
        return .ofChecked count sides (← last)) := by
  have sidesTake : Field.diceSides.minimum? = some 2 := rfl
  have inTurn :=
    (Settled.countOrOne .diceCount rfl count).bind fun count _ =>
      (Settled.number sidesTake sides).bind fun sides _ =>
        settled.map (Pool.ofChecked count sides)
  simp only [bind_assoc] at inTurn
  refine inTurn.congr fun pool => ?_
  constructor
  · rintro ⟨count, counted, sides, sided, selection, made, rfl⟩
    exact ⟨counted, sided, made⟩
  · rintro ⟨counted, sided, made⟩
    exact ⟨⟨pool.count, pool.count_pos⟩, counted, ⟨pool.sides, pool.two_le_sides⟩, sided,
      pool.selection, made, rfl⟩

/-- A pool is made if the values of its selection and then its number of dice, its sides and
its selection pass their checks in this order. -/
theorem settled_build
    {offer : PoolOffer}
    (complete : offer.Complete) :
    Settled offer.checks offer.Makes offer.build := by
  obtain ⟨count, sides, part⟩ := offer
  obtain ⟨sides, rfl⟩ := Option.isSome_iff_exists.mp complete.sides
  cases part with
  | none =>
      refine (settled_numbers count sides (.pure none)).congr fun pool => ?_
      rw [makes_iff]
      rfl
  | other value =>
      obtain ⟨built, left, settled⟩ := SelectionPart.settled_other value
      rw [build, left]
      exact (settled_numbers count sides settled).congr fun pool => makes_iff.symm
  | fields offer =>
      -- The selection is put together before any number of the pool is looked at.
      have inTurn := (SelectionOffer.settled_build complete.selection).bind fun selection _ =>
        settled_numbers count sides (.pure (some selection))
      rw [build, SelectionPart.build, bind_assoc]
      refine inTurn.congr fun pool => ?_
      rw [makes_iff]
      constructor
      · rintro ⟨selection, made, counted, sided, selected⟩
        exact ⟨counted, sided, selection, made, selected⟩
      · rintro ⟨counted, sided, selection, made, selected⟩
        exact ⟨selection, made, counted, sided, selected⟩

end PoolOffer

/-! ## Offers in general -/

/-- Whatever values are offered for a selection and for a pool, with no required one left out,
the checks settle what comes of them: the selection or the pool of exactly these values if all
of them pass, and otherwise the fault that the first value to fail is blamed with.  It refuses
the value in words, unless the value holds a number beyond the digit limit. -/
theorem offers_settled
    {selection : SelectionOffer}
    {pool : PoolOffer}
    (selectionComplete : selection.Complete)
    (poolComplete : pool.Complete) :
    Settled selection.checks selection.Makes selection.build ∧
      Settled pool.checks pool.Makes pool.build :=
  ⟨SelectionOffer.settled_build selectionComplete, PoolOffer.settled_build poolComplete⟩

/-- A text is no end, and the number of dice after it is not looked at; a truth value is no
number of dice, and the sides after it are not looked at. -/
theorem offers_settled_wrongKinds :
    let selection : SelectionOffer :=
      { mode := some (.mode .keep)
        edge := some (.text "highest")
        count := some (.integer 0) }
    let pool : PoolOffer :=
      { count := some (.truth true)
        sides := some (.integer 1)
        selection := .fields { selection with edge := some (.edge .highest), count := none } }
    (selection.Complete ∧ pool.Complete) ∧
      (Settled selection.checks selection.Makes selection.build ∧
        Settled pool.checks pool.Makes pool.build) ∧
          selection.build = .error (.wrongKind .selectionEdge "'highest'") ∧
            pool.build = .error (.wrongKind .diceCount "True") := by
  intro selection pool
  have selectionComplete : selection.Complete := ⟨rfl, rfl⟩
  have poolComplete : pool.Complete := ⟨rfl, rfl, rfl⟩
  exact ⟨⟨selectionComplete, poolComplete⟩, offers_settled selectionComplete poolComplete,
    by decide +kernel, by decide +kernel⟩

/-- A number of dice that is too small is not refused in words if it cannot be written: what
is raised is then a fault of another kind. -/
theorem offers_settled_not_worded :
    let number : Int := -(10 ^ Numeral.digitLimit : Nat)
    let offer : PoolOffer :=
      { count := some (.integer number), sides := some (.integer 6), selection := .none }
    offer.Complete ∧ number < 1 ∧
      (∃ fault, offer.build = .error fault ∧ fault.kind = "ValueError") ∧
        ¬ ((∃ pool, offer.build = .ok pool) ∨
          ∃ fault, offer.build = .error fault ∧ fault.kind = "InvalidRollError") := by
  intro number offer
  have complete : offer.Complete := ⟨rfl, trivial⟩
  have below : number < 1 :=
    Int.lt_of_le_of_lt (Int.neg_nonpos_of_nonneg (Int.natCast_nonneg _)) Int.one_pos
  have long : ¬ Numeral.Writable number := by
    rw [Numeral.writable_neg_iff, Numeral.writable_natCast_iff, Nat.not_le]
    exact Numeral.lt_length_digits_pow Numeral.digitLimit (by decide)
  have takes : Field.diceCount.minimum? = some 1 := rfl
  have fails : ¬ Check.Passes ⟨.diceCount, .integer number⟩ := Check.not_passes_of_lt takes below
  obtain ⟨fault, built, blamed⟩ :=
    (PoolOffer.settled_build complete).refused [] _ _ rfl (by simp) fails
  obtain rfl := blamed.unworded fun worded => long ((Datum.worded_integer_iff number).mp worded)
  rw [built]
  exact ⟨complete, below, ⟨_, rfl, rfl⟩, by simp [Fault.kind]⟩

end Tabletop
