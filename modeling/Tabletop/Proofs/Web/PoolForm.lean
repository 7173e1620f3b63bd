import Tabletop.Proofs.Blame
import Tabletop.Proofs.Construction
import Tabletop.Proofs.Web.Admission
import Tabletop.Proofs.Web.PoolBody
import Tabletop.Web.PoolForm

/-!
# Pools and their forms

A form that is accepted is the form of one pool, and from the form that pool is put together.
So the values of a body are checked twice, in two ways, and the second check never fails.
-/

namespace Tabletop

/-! ## The form of a pool -/

/-- The plain values of a selection. -/
def Selection.form (selection : Selection) : Web.SelectionForm :=
  { mode := selection.mode.word, edge := selection.edge.word, count := selection.count }

/-- The plain values of a pool. -/
def Pool.form (pool : Pool) : Web.PoolForm :=
  { count := pool.count, sides := pool.sides, selection := pool.selection.map Selection.form }

theorem Mode.ofWord_word (mode : Mode) : ofWord mode.word = .ok mode := by
  cases mode <;> rfl

theorem Edge.ofWord_word (edge : Edge) : ofWord edge.word = .ok edge := by
  cases edge <;> rfl

namespace Web

/-- The pool is offered to be put together from its form. -/
theorem PoolForm.exists_offer_form (pool : Pool) :
    ∃ offer, pool.form.offer = .ok offer ∧ offer.Complete ∧ offer.Makes pool := by
  cases selected : pool.selection with
  | none =>
      refine ⟨⟨some (.integer pool.count), some (.integer pool.sides), .other .nothing⟩, ?_,
        ⟨rfl, trivial⟩, PoolOffer.makes_iff.mpr ⟨rfl, rfl, rfl, selected⟩⟩
      simp only [offer, Pool.form, selected, Option.map_none, part, Fault.ok_bind]
      rfl
  | some selection =>
      let values : SelectionOffer :=
        { mode := some (.mode selection.mode)
          edge := some (.edge selection.edge)
          count := some (.integer selection.count) }
      have offered : selection.form.offer = .ok values := by
        simp only [SelectionForm.offer, Selection.form, Mode.ofWord_word, Edge.ofWord_word,
          Fault.ok_bind]
        rfl
      have made : values.Makes selection := ⟨rfl, rfl, rfl⟩
      refine ⟨⟨some (.integer pool.count), some (.integer pool.sides), .fields values⟩, ?_,
        ⟨rfl, rfl, rfl⟩, PoolOffer.makes_iff.mpr ⟨rfl, rfl, selection, made, selected⟩⟩
      simp only [offer, Pool.form, selected, Option.map_some, part, offered, Fault.ok_bind]
      rfl

/-- A pool is put together from its form. -/
theorem PoolForm.toPool_form (pool : Pool) : pool.form.toPool = .ok pool := by
  obtain ⟨offer, offered, complete, makes⟩ := exists_offer_form pool
  rw [toPool, offered, Fault.ok_bind]
  exact ((PoolOffer.settled_build complete).made_iff pool).mpr makes

theorem PoolForm.json_form (pool : Pool) : pool.form.json = pool.json := by
  unfold Pool.form json Pool.json
  rw [Option.map_map]
  rfl

/-! ## Checking twice -/

open Validation PoolBody

theorem map_readMode (value : Json) :
    (readMode value).map Mode.word = word Mode.drop.word Mode.keep.word value := by
  cases value with
  | text given =>
      by_cases drop : given = Mode.drop.word
      · rw [drop]
        rfl
      · by_cases keep : given = Mode.keep.word
        · rw [keep]
          rfl
        · simp only [readMode, word, drop, keep, if_false, or_self]
          rfl
  | _ => rfl

theorem map_readEdge (value : Json) :
    (readEdge value).map Edge.word = word Edge.lowest.word Edge.highest.word value := by
  cases value with
  | text given =>
      by_cases lowest : given = Edge.lowest.word
      · rw [lowest]
        rfl
      · by_cases highest : given = Edge.highest.word
        · rw [highest]
          rfl
        · simp only [readEdge, word, lowest, highest, if_false, or_self]
          rfl
  | _ => rfl

theorem map_boundedNumber (minimum : Nat) (value : Json) :
    (boundedNumber minimum value).map (fun number => (number.1 : Int)) =
      numberFrom minimum value := by
  unfold boundedNumber numberFrom
  cases wholeNumber value with
  | error kind => rfl
  | ok number =>
      dsimp only [bind, Except.bind]
      cases fits : AtLeast.ofInt? minimum number with
      | none =>
          rw [if_pos (AtLeast.ofInt?_eq_none_iff.mp fits)]
          rfl
      | some other =>
          obtain rfl := AtLeast.ofInt?_eq_some_iff.mp fits
          rw [if_neg (by have := other.2; omega)]
          rfl

theorem map_located
    (location : List String)
    (input : Json)
    (outcome : Except IssueKind α)
    (make : α → β) :
    (located location input outcome).map make = located location input (outcome.map make) := by
  cases outcome <;> rfl

section Members

variable (location : List String) (object : Json) (name : String)

theorem map_requiredMember
    {check : Json → Except IssueKind α}
    {checkForm : Json → Except IssueKind β}
    {make : α → β}
    (same : ∀ value, (check value).map make = checkForm value) :
    (requiredMember location object name check).map make =
      requiredMember location object name checkForm := by
  unfold requiredMember
  cases object.get? name with
  | none => rfl
  | some value =>
      change (located _ value (check value)).map make = located _ value (checkForm value)
      rw [map_located, same]

theorem map_optionalMember
    {check : Json → Except IssueKind α}
    {checkForm : Json → Except IssueKind β}
    {make : α → β}
    (standard : α)
    (same : ∀ value, (check value).map make = checkForm value) :
    (optionalMember location object name standard check).map make =
      optionalMember location object name (make standard) checkForm := by
  unfold optionalMember
  cases object.get? name with
  | none => rfl
  | some value =>
      change (located _ value (check value)).map make = located _ value (checkForm value)
      rw [map_located, same]

end Members

theorem both_map
    (first : Except (List Issue) α)
    (second : Except (List Issue) β)
    (makeFirst : α → γ)
    (makeSecond : β → δ) :
    both (first.map makeFirst) (second.map makeSecond) =
      (both first second).map (Prod.map makeFirst makeSecond) := by
  cases first <;> cases second <;> rfl

section Objects

variable (location : List String) (object : Json)

theorem map_countMember :
    (countMember location object).map (fun number => (number.1 : Int)) =
      countValue location object :=
  map_optionalMember location object "count" AtLeast.one (map_boundedNumber 1)

/-- The selection of an object has the values of its form. -/
theorem map_readSelection :
    (readSelection location object).map Selection.form =
      SelectionForm.read location object := by
  unfold readSelection SelectionForm.read
  rw [← map_requiredMember location object "mode" map_readMode,
    ← map_requiredMember location object "end" map_readEdge, ← map_countMember, both_map, both_map]
  cases both (requiredMember location object "mode" readMode) <|
    both (requiredMember location object "end" readEdge) (countMember location object) <;> rfl

theorem map_selectionMember :
    (selectionMember location object).map (Option.map Selection.form) =
      PoolForm.selectionValue location object := by
  let place := location ++ ["selection"]
  -- Only an object is read further, whether its names are whole or broken.
  have read (value : Json) :
      (readSelection place value >>= fun selection => pure (some selection)).map
          (Option.map Selection.form) =
        (SelectionForm.read place value >>= fun form => pure (some form)) := by
    rw [← map_readSelection]
    cases readSelection place value <;> rfl
  unfold selectionMember PoolForm.selectionValue
  cases object.get? "selection" with
  | none => rfl
  | some value =>
      cases value with
      | object members => exact read _
      | brokenObject members => exact read _
      | _ => rfl

/-- The pool of a body has the values of its form. -/
theorem map_read (value : Json) :
    (PoolBody.read location value).map Pool.form = PoolForm.read location value := by
  unfold PoolBody.read PoolForm.read
  by_cases isObject : isObject value
  · rw [if_pos isObject, if_pos isObject, readObject, ← map_countMember,
      ← map_requiredMember location value "sides" (map_boundedNumber 2), ← map_selectionMember,
      both_map, both_map]
    cases both (countMember location value) <|
      both (requiredMember location value "sides" (boundedNumber 2))
        (selectionMember location value) <;> rfl
  · rw [if_neg isObject, if_neg isObject]
    rfl

end Objects

namespace PoolForm

variable {location : List String} {value : Json}

/-- The forms that are accepted are those of the pools that are accepted. -/
theorem read_eq_ok_iff {form : PoolForm} :
    read location value = .ok form ↔
      ∃ pool, PoolBody.read location value = .ok pool ∧ form = pool.form := by
  rw [← map_read]
  cases PoolBody.read location value with
  | error issues => simp [Except.map]
  | ok pool => simp [Except.map, eq_comm]

/-- The issues with a body are the same in both checks. -/
theorem read_eq_error_iff {issues : List Issue} :
    read location value = .error issues ↔ PoolBody.read location value = .error issues := by
  rw [← map_read]
  cases PoolBody.read location value with
  | error others => simp [Except.map]
  | ok pool => simp [Except.map]

/-- The form of a pool is accepted when it is made. -/
theorem ofPool_eq (pool : Pool) : ofPool pool = .ok pool.form := by
  have selection :
      pool.selection.mapM SelectionForm.ofSelection = .ok (pool.selection.map Selection.form) := by
    cases pool.selection with
    | none => rfl
    | some selection =>
        change (some <$> SelectionForm.ofSelection selection) = _
        rw [SelectionForm.ofSelection, ← map_readSelection, readSelection_json]
        rfl
  unfold ofPool
  rw [selection, ← map_countMember, ← map_requiredMember [] pool.json "sides" (map_boundedNumber 2),
    countMember_json, sidesMember_json]
  rfl

/-- The form of a pool is accepted as a body. -/
theorem read_json_form (location : List String) (pool : Pool) :
    read location pool.form.json = .ok pool.form := by
  rw [json_form]
  exact read_eq_ok_iff.mpr ⟨pool, read_json location pool, rfl⟩

end PoolForm

/-! ## Requests to roll a pool -/

theorem Refusal.blameless_sendableJson (value : Json) :
    Fault.Blameless (sendableJson value) := by
  unfold sendableJson
  split
  · exact .error (Fault.blamesNoValue_of_kind_ne (by decide))
  · exact .error (Fault.blamesNoValue_of_kind_ne (by decide))
  · split
    · rename_i fault found
      unfold loneHalves? at found
      dsimp only at found
      split at found
      · obtain rfl := Option.some.inj found
        exact .error (Fault.blamesNoValue_of_kind_ne (by simp [Fault.kind]))
      · contradiction
    · exact .ok ()

theorem Refusal.blameless_sendable (body : Body) : Fault.Blameless (sendable body) := by
  cases body with
  | json value => exact blameless_sendableJson value
  | empty => exact .ok ()
  | plain text => exact .ok ()
  | page page => exact .ok ()

theorem Refusal.blameless_answer (issues : List Issue) : Fault.Blameless (answer issues) := by
  unfold answer
  dsimp only
  split
  · exact .error (Fault.blamesNoValue_of_kind_ne (by decide))
  · exact (blameless_sendable _).map _

namespace App

theorem blameless_withRoller
    (app : App)
    {answer : Settings → Play σ Response}
    (blameless : ∀ settings, Play.Blameless (answer settings)) :
    Play.Blameless (app.withRoller answer) := by
  unfold withRoller
  split
  · split
    · exact blameless _
    · exact .pure _
  · exact .pure _

variable [RandomSource σ]

theorem blameless_rollOrder (settings : Settings) (pool : Pool) (times : Int) :
    Play.Blameless (rollOrder settings (.pool pool) times : Play σ Response) := by
  apply Play.Blameless.bind
  · apply (Play.Blameless.pure pool).bind
    intro pool
    exact .ofExcept (settings.limits.blameless_check pool times)
  · intro _
    apply (Play.blameless_rollMany pool times).bind
    intro outcomes
    apply (Play.Blameless.ofExcept (Outcome.blameless_jsonOfAll outcomes)).bind
    intro body
    exact .pure _

/-- Whatever is asked where pools are rolled, no value is blamed for what a pool must be. -/
theorem blameless_rollPool (app : App) (request : Request) :
    Play.Blameless (app.rollPool request : Play σ Response) := by
  unfold rollPool
  split
  · exact .ofExcept (Refusal.blameless_answer _)
  · exact .pure _
  · apply blameless_withRoller
    intro settings
    split
    · exact .ofExcept (Refusal.blameless_answer _)
    · exact blameless_rollOrder settings _ _

end App

/-! ## One check implies the other -/

/-- What is accepted as a form is put together to a pool of just these values, which is the
pool that the body is read as, and the issues with any other body are the same.  The form of a
pool is accepted, also as a body, and put together to this pool again.  So where pools are
rolled, no value is refused by the checks of pools. -/
theorem PoolForm.read_toPool [RandomSource σ] (app : App) :
    (∀ location value form, read location value = .ok form →
      ∃ pool, form.toPool = .ok pool ∧ PoolBody.read location value = .ok pool ∧
        (pool.count : Int) = form.count ∧ (pool.sides : Int) = form.sides ∧
          pool.selection.map Selection.form = form.selection) ∧
    (∀ location value issues,
      read location value = .error issues ↔ PoolBody.read location value = .error issues) ∧
    (∀ pool, ∃ form, ofPool pool = .ok form ∧ form.toPool = .ok pool ∧
      ∀ location, read location form.json = .ok form) ∧
    (∀ request (table : Table σ) fault, App.endpoint? request = some .rollPool →
      ((app.dispatch request).run table).1 = .error fault →
        (∀ failure, fault ≠ .source failure) → fault.kind ≠ "InvalidRollError") := by
  refine ⟨?_, ?_, ?_, ?_⟩
  · intro location value form accepted
    obtain ⟨pool, read, rfl⟩ := read_eq_ok_iff.mp accepted
    exact ⟨pool, toPool_form pool, read, rfl, rfl, rfl⟩
  · intro location value issues
    exact read_eq_error_iff
  · intro pool
    exact ⟨pool.form, ofPool_eq pool, toPool_form pool,
      fun location => read_json_form location pool⟩
  · intro request table fault reached failed other kind
    rw [App.dispatch_of_endpoint? reached] at failed
    obtain ⟨failure, same⟩ := App.blameless_rollPool app request table fault failed kind
    exact other failure same

/-- Numbers that are written loosely are accepted, and the number of selected dice may be left
out.  A number that is not finite is an issue that cannot be sent, which is a fault of another
kind. -/
theorem PoolForm.read_toPool_loose :
    let app := App.create .standard 0
    let value : Json := .object [
      ("count", .text " 04 "),
      ("sides", .real "6.0"),
      ("selection", .object [("end", .text "highest"), ("mode", .text "keep")])]
    let form : PoolForm :=
      { count := 4
        sides := 6
        selection := some { mode := "keep", edge := "highest", count := 1 } }
    let request : Request :=
      { method := "POST", path := "/api/dice/roll", query := [], time := 0
        body := "\x7b\"sides\": NaN\x7d" }
    let table := Table.opening (ScriptedSource.script [])
    let fault := Fault.notFinite
    (read [] value = .ok form ∧
        ∃ pool, form.toPool = .ok pool ∧ PoolBody.read [] value = .ok pool) ∧
      ((app.dispatch request).run table).1 = .error fault ∧ fault.kind ≠ "InvalidRollError" := by
  intro app value form request table fault
  have agreed := @read_toPool ScriptedSource _ app
  have accepted : read [] value = .ok form := rfl
  obtain ⟨pool, made, bodied, -⟩ := agreed.1 [] value form accepted
  have reached : App.endpoint? request = some .rollPool := by decide
  have spells : Json.Spells (PoolBody.nestingLimit - 1) ['N', 'a', 'N'] (.real "NaN") :=
    Json.spells_of_readPlain (List.all_eq_true.mp (by decide)) rfl _
  have member : Json.SpellsMembers (PoolBody.nestingLimit - 1)
      (Json.spelledMember "sides" [' '] ['N', 'a', 'N'])
      [("sides", .real "NaN")] :=
    Json.spellsMembers_singleton (unescaped_name (by simp)) (List.all_eq_true.mp (by decide)) spells
  have document :
      PoolBody.document request.body = .value (.object [("sides", .real "NaN")]) :=
    PoolBody.document_of_spells (Json.spells_object (by simp) member)
  have failed : ((app.dispatch request).run table).1 = .error fault := by
    rw [App.dispatch_of_endpoint? reached]
    simp only [App.answer, App.rollPool, document]
    rfl
  have ownFault (failure : SourceFailure) : Fault.notFinite ≠ .source failure := by
    rintro ⟨⟩
  exact ⟨⟨accepted, pool, made, bodied⟩, failed,
    agreed.2.2.2 request table fault reached failed ownFault⟩

end Web
end Tabletop
