import Tabletop.Proofs.Roll.Recording
import Tabletop.Proofs.Web.PoolBody
import Tabletop.Proofs.Web.Queries

/-!
# Rolling notations and the pools they stand for

A notation can be rolled as it is, or as the pool that the service reads it as.  Both ask
the source for the same numbers and come to the same outcomes, which are recorded under
the notation on the one side and under the canonical notation on the other.
-/

namespace Tabletop

/-! ## Outcomes as JSON -/

namespace Outcome

/-- An outcome as a JSON object that names the given texts. -/
def labelled (source short : String) (outcome : Outcome) : Json :=
  .object [
    ("total", .integer outcome.total),
    ("kept", .array (outcome.kept.map .integer)),
    ("dropped", .array (outcome.dropped.map .integer)),
    ("source", .text source),
    ("short", .text short)]

/-- Outcomes as a JSON object that names the given texts. -/
def labelledAll (source short : String) (outcomes : List Outcome) : Json :=
  .object [("results", .array (outcomes.map (labelled source short)))]

theorem jsonOfAll_of_allOf
    {pool : Pool}
    {source short : String}
    {outcomes : List Outcome}
    (written : pool.short = .ok short)
    (allOf : AllOf pool source outcomes) :
    jsonOfAll outcomes = .ok (labelledAll source short outcomes) := by
  have each : outcomes.mapM json = .ok (outcomes.map (labelled source short)) := by
    induction outcomes with
    | nil => rfl
    | cons outcome outcomes inductionHypothesis =>
        obtain ⟨⟨rfl, rfl⟩, others⟩ := List.forall_mem_cons.mp allOf
        rw [List.mapM_cons, inductionHypothesis others]
        simp only [json, written]
        rfl
  unfold jsonOfAll
  rw [each]
  rfl

theorem labelledAll_map_recordedAs (other source short : String) (outcomes : List Outcome) :
    labelledAll source short (outcomes.map (recordedAs other)) =
      labelledAll source short outcomes := by
  simp [labelledAll, labelled, recordedAs, Function.comp_def]

end Outcome

namespace Web
namespace App

open Play Outcome

/-! ## Answers -/

/-- Answers to the same roll, with results that name different texts, or the same answer
without results. -/
inductive SameRoll (text short : String) : Response → Response → Prop
  | rolled (outcomes : List Outcome) :
      SameRoll text short
        { status := 200, body := .json (labelledAll text short outcomes) }
        { status := 200, body := .json (labelledAll short short outcomes) }
  | refused (response : Response) :
      response.status ≠ 200 → SameRoll text short response response

variable {text short : String}

theorem corresponds_withRoller
    {left right : Settings → Play σ Response}
    (answers : ∀ settings, Corresponds (SameRoll text short) (left settings) (right settings))
    (app : App) :
    Corresponds (SameRoll text short) (app.withRoller left) (app.withRoller right) := by
  have missing (part : String) : SameRoll text short (uninitialized part) (uninitialized part) := by
    apply SameRoll.refused
    change 500 ≠ 200
    decide
  unfold withRoller
  split
  · cases app.settings with
    | some settings => exact answers settings
    | none => exact corresponds_pure (missing "Settings")
  · exact corresponds_pure (missing "Roller")

/-- Dispatches that come to the same are concluded alike. -/
theorem sameRoll_concluded
    {left right : Except Fault Response}
    (dispatched : Fault.LiftRel (SameRoll text short) left right)
    (app : App) :
    Fault.LiftRel (SameRoll text short) (app.concluded left) (app.concluded right) := by
  cases dispatched with
  | ok same => exact .ok same
  | error fault =>
      cases concluding : app.concluded (.error fault) with
      | ok response => exact .ok (.refused response (status_ne_of_concluded_error concluding))
      | error other => exact .error other

/-- Where the same fault escapes, the same is sent for the service. -/
theorem sameRoll_received
    {left right : Except Fault Response}
    (outcomes : Fault.LiftRel (SameRoll text short) left right) :
    SameRoll text short (.received left) (.received right) := by
  cases outcomes with
  | ok same => exact same
  | error fault =>
      apply SameRoll.refused
      change 500 ≠ 200
      decide

section Rolling

variable [RandomSource σ]

theorem corresponds_rollOrder
    {pool : Pool}
    (parsed : Notation.parse text = .ok pool)
    (written : pool.short = .ok short)
    (settings : Settings)
    (times : Int) :
    Corresponds (SameRoll text short)
      (rollOrder settings (.written text) times : Play σ Response)
      (rollOrder settings (.pool pool) times) := by
  unfold rollOrder
  rw [checkLimits_written parsed]
  apply (composable_corresponds.inPlay.checkLimits settings.limits (.pool pool) times).bind
  intro _ _ _
  apply (corresponds_rollMany_written parsed written times).bind
  rintro outcomes _ ⟨allOf, rfl⟩
  rw [jsonOfAll_of_allOf written allOf,
    jsonOfAll_of_allOf written (allOf_map_recordedAs allOf short), labelledAll_map_recordedAs]
  exact corresponds_pure (.rolled outcomes)

/-- A notation that the service reads with success is rolled like the object that it is
read as, which can be sent as it was written, or in any other way. -/
theorem rollQuery_sameRoll_poolQuery
    {app : App}
    {body : Json}
    {reading : Table σ}
    {given : String}
    {times : AtLeast 1}
    {time : Int}
    (read :
      ((app.respond (parseQuery text time)).run reading).1 =
        .ok { status := 200, body := .json body })
    (counted : Validation.boundedNumber 1 (.text given) = .ok times)
    (table : Table σ) :
    (∃ sent,
      body.compact Refusal.writtenNesting = .ok (Text.elements sent) ∧
        PoolBody.document sent = .value body) ∧
    ∃ pool short,
      Notation.parse text = .ok pool ∧ pool.short = .ok short ∧
        ∀ document, PoolBody.document document = .value body →
          let written := (app.respond (rollQuery text given time)).run table
          let structured := (app.respond (poolQuery document given time)).run table
          structured.2.calls = written.2.calls ∧ structured.2.source = written.2.source ∧
            Fault.LiftRel (SameRoll text short) written.1 structured.1 ∧
              SameRoll text short (.received written.1) (.received structured.1) ∧
                ((∃ fault, written.1 = .error fault) ↔
                  app.Escapes (rollQuery text given time) table) := by
  obtain ⟨pool, parsed, rfl⟩ := respond_parseQuery_eq_ok_iff.mp read
  have printable := Pool.printable_of_parse parsed
  have short := Pool.short_of_printable printable
  refine ⟨PoolBody.document_sent printable, pool, _, parsed, short, ?_⟩
  intro document holds written structured
  have dispatches : Corresponds (SameRoll text (String.ofList pool.canonical.flatten))
      (app.dispatch (rollQuery text given time) : Play σ Response)
      (app.dispatch (poolQuery document given time)) := by
    rw [dispatch_rollQuery counted,
      dispatch_poolQuery holds (PoolBody.read_json PoolBody.place pool) counted]
    exact corresponds_withRoller (fun settings => corresponds_rollOrder parsed short settings _) app
  obtain ⟨left, leftAfter⟩ := app.run_respond (rollQuery text given time) table
  obtain ⟨right, rightAfter⟩ := app.run_respond (poolQuery document given time) table
  have noted := (table.alike_noted (rollQuery text given time).openingRecord).trans
    (table.alike_noted (poolQuery document given time).openingRecord).symm
  obtain ⟨outcomes, after⟩ := dispatches _ _ noted
  have alike := (leftAfter.trans after).trans rightAfter.symm
  have same := sameRoll_concluded outcomes app
  rw [← left, ← right] at same
  exact ⟨alike.calls.symm, alike.source.symm, same, sameRoll_received same,
    app.respond_eq_error_iff _ table⟩

end Rolling

/-- One die with a hundred sides. -/
def hundredSides : Pool :=
  .ofChecked AtLeast.one ⟨100, by decide⟩ none

/-- A die is rolled twice, as it was written and as the object that this is read as. -/
theorem rollQuery_sameRoll_poolQuery_hundredSides :
    let app := create .standard 0
    let table := Table.opening (ScriptedSource.script [35, 100])
    let body := hundredSides.json
    ((app.respond (parseQuery "D%" 0)).run table).1 =
        .ok { status := 200, body := .json body } ∧
      Validation.boundedNumber 1 (.text "2") = .ok ⟨2, by decide⟩ ∧
        PoolBody.document body.render = .value body ∧
          ∃ left right,
            ((app.respond (rollQuery "D%" "2" 0)).run table).1 = .ok left ∧
              ((app.respond (poolQuery body.render "2" 0)).run table).1 = .ok right ∧
                left.status = 200 ∧ SameRoll "D%" "1d100" left right := by
  intro app table body
  have parsed : Notation.parse "D%" = .ok hundredSides := by decide +kernel
  have short : hundredSides.short = .ok "1d100" := by decide +kernel
  have read : ((app.respond (parseQuery "D%" 0)).run table).1 =
      .ok { status := 200, body := .json body } :=
    respond_parseQuery_eq_ok_iff.mpr ⟨hundredSides, parsed, rfl⟩
  have counted : Validation.boundedNumber 1 (.text "2") = .ok ⟨2, by decide⟩ := by
    decide +kernel
  have holds : PoolBody.document body.render = .value body :=
    PoolBody.document_render (Pool.printable_of_parse parsed)
  have rolled :
      ((app.respond (rollQuery "D%" "2" 0)).run table).1.map Response.status = .ok 200 := by
    decide +kernel
  obtain ⟨-, pool, other, parsedOther, shortOther, same⟩ :=
    rollQuery_sameRoll_poolQuery read counted table
  obtain rfl := Except.ok.inj (parsed.symm.trans parsedOther)
  obtain rfl := Except.ok.inj (short.symm.trans shortOther)
  obtain ⟨-, -, alike, -, -⟩ := same body.render holds
  refine ⟨read, counted, holds, ?_⟩
  generalize ((app.respond (rollQuery "D%" "2" 0)).run table).1 = written at alike rolled
  generalize ((app.respond (poolQuery body.render "2" 0)).run table).1 = structured at alike
  cases alike with
  | ok sameRoll => exact ⟨_, _, rfl, rfl, Except.ok.inj rolled, sameRoll⟩
  | error fault => cases rolled

end App
end Web
end Tabletop
