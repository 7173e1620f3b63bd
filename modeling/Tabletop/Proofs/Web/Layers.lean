import Tabletop.Proofs.Oblivious
import Tabletop.Proofs.Supervision
import Tabletop.Web.Layers

/-!
# What layers do

A layer around a handler writes records before and after it and chooses the answer, and does
nothing else: a property that writing records has, and that going on and trying out keep,
holds of the layer if it holds of the handler.  What a layer makes of an outcome is told for
each of them.
-/

namespace Tabletop
namespace Web
namespace Handler

open Play

/-! ## Properties of layers -/

section Properties

variable {holds : ∀ {α : Type}, Play σ α → Prop} {inner : Handler σ} {request : Request}

theorem finishing_of_composable
    (composable : Composable holds)
    {finish : Request → Except Fault Response → Play σ Response}
    (works : holds (inner request))
    (finishes : ∀ outcome, holds (finish request outcome)) :
    holds (finishing finish inner request) :=
  composable.bind (composable.attempt works) finishes

theorem answerDice_of_composable
    (composable : Composable holds)
    (request : Request)
    (outcome : Except Fault Response) :
    holds (answerDice request outcome) := by
  cases outcome with
  | ok response => exact composable.pure response
  | error fault =>
      unfold answerDice ofFault?
      dsimp only
      split
      · rename_i handler found
        split at found
        · obtain rfl := Option.some.inj found
          exact composable.bind (composable.note _) fun _ => composable.pure _
        · split at found
          · obtain rfl := Option.some.inj found
            exact composable.bind (composable.note _) fun _ => composable.pure _
          · cases found
      · exact composable.ofExcept (.error fault)

theorem answerFault_of_composable
    (composable : Composable holds)
    (debug : Bool)
    (request : Request)
    (outcome : Except Fault Response) :
    holds (answerFault debug request outcome) := by
  cases outcome with
  | ok response => exact composable.pure response
  | error fault =>
      apply composable.bind (composable.note request.alarm)
      intro _
      exact composable.ofExcept (internalError debug fault)

/-- What follows a handler whose answer is written down. -/
theorem closing_of_composable
    (composable : Composable holds)
    (request : Request)
    (response : Response) :
    holds (note (request.closingRecord response) >>= fun _ => pure response) := by
  apply composable.bind (composable.note _)
  intro _
  exact composable.pure response

theorem recording_of_composable
    (composable : Composable holds)
    (works : holds (inner request)) :
    holds (recording inner request) := by
  apply composable.bind (composable.note _)
  intro _
  exact composable.bind works (closing_of_composable composable request)

end Properties

/-! ## Layers and the source -/

section Draws

variable {inner : Handler σ} {request : Request} {table : Table σ}

theorem draws_finishing
    {finish : Request → Except Fault Response → Play σ Response}
    (draws : Draws (inner request) table)
    (finishes : ∀ outcome, Oblivious (finish request outcome)) :
    Draws (finishing finish inner request) table := by
  have tried : Draws (inner request).attempt table := draws
  exact draws_bind tried finishes

theorem draws_recording
    (draws : ∀ table, Draws (inner request) table) :
    Draws (recording inner request) table := by
  refine draws_bind_of_run (run_note _ table) rfl ?_
  exact draws_bind (draws _) (closing_of_composable composable_oblivious request)

end Draws

/-! ## Outcomes of layers -/

section Runs

variable (inner : Handler σ) (request : Request) (table : Table σ)

/-- A layer goes on at the table that the handler left. -/
theorem run_finishing (finish : Request → Except Fault Response → Play σ Response) :
    (finishing finish inner request).run table =
      (finish request ((inner request).run table).1).run ((inner request).run table).2 := by
  unfold finishing
  rw [run_bind, run_attempt]

/-- The handler goes on at the table with the record of the request, and only an answer is
written down after it. -/
theorem run_recording :
    (recording inner request).run table =
      match (inner request).run (table.noted request.openingRecord) with
      | (.ok response, after) => (.ok response, after.noted (request.closingRecord response))
      | (.error fault, after) => (.error fault, after) := by
  unfold recording
  rw [run_bind, run_note_eq_noted]
  dsimp only
  rw [run_bind]
  rcases (inner request).run (table.noted request.openingRecord) with ⟨fault | response, after⟩
  · rfl
  · rfl

end Runs

end Handler
end Web
end Tabletop
