import Tabletop.Proofs.Oblivious
import Tabletop.Proofs.Play
import Tabletop.Proofs.Web.Layers
import Tabletop.Web.Exchange

/-!
# Requests that are admitted to the dice

A request asks for a roll if it reaches an endpoint that rolls, all that is needed for
a roll is there, and its values are accepted.  It is admitted if what it asks for can
be rolled and is within the limits.  All other requests are answered without the
source.
-/

namespace Tabletop
namespace Web
namespace App

open Play

/-! ## Admission -/

/-- The endpoint that a request reaches, if it reaches one. -/
def endpoint? (request : Request) : Option Endpoint :=
  (endpointsAt request.path).lookup request.method

/-- The service can roll, with the given settings. -/
structure Ready (app : App) (settings : Settings) : Prop where
  /-- There is a table to roll at. -/
  hasRoller : app.hasRoller = true
  /-- The settings are in force. -/
  settings_eq : app.settings = some settings

/-- A request asks, under the settings, to roll an order a number of times. -/
inductive Asks (app : App) (request : Request) : Settings → Order → Int → Prop
  /-- The request has a text in its query. -/
  | text
      {settings : Settings} {text : String} {times : AtLeast 1} :
      endpoint? request = some .rollText →
        app.Ready settings →
          notationValue request = .ok text →
            timesValue request = .ok times →
              Asks app request settings (.written text) times.1
  /-- The request has a pool in its body. -/
  | body
      {settings : Settings} {document : Json} {times : AtLeast 1} {pool : Pool} :
      endpoint? request = some .rollPool →
        app.Ready settings →
          PoolBody.document request.body = .value document →
            PoolBody.read PoolBody.place document = .ok pool →
              timesValue request = .ok times →
                Asks app request settings (.pool pool) times.1

/-- A request passes everything that is checked before the dice of an order are rolled:
it asks to roll the order, which denotes a pool within the limits. -/
def AdmitsOrder (app : App) (request : Request) (order : Order) : Prop :=
  ∃ settings times pool,
    Asks app request settings order times ∧
      order.denoted = .ok pool ∧
        settings.limits.check pool times = .ok ()

/-- A request passes everything that is checked before dice are rolled. -/
def Admits (app : App) (request : Request) : Prop :=
  ∃ order, AdmitsOrder app request order

/-! ## Steps of an answer -/

/-- Both checks accept exactly the values that each accepts. -/
theorem both_eq_ok_iff
    {first : Except (List Validation.Issue) α}
    {second : Except (List Validation.Issue) β}
    {values : α × β} :
    Validation.both first second = .ok values ↔
      first = .ok values.1 ∧ second = .ok values.2 := by
  constructor
  · intro accepted
    unfold Validation.both at accepted
    split at accepted
    · obtain rfl := Except.ok.inj accepted
      exact ⟨rfl, rfl⟩
    all_goals contradiction
  · rintro ⟨rfl, rfl⟩
    rfl

section Steps

variable {holds : ∀ {α : Type}, Play σ α → Prop}

theorem withRoller_of_ready
    (composable : ComposableInPlay holds)
    {app : App}
    {answer : Settings → Play σ Response}
    (answers : ∀ settings, app.Ready settings → holds (answer settings)) :
    holds (app.withRoller answer) := by
  unfold withRoller
  split
  · rename_i hasRoller
    split
    · rename_i settings settingsEq
      exact answers settings ⟨hasRoller, settingsEq⟩
    · exact composable.pure _
  · exact composable.pure _

theorem withNotation_of_composable
    (composable : ComposableInPlay holds)
    (request : Request)
    (answer : String → Pool → Except Fault Json) :
    holds (withNotation request answer) := by
  unfold withNotation
  split
  · exact composable.ofExcept _
  · rename_i text _
    apply composable.bind (composable.parse text)
    intro pool
    apply composable.bind (composable.ofExcept (answer text pool))
    intro body
    exact composable.pure _

theorem rollBody_of_composable
    (composable : ComposableInPlay holds)
    (outcomes : List Outcome) :
    holds (Play.ofExcept (Outcome.jsonOfAll outcomes) >>= fun body =>
      pure ({ status := 200, body := .json body } : Response)) := by
  apply composable.bind (composable.ofExcept (Outcome.jsonOfAll outcomes))
  intro body
  exact composable.pure _

variable [RandomSource σ] {app : App} {request : Request}

theorem rollText_of_asks
    (composable : ComposableInPlay holds)
    (reached : endpoint? request = some .rollText)
    (rolls : ∀ settings order times,
      Asks app request settings order times → holds (rollOrder settings order times)) :
    holds (app.rollText request) := by
  apply withRoller_of_ready composable
  intro settings ready
  split
  · exact composable.ofExcept _
  · rename_i text times accepted
    obtain ⟨textAccepted, timesAccepted⟩ := both_eq_ok_iff.mp accepted
    exact rolls _ _ _ (.text reached ready textAccepted timesAccepted)

theorem rollPool_of_asks
    (composable : ComposableInPlay holds)
    (reached : endpoint? request = some .rollPool)
    (rolls : ∀ settings order times,
      Asks app request settings order times → holds (rollOrder settings order times)) :
    holds (app.rollPool request) := by
  unfold rollPool
  split
  · exact composable.ofExcept _
  · exact composable.pure _
  · apply withRoller_of_ready composable
    intro settings ready
    split
    · exact composable.ofExcept _
    · rename_i times pool accepted
      obtain ⟨timesAccepted, poolAccepted⟩ := both_eq_ok_iff.mp accepted
      cases body : PoolBody.document request.body with
      | value document =>
          rw [body] at poolAccepted
          exact rolls _ _ _ (.body reached ready body poolAccepted timesAccepted)
      | absent =>
          rw [body] at poolAccepted
          contradiction
      | malformed => contradiction
      | unreadable => contradiction

/-- Dispatching a request has a property if rolling what the request asks for has. -/
theorem dispatch_of_asks
    (composable : ComposableInPlay holds)
    (rolls : ∀ settings order times,
      Asks app request settings order times → holds (rollOrder settings order times)) :
    holds (app.dispatch request) := by
  unfold dispatch
  split
  · exact composable.pure _
  · split
    · rename_i endpoint reached
      cases endpoint with
      | rollText => exact rollText_of_asks composable reached rolls
      | rollPool => exact rollPool_of_asks composable reached rolls
      | describe => exact withNotation_of_composable composable request _
      | parse => exact withNotation_of_composable composable request _
      | health => exact composable.pure _
      | page page => exact composable.pure _
    · exact composable.pure _

/-- Answering a request has a property if rolling what the request asks for has. -/
theorem respond_of_asks
    (composable : Composable holds)
    (rolls : ∀ settings order times,
      Asks app request settings order times → holds (rollOrder settings order times)) :
    holds (app.respond request) := by
  have dispatched := dispatch_of_asks composable.inPlay rolls
  have diceAnswered : holds (Handler.answeringDice app.dispatch request) :=
    Handler.finishing_of_composable composable dispatched
      (Handler.answerDice_of_composable composable request)
  have answered :
      holds (Handler.answeringFaults app.debug (Handler.answeringDice app.dispatch) request) :=
    Handler.finishing_of_composable composable diceAnswered
      (Handler.answerFault_of_composable composable app.debug request)
  exact Handler.recording_of_composable composable answered

theorem rollOrder_of_draws
    (composable : ComposableInPlay holds)
    (draws : ∀ sides : Nat, holds (draw (dieBounds sides)))
    (settings : Settings)
    (order : Order)
    (times : Int) :
    holds (rollOrder settings order times) := by
  apply composable.bind (composable.checkLimits settings.limits order times)
  intro _
  apply composable.bind (composable.rollMany draws order times)
  intro outcomes
  exact rollBody_of_composable composable outcomes

end Steps

/-! ## Answers and the past -/

section Answers

variable [RandomSource σ]

/-- What a request is answered, and what it asks the source, depends on the past
through the source alone. -/
theorem oblivious_respond (app : App) (request : Request) :
    Oblivious (app.respond request : Play σ Response) := by
  apply respond_of_asks composable_oblivious
  intro settings order times _
  apply rollOrder_of_draws composable_oblivious.inPlay
  intro sides
  exact oblivious_draw (dieBounds sides)

/-- What is not within the limits is not rolled. -/
theorem quiet_rollOrder
    {settings : Settings}
    {order : Order}
    {times : Int}
    (refused : ∀ pool, order.denoted = .ok pool →
      settings.limits.check pool times ≠ .ok ()) :
    Quiet (rollOrder settings order times : Play σ Response) := by
  intro table
  have quiet := composable_quiet.inPlay.checkLimits settings.limits order times table
  unfold rollOrder
  rw [run_bind]
  rcases checked : (checkLimits settings.limits order times).run table with
    ⟨fault | _, after⟩
  · rw [checked] at quiet
    exact quiet
  · exfalso
    obtain ⟨pool, _, resolved, checking⟩ := run_bind_eq_ok_iff.mp checked
    rw [run_resolve] at resolved
    obtain ⟨passed, _⟩ := run_ofExcept_eq_ok_iff.mp checking
    exact refused pool (Prod.mk.inj resolved).1 passed

/-- A request that is not admitted is answered without the source. -/
theorem quiet_respond
    {app : App}
    {request : Request}
    (refused : ¬ Admits app request) :
    Quiet (app.respond request : Play σ Response) := by
  apply respond_of_asks composable_quiet
  intro settings order times asks
  apply quiet_rollOrder
  intro pool denoted checked
  exact refused ⟨order, settings, times, pool, asks, denoted, checked⟩

theorem dispatch_of_endpoint?
    {app : App}
    {request : Request}
    {endpoint : Endpoint}
    (reached : endpoint? request = some endpoint) :
    (app.dispatch request : Play σ Response) = app.answer request endpoint := by
  unfold endpoint? at reached
  unfold dispatch
  cases found : endpointsAt request.path with
  | nil =>
      rw [found] at reached
      contradiction
  | cons first others =>
      rw [found] at reached
      simp only [reached]

/-- A request that asks for a roll is dispatched to just this roll. -/
theorem dispatch_eq_rollOrder
    {app : App}
    {request : Request}
    {settings : Settings}
    {order : Order}
    {times : Int}
    (asks : Asks app request settings order times) :
    (app.dispatch request : Play σ Response) = rollOrder settings order times := by
  cases asks with
  | text reached ready given counted =>
      have accepted : Validation.both (notationValue request) (timesValue request) =
          .ok (_, _) :=
        both_eq_ok_iff.mpr ⟨given, counted⟩
      rw [dispatch_of_endpoint? reached]
      simp only [answer, rollText, withRoller, ready.hasRoller, ready.settings_eq, accepted,
        if_true]
  | body reached ready document given counted =>
      have accepted : Validation.both (timesValue request)
          (PoolBody.read PoolBody.place _) = .ok (_, _) :=
        both_eq_ok_iff.mpr ⟨counted, given⟩
      rw [dispatch_of_endpoint? reached]
      simp only [answer, rollPool, withRoller, ready.hasRoller, ready.settings_eq, document,
        bodyPool, accepted, if_true]

theorem one_le_of_check
    {limits : Limits}
    {pool : Pool}
    {times : Int}
    (checked : limits.check pool times = .ok ()) :
    1 ≤ times := by
  obtain ⟨_, _, allowed⟩ := Fault.bind_eq_ok_iff.mp checked
  unfold Limits.checkTimes at allowed
  split at allowed
  · contradiction
  · omega

/-- A request that is admitted asks the source, unless its order has no text to be
recorded under. -/
theorem draws_respond
    {app : App}
    {request : Request}
    {order : Order}
    {source : String}
    (admitted : AdmitsOrder app request order)
    (sourced : sourceText order = .ok source)
    (table : Table σ) :
    Draws (app.respond request : Play σ Response) table := by
  obtain ⟨settings, times, pool, asks, denoted, checked⟩ := admitted
  have rolls (table : Table σ) :
      Draws (app.dispatch request : Play σ Response) table := by
    rw [dispatch_eq_rollOrder asks]
    have passed := run_checkLimits_of_denoted denoted settings.limits times table
    rw [checked] at passed
    apply draws_bind_of_run passed rfl
    apply draws_bind (draws_rollMany (one_le_of_check checked) denoted sourced table)
    intro outcomes
    exact rollBody_of_composable composable_oblivious.inPlay outcomes
  apply Handler.draws_recording
  intro table
  have diceAnswered : Draws (Handler.answeringDice app.dispatch request) table :=
    Handler.draws_finishing (rolls table)
      (Handler.answerDice_of_composable composable_oblivious request)
  exact Handler.draws_finishing diceAnswered
    (Handler.answerFault_of_composable composable_oblivious app.debug request)

end Answers

end App
end Web
end Tabletop
