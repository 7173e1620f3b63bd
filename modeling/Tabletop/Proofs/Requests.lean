import Tabletop.Proofs.Correspondence
import Tabletop.Proofs.Oblivious
import Tabletop.Proofs.Rolling

/-!
# The requests of a roll

Work that fails has made the first of the requests that it would have made, and work
that succeeds has made all of them.  So the requests of a roll are known beforehand,
and a roll that fails midway has made no more.
-/

namespace Tabletop
namespace Play

/-- Work makes these requests of the source, or the first of them if it fails. -/
def Requests (requests : List Bounds) (work : Play σ α) : Prop :=
  ∀ table : Table σ, ∃ made,
    (work.run table).2.calls.toList = table.calls.toList ++ made ∧
      made <+: requests ∧
        ∀ value, (work.run table).1 = .ok value → made = requests

theorem Quiet.requests
    {work : Play σ α}
    (quiet : Quiet work) :
    Requests [] work := by
  intro table
  refine ⟨[], ?_, List.nil_prefix, fun _ _ => rfl⟩
  rw [(quiet table).2, List.append_nil]

namespace Requests

/-- What work asks comes before what is asked after it. -/
theorem bind
    {requests later : List Bounds}
    {work : Play σ α}
    {next : α → Play σ β}
    (first : Requests requests work)
    (second : ∀ value, Requests later (next value)) :
    Requests (requests ++ later) (work >>= next) := by
  intro table
  obtain ⟨made, calls, isPrefix, whole⟩ := first table
  rw [run_bind]
  rcases ran : work.run table with ⟨fault | value, middle⟩
  · rw [ran] at calls
    exact ⟨made, calls, isPrefix.trans (List.prefix_append _ _), nofun⟩
  · rw [ran] at calls whole
    obtain rfl := whole value rfl
    obtain ⟨madeNext, callsNext, isPrefixNext, wholeNext⟩ := second value middle
    refine ⟨made ++ madeNext, ?_, List.prefix_append_right_inj made |>.mpr isPrefixNext, ?_⟩
    · rw [callsNext, calls, List.append_assoc]
    · intro result succeeded
      rw [wholeNext result succeeded]

theorem bind_quiet
    {requests : List Bounds}
    {work : Play σ α}
    {next : α → Play σ β}
    (first : Requests requests work)
    (second : ∀ value, Quiet (next value)) :
    Requests requests (work >>= next) := by
  rw [← List.append_nil requests]
  exact first.bind fun value => (second value).requests

/-- Work makes no more requests than these. -/
theorem size_calls_le
    {requests : List Bounds}
    {work : Play σ α}
    (asks : Requests requests work)
    (table : Table σ) :
    (work.run table).2.calls.size ≤ table.calls.size + requests.length := by
  obtain ⟨made, calls, isPrefix, -⟩ := asks table
  rw [← Array.length_toList, calls, List.length_append, Array.length_toList]
  exact Nat.add_le_add_left isPrefix.length_le _

theorem calls_of_run
    {requests : List Bounds}
    {work : Play σ α}
    {before after : Table σ}
    {value : α}
    (asks : Requests requests work)
    (ran : work.run before = (.ok value, after)) :
    after.calls.toList = before.calls.toList ++ requests := by
  obtain ⟨made, calls, -, whole⟩ := asks before
  rw [ran] at calls whole
  rw [calls, whole value rfl]

end Requests

/-- Work makes at most so many requests, however it ends. -/
def AsksAtMost (number : Nat) (work : Play σ α) : Prop :=
  ∀ table : Table σ, (work.run table).2.calls.size ≤ table.calls.size + number

theorem Quiet.asksAtMost
    {work : Play σ α}
    (quiet : Quiet work)
    (number : Nat) :
    AsksAtMost number work := by
  intro table
  rw [(quiet table).2]
  exact Nat.le_add_right _ _

theorem Requests.asksAtMost
    {requests : List Bounds}
    {work : Play σ α}
    {number : Nat}
    (asks : Requests requests work)
    (few : requests.length ≤ number) :
    AsksAtMost number work :=
  fun table => Nat.le_trans (asks.size_calls_le table) (Nat.add_le_add_left few _)

theorem Corresponds.asksAtMost
    {related : α → β → Prop}
    {number : Nat}
    {work : Play σ α}
    {other : Play σ β}
    (works : Corresponds related work other)
    (asks : AsksAtMost number other) :
    AsksAtMost number work := by
  intro table
  rw [(works table table (.refl table)).2.calls]
  exact asks table

theorem AsksAtMost.bind_quiet
    {number : Nat}
    {work : Play σ α}
    {next : α → Play σ β}
    (first : AsksAtMost number work)
    (second : ∀ value, Quiet (next value)) :
    AsksAtMost number (work >>= next) := by
  intro table
  have made := first table
  rw [run_bind]
  rcases ran : work.run table with ⟨fault | value, middle⟩
  · rw [ran] at made
    exact made
  · rw [ran] at made
    rw [(second value middle).2]
    exact made

section Rolling

variable [RandomSource σ]

theorem requests_draw (bounds : Bounds) :
    Requests [bounds] (draw bounds : Play σ Int) := by
  intro table
  exact ⟨[bounds], Array.toList_push, List.prefix_rfl, fun _ _ => rfl⟩

/-- Rolling dice makes one request for each. -/
theorem requests_rollDice (sides count : Nat) (rolled : List Int) :
    Requests (List.replicate count (dieBounds sides))
      (rollDice sides count rolled : Play σ (List Int)) := by
  induction count generalizing rolled with
  | zero => exact (composable_quiet.pure rolled.reverse).requests
  | succ count inductionHypothesis =>
      rw [List.replicate_succ, ← List.singleton_append]
      exact (requests_draw (dieBounds sides)).bind fun value =>
        inductionHypothesis (value :: rolled)

theorem requests_rollPool (pool : Pool) (source : String) :
    Requests pool.requests (rollPool pool source : Play σ Outcome) :=
  (requests_rollDice pool.sides pool.count []).bind_quiet fun drawn =>
    composable_quiet.inPlay.settling pool source drawn

/-- Rolling a pool many times makes its requests as many times. -/
theorem requests_rollTimes
    (pool : Pool)
    (source : String)
    (times : Nat)
    (outcomes : List Outcome) :
    Requests (List.replicate (times * pool.count) (dieBounds pool.sides))
      (rollTimes pool source times outcomes : Play σ (List Outcome)) := by
  induction times generalizing outcomes with
  | zero =>
      rw [Nat.zero_mul]
      exact (composable_quiet.pure outcomes.reverse).requests
  | succ times inductionHypothesis =>
      rw [Nat.succ_mul, Nat.add_comm, List.replicate_add]
      exact (requests_rollPool pool source).bind fun outcome =>
        inductionHypothesis (outcome :: outcomes)

/-- Rolling an order that denotes a pool makes the requests of the pool, or none. -/
theorem requests_rollMany
    {order : Order}
    {pool : Pool}
    {source : String}
    {times : Int}
    (positive : 1 ≤ times)
    (denoted : order.denoted = .ok pool)
    (sourced : sourceText order = .ok source) :
    Requests (List.replicate (times.toNat * pool.count) (dieBounds pool.sides))
      (rollMany order times : Play σ (List Outcome)) := by
  intro table
  rw [rollMany_of_one_le order positive, run_reading_of_denoted denoted sourced]
  exact requests_rollTimes pool source times.toNat [] table

/-! ## Outcomes in the order of the requests -/

/-- A source was asked for the dice of a pool again and again, and the numbers that it
gave each time were settled as the next outcome. -/
inductive SettledInTurn (pool : Pool) (text : String) : σ → List Outcome → σ → Prop
  | done (source : σ) : SettledInTurn pool text source [] source
  | next {source middle later : σ} {drawn : List Int} {outcome : Outcome}
      {outcomes : List Outcome} :
      RandomSource.Answers source pool.requests drawn middle →
        settle pool text drawn = .ok outcome →
          SettledInTurn pool text middle outcomes later →
            SettledInTurn pool text source (outcome :: outcomes) later

theorem settledInTurn_of_rollTimes
    {pool : Pool}
    {text : String}
    {times : Nat}
    {earlier outcomes : List Outcome}
    {before after : Table σ}
    (ran : (rollTimes pool text times earlier).run before = (.ok outcomes, after)) :
    ∃ later,
      outcomes = earlier.reverse ++ later ∧
        later.length = times ∧ SettledInTurn pool text before.source later after.source := by
  induction times generalizing earlier before with
  | zero =>
      obtain ⟨rfl, rfl⟩ := run_pure_eq_ok_iff.mp ran
      exact ⟨[], (List.append_nil _).symm, rfl, .done _⟩
  | succ times inductionHypothesis =>
      obtain ⟨outcome, middle, rolledOnce, rest⟩ := run_bind_eq_ok_iff.mp ran
      obtain ⟨later, outcomesEq, length, inTurn⟩ := inductionHypothesis rest
      obtain ⟨rolls, rolled, _, drew, settled, _, rfl⟩ := run_rollPool_eq_ok_iff.mp rolledOnce
      obtain ⟨drawn, rollsEq, answers, _⟩ := run_rollDice_eq_ok drew
      rw [List.reverse_nil, List.nil_append] at rollsEq
      subst rollsEq
      refine ⟨outcome :: later, ?_, ?_, .next answers settled inTurn⟩
      · rw [outcomesEq, List.reverse_cons, List.append_assoc]
        rfl
      · rw [List.length_cons, length]

end Rolling

end Play
end Tabletop
