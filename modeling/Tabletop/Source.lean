import Tabletop.Text.Element

/-!
# Random sources

Every die is a request for a number between two bounds.  A source answers such
requests one by one and may fail; whether its answers respect the bounds is a
property of the source.  A failure need not have words: a value that it was made of may
be one that cannot be written.
-/

namespace Tabletop

/-- A failure of a random source. -/
inductive SourceFailure
  /-- A failure of a kind, in its own words. -/
  | worded (kind : String) (words : List Text.Element)
  /-- A failure of a kind that has no words: who asks for them meets another failure
  instead. -/
  | wordless (kind : String) (instead : SourceFailure)
  deriving DecidableEq

namespace SourceFailure

/-- The kind of a failure. -/
def kind : SourceFailure → String
  | worded kind _ => kind
  | wordless kind _ => kind

/-- The words of a failure, or the failure that is met instead. -/
def words : SourceFailure → Except SourceFailure (List Text.Element)
  | worded _ words => .ok words
  | wordless _ instead => .error instead

/-- The words of a failure as a text of characters, empty if there are none. -/
def wording : SourceFailure → String
  | worded _ words => Text.shown words
  | wordless _ _ => ""

end SourceFailure

/-- The bounds of a request, both included. -/
structure Bounds where
  /-- The least number asked for. -/
  low : Int
  /-- The greatest number asked for. -/
  high : Int
  deriving DecidableEq

/-- Sources of random numbers. -/
class RandomSource (σ : Type) where
  /-- Answer one request: an answer or a failure, and the source afterwards. -/
  draw : Bounds → σ → Except SourceFailure Int × σ
  /-- Whether a generator on such a source can be opened with a seed that was left blank.
  The standard generator cannot. -/
  takesBlank : Bool := false

/-- Sources that need no chance.  They stand behind any generator, and so their generators
are opened with any seed. -/
inductive ScriptedSource
  /-- Numbers to be given in order, whatever the bounds. -/
  | script (rest : List Int)
  /-- Numbers to be given in order, starting over at the end. -/
  | cycle (whole rest : List Int)
  /-- A linear congruential generator in the given state. -/
  | congruential (state : Int)
  /-- Always the lower bound. -/
  | lowest
  /-- Always the upper bound. -/
  | highest

namespace ScriptedSource

/-- The failure of a source that has no numbers left. -/
def exhausted : SourceFailure :=
  .worded "RuntimeError" (Text.elements "rng exhausted")

/-- The state of the congruential generator after a given one: 64 bits. -/
def nextState (state : Int) : Int :=
  (state * 6364136223846793005 + 1442695040888963407) % 18446744073709551616

/-- The answer of the congruential generator from its new state: its bits
from the 33rd on, reduced to the width of the bounds. -/
def congruentialAnswer (bounds : Bounds) (state : Int) : Int :=
  bounds.low + Int.fmod (state / 8589934592) (bounds.high - bounds.low + 1)

/-- Answer one request. -/
def draw (bounds : Bounds) :
    ScriptedSource → Except SourceFailure Int × ScriptedSource
  | script [] => (.error exhausted, script [])
  | script (value :: rest) => (.ok value, script rest)
  | cycle whole (value :: rest) => (.ok value, cycle whole rest)
  | cycle [] [] => (.error exhausted, cycle [] [])
  | cycle (value :: rest) [] => (.ok value, cycle (value :: rest) rest)
  | congruential state =>
      let next := nextState state
      (.ok (congruentialAnswer bounds next), congruential next)
  | lowest => (.ok bounds.low, lowest)
  | highest => (.ok bounds.high, highest)

instance : RandomSource ScriptedSource where
  draw := draw
  takesBlank := true

end ScriptedSource
end Tabletop
