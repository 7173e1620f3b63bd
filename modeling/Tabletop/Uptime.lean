import Tabletop.Binary

/-!
# Uptime

A service remembers when it was started and tells how long ago that was.  Times are
kept and subtracted as numbers of the binary format, so that those of more than 53
bits are rounded.
-/

namespace Tabletop

/-- When a service was started, if it was. -/
structure Uptime where
  /-- The time of the last start. -/
  started : Option Int

namespace Uptime

/-- A service that has not been started. -/
def stopped : Uptime :=
  { started := none }

/-- Start the service, again if it runs already. -/
def start (_ : Uptime) (now : Int) : Uptime :=
  { started := some (Binary.roundedInt now) }

/-- The time since the last start; zero before any start. -/
def elapsed (uptime : Uptime) (now : Int) : Int :=
  match uptime.started with
  | none => 0
  | some start => Binary.roundedInt (Binary.roundedInt now - start)

end Uptime
end Tabletop
