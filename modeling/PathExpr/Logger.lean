import PathExpr.World

/-!
# Logging

Remarks are written from a level on, to the places attached to a logger.  Setting
a logger up sets its level each time and attaches a place only to a logger that
has none.
-/

namespace PathExpr

/-- A logger: its level and the number of places it writes to. -/
structure Logger where
  level : Int
  places : Nat
  deriving Repr, DecidableEq, Inhabited

namespace Logger

/-- The level of remarks made while resolving. -/
def debugLevel : Int := 10

/-- The level of warnings, which is the usual one. -/
def warningLevel : Int := 30

/-- A logger that writes nowhere. -/
def detached : Logger := ⟨warningLevel, 0⟩

/-- The variable that lowers the usual level. -/
def debugVariable : String := "ENVPATH_DEBUG"

/-- The level where none is named: lower when the variable is set and not empty. -/
def usualLevel (world : World) : Int :=
  if (world.nonEmpty? debugVariable).isSome then debugLevel else warningLevel

/-- The logger after a setup. -/
def setup (logger : Logger) (world : World) (level : Option Int) : Logger :=
  ⟨level.getD (usualLevel world), if logger.places = 0 then 1 else logger.places⟩

/-- Whether remarks made while resolving are written. -/
def writesRemarks (logger : Logger) : Bool :=
  logger.level ≤ debugLevel

/-- The name of a level that a setup without a named level can give. -/
def levelName (level : Int) : String :=
  if level ≤ debugLevel then "DEBUG" else "WARNING"

end Logger

end PathExpr
