import PathExpr.Config.Basic
import PathExpr.World

/-!
# Produced values

The identifiers of the value namespace: the empty text, and random texts whose
length is written behind a dash.
-/

namespace PathExpr.Table

open PathExpr.Text PathExpr.Number

/-- A random text, of the default length where none is given. -/
def randomValue (world : World) (length : Option Int) : String :=
  world.randomText (length.getD Config.defaultRandLength)

/-- The number that a run of digits writes; nothing for any other text. -/
def digitRun? (s : String) : Except Fault (Option Nat) :=
  let digits := s.toList
  if digits.isEmpty || !digits.all isDigit then .ok none
  else if digitLimit < digits.length then .error (.tooManyDigits (some digits.length))
  else .ok (some (ofDigits 10 digits))

/--
The value that an identifier produces.  A length that is no number, or is too
large, gives way to the one that is passed along.
-/
def produced? (world : World) (randLength : Option Int) (ident : String) :
    Except Fault (Option String) :=
  if ident = "empty" then .ok (some "")
  else match stripLead? "rand-" ident with
  | none => .ok none
  | some written => do
    match ← digitRun? written with
    | some n =>
      if Config.maxRandLength < n then return some (randomValue world randLength)
      else return some (randomValue world (some (n : Int)))
    | none => return some (randomValue world randLength)

end PathExpr.Table
