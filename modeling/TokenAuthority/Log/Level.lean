import TokenAuthority.Log.Event
import TokenAuthority.Text.Blank

/-!
Levels of logging.

A level is a number; some have names, a few of them two.
-/

namespace TokenAuthority.Log

def namedLevels : List (String × Int) :=
  [("NOTSET", 0), ("DEBUG", 10), ("INFO", 20), ("WARNING", 30), ("ERROR", 40), ("CRITICAL", 50),
   ("WARN", 30), ("FATAL", 50)]

/-- The name of a level; one without a name is told by its number. -/
def levelName (level : Int) : String :=
  match namedLevels.find? fun entry => entry.2 == level with
  | some entry => entry.1
  | none => "Level " ++ toString level

/-- The level that a text names; information when it names none. -/
def levelOfName (text : Text) : Int :=
  let name? := text.string?.map fun text => (Text.trim text).map Text.capital
  match namedLevels.find? fun entry => name? = some entry.1 with
  | some entry => entry.2
  | none => Severity.info.number

def levelOf? : Json → Option Int
  | .text text => some (levelOfName text)
  | .int level => some level
  | .bool value => some (if value then 1 else 0)
  | _ => none

def Event.isWanted (event : Event) (level : Int) : Bool :=
  level ≤ event.severity.number

end TokenAuthority.Log
