import TokenAuthority.Json.Writer
import TokenAuthority.Log.Level
import TokenAuthority.Log.Template
import TokenAuthority.Time.Calendar

/-!
Log records and their lines.

A record is written as one JSON object on one line: time, level, logger, message and request, then
those known attributes that the record has, then the fault that it tells of.
-/

namespace TokenAuthority.Log

structure Fault where
  name : String
  qualifiedName : String
  text : Text
  /-- The lines before the fault itself: where it was raised, and what caused it. -/
  trace : Text := ""
deriving DecidableEq, Repr

/-- Whether a record tells of a fault; it may say so without there being one. -/
inductive FaultNote where
  | absent
  | empty
  | present (fault : Fault)
deriving DecidableEq, Repr

structure Record where
  logger : Text
  level : Int
  template : Text
  arguments : List Json
  /-- Seconds since 1970. -/
  created : Binary64
  attributes : List (Text × Json)
  fault : FaultNote

def knownAttributes : List Text :=
  ["user_id", "token_id", "count", "method", "path", "status", "elapsed_ms"]

def chosenAttributes (attributes : List (Text × Json)) : List (Text × Json) :=
  knownAttributes.filterMap fun name => (Json.lookup? name attributes).map (name, ·)

def Fault.description (fault : Fault) : Text :=
  let named := fault.trace ++ fault.qualifiedName
  if fault.text.isEmpty then named else named ++ ": " ++ fault.text

def FaultNote.members : FaultNote → List (Text × Json)
  | .absent => []
  | .empty => [("exc_type", .null), ("exc_info", .text "NoneType: None")]
  | .present fault => [("exc_type", .text fault.name), ("exc_info", .text fault.description)]

inductive RecordError where
  | template (error : Template.Error)
  | dateOutOfRange
  /-- The line shows a value that cannot be written. -/
  | unwritten (error : Json.WriteError)
deriving DecidableEq, Repr

namespace Record

def requestId (record : Record) : Json :=
  (Json.lookup? "request_id" record.attributes).getD .null

/-- The members of a line before its message. -/
def opening (record : Record) (created : Int) : List (Text × Json) :=
  [("time", .text (Instant.text created)), ("level", .text (levelName record.level)),
    ("logger", .text record.logger)]

/-- The members of a line after its message. -/
def closing (record : Record) : List (Text × Json) :=
  ("request_id", record.requestId) :: (chosenAttributes record.attributes ++ record.fault.members)

def written (member : Text × Json) : Text × List Char :=
  (member.1, Json.write .spaced member.2)

def write (record : Record) (created : Int) (message : Text) : List Char :=
  Json.writeFields .spaced
    ((record.opening created).map written ++
      (("message" : Text), Json.writeText message) :: record.closing.map written)

/-- The line of a record, with so many levels of nesting as there is room for. -/
def line (levels : Nat) (record : Record) : Except RecordError String :=
  match Instant.ofSeconds? record.created,
      Template.message levels record.template record.arguments with
  | none, _ => .error .dateOutOfRange
  | some _, .error error => .error (.template error)
  | some created, .ok message =>
      match Json.writeError? 0 levels (.object record.closing) with
      | none => .ok (String.ofList (record.write created message))
      | some error => .error (.unwritten error)

end Record

end TokenAuthority.Log
