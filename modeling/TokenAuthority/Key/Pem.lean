import TokenAuthority.Octets.Base64
import TokenAuthority.Octets.Utf8
import TokenAuthority.Text.Blank

/-!
Armoured blocks of octets.

A block stands between a begin and an end marker of one label and holds base64 with white space
anywhere in it.  Headers may stand before the data, ended by an empty line.  What is around the
blocks of a text does not count, and need not be text at all.
-/

namespace TokenAuthority.Pem

structure Block where
  label : String
  headers : List (String × String)
  octets : Octets
deriving DecidableEq, Repr

/-- Read on until a marker has been met: `pending` is what of it is still to come, and what was read
is held in reverse order.  An octet that breaks a match off does not begin another. -/
def splitLoop? (marker pending read : Octets) : Octets → Option (Octets × Octets)
  | [] => none
  | octet :: rest =>
      match pending with
      | [] => none
      | expected :: pending =>
          if octet ≠ expected then splitLoop? marker marker (octet :: read) rest
          else if pending.isEmpty then
            some (((octet :: read).drop marker.length).reverse, rest)
          else splitLoop? marker pending (octet :: read) rest

def split? (marker octets : Octets) : Option (Octets × Octets) :=
  splitLoop? marker marker [] octets

def isGap (octet : UInt8) : Bool :=
  octet == 0x20 || octet == 0x09 || octet == 0x0a || octet == 0x0d

/-- What stands in and between the markers of a block. -/
structure Frame where
  label : Octets
  payload : Octets
  closing : Octets
deriving DecidableEq, Repr

def readFrame? (octets : Octets) : Option (Frame × Octets) := do
  let (_, rest) ← split? (Octets.ofAscii "-----BEGIN ") octets
  let (label, rest) ← split? (Octets.ofAscii "-----") rest
  let (payload, rest) ← split? (Octets.ofAscii "-----END ") (rest.dropWhile isGap)
  let (closing, rest) ← split? (Octets.ofAscii "-----") rest
  return (⟨label, payload, closing⟩, rest.dropWhile isGap)

def readFrames : (bound : Nat) → Octets → List Frame
  | 0, _ => []
  | bound + 1, octets =>
      match readFrame? octets with
      | none => []
      | some (frame, rest) => frame :: readFrames bound rest

def frames (octets : Octets) : List Frame :=
  readFrames octets.length octets

/-- The headers and the data of a payload, which the first empty line divides. -/
def divide (payload : Octets) : Octets × Octets :=
  ((split? [0x0a, 0x0a] payload).orElse fun _ => split? [0x0d, 0x0a, 0x0d, 0x0a] payload).getD
    ([], payload)

/-- The lines of a text; a line ends in a line feed, which a carriage return may precede. -/
def lines (characters : List Char) : List (List Char) :=
  let lines := characters.splitOn '\n'
  let lines := if lines.getLast? = some [] then lines.dropLast else lines
  lines.map fun line => if line.getLast? = some '\r' then line.dropLast else line

def trim (characters : List Char) : String :=
  String.ofList (Text.stripWhile Text.isSpace characters)

def header? (line : List Char) : Option (String × String) :=
  match line.dropWhile (· ≠ ':') with
  | [] => none
  | _ :: value => some (trim (line.takeWhile (· ≠ ':')), trim value)

def data? (characters : List Char) : Option Octets :=
  let data := characters.filter fun character => !Text.isSpace character
  if data.length % 4 = 0 then Base64.decode? Base64.standard data else none

def Frame.block? (frame : Frame) : Option Block := do
  let label ← Utf8.decode? frame.label
  let closing ← Utf8.decode? frame.closing
  let (headers, data) := divide frame.payload
  let headers ← (lines (← Utf8.decode? headers)).mapM header?
  let octets ← data? (← Utf8.decode? data)
  if label.isEmpty ∨ label ≠ closing then none
  else return ⟨String.ofList label, headers, octets⟩

/-- The value of a block's header; of several of one name the last counts. -/
def Block.header? (block : Block) (name : String) : Option String :=
  (block.headers.reverse.find? fun header => header.1 == name).map Prod.snd

def firstBlock? (octets : Octets) : Option Block :=
  (frames octets).head?.bind Frame.block?

/-- The first block with one of some labels, in a text of which every block is well formed. -/
def firstLabelled? (labels : List String) (octets : Octets) : Option Block := do
  let blocks ← (frames octets).mapM Frame.block?
  blocks.find? fun block => labels.contains block.label

end TokenAuthority.Pem
