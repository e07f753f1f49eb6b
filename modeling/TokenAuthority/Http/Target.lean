import TokenAuthority.Octets.Utf8
import TokenAuthority.Text.Blank
import TokenAuthority.Text.Digit
import TokenAuthority.Text.Literal

/-!
Targets of requests.

A target is a URL whose scheme and host may be left out.  Its path is decoded twice over: the parts
of the URL are taken apart, those of what remains once more, and then percent escapes are resolved.
-/

namespace TokenAuthority.Http

structure Url where
  scheme : Option String := none
  host : String := ""
  path : List Char := []
  query : List Char := []

namespace Url

def isSchemeCharacter (character : Char) : Bool :=
  character.isAlphanum || character ∈ ['+', '-', '.']

def takeScheme (characters : List Char) : Option String × List Char :=
  let name := characters.takeWhile (· != ':')
  match characters.drop name.length with
  | _ :: rest =>
      if (name.head?.any Char.isAlpha) && name.all isSchemeCharacter then
        (some (Text.lowerAscii (String.ofList name)), rest)
      else (none, characters)
  | [] => (none, characters)

def takeHost : List Char → String × List Char
  | '/' :: '/' :: rest =>
      let host := rest.takeWhile fun character => character ∉ ['/', '?', '#']
      (String.ofList host, rest.drop host.length)
  | characters => ("", characters)

/-- The parts of a text as a URL.  Controls and blanks before it do not count, nor do tabs and line
breaks anywhere. -/
def ofCharacters (characters : List Char) : Url :=
  let text := characters.dropWhile (· ≤ ' ')
  let text := text.filter fun character => character ∉ ['\t', '\r', '\n']
  let (scheme, text) := takeScheme text
  let (host, text) := takeHost text
  let text := text.takeWhile (· != '#')
  let path := text.takeWhile (· != '?')
  { scheme, host, path, query := (text.drop path.length).drop 1 }

/-- The URL of a target, taken apart twice. -/
def ofTarget (target : String) : Url :=
  let outer := ofCharacters target.toList
  let inner := ofCharacters (outer.path ++ if outer.query.isEmpty then [] else '?' :: outer.query)
  { outer with path := inner.path, query := inner.query }

/-- The octets of percent-encoded characters; a percent sign without two digits after it stands for
itself.  `skip` characters belong to an escape that was already read. -/
def percentDecode : (skip : Nat) → List Char → Octets
  | _, [] => []
  | skip + 1, _ :: rest => percentDecode skip rest
  | 0, '%' :: rest =>
      let digit? := fun (character : Char) => (Text.radixDigit? character).filter (· < 16)
      match rest with
      | first :: second :: _ =>
          match digit? first, digit? second with
          | some high, some low => UInt8.ofNat (high * 16 + low) :: percentDecode 2 rest
          | _, _ => 0x25 :: percentDecode 0 rest
      | _ => 0x25 :: percentDecode 0 rest
  | 0, character :: rest => String.utf8EncodeChar character ++ percentDecode 0 rest

/-- The path that a URL asks for.  It begins with one slash, however many the URL has there. -/
def decodedPath (url : Url) : String :=
  let path := (Utf8.decodeReplacing (percentDecode 0 url.path)).toList
  String.ofList ('/' :: path.dropWhile (· == '/'))

def isPlain (character : Char) : Bool :=
  character.isAlphanum || character ∈ "_.-~!$&'()*+,/:;=@".toList

def percentEncode (character : Char) : List Char :=
  if isPlain character then [character]
  else
    (String.utf8EncodeChar character).flatMap fun octet =>
      '%' :: (Text.hexDigits 2 octet.toNat).map Text.capital

/-- The URL as a text, with another path; the scheme is told if none is. -/
def withPath (url : Url) (path : String) : String :=
  let query := if url.query.isEmpty then [] else '?' :: url.query
  url.scheme.getD "http" ++ "://" ++ url.host ++
    String.ofList (path.toList.flatMap percentEncode ++ query)

end Url

end TokenAuthority.Http
