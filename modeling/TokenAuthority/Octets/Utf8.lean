import TokenAuthority.Octets.Basic
import TokenAuthority.Text.CodePoint

/-!
Texts as octets in UTF-8.

A text that holds surrogates is not encoded.  Decoding reads one code at a time.  A surrogate that
was encoded by itself is well-formed as a sequence but no character; a strict reader refuses it, and
a lenient one lets it through as a code point.  Where no octet may be refused, a maximal ill-formed
sequence becomes one replacement character.
-/

namespace TokenAuthority.Utf8

def encode (text : String) : Octets :=
  text.toList.flatMap String.utf8EncodeChar

def encode? (text : Text) : Option Octets :=
  text.string?.map encode

def isContinuation (octet : UInt8) : Bool :=
  0x80 ≤ octet && octet ≤ 0xbf

/-- The range of the octet that may follow a leading one, when the sequence has more than two octets
or two. -/
def secondRange (lead : UInt8) : UInt8 × UInt8 :=
  if lead = 0xe0 then (0xa0, 0xbf)
  else if lead = 0xf0 then (0x90, 0xbf)
  else if lead = 0xf4 then (0x80, 0x8f)
  else (0x80, 0xbf)

def mayFollow (lead second : UInt8) : Bool :=
  (secondRange lead).1 ≤ second && second ≤ (secondRange lead).2

def payload (octet : UInt8) : Nat :=
  octet.toNat % 64

inductive Step where
  /-- A scalar value or surrogate, and the number of octets it took. -/
  | scalar (code length : Nat)
  | illFormed (length : Nat)

def step (lead : UInt8) (rest : Octets) : Step :=
  if lead < 0x80 then .scalar lead.toNat 1
  else if 0xc2 ≤ lead ∧ lead ≤ 0xdf then
    match rest with
    | second :: _ =>
        if mayFollow lead second then .scalar (lead.toNat % 32 * 64 + payload second) 2
        else .illFormed 1
    | [] => .illFormed 1
  else if 0xe0 ≤ lead ∧ lead ≤ 0xef then
    match rest with
    | second :: rest =>
        if mayFollow lead second then
          match rest with
          | third :: _ =>
              if isContinuation third then
                .scalar ((lead.toNat % 16 * 64 + payload second) * 64 + payload third) 3
              else .illFormed 2
          | [] => .illFormed 2
        else .illFormed 1
    | [] => .illFormed 1
  else if 0xf0 ≤ lead ∧ lead ≤ 0xf4 then
    match rest with
    | second :: rest =>
        if mayFollow lead second then
          match rest with
          | third :: rest =>
              if isContinuation third then
                match rest with
                | fourth :: _ =>
                    if isContinuation fourth then
                      .scalar
                        (((lead.toNat % 8 * 64 + payload second) * 64 + payload third) * 64 +
                          payload fourth) 4
                    else .illFormed 3
                | [] => .illFormed 3
              else .illFormed 2
          | [] => .illFormed 2
        else .illFormed 1
    | [] => .illFormed 1
  else .illFormed 1

def isSurrogate (code : Nat) : Bool :=
  0xd800 ≤ code && code ≤ 0xdfff

def strictCharacter? (code : Nat) : Option Char :=
  if isSurrogate code then none else some (Char.ofNat code)

/-- Decode octets, with a reading of codes; `skip` of them belong to a code that was already read,
and what was read is held in reverse order. -/
def decodeLoop? {Item : Type} (item? : Nat → Option Item) (skip : Nat) (read : List Item) :
    Octets → Option (List Item)
  | [] => some read.reverse
  | octet :: rest =>
      match skip with
      | skip + 1 => decodeLoop? item? skip read rest
      | 0 =>
          match step octet rest with
          | .scalar code length =>
              match item? code with
              | some item => decodeLoop? item? (length - 1) (item :: read) rest
              | none => none
          | .illFormed _ => none

def decode? (octets : Octets) : Option (List Char) :=
  decodeLoop? strictCharacter? 0 [] octets

/-- Decode octets leniently: an encoded surrogate is let through, all else must be well formed. -/
def decodeLenient? (octets : Octets) : Option Text :=
  decodeLoop? (fun code => some (.ofNat code)) 0 [] octets

def replacingLoop (skip : Nat) (read : List Char) : Octets → List Char
  | [] => read.reverse
  | octet :: rest =>
      match skip with
      | skip + 1 => replacingLoop skip read rest
      | 0 =>
          match step octet rest with
          | .scalar code length =>
              if isSurrogate code then replacingLoop 0 ('\uFFFD' :: read) rest
              else replacingLoop (length - 1) (Char.ofNat code :: read) rest
          | .illFormed length => replacingLoop (length - 1) ('\uFFFD' :: read) rest

def decodeReplacing (octets : Octets) : String :=
  String.ofList (replacingLoop 0 [] octets)

end TokenAuthority.Utf8
