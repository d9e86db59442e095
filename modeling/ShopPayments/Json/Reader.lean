import ShopPayments.Json.Numeral

/-!
# Reading JSON text

The reader turns any text into a draft and never fails: where the text stops
being JSON it leaves a cut and reads no further. An object that breaks off
between its members ends with a member whose value is that cut, and a member
whose key cannot be read gives its place to a gap. Of arrays and objects inside
each other the reader takes `maxDepth`; those further in are read for their end alone.
-/

namespace ShopPayments
namespace Json

/-- A draft together with the text behind it; without a rest the draft ends in a cut. -/
abbrev Parsed := Draft × Option (List Char)

/-- The result of a text that is not JSON from here on. -/
def broken : Parsed := (.hole .cut, none)

/-- The four characters that may stand between tokens. -/
def isBlank (c : Char) : Bool := c = ' ' || c = '\n' || c = '\t' || c = '\r'

/-- The text behind leading blanks. -/
def skipBlanks (cs : List Char) : List Char := cs.dropWhile isBlank

/-- The value of a hexadecimal digit. -/
def hexDigit? (c : Char) : Option Nat :=
  if c.isDigit then some (c.toNat - '0'.toNat)
  else if 'a' ≤ c ∧ c ≤ 'f' then some (c.toNat - 'a'.toNat + 10)
  else if 'A' ≤ c ∧ c ≤ 'F' then some (c.toNat - 'A'.toNat + 10)
  else none

/-- The value of four hexadecimal digits. -/
def hexQuad? (a b c d : Char) : Option Nat := do
  let high := (← hexDigit? a) * 16 + (← hexDigit? b)
  let low := (← hexDigit? c) * 16 + (← hexDigit? d)
  pure (high * 256 + low)

/-- What a backslash and one letter stand for. -/
def simpleEscape? (c : Char) : Option Char :=
  match c with
  | '"' => some '"'
  | '\\' => some '\\'
  | '/' => some '/'
  | 'b' => some '\x08'
  | 'f' => some '\x0c'
  | 'n' => some '\n'
  | 'r' => some '\r'
  | 't' => some '\t'
  | _ => none

/-- Whether a code unit is the first half of a surrogate pair. -/
def isLeading (unit : Nat) : Bool := 0xd800 ≤ unit && unit ≤ 0xdbff

/-- Whether a code unit is the second half of a surrogate pair. -/
def isTrailing (unit : Nat) : Bool := 0xdc00 ≤ unit && unit ≤ 0xdfff

/-- The character of a surrogate pair. -/
def pairedChar (leading trailing : Nat) : Char :=
  Char.ofNat (0x10000 + (leading - 0xd800) * 0x400 + (trailing - 0xdc00))

/-- The part of a string that has been read: its characters, last first, the first half of a
surrogate pair that waits for its second, and whether no half has stood alone so far. -/
structure Literal where
  read : List Char
  leading : Option Nat
  sound : Bool

namespace Literal

/-- The empty string. -/
def empty : Literal := ⟨[], none, true⟩

/-- Adds a character; a half that waits in front of it stands alone. -/
def push (l : Literal) (c : Char) : Literal := ⟨c :: l.read, none, l.sound && l.leading.isNone⟩

/-- Adds a code unit. -/
def pushUnit (l : Literal) (unit : Nat) : Literal :=
  if isTrailing unit then
    match l.leading with
    | some leading => ⟨pairedChar leading unit :: l.read, none, l.sound⟩
    | none => { l with sound := false }
  else if isLeading unit then ⟨l.read, some unit, l.sound && l.leading.isNone⟩
  else l.push (Char.ofNat unit)

/-- The finished string, unless some half of a pair stands alone. -/
def finish (l : Literal) : Option String :=
  if l.sound && l.leading.isNone then some (String.ofList l.read.reverse) else none

end Literal

/-- Reads a string up to its closing quote; none if it does not end properly. -/
def stringBody : List Char → Literal → Option (Option String × List Char)
  | [], _ => none
  | '"' :: rest, l => some (l.finish, rest)
  | '\\' :: 'u' :: a :: b :: c :: d :: rest, l =>
    match hexQuad? a b c d with
    | none => none
    | some unit => stringBody rest (l.pushUnit unit)
  | '\\' :: c :: rest, l =>
    match simpleEscape? c with
    | none => none
    | some plain => stringBody rest (l.push plain)
  | c :: rest, l => if c = '\\' || c.toNat < 0x20 then none else stringBody rest (l.push c)

/-- Reads a number whose sign has been read. -/
def number (negative : Bool) (cs : List Char) : Parsed :=
  match numeral? negative cs with
  | some (n, rest) => (n.value, some rest)
  | none => broken

/-- Reads a fixed word. -/
def word (letters : List Char) (value : Draft) (cs : List Char) : Parsed :=
  if letters.isPrefixOf cs then (value, some (cs.drop letters.length)) else broken

/-- Reads a string whose opening quote has been read. -/
def quoted (cs : List Char) : Parsed :=
  match stringBody cs .empty with
  | some (some s, rest) => (.string s, some rest)
  | some (none, rest) => (.hole .unreadable, some rest)
  | none => broken

/-- How many arrays and objects may stand inside each other. -/
def maxDepth : Nat := 127

/-- What is kept of an array or an object that has been read, where so many more may stand inside
each other. -/
def kept : Nat → Parsed → Parsed
  | 0, (_, some rest) => (.hole .deep, some rest)
  | _, parsed => parsed

/-- A member of an object; without a readable key, only a gap. -/
def keyed (key : Option String) (gap : Gap) (value : Draft) : String × Draft :=
  match key with
  | some key => (key, value)
  | none => ("", .hole gap)

mutual

/-- Reads a value. The first argument bounds the number of steps, the second one says how many
arrays and objects may stand inside each other. -/
def value : Nat → Nat → List Char → Parsed
  | 0, _, _ => broken
  | steps + 1, room, cs =>
    match skipBlanks cs with
    | [] => broken
    | 'n' :: rest => word ['u', 'l', 'l'] .null rest
    | 't' :: rest => word ['r', 'u', 'e'] (.bool true) rest
    | 'f' :: rest => word ['a', 'l', 's', 'e'] (.bool false) rest
    | '"' :: rest => quoted rest
    | '-' :: rest => number true rest
    | '[' :: rest => kept room <|
      match skipBlanks rest with
      | ']' :: rest => (.array [], some rest)
      | _ =>
        let (elements, rest) := elements steps (room - 1) rest
        (.array elements, rest)
    | '\x7b' :: rest => kept room <|
      match skipBlanks rest with
      | '\x7d' :: rest => (.object [], some rest)
      | _ =>
        let (members, rest) := members steps (room - 1) rest
        (.object members, rest)
    | c :: rest => if c.isDigit then number false (c :: rest) else broken

/-- Reads the elements of an array up to its closing bracket. -/
def elements : Nat → Nat → List Char → List Draft × Option (List Char)
  | 0, _, _ => ([.hole .cut], none)
  | steps + 1, room, cs =>
    match value steps room cs with
    | (first, none) => ([first], none)
    | (first, some rest) =>
      match skipBlanks rest with
      | ']' :: rest => ([first], some rest)
      | ',' :: rest =>
        let (others, rest) := elements steps room rest
        (first :: others, rest)
      | _ => ([first, .hole .cut], none)

/-- Reads the members of an object up to its closing brace. -/
def members : Nat → Nat → List Char → List (String × Draft) × Option (List Char)
  | 0, _, _ => ([("", .hole .cut)], none)
  | steps + 1, room, cs =>
    match skipBlanks cs with
    | '"' :: rest =>
      match stringBody rest .empty with
      | some (key, rest) =>
        match skipBlanks rest with
        | ':' :: rest =>
          match value steps room rest with
          | (first, none) => ([keyed key .cut first], none)
          | (first, some rest) =>
            match skipBlanks rest with
            | '\x7d' :: rest => ([keyed key .key first], some rest)
            | ',' :: rest =>
              let (others, rest) := members steps room rest
              (keyed key .key first :: others, rest)
            | _ => ([keyed key .key first, ("", .hole .cut)], none)
        | _ => ([keyed key .cut (.hole .cut)], none)
      | none => ([("", .hole .cut)], none)
    | _ => ([("", .hole .cut)], none)

end

/-- The draft of a text, and whether it ends properly with that value. -/
def read (text : String) : Draft × Bool :=
  let cs := text.toList
  let (draft, rest) := value (2 * cs.length + 2) maxDepth cs
  (draft, rest.any fun rest => (skipBlanks rest).isEmpty)

end Json
end ShopPayments
