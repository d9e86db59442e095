import ShopPayments.Binary64.Shortest
import ShopPayments.Json

/-!
# Writing JSON text

Two layouts: without any blanks, and with a line for every element, indented by
two blanks a level. Binary64 numbers get their shortest digits, always with a
point or an exponent: from `1e-5` up to `1e16` they are written out.
-/

namespace ShopPayments
namespace Json

/-- The hexadecimal digit of a number below sixteen. -/
def hexDigit (n : Nat) : Char := Nat.digitChar n

/-- A character inside a string: quote, backslash and control characters are escaped. -/
def escaped (c : Char) : List Char :=
  match c with
  | '"' => ['\\', '"']
  | '\\' => ['\\', '\\']
  | '\x08' => ['\\', 'b']
  | '\x0c' => ['\\', 'f']
  | '\n' => ['\\', 'n']
  | '\r' => ['\\', 'r']
  | '\t' => ['\\', 't']
  | _ =>
    if c.toNat < 0x20 then ['\\', 'u', '0', '0', hexDigit (c.toNat / 16), hexDigit (c.toNat % 16)]
    else [c]

/-- A string in quotes. -/
def quote (s : String) : List Char := '"' :: s.toList.flatMap escaped ++ ['"']

/-- Least decimal exponent that is written out. -/
def leastPlain : Int := -5

/-- First decimal exponent that is no longer written out. -/
def firstScientific : Int := 16

/-- The digits with an exponent. -/
def scientific (digits : List Char) (exponent : Int) : List Char :=
  let mantissa :=
    match digits with
    | [] => []
    | [d] => [d]
    | d :: rest => d :: '.' :: rest
  let sign := if exponent < 0 then '-' else '+'
  mantissa ++ 'e' :: sign :: Nat.toDigits 10 exponent.natAbs

/-- A binary64 magnitude. -/
def magnitudeText (x : Binary64) : List Char :=
  let d := x.shortest .toEven
  let digits := Nat.toDigits 10 d.digits
  let exponent := d.exponent + digits.length - 1
  if x.mantissa = 0 then ['0', '.', '0']
  else if leastPlain ≤ exponent && exponent < firstScientific then
    if 0 ≤ d.exponent then d.plain ++ ['.', '0'] else d.plain
  else scientific digits exponent

/-- A whole number. -/
def integerText (n : Int) : List Char :=
  if n < 0 then '-' :: Nat.toDigits 10 n.natAbs else Nat.toDigits 10 n.natAbs

/-- Line breaks and indentation of a layout; the argument is the depth. -/
structure Layout where
  lineBreak : Nat → List Char
  afterColon : List Char

/-- Nothing between the tokens. -/
def Layout.compact : Layout := ⟨fun _ => [], []⟩

/-- A line for every element and member. -/
def Layout.pretty : Layout := ⟨fun depth => '\n' :: List.replicate (2 * depth) ' ', [' ']⟩

mutual

/-- The text of a value at the given depth. -/
def render (layout : Layout) (depth : Nat) : Json Empty → List Char
  | .null => ['n', 'u', 'l', 'l']
  | .bool true => ['t', 'r', 'u', 'e']
  | .bool false => ['f', 'a', 'l', 's', 'e']
  | .integer n => integerText n
  | .real negative x => if negative then '-' :: magnitudeText x else magnitudeText x
  | .string s => quote s
  | .array [] => ['[', ']']
  | .array (e :: rest) =>
    '[' :: layout.lineBreak (depth + 1) ++ render layout (depth + 1) e
      ++ renderElements layout (depth + 1) rest ++ layout.lineBreak depth ++ [']']
  | .object [] => ['\x7b', '\x7d']
  | .object ((k, v) :: rest) =>
    '\x7b' :: layout.lineBreak (depth + 1) ++ quote k ++ ':' :: layout.afterColon
      ++ render layout (depth + 1) v ++ renderMembers layout (depth + 1) rest
      ++ layout.lineBreak depth ++ ['\x7d']

/-- The elements behind the first one. -/
def renderElements (layout : Layout) (depth : Nat) : List (Json Empty) → List Char
  | [] => []
  | e :: rest =>
    ',' :: layout.lineBreak depth ++ render layout depth e ++ renderElements layout depth rest

/-- The members behind the first one. -/
def renderMembers (layout : Layout) (depth : Nat) : List (String × Json Empty) → List Char
  | [] => []
  | (k, v) :: rest =>
    ',' :: layout.lineBreak depth ++ quote k ++ ':' :: layout.afterColon
      ++ render layout depth v ++ renderMembers layout depth rest

end

/-- The text without blanks. -/
def compact (json : Json Empty) : String := String.ofList (render .compact 0 json)

/-- The text with a line for every element. -/
def pretty (json : Json Empty) : String := String.ofList (render .pretty 0 json)

end Json
end ShopPayments
