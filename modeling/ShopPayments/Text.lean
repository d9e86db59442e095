/-!
# Texts of limited length

Lengths count characters. A text is cut by keeping its first characters, and an
empty text counts as missing.
-/

namespace ShopPayments
namespace Text

/-- Number of characters. -/
def size (s : String) : Nat := s.toList.length

/-- The first characters of a text, at most the given number. -/
def cut (s : String) (limit : Nat) : String := String.ofList (s.toList.take limit)

/-- Whether a text has no characters. -/
def isEmpty (s : String) : Bool := s.toList.isEmpty

/-- The text, unless it is missing or empty. -/
def filled? (s : Option String) : Option String := s.filter fun s => !isEmpty s

/-- The text without the given character at its end. -/
def trimEnd (s : String) (c : Char) : String :=
  String.ofList (s.toList.reverse.dropWhile (· = c)).reverse

/-- Several texts with a separator between them. -/
def join (separator : String) : List String → String
  | [] => ""
  | first :: rest => rest.foldl (fun text next => text ++ separator ++ next) first

/-- Characters that count as white space. -/
def isSpace (c : Char) : Bool :=
  let code := c.toNat
  (0x9 ≤ code && code ≤ 0xd) || code = 0x20 || code = 0x85 || code = 0xa0 || code = 0x1680
    || (0x2000 ≤ code && code ≤ 0x200a) || code = 0x2028 || code = 0x2029 || code = 0x202f
    || code = 0x205f || code = 0x3000

end Text
end ShopPayments
