/-!
# Media types

The part of a content type that says whether a body is JSON: type and subtype,
where a subtype may end in a suffix behind its last plus. Parameters are checked
for their form only.
-/

namespace ShopPayments

/-- A media type without its parameters, in lower case. -/
structure MediaType where
  type : String
  subtype : String
  suffix : Option String
  deriving DecidableEq, Repr

namespace MediaType

/-- Characters of a token. -/
def isToken (c : Char) : Bool := c.isAlphanum || "!#$%&'*+-.^_`|~".toList.contains c

/-- Characters inside quotes. -/
def isQuotable (c : Char) : Bool := 31 < c.toNat && c.toNat != 127

/-- Whether the text between parameters is fine; quotes are followed by blanks only. -/
def afterQuotes : List Char → Option (List Char)
  | [] => some []
  | ';' :: rest => some rest
  | ' ' :: rest => afterQuotes rest
  | _ => none

/-- The text behind a quoted value, which has at least one character. -/
def skipQuoted (cs : List Char) : Option (List Char) :=
  match cs with
  | first :: rest =>
    match rest.dropWhile fun c => isQuotable c && c != '"' with
    | '"' :: behind => if isQuotable first then afterQuotes behind else none
    | _ => none
  | [] => none

/-- The text behind the value of a parameter. -/
def skipValue (cs : List Char) : Option (List Char) :=
  match cs with
  | '"' :: rest => skipQuoted rest
  | _ =>
    match cs.dropWhile isToken with
    | [] => some []
    | ';' :: rest => if cs.head? = some ';' then none else some rest
    | _ => none

/-- The text behind a parameter. -/
def skipParameter (cs : List Char) : Option (List Char) :=
  match cs.dropWhile isToken with
  | '=' :: rest => if cs.head? = some '=' then none else skipValue rest
  | _ => none

/-- Whether a list of parameters is well formed. Blanks may stand in front of each of them and
at the end; the first argument bounds the number of parameters. -/
def areParameters : Nat → List Char → Bool
  | 0, cs => (cs.dropWhile (· = ' ')).isEmpty
  | count + 1, cs =>
    match cs.dropWhile (· = ' ') with
    | [] => true
    | cs =>
      match skipParameter cs with
      | some rest => areParameters count rest
      | none => false

/-- Splits a subtype at its last plus, unless that is its first character. -/
def splitSuffix (subtype : List Char) : List Char × Option (List Char) :=
  let behind := (subtype.reverse.takeWhile (· != '+')).reverse
  let front := subtype.take (subtype.length - behind.length - 1)
  if behind.length < subtype.length && !front.isEmpty then (front, some behind)
  else (subtype, none)

/-- Characters that a header shows. -/
def isVisible (c : Char) : Bool := 31 < c.toNat && c.toNat < 127

/-- Reads a content type. -/
def parse? (s : String) : Option MediaType :=
  let lower := fun (cs : List Char) => String.ofList (cs.map Char.toLower)
  let cs := s.toList
  let type := cs.takeWhile isToken
  match cs.dropWhile isToken with
  | '/' :: rest =>
    let subtype := rest.takeWhile isToken
    let parameters :=
      match rest.dropWhile isToken with
      | [] => some []
      | ';' :: parameters => if subtype.isEmpty then none else some parameters
      | _ => none
    match parameters with
    | none => none
    | some parameters =>
      if type.isEmpty || !cs.all isVisible || !areParameters parameters.length parameters then none
      else
        let (front, suffix) := splitSuffix subtype
        some ⟨lower type, lower front, suffix.map lower⟩
  | _ => none

/-- Whether a body of this type is JSON. -/
def isJson (m : MediaType) : Bool :=
  m.type = "application" && (m.subtype = "json" || m.suffix = some "json")

end MediaType
end ShopPayments
