import ShopPayments.Refund.Report

/-!
# The report as CSV

A header and a record for each row, each ended by a line feed. A field is quoted
when it holds a quote, a comma or a line break, and a quote inside is doubled.
-/

namespace ShopPayments
namespace Csv

/-- Whether a field with this character has to be quoted. -/
def isSpecial (c : Char) : Bool := c = '"' || c = ',' || c = '\n' || c = '\r'

/-- A quote is written twice. -/
def doubled (c : Char) : List Char := if c = '"' then ['"', '"'] else [c]

/-- A field of a record. -/
def field (cs : List Char) : List Char :=
  if cs.any isSpecial then '"' :: cs.flatMap doubled ++ ['"'] else cs

/-- A record with its line feed. -/
def record : List (List Char) → List Char
  | [] => ['\n']
  | [last] => field last ++ ['\n']
  | first :: rest => field first ++ ',' :: record rest

/-- The names of the columns. -/
def header : List String :=
  ["unique_id", "name", "quantity", "refundable_quantity", "unit_price", "refundable_amount"]

/-- The fields of a row; amounts have no zeros at the end of their fractions. -/
def fields (row : RefundableItem) : List String :=
  [row.uniqueId, row.name, toString row.quantity.toNat, toString row.refundableUnits.toNat,
    row.unitPrice.normalize.text, row.refundableAmount.normalize.text]

/-- The text of a report. -/
def report (rows : List RefundableItem) : String :=
  let records := header :: rows.map fields
  String.ofList (records.flatMap fun fs => record (fs.map String.toList))

end Csv
end ShopPayments
