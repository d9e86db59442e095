import ShopPayments.Proofs.Decimal.Reading
import ShopPayments.Refund.Csv

/-!
# Reading a report back

A reader of comma separated records goes through a text character by character.  A field either is
bare, without any quote, comma or line break, or stands between quotes, where a quote is written
twice and every other character stands for itself.  Fields are separated by commas, and a record
ends with a line feed, with or without a carriage return before it, or with the text.

Such a reader gets out of a report what was written into it (`read_report`), whatever characters
the texts are made of: it stands behind a written field with that field and nothing else read
(`read_field`), from there behind a written record, and so behind the whole text.
-/

namespace ShopPayments
namespace Csv

/-! ## The reader -/

/-- Where a reader stands. -/
inductive Place where
  /-- In front of a field. -/
  | front
  /-- In a bare field. -/
  | bare
  /-- Between the quotes of a field. -/
  | quoted
  /-- Behind a quote that ends a quoted field or is the first of two. -/
  | behindQuote
  /-- Behind a carriage return that a line feed has to follow. -/
  | behindReturn
  deriving DecidableEq

/-- What has been read: the current field, the fields before it and the records before these. -/
structure Reader where
  place : Place
  field : List Char
  fields : List String
  records : List (List String)

namespace Reader

/-- In front of a field. -/
def inFront (fields : List String) (records : List (List String)) : Reader :=
  ⟨.front, [], fields, records⟩

/-- Takes in a character of the field. -/
def push (r : Reader) (c : Char) (place : Place) : Reader :=
  { r with place, field := r.field ++ [c] }

/-- The fields of the record up to the current one. -/
def allFields (r : Reader) : List String := r.fields ++ [String.ofList r.field]

def endField (r : Reader) : Reader := inFront r.allFields r.records

def endRecord (r : Reader) : Reader := inFront [] (r.records ++ [r.allFields])

/-- Goes on behind the end of a field, if the character marks one. -/
def leaveField (r : Reader) (c : Char) : Option Reader :=
  if c = ',' then some r.endField
  else if c = '\n' then some r.endRecord
  else if c = '\r' then some { r with place := .behindReturn }
  else none

/-- Reads a character. -/
def step (r : Reader) (c : Char) : Option Reader :=
  match r.place with
  | .front =>
    if c = '"' then some { r with place := .quoted }
    else r.leaveField c <|> some (r.push c .bare)
  | .bare => if c = '"' then none else r.leaveField c <|> some (r.push c .bare)
  | .quoted => some (if c = '"' then { r with place := .behindQuote } else r.push c .quoted)
  | .behindQuote => if c = '"' then some (r.push c .quoted) else r.leaveField c
  | .behindReturn => if c = '\n' then some r.endRecord else none

/-- The records at the end of the text, where no quote and no line break may be left open. -/
def finish (r : Reader) : Option (List (List String)) :=
  match r.place with
  | .front => some (if r.fields.isEmpty then r.records else r.endRecord.records)
  | .bare | .behindQuote => some r.endRecord.records
  | .quoted | .behindReturn => none

end Reader

/-- The records of a text. -/
def read (text : String) : Option (List (List String)) :=
  (text.toList.foldlM Reader.step (.inFront [] [])).bind Reader.finish

/-! ## Fields -/

namespace Reader

variable {r : Reader} {cs : List Char} {fields : List String} {records : List (List String)}

/-- The reader stands at the end of a field. -/
structure HasRead (r : Reader) (cs : List Char) (fields : List String)
    (records : List (List String)) : Prop where
  place_eq : r.place = .front ∨ r.place = .bare ∨ r.place = .behindQuote
  field_eq : r.field = cs
  fields_eq : r.fields = fields
  records_eq : r.records = records

theorem HasRead.step_comma (h : r.HasRead cs fields records) :
    r.step ',' = some (inFront (fields ++ [String.ofList cs]) records) := by
  obtain ⟨hplace, rfl, rfl, rfl⟩ := h
  rcases hplace with hplace | hplace | hplace <;> rw [step, hplace] <;> rfl

theorem HasRead.step_lineFeed (h : r.HasRead cs fields records) :
    r.step '\n' = some (inFront [] (records ++ [fields ++ [String.ofList cs]])) := by
  obtain ⟨hplace, rfl, rfl, rfl⟩ := h
  rcases hplace with hplace | hplace | hplace <;> rw [step, hplace] <;> rfl

theorem leaveField_eq_none {c : Char} (h : isSpecial c = false) : r.leaveField c = none := by
  simp only [isSpecial, Bool.or_eq_false_iff, decide_eq_false_iff_not] at h
  rw [leaveField, if_neg h.1.1.2, if_neg h.1.2, if_neg h.2]

/-- A bare field is read as it stands. -/
theorem read_bare (h : cs.any isSpecial = false) (hplace : r.place = .front ∨ r.place = .bare) :
    ∃ last, cs.foldlM step r = some last ∧
      last.HasRead (r.field ++ cs) r.fields r.records := by
  induction cs generalizing r with
  | nil =>
    refine ⟨r, rfl, hplace.imp_right .inl, (List.append_nil _).symm, rfl, rfl⟩
  | cons c rest ih =>
    rw [List.any_cons, Bool.or_eq_false_iff] at h
    have hquote : c ≠ '"' := by
      rintro rfl
      cases h.1
    have hstep : r.step c = some (r.push c .bare) := by
      rcases hplace with hplace | hplace <;>
        rw [step, hplace] <;> simp [hquote, leaveField_eq_none h.1]
    obtain ⟨last, hlast, hread⟩ := @ih (r.push c .bare) h.2 (.inr rfl)
    rw [push, List.append_assoc] at hread
    refine ⟨last, ?_, hread⟩
    rw [List.foldlM_cons, hstep]
    exact hlast

/-- Between quotes a doubled quote is read as one and everything else as itself. -/
theorem read_doubled (hplace : r.place = .quoted) :
    (cs.flatMap doubled).foldlM step r = some { r with field := r.field ++ cs } := by
  induction cs generalizing r with
  | nil => simp
  | cons c rest ih =>
    have hchar : (doubled c).foldlM step r = some (r.push c .quoted) := by
      unfold doubled
      split
      next hquote =>
        subst hquote
        simp [step, hplace, push]
      next hother => simp [step, hplace, hother]
    rw [List.flatMap_cons, List.foldlM_append, hchar]
    have hrest := @ih (r.push c .quoted) rfl
    simp only [push, List.append_assoc, List.singleton_append] at hrest
    simp [push, hrest, hplace]

/-- Behind a written field stands a reader that has read this field. -/
theorem read_field (cs : List Char) (fields : List String) (records : List (List String)) :
    ∃ last, (Csv.field cs).foldlM step (inFront fields records) = some last ∧
      last.HasRead cs fields records := by
  unfold Csv.field
  split
  next =>
    refine ⟨⟨.behindQuote, cs, fields, records⟩, ?_, .inr (.inr rfl), rfl, rfl, rfl⟩
    have hopen : step (inFront fields records) '"' = some ⟨.quoted, [], fields, records⟩ := rfl
    have hclose : step ⟨.quoted, cs, fields, records⟩ '"' =
        some ⟨.behindQuote, cs, fields, records⟩ := rfl
    rw [List.cons_append, List.foldlM_cons, hopen]
    simp only [Option.bind_eq_bind, Option.bind_some]
    rw [List.foldlM_append, read_doubled rfl]
    simp [hclose]
  next hbare =>
    exact read_bare (r := inFront fields records) (Bool.eq_false_of_not_eq_true hbare) (.inl rfl)

/-! ## Records -/

theorem read_record {texts : List (List Char)} (h : texts ≠ []) (fields : List String)
    (records : List (List String)) :
    (record texts).foldlM step (inFront fields records) =
      some (inFront [] (records ++ [fields ++ texts.map String.ofList])) := by
  induction texts generalizing fields with
  | nil => exact absurd rfl h
  | cons first rest ih =>
    obtain ⟨last, hlast, hread⟩ := read_field first fields records
    cases rest with
    | nil =>
      rw [record, List.foldlM_append, hlast]
      simp [hread.step_lineFeed]
    | cons second rest =>
      have hrest := ih (List.cons_ne_nil second rest) (fields ++ [String.ofList first])
      rw [record, List.foldlM_append, hlast]
      · simp only [Option.bind_eq_bind, Option.bind_some, List.foldlM_cons, hread.step_comma]
        rw [hrest]
        simp
      · exact List.cons_ne_nil second rest

theorem read_records {texts : List (List String)} (h : ∀ fs ∈ texts, fs ≠ [])
    (records : List (List String)) :
    (texts.flatMap fun fs ↦ record (fs.map String.toList)).foldlM step (inFront [] records) =
      some (inFront [] (records ++ texts)) := by
  induction texts generalizing records with
  | nil => simp
  | cons fs rest ih =>
    have hfirst : (record (fs.map String.toList)).foldlM step (inFront [] records) =
        some (inFront [] (records ++ [fs])) := by
      rw [read_record (by simpa using h fs List.mem_cons_self)]
      simp [Function.comp_def]
    rw [List.flatMap_cons, List.foldlM_append, hfirst]
    simp only [Option.bind_eq_bind, Option.bind_some]
    rw [ih fun fs' hfs' ↦ h fs' (List.mem_cons_of_mem fs hfs'), List.append_assoc]
    rfl

end Reader

/-! ## Numbers -/

/-- The count that a text of digits stands for. -/
def count? (text : String) : Option UInt32 :=
  if text ≠ "" ∧ text.toList.all Char.isDigit then
    let n := Nat.ofDigitChars 10 text.toList 0
    if n < UInt32.size then some (UInt32.ofNat n) else none
  else none

theorem count?_toString (n : UInt32) : count? (toString n.toNat) = some n := by
  have htext : (toString n.toNat).toList = Nat.toDigits 10 n.toNat := Nat.toList_repr
  have hnonempty : toString n.toNat ≠ "" := by
    intro hempty
    rw [hempty] at htext
    exact Nat.toDigits_ne_nil htext.symm
  have hdigits : (Nat.toDigits 10 n.toNat).all Char.isDigit = true := by
    rw [List.all_eq_true]
    exact fun _ ↦ Nat.isDigit_of_mem_toDigits (by decide) (by decide)
  rw [count?, htext, if_pos ⟨hnonempty, hdigits⟩]
  dsimp only
  rw [Nat.ofDigitChars_ten_toDigits, if_pos n.toNat_lt_size, UInt32.ofNat_toNat]

/-- The text is read as the quantity of the decimal. -/
def IsAmount (text : String) (d : Decimal) : Prop :=
  ∃ a, Decimal.ofText? text = some a ∧ a.Same d

theorem isAmount_text_normalize (d : Decimal) : IsAmount d.normalize.text d :=
  ⟨d.normalize, Decimal.ofText?_text_normalize d,
    Decimal.same_iff_toRat_eq.mpr (Decimal.toRat_normalize d)⟩

/-! ## The report -/

/-- A record of six fields tells the row: its texts as they are, and numbers that are read as its
counts and amounts. -/
def Tells (row : RefundableItem) (record : List String) : Prop :=
  ∃ quantity units price amount,
    record = [row.uniqueId, row.name, quantity, units, price, amount] ∧
      count? quantity = some row.quantity ∧ count? units = some row.refundableUnits ∧
      IsAmount price row.unitPrice ∧ IsAmount amount row.refundableAmount

theorem tells_fields (row : RefundableItem) : Tells row (fields row) :=
  ⟨_, _, _, _, rfl, count?_toString _, count?_toString _, isAmount_text_normalize _,
    isAmount_text_normalize _⟩

/-- A report is read as its header and a record for each row, in their order, and each record
tells its row. -/
theorem read_report (rows : List RefundableItem) :
    ∃ records, read (report rows) = some (header :: records) ∧
      List.Forall₂ Tells rows records := by
  have hne : ∀ texts ∈ header :: rows.map fields, texts ≠ [] := by
    intro texts htexts
    rcases List.mem_cons.mp htexts with rfl | hmem
    · exact List.cons_ne_nil _ _
    · obtain ⟨row, -, rfl⟩ := List.mem_map.mp hmem
      exact List.cons_ne_nil _ _
  refine ⟨rows.map fields, ?_, ?_⟩
  · rw [read, report, String.toList_ofList, Reader.read_records hne]
    rfl
  · exact List.forall₂_map_right_iff.mpr (List.forall₂_same.mpr fun row _ ↦ tells_fields row)

example :
    read (report [⟨"li-1", "Hat, \"wool\"", 3, 2, .signed false 1250 2 (by decide) (by decide),
      .ofUInt32 25⟩]) =
      some [header, ["li-1", "Hat, \"wool\"", "3", "2", "12.5", "25"]] := by
  decide +kernel

end Csv
end ShopPayments
