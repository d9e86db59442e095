import ShopPayments.CalendarDate
import ShopPayments.Proofs.Json.Numeral
import ShopPayments.Proofs.Json.Values

/-!
# Dates read what they write

A date that the calendar has is read back from its text.  The year has four digits or a sign in
front of it, month and day have two digits each, and every number ends at a dash or with the text,
so that no number takes in more or less than was written for it.
-/

namespace ShopPayments
namespace CalendarDate

open Json (EndsDigits digitsValue)

/-- The calendar has the date. -/
def Exists (d : CalendarDate) : Prop := ofParts? d.year d.month d.day = some d

theorem exists_iff {d : CalendarDate} :
    d.Exists ↔ firstYear ≤ d.year ∧ d.year ≤ lastYear ∧ 1 ≤ d.month ∧ d.month ≤ 12 ∧ 1 ≤ d.day ∧
      d.day ≤ daysInMonth d.year d.month := by
  unfold Exists ofParts?
  split
  · simp_all
  · simp_all

theorem daysInMonth_le (year : Int) (month : Nat) : daysInMonth year month ≤ 31 := by
  unfold daysInMonth
  split
  · split <;> omega
  · split <;> omega

/-! ## Numbers -/

theorem isSpace_of_isDigit {c : Char} (h : c.isDigit = true) : Text.isSpace c = false := by
  have hbounds : 48 ≤ c.toNat ∧ c.toNat ≤ 57 := by
    simpa [Char.isDigit, UInt32.le_iff_toNat_le] using h
  simp [Text.isSpace]
  omega

theorem skipSpace_of_digits {digits rest : List Char} (hdigits : ∀ c ∈ digits, c.isDigit = true)
    (hne : digits ≠ []) : skipSpace (digits ++ rest) = digits ++ rest := by
  obtain ⟨c, more, rfl⟩ := List.exists_cons_of_ne_nil hne
  exact List.dropWhile_cons_of_neg (by simp [isSpace_of_isDigit (hdigits c List.mem_cons_self)])

theorem digits?_append {limit : Option Nat} {digits rest : List Char}
    (hdigits : ∀ c ∈ digits, c.isDigit = true) (hne : digits ≠ []) (hrest : EndsDigits rest)
    (hlimit : ∀ n ∈ limit, digits.length ≤ n) :
    digits? limit (digits ++ rest) = some (digitsValue digits, rest) := by
  have hall : (digits ++ rest).takeWhile Char.isDigit = digits := by
    have hspan := Json.spanDigits_append digits hrest
    rw [Json.spanDigits_digits hdigits] at hspan
    exact congrArg Prod.fst hspan
  have htaken : (limit.map digits.take).getD digits = digits := by
    cases limit with
    | none => rfl
    | some n => exact List.take_of_length_le (hlimit n rfl)
  have hempty : digits.isEmpty = false := by simpa using hne
  simp only [digits?, hall, htaken, hempty, Bool.false_eq_true, if_false, List.drop_left]

theorem isDigit_of_mem_padded {n width : Nat} {c : Char} (h : c ∈ padded n width) :
    c.isDigit = true := Decimal.isDigit_of_mem_paddedDigits h

theorem padded_ne_nil (n width : Nat) : padded n width ≠ [] :=
  List.append_ne_nil_of_right_ne_nil _ (Nat.toDigits_ne_nil)

theorem length_padded {n width : Nat} (hwidth : 0 < width) (h : n < 10 ^ width) :
    (padded n width).length = width := by
  have hlength := (Nat.length_toDigits_le_iff (b := 10) (by decide) hwidth).mpr h
  rw [padded, Decimal.paddedDigits, List.length_append, List.length_replicate]
  omega

theorem digits?_padded {limit : Option Nat} {n width : Nat} {rest : List Char}
    (hlimit : ∀ most ∈ limit, (padded n width).length ≤ most) (hrest : EndsDigits rest) :
    digits? limit (padded n width ++ rest) = some (n, rest) := by
  have hvalue : digitsValue (padded n width) = n := Decimal.ofDigitChars_paddedDigits n width
  rw [digits?_append (fun _ ↦ isDigit_of_mem_padded) (padded_ne_nil n width) hrest hlimit, hvalue]

theorem dash?_padded (n width : Nat) (rest : List Char) :
    dash? ('-' :: (padded n width ++ rest)) = some (padded n width ++ rest) := by
  have hdash : skipSpace ('-' :: (padded n width ++ rest)) = '-' :: (padded n width ++ rest) := rfl
  rw [dash?, hdash]
  exact congrArg some (skipSpace_of_digits (fun _ ↦ isDigit_of_mem_padded)
    (padded_ne_nil n width))

theorem endsDigits_dash (rest : List Char) : EndsDigits ('-' :: rest) := by
  rintro _ ⟨⟩
  rfl

theorem endsDigits_nil : EndsDigits [] := by
  rintro _ ⟨⟩

/-! ## The year -/

theorem year?_of_digits {cs : List Char} (h : ∀ c ∈ cs.head?, c.isDigit = true) :
    year? cs = (digits? (some 4) cs).map fun r ↦ ((r.1 : Int), r.2) := by
  unfold year?
  split
  · exact absurd (h '-' rfl) (by decide)
  · exact absurd (h '+' rfl) (by decide)
  · rfl

theorem head?_padded (n width : Nat) (rest : List Char) :
    ∀ c ∈ (padded n width ++ rest).head?, c.isDigit = true := by
  obtain ⟨c, more, hcons⟩ := List.exists_cons_of_ne_nil (padded_ne_nil n width)
  rw [hcons]
  rintro _ ⟨⟩
  exact isDigit_of_mem_padded (hcons ▸ List.mem_cons_self)

theorem year?_yearText (year : Int) (rest : List Char) :
    year? (skipSpace (yearText year ++ '-' :: rest)) = some (year, '-' :: rest) := by
  have hends : EndsDigits ('-' :: rest) := endsDigits_dash rest
  by_cases hfour : 0 ≤ year ∧ year ≤ 9999
  · have hlength : (padded year.natAbs 4).length = 4 := length_padded (by decide) (by omega)
    have htext : yearText year = padded year.natAbs 4 := if_pos hfour
    rw [htext, skipSpace_of_digits (fun _ ↦ isDigit_of_mem_padded)
      (padded_ne_nil _ _), year?_of_digits (head?_padded _ _ _), digits?_padded _ hends]
    · simp [abs_of_nonneg hfour.1]
    · rintro _ ⟨⟩
      omega
  · have htext : yearText year = (if year < 0 then '-' else '+') :: padded year.natAbs 4 :=
      if_neg hfour
    have hdigits : digits? none (padded year.natAbs 4 ++ '-' :: rest) =
        some (year.natAbs, '-' :: rest) := digits?_padded (by rintro _ ⟨⟩) hends
    by_cases hnegative : year < 0
    · have hskip : ∀ cs, skipSpace ('-' :: cs) = '-' :: cs := fun _ ↦ rfl
      rw [htext, if_pos hnegative, List.cons_append, hskip, year?, hdigits]
      simp only [Option.map_some, Option.some.injEq, Prod.mk.injEq, and_true]
      omega
    · have hskip : ∀ cs, skipSpace ('+' :: cs) = '+' :: cs := fun _ ↦ rfl
      rw [htext, if_neg hnegative, List.cons_append, hskip, year?, hdigits]
      simp only [Option.map_some, Option.some.injEq, Prod.mk.injEq, and_true]
      omega

/-! ## The date -/

theorem two_digits {n : Nat} (h : n ≤ 99) : ∀ most ∈ some 2, (padded n 2).length ≤ most := by
  rintro _ ⟨⟩
  exact (length_padded (by decide) (by omega)).le

/-- **A date reads back.** -/
theorem ofText?_text {d : CalendarDate} (h : d.Exists) : ofText? d.text = some d := by
  have hbounds := exists_iff.mp h
  have hdays := daysInMonth_le d.year d.month
  have htext : d.text.toList =
      yearText d.year ++ '-' :: (padded d.month 2 ++ '-' :: padded d.day 2) := by
    rw [text, String.toList_ofList, List.append_assoc, List.cons_append]
  have hmonth : digits? (some 2) (padded d.month 2 ++ '-' :: padded d.day 2) =
      some (d.month, '-' :: padded d.day 2) :=
    digits?_padded (two_digits (by omega)) (endsDigits_dash _)
  have hdash : dash? ('-' :: (padded d.day 2 ++ [])) = some (padded d.day 2 ++ []) :=
    dash?_padded d.day 2 []
  have hday : digits? (some 2) (padded d.day 2 ++ []) = some (d.day, []) :=
    digits?_padded (two_digits (by omega)) endsDigits_nil
  rw [List.append_nil] at hday hdash
  simp only [ofText?, htext, year?_yearText, dash?_padded, hmonth, hdash, hday, Option.bind_eq_bind,
    Option.bind_some]
  exact h

/-- A date arrives if the calendar has it. -/
theorem Exists.arrives {c : Carrier} {d : CalendarDate} (h : d.Exists) :
    Json.Arrives c 0 (encode d) d where
  whole := rfl
  depth_le _ := le_rfl
  decoded := by
    simp [decode, Json.carry, encode, ofText?_text h]

end CalendarDate

instance : NotNull CalendarDate := ⟨nofun⟩

end ShopPayments
