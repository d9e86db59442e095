import ShopPayments.Decimal.Text
import ShopPayments.Proofs.Decimal.Text

/-!
# Reading texts of decimals

A plain text is read back as the decimal that wrote it, with all its places: the digits before the
point and behind it are taken in one by one, and none of them is without room, since all of them
together have it.  The only decimals that do not come back are zeros with a minus.
-/

namespace ShopPayments
namespace Decimal

variable {d : Decimal}

namespace Reading

/-- The reading after further digits. -/
def pushAll (r : Reading) (ds : List Char) : Reading :=
  ds.foldl (fun r c ↦ r.push (digitValue c)) r

theorem pushAll_eq (r : Reading) (ds : List Char) :
    r.pushAll ds =
      { r with
        magnitude := Nat.ofDigitChars 10 ds r.magnitude
        scale := if r.pastPoint then r.scale + ds.length else r.scale
        hasDigits := r.hasDigits || !ds.isEmpty } := by
  induction ds generalizing r with
  | nil => simp [pushAll]
  | cons c rest ih =>
    have hrest := ih (r.push (digitValue c))
    rw [pushAll, List.foldl_cons]
    rw [pushAll] at hrest
    rw [hrest, push, Nat.ofDigitChars_cons]
    cases r.pastPoint <;> simp [digitValue, Nat.add_comm, Nat.add_left_comm]

theorem le_ofDigitChars (ds : List Char) (n : ℕ) : n ≤ Nat.ofDigitChars 10 ds n := by
  rw [Nat.ofDigitChars_eq_ofDigitChars_zero]
  exact (Nat.le_mul_of_pos_left n (Nat.pow_pos (by decide))).trans (Nat.le_add_right _ _)

/-- Digits for which there is room are taken in. -/
theorem run_digits {r : Reading} {ds : List Char} (hdigits : ∀ c ∈ ds, c.isDigit = true)
    (hroom : Nat.ofDigitChars 10 ds r.magnitude < magnitudeBound)
    (hplaces : if r.pastPoint then r.scale + ds.length ≤ maxScale else r.scale = 0)
    (rest : List Char) : r.run (ds ++ rest) = (r.pushAll ds).run rest := by
  induction ds generalizing r with
  | nil => rfl
  | cons c ds ih =>
    rw [List.length_cons] at hplaces
    have hmax : maxScale = 28 := rfl
    have hnotFull : r.scale ≠ maxScale := by
      split at hplaces <;> omega
    rw [Nat.ofDigitChars_cons] at hroom
    have hfits : (r.push (digitValue c)).magnitude < magnitudeBound :=
      (le_ofDigitChars ds _).trans_lt hroom
    rw [List.cons_append, run, if_neg hnotFull, if_pos (hdigits c List.mem_cons_self),
      if_pos hfits]
    apply ih (fun c' hc' ↦ hdigits c' (List.mem_cons_of_mem c hc')) hroom
    unfold push
    dsimp only
    split at hplaces
    next hpast =>
      rw [if_pos hpast, if_pos hpast]
      omega
    next hwhole =>
      rw [if_neg hwhole, if_neg hwhole]
      exact hplaces

theorem run_point {r : Reading} (hwhole : r.pastPoint = false) (hscale : r.scale = 0)
    (rest : List Char) : r.run ('.' :: rest) = { r with pastPoint := true }.run rest := by
  have hnotFull : r.scale ≠ maxScale := by
    rw [hscale]
    decide
  rw [run, if_neg hnotFull, if_neg (by decide), if_pos (by simp [hwhole])]

end Reading

theorem signed_eq_self (h : d.negative = true → d.magnitude ≠ 0) :
    signed d.negative d.magnitude d.scale d.magnitude_lt d.scale_le = d := by
  cases hsign : d.negative with
  | false => cases d; simp_all [signed]
  | true => cases d; simp_all [signed]

theorem finish_eq_self (h : d.negative = true → d.magnitude ≠ 0) (pastPoint : Bool) :
    Reading.finish ⟨d.negative, d.magnitude, d.scale, pastPoint, true⟩ = some d := by
  rw [Reading.finish, if_pos rfl, signed?, dif_pos ⟨d.magnitude_lt, d.scale_le⟩, signed_eq_self h]

theorem ofDigitChars_fraction (d : Decimal) :
    Nat.ofDigitChars 10 d.fraction (Nat.ofDigitChars 10 d.whole 0) = d.magnitude := by
  rw [← Nat.ofDigitChars_append, whole_append_fraction, ofDigitChars_digits]

/-- The digits are taken in up to the point, and behind it up to the end. -/
theorem run_unsignedText (h : d.negative = true → d.magnitude ≠ 0) :
    (Reading.start d.negative).run d.unsignedText = some d := by
  have hroom : Nat.ofDigitChars 10 d.whole 0 < magnitudeBound :=
    (Reading.le_ofDigitChars d.fraction _).trans_lt
      ((ofDigitChars_fraction d).trans_lt d.magnitude_lt)
  have hnonempty : (d.whole.isEmpty) = false := by simpa using whole_ne_nil d
  have hwhole := Reading.run_digits (r := .start d.negative)
    (fun c ↦ isDigit_of_mem_whole) hroom rfl
  rw [Reading.pushAll_eq] at hwhole
  simp only [Reading.start, Bool.false_eq_true, if_false, hnonempty] at hwhole
  unfold unsignedText
  split
  next hscale =>
    have hall : Nat.ofDigitChars 10 d.whole 0 = d.magnitude := by
      have hnone : d.fraction = [] := List.length_eq_zero_iff.mp ((length_fraction d).trans hscale)
      rw [← ofDigitChars_fraction, hnone]
      rfl
    have hread := hwhole []
    rw [List.append_nil, hall] at hread
    rw [Reading.start, hread, Reading.run, ← finish_eq_self h false, hscale]
    rfl
  next hscale =>
    rw [Reading.start, hwhole, Reading.run_point rfl rfl, ← List.append_nil d.fraction,
      Reading.run_digits (fun c ↦ isDigit_of_mem_fraction)
        ((ofDigitChars_fraction d).trans_lt d.magnitude_lt)
        (by simpa [length_fraction] using d.scale_le),
      Reading.pushAll_eq, Reading.run, ← finish_eq_self h true]
    simp [ofDigitChars_fraction, length_fraction]

theorem ofPlain?_unsigned {cs : List Char} (h : ∀ c ∈ cs.head?, c.isDigit = true) :
    ofPlain? cs = (Reading.start false).run cs := by
  unfold ofPlain?
  split
  · exact absurd (h '-' rfl) (by decide)
  · exact absurd (h '+' rfl) (by decide)
  · rfl

theorem isDigit_of_mem_head?_unsignedText (d : Decimal) :
    ∀ c ∈ d.unsignedText.head?, c.isDigit = true := by
  intro c hc
  have hfirst : d.whole.head? = some c := by
    unfold unsignedText at hc
    split at hc
    · exact hc
    · rwa [List.head?_append_of_ne_nil _ (whole_ne_nil d)] at hc
  exact isDigit_of_mem_whole (List.mem_of_mem_head? hfirst)

/-- A decimal comes back from its text, unless it is a zero with a minus. -/
theorem ofText?_text (h : d.negative = true → d.magnitude ≠ 0) : ofText? d.text = some d := by
  have hplain : ofPlain? d.text.toList = some d := by
    rw [toList_text]
    have hread := run_unsignedText h
    cases hsign : d.negative with
    | true =>
      rw [hsign] at hread
      exact hread
    | false =>
      rw [hsign] at hread
      rw [if_neg Bool.false_ne_true, ofPlain?_unsigned (isDigit_of_mem_head?_unsignedText d)]
      exact hread
  rw [ofText?, hplain]
  rfl

/-- Without zeros at the end of its fraction a decimal is read as the same quantity. -/
theorem ofText?_text_normalize (d : Decimal) : ofText? d.normalize.text = some d.normalize :=
  ofText?_text (trimmed_normalize d).sign

end Decimal
end ShopPayments
