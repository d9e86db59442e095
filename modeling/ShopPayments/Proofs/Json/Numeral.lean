import ShopPayments.Json.Reader
import ShopPayments.Proofs.Decimal.Text

/-!
# Reading what was written as digits

A number is read up to where it stops.  A text that is a number to its end stays the same number in
front of any text that cannot go on with it (`number_append`).  A whole number of 64 bits is read
back from its digits.
-/

namespace ShopPayments
namespace Json

/-! ## Digits -/

/-- The text does not go on with a digit. -/
def EndsDigits (rest : List Char) : Prop := ∀ c ∈ rest.head?, c.isDigit = false

theorem spanDigits_of_endsDigits {rest : List Char} (h : EndsDigits rest) :
    spanDigits rest = ([], rest) := by
  cases rest with
  | nil => rfl
  | cons c rest =>
    have hc : ¬ c.isDigit = true := by simp [h c rfl]
    rw [spanDigits, List.takeWhile_cons_of_neg hc, List.dropWhile_cons_of_neg hc]

theorem spanDigits_cons {c : Char} (cs : List Char) (hc : c.isDigit = true) :
    spanDigits (c :: cs) = (c :: (spanDigits cs).1, (spanDigits cs).2) := by
  rw [spanDigits, List.takeWhile_cons_of_pos hc, List.dropWhile_cons_of_pos hc]
  rfl

/-- Digits are split off in front of a text that does not go on with one. -/
theorem spanDigits_append (cs : List Char) {rest : List Char} (h : EndsDigits rest) :
    spanDigits (cs ++ rest) = ((spanDigits cs).1, (spanDigits cs).2 ++ rest) := by
  induction cs with
  | nil => exact spanDigits_of_endsDigits h
  | cons c cs ih =>
    by_cases hc : c.isDigit = true
    · rw [List.cons_append, spanDigits_cons _ hc, ih, spanDigits_cons _ hc]
    · have hends : ∀ more, EndsDigits (c :: more) := by
        rintro _ _ ⟨⟩
        simpa using hc
      rw [List.cons_append, spanDigits_of_endsDigits (hends _), spanDigits_of_endsDigits (hends _)]
      rfl

theorem spanDigits_digits {digits : List Char} (h : ∀ c ∈ digits, c.isDigit = true) :
    spanDigits digits = (digits, []) := by
  induction digits with
  | nil => rfl
  | cons c digits ih =>
    rw [List.forall_mem_cons] at h
    rw [spanDigits_cons _ h.1, ih h.2]

theorem digitsValue_toDigits (n : ℕ) : digitsValue (Nat.toDigits 10 n) = n :=
  Nat.ofDigitChars_ten_toDigits

/-! ## Numbers in front of other text -/

/-- The text does not go on with a number. -/
def EndsNumber (rest : List Char) : Prop :=
  ∀ c ∈ rest.head?, c.isDigit = false ∧ c ≠ '.' ∧ c ≠ 'e' ∧ c ≠ 'E'

variable {cs rest : List Char}

theorem EndsNumber.endsDigits (h : EndsNumber rest) : EndsDigits rest := fun c hc ↦ (h c hc).1

theorem fractionPart?_of_ne {c : Char} (hc : c ≠ '.') (cs : List Char) :
    fractionPart? (c :: cs) = some (none, c :: cs) := by
  unfold fractionPart?
  split
  · simp_all
  · rfl

theorem fractionPart?_append (hrest : EndsNumber rest) {fraction : Option (List Char)}
    {others : List Char} (h : fractionPart? cs = some (fraction, others)) :
    fractionPart? (cs ++ rest) = some (fraction, others ++ rest) := by
  cases cs with
  | nil =>
    obtain ⟨rfl, rfl⟩ := Prod.mk.inj (Option.some.inj h)
    cases rest with
    | nil => rfl
    | cons c rest => exact fractionPart?_of_ne (hrest c rfl).2.1 rest
  | cons c cs =>
    by_cases hc : c = '.'
    · subst hc
      simp only [List.cons_append, fractionPart?, spanDigits_append _ hrest.endsDigits] at h ⊢
      split at h
      · cases h
      · simp_all
    · rw [fractionPart?_of_ne hc] at h
      obtain ⟨rfl, rfl⟩ := Prod.mk.inj (Option.some.inj h)
      exact fractionPart?_of_ne hc _

/-- The digits of an exponent behind its sign. -/
def exponentDigits? (sign : Int) (cs : List Char) : Option (Option Int × List Char) :=
  if (spanDigits cs).1.isEmpty then none
  else some (some (sign * digitsValue (spanDigits cs).1), (spanDigits cs).2)

/-- An exponent behind its mark. -/
def signedExponent? (cs : List Char) : Option (Option Int × List Char) :=
  match cs with
  | '-' :: rest => exponentDigits? (-1) rest
  | '+' :: rest => exponentDigits? 1 rest
  | _ => exponentDigits? 1 cs

theorem exponentPart?_eq (cs : List Char) :
    exponentPart? cs =
      match cs with
      | 'e' :: rest => signedExponent? rest
      | 'E' :: rest => signedExponent? rest
      | _ => some (none, cs) := rfl

theorem exponentDigits?_append (hrest : EndsNumber rest) {sign : Int} {exponent : Option Int}
    {others : List Char} (h : exponentDigits? sign cs = some (exponent, others)) :
    exponentDigits? sign (cs ++ rest) = some (exponent, others ++ rest) := by
  simp only [exponentDigits?, spanDigits_append _ hrest.endsDigits] at h ⊢
  split at h
  · cases h
  · simp_all

theorem signedExponent?_append (hrest : EndsNumber rest) {exponent : Option Int}
    {others : List Char} (h : signedExponent? cs = some (exponent, others)) :
    signedExponent? (cs ++ rest) = some (exponent, others ++ rest) := by
  cases cs with
  | nil => cases h
  | cons c cs =>
    have happend : ∀ sign cs, exponentDigits? sign cs = some (exponent, others) →
        exponentDigits? sign (cs ++ rest) = some (exponent, others ++ rest) :=
      fun _ _ ↦ exponentDigits?_append hrest
    unfold signedExponent? at h ⊢
    rw [List.cons_append]
    split at h
    · rename_i heq
      obtain ⟨rfl, rfl⟩ := List.cons.inj heq
      exact happend _ _ h
    · rename_i heq
      obtain ⟨rfl, rfl⟩ := List.cons.inj heq
      exact happend _ _ h
    · rename_i hminus hplus
      split
      · rename_i heq
        obtain ⟨rfl, -⟩ := List.cons.inj heq
        exact absurd rfl (hminus cs)
      · rename_i heq
        obtain ⟨rfl, -⟩ := List.cons.inj heq
        exact absurd rfl (hplus cs)
      · exact happend _ _ h

theorem exponentPart?_of_ne {c : Char} (hc : c ≠ 'e' ∧ c ≠ 'E') (cs : List Char) :
    exponentPart? (c :: cs) = some (none, c :: cs) := by
  rw [exponentPart?_eq]
  split
  · simp_all
  · simp_all
  · rfl

theorem exponentPart?_append (hrest : EndsNumber rest) {exponent : Option Int}
    {others : List Char} (h : exponentPart? cs = some (exponent, others)) :
    exponentPart? (cs ++ rest) = some (exponent, others ++ rest) := by
  cases cs with
  | nil =>
    obtain ⟨rfl, rfl⟩ := Prod.mk.inj (Option.some.inj h)
    cases rest with
    | nil => rfl
    | cons c rest => exact exponentPart?_of_ne (hrest c rfl).2.2 rest
  | cons c cs =>
    by_cases hlower : c = 'e'
    · subst hlower
      exact signedExponent?_append hrest h
    · by_cases hupper : c = 'E'
      · subst hupper
        exact signedExponent?_append hrest h
      · rw [exponentPart?_of_ne ⟨hlower, hupper⟩] at h
        obtain ⟨rfl, rfl⟩ := Prod.mk.inj (Option.some.inj h)
        exact exponentPart?_of_ne ⟨hlower, hupper⟩ _

theorem numeral?_append (hrest : EndsNumber rest) {negative : Bool} {n : Numeral}
    {others : List Char} (h : numeral? negative cs = some (n, others)) :
    numeral? negative (cs ++ rest) = some (n, others ++ rest) := by
  simp only [numeral?, spanDigits_append _ hrest.endsDigits] at h ⊢
  split at h
  · cases h
  · rename_i hwhole
    rw [if_neg hwhole]
    simp only [Option.bind_eq_bind, Option.bind_eq_some_iff, Prod.exists] at h ⊢
    obtain ⟨fraction, behindFraction, hfraction, exponent, behindExponent, hexponent, hn⟩ := h
    obtain ⟨rfl, rfl⟩ := Prod.mk.inj (Option.some.inj hn)
    exact ⟨fraction, _, fractionPart?_append hrest hfraction, exponent, _,
      exponentPart?_append hrest hexponent, rfl⟩

theorem number_append (hrest : EndsNumber rest) {negative : Bool} {draft : Draft}
    {others : List Char} (h : number negative cs = (draft, some others)) :
    number negative (cs ++ rest) = (draft, some (others ++ rest)) := by
  unfold number at h ⊢
  split at h
  · rename_i n behind hn
    obtain ⟨rfl, hbehind⟩ := Prod.mk.inj h
    obtain rfl := Option.some.inj hbehind
    rw [numeral?_append hrest hn]
  · cases h

/-! ## Whole numbers -/

/-- Only zero is written with a leading zero. -/
theorem eq_zero_of_head?_toDigits {n : ℕ} (h : (Nat.toDigits 10 n).head? = some '0') : n = 0 := by
  induction n using Nat.strongRecOn with
  | ind n ih =>
    rw [Nat.toDigits_eq_if (by decide)] at h
    split at h
    · rename_i hlt
      have hvalue := Nat.toNat_digitChar_of_lt_ten hlt
      rw [Option.some.inj h] at hvalue
      have hzero : '0'.toNat = 48 := rfl
      omega
    · rename_i hge
      rw [List.head?_append_of_ne_nil _ Nat.toDigits_ne_nil] at h
      have hdiv := ih (n / 10) (by omega) h
      omega

theorem numeral?_toDigits (negative : Bool) (n : ℕ) :
    numeral? negative (Nat.toDigits 10 n) =
      some (⟨negative, Nat.toDigits 10 n, none, none⟩, []) := by
  have hspan : spanDigits (Nat.toDigits 10 n) = (Nat.toDigits 10 n, []) :=
    spanDigits_digits fun _ hc ↦ Nat.isDigit_of_mem_toDigits (by decide) (by decide) hc
  have hstands : ¬ ((Nat.toDigits 10 n).isEmpty ||
      ((Nat.toDigits 10 n).head? = some '0' && 1 < (Nat.toDigits 10 n).length)) = true := by
    simp only [Bool.or_eq_true, Bool.and_eq_true, decide_eq_true_eq, not_or, not_and,
      List.isEmpty_iff]
    refine ⟨Nat.toDigits_ne_nil, fun hhead ↦ ?_⟩
    rw [eq_zero_of_head?_toDigits hhead]
    decide
  simp only [numeral?, hspan, if_neg hstands]
  rfl

/-- A whole number of 64 bits is read back from its digits. -/
theorem number_toDigits {n : ℤ} (hleast : Int64.minValue.toInt ≤ n) (hgreatest : n < UInt64.size) :
    number (n < 0) (Nat.toDigits 10 n.natAbs) = (.integer n, some []) := by
  have hvalue : Numeral.value ⟨n < 0, Nat.toDigits 10 n.natAbs, none, none⟩ = .integer n := by
    simp only [Numeral.value, digitsValue_toDigits]
    by_cases hnegative : n < 0
    · have habs : -(n.natAbs : ℤ) = n := by omega
      have hzero : n.natAbs ≠ 0 := by omega
      simp only [hnegative, hzero, habs, not_lt.mpr hleast, decide_true, decide_false, if_true,
        Bool.or_self, Bool.false_eq_true, if_false]
    · have habs : (n.natAbs : ℤ) = n := by omega
      have hsize : n.natAbs < UInt64.size := by omega
      simp only [hnegative, decide_false, Bool.false_eq_true, if_false, hsize, if_true, habs]
  rw [number, numeral?_toDigits]
  exact congrArg (·, some []) hvalue

end Json
end ShopPayments
