import ShopPayments.Proofs.Gateway.Booking

/-!
# Room for one booking

The gateway compares an amount with a difference of decimals, and adds it to a sum of decimals.
Where what was captured and what was refunded have room at some number of places, cents included,
both are exact, so an amount is booked exactly if it fits into what is left, and the next amount
finds the same room.
-/

namespace ShopPayments

/-- What lies between two quantities with room has room. -/
theorem room_of_between {places : ℕ} {x low high : ℚ}
    (hlow : |low| * 10 ^ places < Decimal.magnitudeBound)
    (hhigh : |high| * 10 ^ places < Decimal.magnitudeBound) (hle : low ≤ x) (hge : x ≤ high) :
    |x| * 10 ^ places < Decimal.magnitudeBound := by
  have hmax : |x| ≤ max |low| |high| := abs_le_max_abs_abs hle hge
  have hten : (0 : ℚ) < 10 ^ places := by positivity
  calc
    |x| * 10 ^ places ≤ max |low| |high| * 10 ^ places := by gcongr
    _ = max (|low| * 10 ^ places) (|high| * 10 ^ places) := max_mul_of_nonneg _ _ hten.le
    _ < Decimal.magnitudeBound := max_lt hlow hhigh

namespace Transaction

variable {t : Transaction} {request : RefundRequest} {amount total : Decimal} {places : ℕ}

/-- What fits into the rest of a transaction is booked, if all of it has room. -/
theorem exists_book_of_places (hplaces : places ≤ Decimal.maxScale)
    (hcents : Money.places ≤ places) (hsupported : t.supportsRefunds = true)
    (hamount : request.value t = .ok amount)
    (hcaptured : Decimal.HasPlaces places t.captured.toRat)
    (hrefunded : Decimal.HasPlaces places t.refunded.toRat)
    (hroom : |t.captured.toRat - t.refunded.toRat| * 10 ^ places < Decimal.magnitudeBound)
    (hroomTotal : |t.refunded.toRat + amount.toRat| * 10 ^ places < Decimal.magnitudeBound)
    (hfits : t.refunded.toRat + amount.toRat ≤ t.captured.toRat) (id : UInt64) :
    ∃ booking, t.book request id = .ok booking := by
  obtain ⟨available, havailable, hrest⟩ :=
    Decimal.exists_sub_toRat hplaces hcaptured hrefunded hroom
  obtain ⟨total, htotal, -⟩ := Decimal.exists_add_toRat hplaces hrefunded
    ((Money.isCents_iff_hasPlaces.mp (RefundRequest.value_isCents hamount)).mono hcents) hroomTotal
  have hwithin : ¬ available < amount := by
    rw [Decimal.not_lt_iff_le, Decimal.le_iff_toRat_le, hrest]
    linarith
  simp [book, hsupported, hamount, havailable, hwithin, htotal, pure_eq]

/-- What was captured, what was refunded and the difference of both are kept exactly at a number of
places that cents have room for. -/
structure HasRoomAt (t : Transaction) (places : ℕ) : Prop where
  le_places : Money.places ≤ places
  places_le : places ≤ Decimal.maxScale
  captured_hasPlaces : Decimal.HasPlaces places t.captured.toRat
  refunded_hasPlaces : Decimal.HasPlaces places t.refunded.toRat
  captured_lt : |t.captured.toRat| * 10 ^ places < Decimal.magnitudeBound
  refunded_lt : |t.refunded.toRat| * 10 ^ places < Decimal.magnitudeBound
  left_lt : |t.captured.toRat - t.refunded.toRat| * 10 ^ places < Decimal.magnitudeBound

namespace HasRoomAt

variable (h : t.HasRoomAt places)
include h

/-- An amount that is not negative and at most what is left keeps the total within room. -/
theorem total_lt (hnonneg : 0 ≤ amount.toRat)
    (hfits : t.refunded.toRat + amount.toRat ≤ t.captured.toRat) :
    |t.refunded.toRat + amount.toRat| * 10 ^ places < Decimal.magnitudeBound :=
  room_of_between h.refunded_lt h.captured_lt (le_add_of_nonneg_right hnonneg) hfits

/-- What fits into what is left has room for its cents. -/
theorem hundredths_lt {x : ℚ} (hfits : t.refunded.toRat + x ≤ t.captured.toRat) :
    x * 100 < Decimal.magnitudeBound := by
  have hcents : (100 : ℚ) ≤ 10 ^ places := by
    have hpow := pow_le_pow_right₀ (by norm_num : (1 : ℚ) ≤ 10) h.le_places
    norm_num [Money.places] at hpow
    exact hpow
  have hleft := le_abs_self (t.captured.toRat - t.refunded.toRat)
  calc
    x * 100 ≤ |t.captured.toRat - t.refunded.toRat| * 10 ^ places := by
      gcongr
      linarith
    _ < Decimal.magnitudeBound := h.left_lt

theorem exists_book (hsupported : t.supportsRefunds = true) (hamount : request.value t = .ok amount)
    (hnonneg : 0 ≤ amount.toRat) (hfits : t.refunded.toRat + amount.toRat ≤ t.captured.toRat)
    (id : UInt64) : ∃ booking, t.book request id = .ok booking :=
  exists_book_of_places h.places_le h.le_places hsupported hamount h.captured_hasPlaces
    h.refunded_hasPlaces h.left_lt (h.total_lt hnonneg hfits) hfits id

/-- What the gateway lets pass fits into what is left. -/
theorem fits_of_within
    (hwithin : ∃ available, t.captured.sub t.refunded = .ok available ∧ amount ≤ available) :
    t.refunded.toRat + amount.toRat ≤ t.captured.toRat := by
  obtain ⟨available, havailable, hle⟩ := hwithin
  obtain ⟨exact, hexact, hrest⟩ := Decimal.exists_sub_toRat h.places_le h.captured_hasPlaces
    h.refunded_hasPlaces h.left_lt
  obtain rfl : exact = available := Except.ok.inj (hexact.symm.trans havailable)
  rw [Decimal.le_iff_toRat_le, hrest] at hle
  linarith

section Added

variable (hadd : t.refunded.add amount = .ok total) (hcents : Money.IsCents amount.toRat)
  (hnonneg : 0 ≤ amount.toRat) (hfits : t.refunded.toRat + amount.toRat ≤ t.captured.toRat)
include hadd hcents hnonneg hfits

theorem toRat_total : total.toRat = t.refunded.toRat + amount.toRat := by
  obtain ⟨exact, hexact, hsum⟩ := Decimal.exists_add_toRat h.places_le h.refunded_hasPlaces
    ((Money.isCents_iff_hasPlaces.mp hcents).mono h.le_places) (h.total_lt hnonneg hfits)
  obtain rfl : exact = total := Except.ok.inj (hexact.symm.trans hadd)
  exact hsum

/-- The next amount finds the same room. -/
theorem after : ({ t with refunded := total } : Transaction).HasRoomAt places := by
  have htotal := h.toRat_total hadd hcents hnonneg hfits
  have hplaces := (Money.isCents_iff_hasPlaces.mp hcents).mono h.le_places
  refine ⟨h.le_places, h.places_le, h.captured_hasPlaces, ?_, h.captured_lt, ?_, ?_⟩
  · exact htotal ▸ h.refunded_hasPlaces.add hplaces
  · exact htotal ▸ h.total_lt hnonneg hfits
  · have hzero : |(0 : ℚ)| * 10 ^ places < Decimal.magnitudeBound := by
      norm_num [Decimal.magnitudeBound]
    apply room_of_between hzero h.left_lt
    · rw [htotal]
      linarith
    · rw [htotal]
      linarith

end Added
end HasRoomAt
end Transaction
end ShopPayments
