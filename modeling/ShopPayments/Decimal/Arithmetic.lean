import ShopPayments.Decimal

/-!
# Arithmetic on decimals

Sums take the larger number of places and products add the places up; only a
result without room for them is shortened, half to even. A zero operand has no
say in the places: it leaves the other summand as it is and makes every product
the plain zero. Quotients by a count are exact where they can be.
-/

namespace ShopPayments
namespace Decimal

/-- The mantissa over a power of ten with at least as many places. -/
def mantissaAt (d : Decimal) (places : Nat) : Int := d.shifted (places - d.scale)

/-- The sum, with the places of the longer summand as far as there is room. -/
def add (a b : Decimal) : Except Overflow Decimal :=
  if a.isZero then .ok b
  else if b.isZero then .ok a
  else
    let places := Nat.max a.scale b.scale
    match fit (a.mantissaAt places + b.mantissaAt places) places with
    | some d => .ok d
    | none => .error .addition

/-- The difference, with the places of the longer operand as far as there is room. Nothing is
taken from a zero by another zero, which is then the result. -/
def sub (a b : Decimal) : Except Overflow Decimal :=
  if a.isZero then .ok (if b.isZero then b else -b)
  else if b.isZero then .ok a
  else
    let places := Nat.max a.scale b.scale
    match fit (a.mantissaAt places - b.mantissaAt places) places with
    | some d => .ok d
    | none => .error .subtraction

/-- Whether the magnitude takes no more than 32 bits. -/
def isShort (d : Decimal) : Bool := d.magnitude < UInt32.size

/-- Places of a product of short factors from which on nothing of it is left. -/
def vanishingScale : Nat := 48

/-- The product; its places are those of both factors as far as there is room. -/
def mul (a b : Decimal) : Except Overflow Decimal :=
  if a.isZero || b.isZero then .ok 0
  else if a.isShort && b.isShort && vanishingScale ≤ a.scale + b.scale then .ok 0
  else
    match fit (a.mantissa * b.mantissa) (a.scale + b.scale) with
    | some d => .ok d
    | none => .error .multiplication

/-- Drops zeros at the end of the fraction. -/
def trimZeros (magnitude : Nat) : Nat → Nat × Nat
  | 0 => (magnitude, 0)
  | scale + 1 =>
    if magnitude % 10 = 0 then trimZeros (magnitude / 10) scale else (magnitude, scale + 1)

theorem trimZeros_fst_le (magnitude scale : Nat) : (trimZeros magnitude scale).1 ≤ magnitude := by
  induction scale generalizing magnitude with
  | zero => simp [trimZeros]
  | succ scale ih =>
    unfold trimZeros
    split
    · exact Nat.le_trans (ih _) (by omega)
    · exact Nat.le_refl _

theorem trimZeros_snd_le (magnitude scale : Nat) : (trimZeros magnitude scale).2 ≤ scale := by
  induction scale generalizing magnitude with
  | zero => simp [trimZeros]
  | succ scale ih =>
    unfold trimZeros
    split
    · exact Nat.le_trans (ih _) (by omega)
    · exact Nat.le_refl _

/-- The same quantity with the fewest places. -/
def normalize (d : Decimal) : Decimal :=
  signed d.negative (trimZeros d.magnitude d.scale).1 (trimZeros d.magnitude d.scale).2
    (Nat.lt_of_le_of_lt (trimZeros_fst_le _ _) d.magnitude_lt)
    (Nat.le_trans (trimZeros_snd_le _ _) d.scale_le)

/-- The most places, not above the given number, by which a mantissa can be lengthened. -/
def headroom (mantissa : Nat) : Nat → Nat
  | 0 => 0
  | places + 1 =>
    if mantissa * tenPow (places + 1) < magnitudeBound then places + 1
    else headroom mantissa places

theorem headroom_le (mantissa places : Nat) : headroom mantissa places ≤ places := by
  induction places with
  | zero => simp [headroom]
  | succ places ih =>
    unfold headroom
    split <;> omega

theorem mul_tenPow_headroom_lt {mantissa : Nat} (h : mantissa < magnitudeBound) (places : Nat) :
    mantissa * tenPow (headroom mantissa places) < magnitudeBound := by
  induction places with
  | zero => simpa [headroom, tenPow_zero] using h
  | succ places ih =>
    unfold headroom
    split
    · assumption
    · exact ih

/-- Whether the quotient with a remainder is nearer to the number above; a tie goes to the
even one. -/
def remainderRaises (mantissa remainder count : Nat) : Bool :=
  count < 2 * remainder || (2 * remainder = count && mantissa % 2 = 1)

/-- The next mantissa. One past the bound gives a place back. -/
def raised (mantissa places : Nat) : Nat × Nat :=
  if mantissa + 1 < magnitudeBound then (mantissa + 1, places)
  else (roundDiv .toEven (mantissa + 1) 10, places - 1)

/-- A quotient cut by its last digit, which with the remainder behind it decides the rounding. -/
def shortened (mantissa remainder : Nat) : Nat :=
  let last := mantissa % 10
  let half := last = 5 && (remainder != 0 || mantissa / 10 % 2 = 1)
  if 5 < last || half then mantissa / 10 + 1 else mantissa / 10

/-- Places by which a quotient is lengthened at a time. -/
def divisionStep : Nat := 9

/-- Lengthens a quotient until nothing remains or there is no more room; then it is rounded
half to even. The first argument bounds the number of steps. -/
def lengthen (count : Nat) : Nat → Nat → Nat → Nat → Nat × Nat
  | 0, mantissa, _, places => (mantissa, places)
  | steps + 1, mantissa, remainder, places =>
    if remainder = 0 then (mantissa, places)
    else
      let more := headroom mantissa (Nat.min divisionStep (maxScale - places))
      if more = 0 then
        if remainderRaises mantissa remainder count then raised mantissa places
        else (mantissa, places)
      else
        let longer := mantissa * tenPow more + remainder * tenPow more / count
        let rest := remainder * tenPow more % count
        if longer < magnitudeBound then lengthen count steps longer rest (places + more)
        else (shortened longer rest, places + more - 1)

theorem lengthen_snd_le (count steps mantissa remainder places : Nat) (h : places ≤ maxScale) :
    (lengthen count steps mantissa remainder places).2 ≤ maxScale := by
  induction steps generalizing mantissa remainder places with
  | zero => simpa [lengthen] using h
  | succ steps ih =>
    have hmore := Nat.le_trans (headroom_le mantissa (Nat.min divisionStep (maxScale - places)))
      (Nat.min_le_right _ _)
    have hmax : maxScale = 28 := rfl
    unfold lengthen
    split
    · exact h
    · dsimp only
      split
      · split
        · unfold raised
          split <;> simp only <;> omega
        · exact h
      · split
        · exact ih _ _ _ (by omega)
        · simp only
          omega

theorem lengthen_fst_lt {count steps mantissa remainder : Nat} (places : Nat)
    (hm : mantissa < magnitudeBound) (hr : remainder < count) :
    (lengthen count steps mantissa remainder places).1 < magnitudeBound := by
  induction steps generalizing mantissa remainder places with
  | zero => simpa [lengthen] using hm
  | succ steps ih =>
    have hmore := Nat.le_trans (headroom_le mantissa (Nat.min divisionStep (maxScale - places)))
      (Nat.min_le_left _ _)
    have hroom := mul_tenPow_headroom_lt hm (Nat.min divisionStep (maxScale - places))
    have hbound : magnitudeBound = 79228162514264337593543950336 := rfl
    unfold lengthen
    split
    · exact hm
    · dsimp only
      split
      · split
        · unfold raised
          split
          · assumption
          · have := roundDiv_le_succ .toEven (mantissa + 1) 10
            simp only
            omega
        · exact hm
      · generalize headroom mantissa (Nat.min divisionStep (maxScale - places)) = more at *
        have hdiv : remainder * tenPow more / count < tenPow more := by
          apply Nat.div_lt_of_lt_mul
          exact Nat.mul_lt_mul_of_pos_right hr (tenPow_pos more)
        have hpow : tenPow more ≤ 1000000000 := tenPow_le_tenPow hmore
        split
        · exact ih _ (by assumption) (Nat.mod_lt _ (by omega))
        · unfold shortened
          simp only
          split <;> omega

/-- Takes zeros off the end of a fraction: in eights while the mantissa is a multiple of
`UInt32.size`, then at most once four, two and one of them. -/
def unscaleBy (zeros unit : Nat) (d : Nat × Nat) : Nat × Nat :=
  if d.1 % unit = 0 && zeros ≤ d.2 && d.1 % tenPow zeros = 0 then
    (d.1 / tenPow zeros, d.2 - zeros)
  else d

theorem unscaleBy_fst_le (zeros unit : Nat) (d : Nat × Nat) :
    (unscaleBy zeros unit d).1 ≤ d.1 := by
  unfold unscaleBy
  split
  · exact Nat.div_le_self _ _
  · exact Nat.le_refl _

theorem unscaleBy_snd_le (zeros unit : Nat) (d : Nat × Nat) :
    (unscaleBy zeros unit d).2 ≤ d.2 := by
  unfold unscaleBy
  split <;> simp

/-- Takes zeros that a division produced off the end of its fraction. -/
def unscale (d : Nat × Nat) : Nat × Nat :=
  let byEight := unscaleBy 8 UInt32.size
  unscaleBy 1 2 (unscaleBy 2 4 (unscaleBy 4 16 (byEight (byEight (byEight d)))))

theorem unscale_fst_le (d : Nat × Nat) : (unscale d).1 ≤ d.1 := by
  unfold unscale
  iterate 5 refine Nat.le_trans (unscaleBy_fst_le _ _ _) ?_
  exact unscaleBy_fst_le _ _ _

theorem unscale_snd_le (d : Nat × Nat) : (unscale d).2 ≤ d.2 := by
  unfold unscale
  iterate 5 refine Nat.le_trans (unscaleBy_snd_le _ _ _) ?_
  exact unscaleBy_snd_le _ _ _

/-- Mantissa and places of the quotient of a magnitude by a count that leaves a remainder. -/
def inexactQuotient (magnitude places count : Nat) : Nat × Nat :=
  unscale (lengthen count (maxScale + 1) (magnitude / count) (magnitude % count) places)

/-- The quotient by a positive count: exact with the given places if they suffice, else with
more of them, as far as there is room. -/
def divCount (d : Decimal) (count : Nat) (hcount : 0 < count) : Decimal :=
  if d.isZero then 0
  else if count ∣ d.magnitude then
    signed d.negative (d.magnitude / count) d.scale
      (Nat.lt_of_le_of_lt (Nat.div_le_self _ _) d.magnitude_lt) d.scale_le
  else
    let quotient := inexactQuotient d.magnitude d.scale count
    signed d.negative quotient.1 quotient.2
      (Nat.lt_of_le_of_lt (unscale_fst_le _)
        (lengthen_fst_lt _ (Nat.lt_of_le_of_lt (Nat.div_le_self _ _) d.magnitude_lt)
          (Nat.mod_lt _ hcount)))
      (Nat.le_trans (unscale_snd_le _) (lengthen_snd_le _ _ _ _ _ d.scale_le))

/-- The sum of a list, from the left, starting with the plain zero. -/
def sum (ds : List Decimal) : Except Overflow Decimal := ds.foldlM add 0

theorem roundDiv_magnitude_lt (d : Decimal) (dropped : Nat) :
    roundDiv .away d.magnitude (tenPow dropped) < magnitudeBound := by
  have hlt := d.magnitude_lt
  have hbound : magnitudeBound = 79228162514264337593543950336 := rfl
  cases dropped with
  | zero => simpa [tenPow_zero, roundDiv_one] using hlt
  | succ dropped =>
    have hle := roundDiv_le_succ .away d.magnitude (tenPow (dropped + 1))
    have hten : tenPow 1 ≤ tenPow (dropped + 1) := tenPow_le_tenPow (by omega)
    have hdiv : d.magnitude / tenPow (dropped + 1) ≤ d.magnitude / 10 :=
      Nat.div_le_div_left hten (by decide)
    omega

/-- Gives up all but the given places, a half going away from zero. The sign stays, also that
of a zero. -/
def shorten (d : Decimal) (places : Nat) (h : places ≤ maxScale) : Decimal :=
  ⟨d.negative, roundDiv .away d.magnitude (tenPow (d.scale - places)), places,
    roundDiv_magnitude_lt d _, h⟩

/-- The same digits with the point at another place. -/
def withScale (d : Decimal) (scale : Nat) (h : scale ≤ maxScale) : Decimal :=
  ⟨d.negative, d.magnitude, scale, d.magnitude_lt, h⟩

/-- Rounds to at most the given places, a half away from zero; shorter decimals stay as they
are. What is rounded to zero loses its sign; what was zero before keeps it. -/
def roundTo (d : Decimal) (places : Nat) : Decimal :=
  if h : places < d.scale then
    let rounded := d.shorten places (Nat.le_of_lt (Nat.lt_of_lt_of_le h d.scale_le))
    if rounded.isZero && !d.isZero then { rounded with negative := false } else rounded
  else d

end Decimal
end ShopPayments
