import Mathlib.Algebra.BigOperators.Group.List.Basic
import Mathlib.Algebra.Order.BigOperators.Group.List
import Mathlib.Data.Rat.Floor
import ShopPayments.Proofs.Decimal.Arithmetic

/-!
# Exact sums

A quantity of a given number of places is kept exactly as long as it has room, and any other one is
kept up to a unit of these places (`Stores.abs_sub_le`).  A list of decimals is added up from the
left, and no sum in between exceeds the sum of the absolute quantities.  So if these together have
room, the sum of the list is there and exact.
-/

namespace ShopPayments
namespace Decimal

/-- The quantity has at most the given places. -/
def HasPlaces (places : ℕ) (x : ℚ) : Prop := ∃ n : ℤ, x = n / 10 ^ places

namespace HasPlaces

variable {places : ℕ} {x y : ℚ}

theorem zero (places : ℕ) : HasPlaces places 0 := ⟨0, by simp⟩

theorem add (hx : HasPlaces places x) (hy : HasPlaces places y) : HasPlaces places (x + y) := by
  obtain ⟨m, rfl⟩ := hx
  obtain ⟨n, rfl⟩ := hy
  exact ⟨m + n, by push_cast; ring⟩

theorem sub (hx : HasPlaces places x) (hy : HasPlaces places y) : HasPlaces places (x - y) := by
  obtain ⟨m, rfl⟩ := hx
  obtain ⟨n, rfl⟩ := hy
  exact ⟨m - n, by push_cast; ring⟩

theorem mono {more : ℕ} (hx : HasPlaces places x) (h : places ≤ more) : HasPlaces more x := by
  obtain ⟨n, rfl⟩ := hx
  obtain ⟨zeros, rfl⟩ := Nat.exists_eq_add_of_le h
  refine ⟨n * 10 ^ zeros, ?_⟩
  push_cast
  rw [pow_add, mul_div_mul_right _ _ (by positivity)]

end HasPlaces

theorem hasPlaces_scale (d : Decimal) : HasPlaces d.scale d.toRat := ⟨d.mantissa, toRat_eq d⟩

/-- A quantity that has room at the given places is that of a decimal with these places. -/
theorem exists_toRat_eq_of_hasPlaces {places : ℕ} {x : ℚ} (hplaces : places ≤ maxScale)
    (hx : HasPlaces places x) (hroom : |x| * 10 ^ places < magnitudeBound) :
    ∃ e : Decimal, e.scale = places ∧ e.toRat = x := by
  obtain ⟨n, rfl⟩ := hx
  have hlt : n.natAbs < magnitudeBound := by
    rw [abs_div, abs_of_pos (a := (10 : ℚ) ^ places) (by positivity),
      div_mul_cancel₀ _ (by positivity), ← Int.cast_abs, ← Nat.cast_natAbs] at hroom
    exact_mod_cast hroom
  refine ⟨signed (decide (n < 0)) n.natAbs places hlt hplaces, rfl, ?_⟩
  rw [toRat_signed, Nat.cast_natAbs]
  by_cases hneg : n < 0
  · simp [hneg, abs_of_neg hneg]
  · simp [hneg, abs_of_nonneg (not_lt.mp hneg)]

variable {a b : Decimal} {places : ℕ}

/-- A quantity is kept between its two neighbours of any number of places that have room. -/
theorem Stores.abs_sub_le {d : Decimal} {x : ℚ} (h : d.Stores x) (hplaces : places ≤ maxScale)
    (hroom : (|x| + 1) * 10 ^ places < magnitudeBound) : |d.toRat - x| ≤ 1 / 10 ^ places := by
  have hten : (0 : ℚ) < 10 ^ places := by positivity
  have hunit : (1 : ℚ) / 10 ^ places ≤ 1 :=
    div_le_one_of_le₀ (one_le_pow₀ (by norm_num)) hten.le
  let n : ℤ := ⌊x * 10 ^ places⌋
  have hfloor : (n : ℚ) ≤ x * 10 ^ places := Int.floor_le _
  have hceil : x * 10 ^ places < n + 1 := Int.lt_floor_add_one _
  have hbelow : (n : ℚ) / 10 ^ places ≤ x := by rwa [div_le_iff₀ hten]
  have habove : x ≤ (n : ℚ) / 10 ^ places + 1 / 10 ^ places := by
    rw [← add_div, le_div_iff₀ hten]
    exact hceil.le
  have hneighbour : ∀ y : ℚ, |y - x| ≤ 1 / 10 ^ places → |y| * 10 ^ places < magnitudeBound := by
    intro y hy
    refine lt_of_le_of_lt ?_ hroom
    gcongr
    have htriangle := abs_sub_abs_le_abs_sub y x
    linarith
  obtain ⟨low, -, hlow⟩ := exists_toRat_eq_of_hasPlaces hplaces ⟨n, rfl⟩
    (hneighbour (n / 10 ^ places) (by rw [abs_le]; constructor <;> linarith))
  obtain ⟨high, -, hhigh⟩ := exists_toRat_eq_of_hasPlaces hplaces
    (HasPlaces.add ⟨n, rfl⟩ ⟨1, by push_cast; rfl⟩)
    (hneighbour (n / 10 ^ places + 1 / 10 ^ places) (by rw [abs_le]; constructor <;> linarith))
  have hfrom : low.toRat ≤ d.toRat := h.le_of_le (hlow ▸ hbelow)
  have hto : d.toRat ≤ high.toRat := h.ge_of_ge (hhigh ▸ habove)
  rw [hlow] at hfrom
  rw [hhigh] at hto
  rw [abs_le]
  constructor <;> linarith

theorem exists_add_toRat (hplaces : places ≤ maxScale) (ha : HasPlaces places a.toRat)
    (hb : HasPlaces places b.toRat)
    (hroom : |a.toRat + b.toRat| * 10 ^ places < magnitudeBound) :
    ∃ d, a.add b = .ok d ∧ d.toRat = a.toRat + b.toRat := by
  obtain ⟨e, -, he⟩ := exists_toRat_eq_of_hasPlaces hplaces (ha.add hb) hroom
  obtain ⟨d, hd⟩ := exists_add (a := a) (b := b) (he ▸ toRat_abs_le e)
  exact ⟨d, hd, (add_stores hd).toRat_eq he⟩

theorem exists_sub_toRat (hplaces : places ≤ maxScale) (ha : HasPlaces places a.toRat)
    (hb : HasPlaces places b.toRat)
    (hroom : |a.toRat - b.toRat| * 10 ^ places < magnitudeBound) :
    ∃ d, a.sub b = .ok d ∧ d.toRat = a.toRat - b.toRat := by
  obtain ⟨e, -, he⟩ := exists_toRat_eq_of_hasPlaces hplaces (ha.sub hb) hroom
  obtain ⟨d, hd⟩ := exists_sub (a := a) (b := b) (he ▸ toRat_abs_le e)
  exact ⟨d, hd, (sub_stores hd).toRat_eq he⟩

/-! ## Lists -/

/-- Sum of the quantities. -/
def sumRat (ds : List Decimal) : ℚ := (ds.map (·.toRat)).sum

/-- Sum of the absolute quantities. -/
def sumAbs (ds : List Decimal) : ℚ := (ds.map fun d ↦ |d.toRat|).sum

theorem sumAbs_eq (ds : List Decimal) : sumAbs ds = ((ds.map (·.toRat)).map abs).sum := by
  rw [List.map_map]
  rfl

theorem sumAbs_append (ds es : List Decimal) : sumAbs (ds ++ es) = sumAbs ds + sumAbs es := by
  simp [sumAbs]

theorem sumAbs_nonneg (ds : List Decimal) : 0 ≤ sumAbs ds := by
  apply List.sum_nonneg
  intro x hx
  obtain ⟨d, -, rfl⟩ := List.mem_map.mp hx
  exact abs_nonneg _

theorem abs_sumRat_le (ds : List Decimal) : |sumRat ds| ≤ sumAbs ds := by
  induction ds with
  | nil => simp [sumRat, sumAbs]
  | cons d rest ih =>
    simp only [sumRat, sumAbs, List.map_cons, List.sum_cons] at ih ⊢
    exact (abs_add_le _ _).trans (add_le_add le_rfl ih)

theorem hasPlaces_sumRat {ds : List Decimal} (h : ∀ d ∈ ds, HasPlaces places d.toRat) :
    HasPlaces places (sumRat ds) := by
  induction ds with
  | nil => exact .zero places
  | cons d rest ih =>
    have hrest := ih fun e he ↦ h e (List.mem_cons_of_mem d he)
    simpa only [sumRat, List.map_cons, List.sum_cons] using (h d List.mem_cons_self).add hrest

/-- Adding a list to a decimal is exact if all of it together has room. -/
theorem exists_foldlM_add (hplaces : places ≤ maxScale) (ds : List Decimal) {start : Decimal}
    (hstart : HasPlaces places start.toRat) (h : ∀ d ∈ ds, HasPlaces places d.toRat)
    (hroom : (|start.toRat| + sumAbs ds) * 10 ^ places < magnitudeBound) :
    ∃ total, ds.foldlM add start = .ok total ∧ total.toRat = start.toRat + sumRat ds := by
  induction ds generalizing start with
  | nil => exact ⟨start, rfl, by simp [sumRat]⟩
  | cons d rest ih =>
    have hsum : sumAbs (d :: rest) = |d.toRat| + sumAbs rest := by
      simp [sumAbs]
    rw [hsum] at hroom
    have htriangle := abs_add_le start.toRat d.toRat
    have hrest := sumAbs_nonneg rest
    have hnext : |start.toRat + d.toRat| * 10 ^ places < magnitudeBound := by
      apply lt_of_le_of_lt _ hroom
      exact mul_le_mul_of_nonneg_right (by linarith) (by positivity)
    obtain ⟨next, hadd, hnextRat⟩ :=
      exists_add_toRat hplaces hstart (h d List.mem_cons_self) hnext
    have hplacesNext : HasPlaces places next.toRat := by
      rw [hnextRat]
      exact hstart.add (h d List.mem_cons_self)
    have hroomNext : (|next.toRat| + sumAbs rest) * 10 ^ places < magnitudeBound := by
      rw [hnextRat]
      apply lt_of_le_of_lt _ hroom
      exact mul_le_mul_of_nonneg_right (by linarith) (by positivity)
    obtain ⟨total, hfold, htotal⟩ :=
      ih hplacesNext (fun e he ↦ h e (List.mem_cons_of_mem d he)) hroomNext
    refine ⟨total, ?_, ?_⟩
    · rw [List.foldlM_cons, hadd]
      exact hfold
    · rw [htotal, hnextRat]
      simp [sumRat, add_assoc]

theorem exists_sum (hplaces : places ≤ maxScale) {ds : List Decimal}
    (h : ∀ d ∈ ds, HasPlaces places d.toRat)
    (hroom : sumAbs ds * 10 ^ places < magnitudeBound) :
    ∃ total, sum ds = .ok total ∧ total.toRat = sumRat ds := by
  have hzero : HasPlaces places (0 : Decimal).toRat := by
    rw [toRat_zero]
    exact .zero places
  obtain ⟨total, hsum, htotal⟩ := exists_foldlM_add hplaces ds hzero h (by simpa using hroom)
  exact ⟨total, hsum, by rw [htotal, toRat_zero, zero_add]⟩

end Decimal
end ShopPayments
