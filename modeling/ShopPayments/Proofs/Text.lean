import Mathlib.Data.Nat.Notation
import Mathlib.Logic.Basic
import ShopPayments.Payload

/-!
# Lengths of texts and the limits on them

The length of a text adds up over its parts, and a cut text is no longer than its limit.  What the
payment service asks of a text is a bound on its length, so a line item and a tax are valid exactly
if the lengths of their texts lie between given bounds.
-/

namespace ShopPayments
namespace Text

variable {s t : String} {limit : ℕ}

theorem size_append (s t : String) : size (s ++ t) = size s + size t := by
  simp [size]

theorem toList_cut (s : String) (limit : ℕ) : (cut s limit).toList = s.toList.take limit :=
  String.toList_ofList

theorem size_cut (s : String) (limit : ℕ) : size (cut s limit) = min limit (size s) := by
  rw [size, toList_cut, List.length_take, size]

theorem size_cut_le (s : String) (limit : ℕ) : size (cut s limit) ≤ limit :=
  by
  rw [size_cut]
  exact Nat.min_le_left _ _

theorem size_cut_pos (hlimit : 0 < limit) (h : 0 < size s) : 0 < size (cut s limit) := by
  rw [size_cut]
  exact Nat.lt_min.mpr ⟨hlimit, h⟩

theorem cut_of_size_le (h : size s ≤ limit) : cut s limit = s := by
  rw [cut, List.take_of_length_le h, String.ofList_toList]

theorem cut_cut (s : String) (first limit : ℕ) :
    cut (cut s first) limit = cut s (Nat.min limit first) := by
  rw [cut, toList_cut, List.take_take]
  rfl

/-- Cutting takes from the second of two texts what the first leaves room for. -/
theorem cut_append (h : size s ≤ limit) : cut (s ++ t) limit = s ++ cut t (limit - size s) := by
  rw [← String.toList_inj, toList_cut, String.toList_append, String.toList_append, toList_cut,
    List.take_append, List.take_of_length_le h]
  rfl

theorem size_pos_iff (s : String) : 0 < size s ↔ s ≠ "" := by
  rw [size, List.length_pos_iff, ne_eq, ne_eq, ← String.toList_inj]
  rfl

theorem isEmpty_eq_false_iff (s : String) : isEmpty s = false ↔ 0 < size s := by
  rw [isEmpty, size, List.length_pos_iff, List.isEmpty_eq_false_iff]

/-- A character that occurs in neither of two beginnings ends both. -/
theorem append_cons_inj {x y s t : List Char} {c : Char} (hx : c ∉ x) (hy : c ∉ y)
    (h : x ++ c :: s = y ++ c :: t) : x = y ∧ s = t := by
  induction x generalizing y with
  | nil =>
    cases y with
    | nil => exact ⟨rfl, (List.cons.inj h).2⟩
    | cons d y => exact absurd ((List.cons.inj h).1 ▸ List.mem_cons_self) hy
  | cons d x ih =>
    cases y with
    | nil => exact absurd ((List.cons.inj h).1 ▸ List.mem_cons_self) hx
    | cons d' y =>
      obtain ⟨hfirst, hrest⟩ := List.cons.inj h
      obtain ⟨heq, htail⟩ := ih (List.not_mem_of_not_mem_cons hx)
        (List.not_mem_of_not_mem_cons hy) hrest
      exact ⟨congrArg₂ List.cons hfirst heq, htail⟩

end Text

namespace Violation

theorem needs_eq_nil {property value : String} :
    needs property value = [] ↔ 0 < Text.size value := by
  rw [← Text.isEmpty_eq_false_iff]
  unfold needs
  cases Text.isEmpty value <;> simp

theorem check_eq_nil {property : String} {holds : Bool} :
    check property holds = [] ↔ holds = true := by
  cases holds <;> simp [check]

theorem atMost_eq_nil {property : String} {limit : ℕ} {value : Option String} :
    atMost property limit value = [] ↔ ∀ s ∈ value, Text.size s ≤ limit := by
  cases value with
  | none => simp [atMost]
  | some s => simp [atMost]

theorem atLeast_eq_nil {property : String} {limit : ℕ} {value : Option String} :
    atLeast property limit value = [] ↔ ∀ s ∈ value, limit ≤ Text.size s := by
  cases value with
  | none => simp [atLeast]
  | some s => simp [atLeast]

end Violation

open Violation

theorem isValid_iff {α : Type} [Validated α] {a : α} :
    isValid a = true ↔ Validated.violations a = [] := List.isEmpty_iff

theorem LineItemTax.isValid_iff_size {tax : LineItemTax} :
    isValid tax = true ↔ 2 ≤ Text.size tax.title ∧ Text.size tax.title ≤ 40 := by
  simp only [isValid_iff, Validated.violations, List.append_eq_nil_iff, needs_eq_nil,
    atMost_eq_nil, atLeast_eq_nil, Option.mem_some_iff, forall_eq']
  omega

theorem LineItem.isValid_iff_size {i : LineItem} :
    isValid i = true ↔ (0 < Text.size i.name ∧ Text.size i.name ≤ 150) ∧
      (∀ sku ∈ i.sku, Text.size sku ≤ 200) ∧
      0 < Text.size i.uniqueId ∧ Text.size i.uniqueId ≤ 200 := by
  simp only [isValid_iff, Validated.violations, List.append_eq_nil_iff, needs_eq_nil,
    atMost_eq_nil, Option.mem_some_iff, forall_eq', and_assoc]

end ShopPayments
