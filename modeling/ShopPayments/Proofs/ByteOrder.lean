import Mathlib.Data.String.Basic
import Mathlib.Tactic.SplitIfs
import ShopPayments.Text

/-!
# The order of the bytes of texts

The first byte of an encoded character grows with the number of bytes that follow, and these are
the digits of its code point to the base 64.  So characters and their encodings are in the same
order, whatever comes behind them, and texts compare as their bytes do (`bytes_le_iff`).
-/

namespace ShopPayments
namespace Text

variable {s t : String} {c d : Char} {v w : ℕ}

/-- The bytes of a text. -/
def bytes (s : String) : List UInt8 := s.toUTF8.data.toList

theorem bytes_eq_flatMap (s : String) : bytes s = s.toList.flatMap String.utf8EncodeChar := by
  rw [bytes, String.toUTF8_eq_toByteArray, ← String.utf8Encode_toList, List.utf8Encode,
    List.toList_data_toByteArray]

/-! ## Characters -/

/-- How many bytes follow the first one. -/
def following (v : ℕ) : ℕ :=
  if v ≤ 0x7f then 0 else if v ≤ 0x7ff then 1 else if v ≤ 0xffff then 2 else 3

/-- The first byte, with a mark for the number of bytes that follow. -/
def lead (v : ℕ) : ℕ := [0, 0xc0, 0xe0, 0xf0].getD (following v) 0 + v / 64 ^ following v

/-- The last digits to the base 64, each with the mark of a byte that follows. -/
def digits : ℕ → ℕ → List UInt8
  | 0, _ => []
  | k + 1, v => digits k (v / 64) ++ [UInt8.ofNat (v % 64 + 0x80)]

theorem toNat_lt (c : Char) : c.toNat < 0x110000 := by
  have hvalid : c.toNat < 0xd800 ∨ 0xdfff < c.toNat ∧ c.toNat < 0x110000 := c.valid
  omega

theorem utf8EncodeChar_eq (c : Char) :
    String.utf8EncodeChar c = UInt8.ofNat (lead c.toNat) :: digits (following c.toNat) c.toNat := by
  have hbound := toNat_lt c
  have hcode : c.val.toNat = c.toNat := rfl
  rw [String.utf8EncodeChar, hcode]
  unfold lead following
  generalize c.toNat = v at *
  split_ifs
  · simp [digits]
  · have hlead : v / 64 % 32 = v / 64 := by omega
    simp [digits, hlead, Nat.add_comm]
  · have hlead : v / 4096 % 16 = v / 4096 := by omega
    simp [digits, hlead, Nat.add_comm]
  · have hlead : v / 262144 % 8 = v / 262144 := by omega
    simp [digits, hlead, Nat.add_comm, Nat.div_div_eq_div_mul]

theorem lead_lt (hlt : v < w) (hbound : w < 0x110000) :
    lead v < lead w ∨
      lead v = lead w ∧ following v = following w ∧
        v / 64 ^ following v = w / 64 ^ following w := by
  unfold lead following
  split_ifs <;> simp <;> omega

theorem ofNat_lt_ofNat (hlt : v < w) (hbound : w < 256) : UInt8.ofNat v < UInt8.ofNat w := by
  rw [UInt8.lt_iff_toNat_lt, UInt8.toNat_ofNat', UInt8.toNat_ofNat']
  omega

/-- Below equal higher digits the greater number has the greater digits. -/
theorem digits_lt {k : ℕ} (hlt : v < w) (hsame : v / 64 ^ k = w / 64 ^ k) (x y : List UInt8) :
    digits k v ++ x < digits k w ++ y := by
  induction k generalizing v w x y with
  | zero =>
    simp only [pow_zero, Nat.div_one] at hsame
    omega
  | succ k ih =>
    rw [digits, digits, List.append_assoc, List.append_assoc]
    rw [Nat.pow_succ', ← Nat.div_div_eq_div_mul, ← Nat.div_div_eq_div_mul] at hsame
    rcases Nat.lt_or_ge (v / 64) (w / 64) with hhigher | hhigher
    · exact ih hhigher hsame _ _
    · have hequal : v / 64 = w / 64 := by omega
      rw [hequal]
      apply List.append_left_lt
      exact List.cons_lt_cons_iff.mpr (.inl (ofNat_lt_ofNat (by omega) (by omega)))

theorem utf8EncodeChar_lt (h : c < d) (x y : List UInt8) :
    String.utf8EncodeChar c ++ x < String.utf8EncodeChar d ++ y := by
  have hlt : c.toNat < d.toNat := h
  rw [utf8EncodeChar_eq, utf8EncodeChar_eq, List.cons_append, List.cons_append,
    List.cons_lt_cons_iff]
  rcases lead_lt hlt (toNat_lt d) with hlead | ⟨hlead, hfollowing, hsame⟩
  · have hbound : lead d.toNat < 256 := by
      have hd := toNat_lt d
      unfold lead following
      split_ifs <;> simp <;> omega
    exact .inl (ofNat_lt_ofNat hlead hbound)
  · rw [hfollowing] at hsame ⊢
    exact .inr ⟨congrArg UInt8.ofNat hlead, digits_lt hlt hsame x y⟩

/-! ## Texts -/

theorem flatMap_utf8EncodeChar_lt {x y : List Char} (h : x < y) :
    x.flatMap String.utf8EncodeChar < y.flatMap String.utf8EncodeChar := by
  induction x generalizing y with
  | nil =>
    cases y with
    | nil => exact absurd h (List.not_lt_nil [])
    | cons d y =>
      rw [List.flatMap_nil, List.flatMap_cons, utf8EncodeChar_eq]
      exact List.nil_lt_cons _ _
  | cons c x ih =>
    cases y with
    | nil => exact absurd h (List.not_lt_nil _)
    | cons d y =>
      rw [List.flatMap_cons, List.flatMap_cons]
      rcases List.cons_lt_cons_iff.mp h with hfirst | ⟨rfl, hrest⟩
      · exact utf8EncodeChar_lt hfirst _ _
      · exact List.append_left_lt (ih hrest)

theorem bytes_lt (h : s < t) : bytes s < bytes t := by
  rw [bytes_eq_flatMap, bytes_eq_flatMap]
  exact flatMap_utf8EncodeChar_lt (String.lt_iff_toList_lt.mp h)

/-- Texts are in the order of their bytes. -/
theorem bytes_le_iff : bytes s ≤ bytes t ↔ s ≤ t := by
  constructor
  · intro hbytes
    by_contra hle
    exact List.not_lt.mpr hbytes (bytes_lt (lt_of_not_ge hle))
  · intro hle
    rcases eq_or_lt_of_le hle with rfl | hlt
    · exact List.le_refl _
    · exact List.le_of_lt (bytes_lt hlt)

end Text
end ShopPayments
