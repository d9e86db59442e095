import Mathlib.Logic.Basic
import ShopPayments.Table

/-!
# Reading tables

A write is seen under its own key and nowhere else, so of a list of values that are put under keys
of their own the last one under a key is seen.  What is read does not depend on the order in which
a table lists its entries.  Where every value carries the key it is stored under (`KeyedBy`,
`GroupedBy`), the values that a table lists say under which key each of them is found.
-/

namespace ShopPayments
namespace Table

variable {κ α : Type} [DecidableEq κ]

theorem lookup?_put (key k : κ) (value : α) (entries : List (κ × α)) :
    lookup? k (put key value entries) = if key = k then some value else lookup? k entries := by
  induction entries with
  | nil => simp [put, lookup?]
  | cons head rest ih =>
    obtain ⟨first, v⟩ := head
    by_cases hfirst : first = key
    · subst hfirst
      by_cases hk : first = k <;> simp [put, lookup?, hk]
    · by_cases hk : first = k
      · subst hk
        simp [put, lookup?, hfirst, Ne.symm hfirst]
      · simp [put, lookup?, hfirst, hk, ih]

theorem get?_insert (t : Table κ α) (key k : κ) (value : α) :
    (t.insert key value).get? k = if key = k then some value else t.get? k :=
  lookup?_put key k value t.entries

theorem getD_get?_append (t : Table κ (List α)) (key k : κ) (value : α) :
    ((t.append key value).get? k).getD [] =
      if key = k then (t.get? k).getD [] ++ [value] else (t.get? k).getD [] := by
  rw [append, get?_insert]
  split
  next h => rw [h, Option.getD_some]
  next => rfl

@[simp]
theorem get?_empty (key : κ) : (empty : Table κ α).get? key = none := rfl

/-! ## Lists of values -/

variable (f : α → κ)

/-- Of the values that a list puts under a key the last one is found there. -/
theorem get?_foldl_insert (values : List α) (t : Table κ α) (key : κ) :
    (values.foldl (fun t a ↦ t.insert (f a) a) t).get? key =
      (values.filter (f · = key)).getLast?.or (t.get? key) := by
  induction values generalizing t with
  | nil => rfl
  | cons first rest ih =>
    rw [List.foldl_cons, ih, get?_insert]
    by_cases hkey : f first = key
    · rw [if_pos hkey, List.filter_cons_of_pos (by simpa using hkey), List.getLast?_cons]
      cases (rest.filter (f · = key)).getLast? <;> rfl
    · rw [if_neg hkey, List.filter_cons_of_neg (by simpa using hkey)]

/-- The values that a list appends under a key stand there in the order of the list. -/
theorem getD_get?_foldl_append (values : List α) (t : Table κ (List α)) (key : κ) :
    ((values.foldl (fun t a ↦ t.append (f a) a) t).get? key).getD [] =
      (t.get? key).getD [] ++ values.filter (f · = key) := by
  induction values generalizing t with
  | nil => exact (List.append_nil _).symm
  | cons first rest ih =>
    rw [List.foldl_cons, ih, getD_get?_append]
    by_cases hkey : f first = key
    · rw [if_pos hkey, List.filter_cons_of_pos (by simpa using hkey), List.append_assoc]
      rfl
    · rw [if_neg hkey, List.filter_cons_of_neg (by simpa using hkey)]

/-- A value that is appended under a key is appended to all values, up to their order. -/
theorem perm_flatten_put (key : κ) (value : α) (entries : List (κ × List α)) :
    ((put key ((lookup? key entries).getD [] ++ [value]) entries).map Prod.snd).flatten.Perm
      ((entries.map Prod.snd).flatten ++ [value]) := by
  induction entries with
  | nil => simp [put, lookup?]
  | cons head rest ih =>
    obtain ⟨k, values⟩ := head
    rw [List.map_cons, List.flatten_cons, List.append_assoc]
    by_cases hkey : k = key
    · subst hkey
      simp only [put, lookup?, if_pos, Option.getD_some, List.map_cons, List.flatten_cons,
        List.append_assoc]
      exact List.perm_append_comm.append_left values
    · simp only [put, lookup?, if_neg hkey, List.map_cons, List.flatten_cons]
      exact ih.append_left values

theorem perm_flatten_values_append (t : Table κ (List α)) (key : κ) (value : α) :
    (t.append key value).values.flatten.Perm (t.values.flatten ++ [value]) :=
  perm_flatten_put key value t.entries

theorem perm_flatten_values_foldl_append (values : List α) (t : Table κ (List α)) :
    (values.foldl (fun t a ↦ t.append (f a) a) t).values.flatten.Perm
      (t.values.flatten ++ values) := by
  induction values generalizing t with
  | nil => simp
  | cons first rest ih =>
    have hfirst := perm_flatten_values_append t (f first) first
    refine (ih (t.append (f first) first)).trans ?_
    rw [List.append_cons t.values.flatten first rest]
    exact hfirst.append_right rest

/-! ## Orders of the entries -/

theorem lookup?_eq_none {key : κ} {entries : List (κ × α)} (h : key ∉ entries.map Prod.fst) :
    lookup? key entries = none := by
  induction entries with
  | nil => rfl
  | cons head rest ih =>
    obtain ⟨k, v⟩ := head
    rw [List.map_cons, List.mem_cons, not_or] at h
    rw [lookup?, if_neg (Ne.symm h.1), ih h.2]

theorem lookup?_eq_some_iff {entries : List (κ × α)} (h : (entries.map Prod.fst).Nodup) {key : κ}
    {value : α} : lookup? key entries = some value ↔ (key, value) ∈ entries := by
  induction entries with
  | nil => simp [lookup?]
  | cons head rest ih =>
    obtain ⟨k, v⟩ := head
    rw [List.map_cons, List.nodup_cons] at h
    rw [lookup?, List.mem_cons, ← ih h.2]
    by_cases hkey : k = key
    · subst hkey
      rw [if_pos rfl, lookup?_eq_none h.1]
      simp [eq_comm]
    · simp [hkey, Ne.symm hkey]

theorem get?_eq_some_iff {t : Table κ α} {key : κ} {value : α} :
    t.get? key = some value ↔ (key, value) ∈ t.entries := lookup?_eq_some_iff t.nodup

theorem get?_congr {t t' : Table κ α} (h : t.entries.Perm t'.entries) (key : κ) :
    t.get? key = t'.get? key := by
  ext value
  rw [get?_eq_some_iff, get?_eq_some_iff, h.mem_iff]

omit [DecidableEq κ] in
theorem perm_flatten_values {t t' : Table κ (List α)} (h : t.entries.Perm t'.entries) :
    t.values.flatten.Perm t'.values.flatten := (h.map Prod.snd).flatten

theorem mem_flatten_values {t : Table κ (List α)} {key : κ} {value : α}
    (h : value ∈ (t.get? key).getD []) : value ∈ t.values.flatten := by
  cases hget : t.get? key with
  | none =>
    rw [hget] at h
    cases h
  | some values =>
    rw [hget] at h
    exact List.mem_flatten_of_mem (List.mem_map_of_mem (get?_eq_some_iff.mp hget)) h

/-! ## Values that carry their keys -/

variable {f}

/-- Every value is stored under its own key. -/
def KeyedBy (f : α → κ) (t : Table κ α) : Prop := ∀ key a, t.get? key = some a → f a = key

/-- Every value of a list is stored under its own key. -/
def GroupedBy (f : α → κ) (t : Table κ (List α)) : Prop :=
  ∀ key, ∀ a ∈ (t.get? key).getD [], f a = key

theorem keyedBy_empty : KeyedBy f empty := by
  intro key a h
  cases h

theorem groupedBy_empty : GroupedBy f empty := by
  intro key a h
  cases h

theorem KeyedBy.insert {t : Table κ α} (h : t.KeyedBy f) (a : α) :
    (t.insert (f a) a).KeyedBy f := by
  intro key a' ha'
  rw [get?_insert] at ha'
  split at ha'
  next hkey =>
    rw [← Option.some.inj ha']
    exact hkey
  next => exact h key a' ha'

theorem KeyedBy.foldl_insert {t : Table κ α} (h : t.KeyedBy f) (values : List α) :
    (values.foldl (fun t a ↦ t.insert (f a) a) t).KeyedBy f := by
  induction values generalizing t with
  | nil => exact h
  | cons first rest ih => exact ih (h.insert first)

theorem GroupedBy.append {t : Table κ (List α)} (h : t.GroupedBy f) (a : α) :
    (t.append (f a) a).GroupedBy f := by
  intro key a' ha'
  rw [getD_get?_append] at ha'
  split at ha'
  next hkey =>
    rcases List.mem_append.mp ha' with hold | hnew
    · exact h key a' hold
    · rw [List.mem_singleton.mp hnew]
      exact hkey
  next => exact h key a' ha'

theorem GroupedBy.foldl_append {t : Table κ (List α)} (h : t.GroupedBy f) (values : List α) :
    (values.foldl (fun t a ↦ t.append (f a) a) t).GroupedBy f := by
  induction values generalizing t with
  | nil => exact h
  | cons first rest ih => exact ih (h.append first)

theorem KeyedBy.congr {t t' : Table κ α} (h : t.KeyedBy f) (hsame : t.entries.Perm t'.entries) :
    t'.KeyedBy f := by
  intro key a ha
  rw [← get?_congr hsame] at ha
  exact h key a ha

theorem GroupedBy.congr {t t' : Table κ (List α)} (h : t.GroupedBy f)
    (hsame : t.entries.Perm t'.entries) : t'.GroupedBy f := by
  intro key a ha
  rw [← get?_congr hsame] at ha
  exact h key a ha

/-- What the entries hold of a key is what the entry of that key holds. -/
theorem filter_flatMap_entries {β : Type} (g : β → List α) {entries : List (κ × β)}
    (hnodup : (entries.map Prod.fst).Nodup)
    (h : ∀ e ∈ entries, ∀ a ∈ g e.2, f a = e.1) (key : κ) :
    ((entries.map Prod.snd).flatMap g).filter (f · = key) =
      ((lookup? key entries).map g).getD [] := by
  induction entries with
  | nil => rfl
  | cons head rest ih =>
    obtain ⟨k, b⟩ := head
    rw [List.map_cons, List.nodup_cons] at hnodup
    have hfirst : ∀ a ∈ g b, f a = k := h (k, b) List.mem_cons_self
    have hrest := ih hnodup.2 fun e he ↦ h e (List.mem_cons_of_mem _ he)
    rw [List.map_cons, List.flatMap_cons, List.filter_append, hrest, lookup?]
    by_cases hkey : k = key
    · subst hkey
      rw [if_pos rfl, lookup?_eq_none hnodup.1, List.filter_eq_self.mpr (by simpa using hfirst)]
      simp
    · have hother : (g b).filter (f · = key) = [] := by
        rw [List.filter_eq_nil_iff]
        intro a ha
        rw [hfirst a ha]
        simpa using hkey
      rw [if_neg hkey, hother, List.nil_append]

theorem KeyedBy.mem_values_iff {t : Table κ α} (h : t.KeyedBy f) {a : α} :
    a ∈ t.values ↔ t.get? (f a) = some a := by
  rw [get?_eq_some_iff, values, List.mem_map]
  constructor
  · rintro ⟨⟨key, b⟩, he, rfl⟩
    rw [h key b (get?_eq_some_iff.mpr he)]
    exact he
  · intro he
    exact ⟨(f a, a), he, rfl⟩

theorem KeyedBy.filter_values {t : Table κ α} (h : t.KeyedBy f) (key : κ) :
    t.values.filter (f · = key) = (t.get? key).toList := by
  have hentries : ∀ e ∈ t.entries, ∀ a ∈ [e.2], f a = e.1 := by
    intro e he a ha
    rw [List.mem_singleton.mp ha]
    exact h e.1 e.2 (get?_eq_some_iff.mpr he)
  have hfilter := filter_flatMap_entries (fun a ↦ [a]) t.nodup hentries key
  rw [List.flatMap_singleton'] at hfilter
  rw [values, hfilter, get?]
  cases lookup? key t.entries <;> rfl

theorem GroupedBy.filter_values {t : Table κ (List α)} (h : t.GroupedBy f) (key : κ) :
    t.values.flatten.filter (f · = key) = (t.get? key).getD [] := by
  have hentries : ∀ e ∈ t.entries, ∀ a ∈ id e.2, f a = e.1 := by
    intro e he a ha
    apply h e.1 a
    rw [get?_eq_some_iff.mpr he]
    exact ha
  have hfilter := filter_flatMap_entries id t.nodup hentries key
  rw [List.flatMap_id, Option.map_id] at hfilter
  exact hfilter

end Table
end ShopPayments
