/-!
# Tables

Finite maps whose keys have no order. A table lists its entries in some order,
which no answer depends on; each key occurs once.
-/

namespace ShopPayments

/-- A finite map given by its entries. -/
structure Table (κ α : Type) where
  entries : List (κ × α)
  nodup : (entries.map Prod.fst).Nodup

namespace Table

variable {κ α : Type} [DecidableEq κ]

/-- The table without entries. -/
def empty : Table κ α := ⟨[], List.Pairwise.nil⟩

instance : Inhabited (Table κ α) := ⟨empty⟩

/-- The value stored under a key in a list of entries. -/
def lookup? (key : κ) : List (κ × α) → Option α
  | [] => none
  | (k, v) :: rest => if k = key then some v else lookup? key rest

/-- Replaces the value under a key, or appends a new entry. -/
def put (key : κ) (value : α) : List (κ × α) → List (κ × α)
  | [] => [(key, value)]
  | (k, v) :: rest => if k = key then (key, value) :: rest else (k, v) :: put key value rest

theorem mem_keys_put {key k : κ} {value : α} {entries : List (κ × α)}
    (h : k ∈ (put key value entries).map Prod.fst) : k = key ∨ k ∈ entries.map Prod.fst := by
  induction entries with
  | nil => simpa [put] using h
  | cons head rest ih =>
    obtain ⟨k', v⟩ := head
    unfold put at h
    split at h
    · rename_i heq
      subst heq
      exact Or.inr h
    · rcases List.mem_cons.mp h with h | h
      · exact Or.inr (h ▸ List.mem_cons_self)
      · rcases ih h with h | h
        · exact Or.inl h
        · exact Or.inr (List.mem_cons_of_mem _ h)

theorem nodup_put (key : κ) (value : α) {entries : List (κ × α)}
    (h : (entries.map Prod.fst).Nodup) : ((put key value entries).map Prod.fst).Nodup := by
  induction entries with
  | nil => simp [put]
  | cons head rest ih =>
    obtain ⟨k, v⟩ := head
    have hrest := List.nodup_cons.mp h
    unfold put
    split
    · rename_i heq
      subst heq
      exact h
    · rename_i hne
      refine List.nodup_cons.mpr ⟨?_, ih hrest.2⟩
      intro hmem
      rcases mem_keys_put hmem with heq | hmem
      · exact hne heq
      · exact hrest.1 hmem

/-- The value under a key. -/
def get? (t : Table κ α) (key : κ) : Option α := lookup? key t.entries

/-- Stores a value under a key, in place of any other. -/
def insert (t : Table κ α) (key : κ) (value : α) : Table κ α :=
  ⟨put key value t.entries, nodup_put key value t.nodup⟩

/-- All values. -/
def values (t : Table κ α) : List α := t.entries.map Prod.snd

/-- Appends a value to the list under a key. -/
def append {β : Type} (t : Table κ (List β)) (key : κ) (value : β) : Table κ (List β) :=
  t.insert key ((t.get? key).getD [] ++ [value])

end Table
end ShopPayments
