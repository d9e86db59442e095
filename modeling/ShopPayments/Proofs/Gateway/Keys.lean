import ShopPayments.Proofs.Gateway.Booking
import ShopPayments.Snapshot

/-!
# Transactions under their keys

A transaction is stored under its own space and id.  This holds of every service that was filled
with transactions one by one or restored from a snapshot, whatever the snapshot holds, and no call
changes it.
-/

namespace ShopPayments
namespace Gateway

/-- Every transaction is stored under its own key. -/
def Keyed (g : Gateway) : Prop :=
  ∀ space id t, g.transaction? space id = some t → t.key = (space, id)

theorem Keyed.id_eq {g : Gateway} (h : g.Keyed) {space id : UInt64} {t : Transaction}
    (ht : g.transaction? space id = some t) : t.id = id := congrArg Prod.snd (h space id t ht)

theorem keyed_empty : empty.Keyed := by
  intro space id t ht
  cases ht

theorem Keyed.insertTransaction {g : Gateway} (h : g.Keyed) (t : Transaction) :
    (g.insertTransaction t).Keyed := by
  intro space id t' ht'
  have hinsert : (g.insertTransaction t).transaction? space id =
      if t.key = (space, id) then some t else g.transaction? space id := Table.get?_insert _ _ _ _
  rw [hinsert] at ht'
  split at ht'
  next hkey =>
    obtain rfl := Option.some.inj ht'
    exact hkey
  next => exact h space id t' ht'

theorem keyed_holding (t : Transaction) : (holding t).Keyed := keyed_empty.insertTransaction t

theorem Keyed.of_extends {g later : Gateway} (h : g.Keyed) (hext : g.Extends later) :
    later.Keyed := by
  intro space id t' ht'
  obtain ⟨t, ht, hsame⟩ := hext.exists_of_some ht'
  rw [hsame]
  exact h space id t ht

/-! ## Snapshots -/

theorem keyed_iff {g : Gateway} : g.Keyed ↔ g.transactions.KeyedBy Transaction.key :=
  ⟨fun h key t ht ↦ h key.1 key.2 t ht, fun h space id t ht ↦ h (space, id) t ht⟩

theorem keyed_restore (snapshot : Snapshot) : snapshot.restore.gateway.Keyed :=
  keyed_iff.mpr (Table.keyedBy_empty.foldl_insert snapshot.transactions)

end Gateway
end ShopPayments
