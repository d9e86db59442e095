import ShopPayments.Proofs.Json.Shape
import ShopPayments.Settings.Codec

/-!
# Settings arrive
-/

namespace ShopPayments

open Shape (Fills)

instance : Plain Integration where
  levels := 0
  plain i := by cases i <;> exact arrives_name rfl rfl

instance : NotNull Integration := notNull_of_decodeName rfl

instance : Plain Labels where
  levels := _
  plain l := (Fills.defaulted (plain l.taxes)).map Labels.mk
    |>.seq (.defaulted (plain l.shippingName)) |>.seq (.defaulted (plain l.shippingItem))
    |>.seq (.defaulted (plain l.adjustmentItem)) |>.arrives rfl rfl (by decide)

instance : Portable SettingsValues where
  Legible c v := Legible c v.defaultTaxRate
  mapDecimals f v := { v with defaultTaxRate := mapDecimals f v.defaultTaxRate }
  mapDecimals_id v := by simp [mapDecimals_id]
  levels := _
  arrives {_ v} h := (Fills.defaulted (plain v.spaceId)).map SettingsValues.mk
    |>.seq (.defaulted (plain v.userId)) |>.seq (.defaulted (plain v.applicationKey))
    |>.seq (.defaulted (plain v.spaceViewId)) |>.seq (.defaulted (plain v.integration))
    |>.seq (.defaulted (plain v.emailEnabled)) |>.seq (.defaulted (plain v.strictTotals))
    |>.seq (.defaulted (plain v.invoiceDownload)) |>.seq (.defaulted (plain v.webhooksUpdate))
    |>.seq (.defaulted (plain v.paymentsUpdate)) |>.seq (.defaulted (arrives h))
    |>.seq (.defaulted (plain v.storefrontUrl)) |>.arrives rfl rfl (by decide)

instance : Portable SettingsFile where
  Legible c file := Legible c file.default ∧ Legible c file.channels
  mapDecimals f file := { file with
    default := mapDecimals f file.default, channels := mapDecimals f file.channels }
  mapDecimals_id file := by simp [mapDecimals_id]
  levels := _
  arrives {_ file} h := (Fills.defaulted (arrives h.1)).map SettingsFile.mk
    |>.seq (.defaulted (arrives h.2)) |>.seq (.defaulted (plain file.labels))
    |>.arrives rfl rfl (by decide)

end ShopPayments
