import ShopPayments.Order.Codec
import ShopPayments.Proofs.CalendarDate
import ShopPayments.Proofs.Json.Shape

/-!
# Orders arrive

Everything that the shop hands over arrives with its decimals read back.  Each type names those of
its fields that hold decimals or dates, and its proof goes through its fields in their order: a
field arrives, and the shape takes it from the place where it was written.  How many levels of
containers a type has follows from its fields in the same way.
-/

namespace ShopPayments

open Shape (Fills)

/-! ## Prices -/

instance : Portable CalculatedTax where
  Legible c t := Legible c t.tax ∧ Legible c t.rate ∧ Legible c t.price
  mapDecimals f t := ⟨f t.tax, f t.rate, f t.price⟩
  mapDecimals_id _ := rfl
  levels := _
  arrives h := (Fills.required (arrives h.1)).map CalculatedTax.mk
    |>.seq (.required (arrives h.2.1)) |>.seq (.required (arrives h.2.2))
    |>.arrives rfl rfl (by decide)

instance : Portable TaxRule where
  Legible c r := Legible c r.rate ∧ Legible c r.percentage
  mapDecimals f r := ⟨f r.rate, f r.percentage⟩
  mapDecimals_id _ := rfl
  levels := _
  arrives h := (Fills.required (arrives h.1)).map TaxRule.mk
    |>.seq (.defaulted (arrives h.2)) |>.arrives rfl rfl (by decide)

instance : Portable Price where
  Legible c p := Legible c p.unitPrice ∧ Legible c p.total ∧ Legible c p.taxes ∧ Legible c p.rules
  mapDecimals f p := { p with
    unitPrice := f p.unitPrice, total := f p.total
    taxes := mapDecimals f p.taxes, rules := mapDecimals f p.rules }
  mapDecimals_id p := by simp [mapDecimals_id]
  levels := _
  arrives {_ p} h := (Fills.defaulted (arrives h.1)).map Price.mk
    |>.seq (.defaulted (plain p.quantity)) |>.seq (.defaulted (arrives h.2.1))
    |>.seq (.defaulted (arrives h.2.2.1)) |>.seq (.defaulted (arrives h.2.2.2))
    |>.arrives rfl rfl (by decide)

instance : NotNull Price := Shape.notNull rfl

/-! ## Items -/

instance : Plain PriceDefinition where
  levels := 0
  plain p := by cases p <;> exact arrives_name rfl rfl

instance : NotNull PriceDefinition := notNull_of_decodeName rfl

instance : Plain ItemKind where
  levels := 0
  plain k := by cases k <;> exact arrives_name rfl rfl

instance : Plain ProductOption where
  levels := _
  plain o := (Fills.required (plain o.group)).map ProductOption.mk
    |>.seq (.required (plain o.option)) |>.arrives rfl rfl (by decide)

instance : Plain ProductData where
  levels := _
  plain d := (Fills.defaulted (plain d.number)).map ProductData.mk
    |>.seq (.defaulted (plain d.options)) |>.arrives rfl rfl (by decide)

instance : Portable OrderItem where
  Legible c i := Legible c i.total ∧ Legible c i.price
  mapDecimals f i := { i with total := mapDecimals f i.total, price := mapDecimals f i.price }
  mapDecimals_id i := by simp [mapDecimals_id]
  levels := _
  arrives {_ i} h := (Fills.required (plain i.id)).map OrderItem.mk
    |>.seq (.defaulted (plain i.parentId)) |>.seq (.defaulted (plain i.kind))
    |>.seq (.defaulted (plain i.label)) |>.seq (.defaulted (plain i.productId))
    |>.seq (.defaulted (plain i.quantity)) |>.seq (.defaulted (arrives h.1))
    |>.seq (.defaulted (arrives h.2)) |>.seq (.defaulted (plain i.definition))
    |>.seq (.defaulted (plain i.product)) |>.arrives rfl rfl (by decide)

/-! ## Orders -/

instance : Plain TaxStatus where
  levels := 0
  plain s := by cases s <;> exact arrives_name rfl rfl

instance : Portable Order where
  Legible c o := Legible c o.total ∧ Legible c o.shippingTotal ∧ Legible c o.shippingCosts ∧
    Legible c o.items
  mapDecimals f o := { o with
    total := f o.total, shippingTotal := f o.shippingTotal
    shippingCosts := mapDecimals f o.shippingCosts, items := mapDecimals f o.items }
  mapDecimals_id o := by simp [mapDecimals_id]
  levels := _
  arrives {_ o} h := (Fills.required (plain o.id)).map Order.mk
    |>.seq (.required (plain o.number)) |>.seq (.required (plain o.currency))
    |>.seq (.defaulted (plain o.taxStatus)) |>.seq (.required (arrives h.1))
    |>.seq (.defaulted (arrives h.2.1)) |>.seq (.defaulted (arrives h.2.2.1))
    |>.seq (.defaulted (arrives h.2.2.2)) |>.seq (.defaulted (plain o.comment))
    |>.seq (.defaulted (plain o.transactionIds)) |>.arrives rfl rfl (by decide)

/-! ## Customers -/

instance : Plain Salutation where
  levels := _
  plain s := (Fills.optional (plain s.name)).map Salutation.mk |>.arrives rfl rfl (by decide)

instance : NotNull Salutation := Shape.notNull rfl

instance : Plain Country where
  levels := _
  plain c := (Fills.optional (plain c.iso)).map Country.mk |>.arrives rfl rfl (by decide)

instance : NotNull Country := Shape.notNull rfl

instance : Plain CountryState where
  levels := _
  plain s := (Fills.defaulted (plain s.name)).map CountryState.mk
    |>.seq (.defaulted (plain s.shortCode)) |>.arrives rfl rfl (by decide)

instance : NotNull CountryState := Shape.notNull rfl

instance : Plain Address where
  levels := _
  plain a := (Fills.defaulted (plain a.firstName)).map Address.mk
    |>.seq (.defaulted (plain a.lastName)) |>.seq (.defaulted (plain a.company))
    |>.seq (.defaulted (plain a.department)) |>.seq (.defaulted (plain a.street))
    |>.seq (.defaulted (plain a.zipcode)) |>.seq (.defaulted (plain a.city))
    |>.seq (.defaulted (plain a.phone)) |>.seq (.defaulted (plain a.extraLine1))
    |>.seq (.defaulted (plain a.extraLine2)) |>.seq (.defaulted (plain a.country))
    |>.seq (.defaulted (plain a.state)) |>.seq (.defaulted (plain a.salutation))
    |>.arrives rfl rfl (by decide)

instance : NotNull Address := Shape.notNull rfl

/-- A customer arrives if the birthday is a date. -/
theorem Customer.arrives {c : Carrier} {customer : Customer}
    (h : ∀ date ∈ customer.birthday, date.Exists) : Json.Arrives c 3 (encode customer) customer :=
  (Fills.defaulted (plain customer.number)).map Customer.mk
    |>.seq (.defaulted (plain customer.guest)) |>.seq (.required (plain customer.email))
    |>.seq (.defaulted (plain customer.firstName)) |>.seq (.defaulted (plain customer.lastName))
    |>.seq (.defaulted (plain customer.salutation))
    |>.seq (.defaulted (arrives_option_self fun date hdate ↦ (h date hdate).arrives))
    |>.seq (.defaulted (plain customer.vatIds)) |>.seq (.required (plain customer.billing))
    |>.seq (.required (plain customer.shipping)) |>.seq (.defaulted (plain customer.usualBilling))
    |>.seq (.defaulted (plain customer.usualShipping)) |>.arrives rfl rfl (by decide)

/-! ## Checkouts -/

instance : Plain SalesContext where
  levels := _
  plain c := (Fills.required (plain c.salesChannel)).map SalesContext.mk
    |>.seq (.required (plain c.paymentMethod)) |>.seq (.defaulted (plain c.shippingMethod))
    |>.seq (.defaulted (plain c.locale)) |>.arrives rfl rfl (by decide)

instance : Plain PendingTransaction where
  levels := _
  plain p := (Fills.required (plain p.id)).map PendingTransaction.mk
    |>.seq (.required (plain p.version)) |>.seq (.required (plain p.returnUrl))
    |>.arrives rfl rfl (by decide)

instance : Portable Checkout where
  Legible c checkout :=
    Legible c checkout.order ∧ ∀ date ∈ checkout.customer.birthday, date.Exists
  mapDecimals f checkout := { checkout with order := mapDecimals f checkout.order }
  mapDecimals_id checkout := by simp [mapDecimals_id]
  levels := _
  arrives {_ checkout} h := (Fills.required (arrives h.1)).map Checkout.mk
    |>.seq (.required (Customer.arrives h.2)) |>.seq (.required (plain checkout.context))
    |>.seq (.required (plain checkout.pending)) |>.arrives rfl rfl (by decide)

end ShopPayments
