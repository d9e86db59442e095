import ShopPayments.Dictionary
import ShopPayments.Money

/-!
# Settings

Settings are stored with every value optional: one default section and a section
for each sales channel, which inherits what it leaves unset. `SettingsFile.resolve`
gives the settings in force for a channel.
-/

namespace ShopPayments

/-- How the payment form is shown. -/
inductive Integration where
  | paymentPage
  | iframe
  | lightbox
  deriving DecidableEq, Repr

/-- The settings in force for a sales channel. -/
structure Settings where
  spaceId : UInt64
  userId : UInt64
  applicationKey : String
  spaceViewId : Option UInt64
  integration : Integration
  emailEnabled : Bool
  /-- Turn down an order whose items do not add up, instead of adding an adjustment. -/
  strictTotals : Bool
  invoiceDownload : Bool
  webhooksUpdate : Bool
  paymentsUpdate : Bool
  /-- Tax rate of promotions without tax rules. -/
  defaultTaxRate : Decimal
  storefrontUrl : String
  deriving DecidableEq

/-- Texts that go into generated items. -/
structure Labels where
  taxes : String
  shippingName : String
  shippingItem : String
  adjustmentItem : String
  deriving DecidableEq, Repr

namespace Labels

/-- The English texts. -/
def standard : Labels := ⟨"Taxes", "Shipping", "Shipping", "Adjustment Line Item"⟩

end Labels

/-- A section of stored settings. -/
structure SettingsValues where
  spaceId : Option UInt64
  userId : Option UInt64
  applicationKey : Option String
  spaceViewId : Option UInt64
  integration : Option Integration
  emailEnabled : Option Bool
  strictTotals : Option Bool
  invoiceDownload : Option Bool
  webhooksUpdate : Option Bool
  paymentsUpdate : Option Bool
  defaultTaxRate : Option Decimal
  storefrontUrl : Option String
  deriving DecidableEq

namespace SettingsValues

/-- A section without values. -/
def unset : SettingsValues :=
  ⟨none, none, none, none, none, none, none, none, none, none, none, none⟩

/-- Fills unset values from another section. Empty texts count as unset. -/
def inherit (own fallback : SettingsValues) : SettingsValues where
  spaceId := own.spaceId <|> fallback.spaceId
  userId := own.userId <|> fallback.userId
  applicationKey := Text.filled? own.applicationKey <|> fallback.applicationKey
  spaceViewId := own.spaceViewId <|> fallback.spaceViewId
  integration := own.integration <|> fallback.integration
  emailEnabled := own.emailEnabled <|> fallback.emailEnabled
  strictTotals := own.strictTotals <|> fallback.strictTotals
  invoiceDownload := own.invoiceDownload <|> fallback.invoiceDownload
  webhooksUpdate := own.webhooksUpdate <|> fallback.webhooksUpdate
  paymentsUpdate := own.paymentsUpdate <|> fallback.paymentsUpdate
  defaultTaxRate := own.defaultTaxRate <|> fallback.defaultTaxRate
  storefrontUrl := Text.filled? own.storefrontUrl <|> fallback.storefrontUrl

/-- Tax rate in percent where none is set. -/
def standardTaxRate : Decimal := .ofUInt32 21

/-- The settings of a section, which has to name space, user and key. -/
def settings (v : SettingsValues) : Except Failure Settings :=
  match v.spaceId, v.userId, Text.filled? v.applicationKey with
  | none, _, _ => .error (.notConfigured .spaceId)
  | _, none, _ => .error (.notConfigured .userId)
  | _, _, none => .error (.notConfigured .applicationKey)
  | some spaceId, some userId, some applicationKey => .ok
    { spaceId, userId, applicationKey
      spaceViewId := v.spaceViewId
      integration := v.integration.getD .paymentPage
      emailEnabled := v.emailEnabled.getD true
      strictTotals := v.strictTotals.getD true
      invoiceDownload := v.invoiceDownload.getD true
      webhooksUpdate := v.webhooksUpdate.getD true
      paymentsUpdate := v.paymentsUpdate.getD true
      defaultTaxRate := v.defaultTaxRate.getD standardTaxRate
      storefrontUrl := v.storefrontUrl.getD "" }

end SettingsValues

/-- All stored settings. -/
structure SettingsFile where
  default : SettingsValues
  channels : Dictionary SettingsValues
  labels : Labels

namespace SettingsFile

/-- Settings without any value. -/
def unset : SettingsFile := ⟨.unset, .empty, .standard⟩

/-- The section in force for a sales channel; the default one for an unknown channel and
for none. -/
def valuesFor (file : SettingsFile) (channel : Option String) : SettingsValues :=
  match channel.bind file.channels.get? with
  | some own => own.inherit file.default
  | none => file.default

/-- The settings in force for a sales channel. -/
def resolve (file : SettingsFile) (channel : Option String) : Except Failure Settings :=
  (file.valuesFor channel).settings

end SettingsFile
end ShopPayments
