import ShopPayments.Json.Shape
import ShopPayments.Settings

/-!
# Settings as JSON

The stored settings and the settings in force.
-/

namespace ShopPayments

open Json (member)
open Shape (required optional defaulted)

instance : Encode Integration where
  encode
    | .paymentPage => .string "payment_page"
    | .iframe => .string "iframe"
    | .lightbox => .string "lightbox"

/-- The way of showing the payment form of a name. -/
def Integration.ofName? : String → Option Integration
  | "payment_page" => some .paymentPage
  | "iframe" => some .iframe
  | "lightbox" => some .lightbox
  | _ => none

instance : Decode Integration := ⟨Json.decodeName Integration.ofName?⟩

instance : Encode Settings where
  encode s := .object [
    member "space_id" s.spaceId,
    member "user_id" s.userId,
    member "application_key" s.applicationKey,
    member "space_view_id" s.spaceViewId,
    member "integration" s.integration,
    member "email_enabled" s.emailEnabled,
    member "line_item_consistency_enabled" s.strictTotals,
    member "storefront_invoice_download_enabled" s.invoiceDownload,
    member "storefront_webhooks_update_enabled" s.webhooksUpdate,
    member "storefront_payments_update_enabled" s.paymentsUpdate,
    member "default_tax_rate" s.defaultTaxRate,
    member "storefront_url" s.storefrontUrl]

instance : Decode Settings where
  decode := Shape.run <|
    Settings.mk <$> required "space_id" <*> required "user_id" <*> required "application_key"
      <*> optional "space_view_id" <*> required "integration" <*> required "email_enabled"
      <*> required "line_item_consistency_enabled"
      <*> required "storefront_invoice_download_enabled"
      <*> required "storefront_webhooks_update_enabled"
      <*> required "storefront_payments_update_enabled" <*> required "default_tax_rate"
      <*> required "storefront_url"

instance : Encode Labels where
  encode l := .object [
    member "taxes" l.taxes,
    member "shipping_name" l.shippingName,
    member "shipping_line_item" l.shippingItem,
    member "adjustment_line_item" l.adjustmentItem]

instance : Decode Labels where
  decode := Shape.run <|
    Labels.mk <$> defaulted "taxes" Labels.standard.taxes
      <*> defaulted "shipping_name" Labels.standard.shippingName
      <*> defaulted "shipping_line_item" Labels.standard.shippingItem
      <*> defaulted "adjustment_line_item" Labels.standard.adjustmentItem

instance : Encode SettingsValues where
  encode v := .object [
    member "space_id" v.spaceId,
    member "user_id" v.userId,
    member "application_key" v.applicationKey,
    member "space_view_id" v.spaceViewId,
    member "integration" v.integration,
    member "email_enabled" v.emailEnabled,
    member "line_item_consistency_enabled" v.strictTotals,
    member "storefront_invoice_download_enabled" v.invoiceDownload,
    member "storefront_webhooks_update_enabled" v.webhooksUpdate,
    member "storefront_payments_update_enabled" v.paymentsUpdate,
    member "default_tax_rate" v.defaultTaxRate,
    member "storefront_url" v.storefrontUrl]

instance : Decode SettingsValues where
  decode := Shape.run <|
    SettingsValues.mk <$> defaulted "space_id" none <*> defaulted "user_id" none
      <*> defaulted "application_key" none <*> defaulted "space_view_id" none
      <*> defaulted "integration" none <*> defaulted "email_enabled" none
      <*> defaulted "line_item_consistency_enabled" none
      <*> defaulted "storefront_invoice_download_enabled" none
      <*> defaulted "storefront_webhooks_update_enabled" none
      <*> defaulted "storefront_payments_update_enabled" none
      <*> defaulted "default_tax_rate" none <*> defaulted "storefront_url" none

instance : Encode SettingsFile where
  encode f := .object [
    member "default" f.default,
    member "sales_channels" f.channels,
    member "labels" f.labels]

instance : Decode SettingsFile where
  decode := Shape.run <|
    SettingsFile.mk <$> defaulted "default" SettingsValues.unset
      <*> defaulted "sales_channels" Dictionary.empty <*> defaulted "labels" Labels.standard

/-- Reads stored settings from the text of their file, if there is one. -/
def SettingsFile.load (content : Option String) : Except Failure SettingsFile :=
  match content with
  | none => .error .fileMissing
  | some text =>
    match Json.parse text with
    | .ok file => .ok file
    | .error _ => .error .malformed

end ShopPayments
