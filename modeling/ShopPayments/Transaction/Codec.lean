import ShopPayments.Payload.Codec
import ShopPayments.Transaction

/-!
# Transactions and refunds as JSON

Requests leave out what they do not set; records keep every field.
-/

namespace ShopPayments

open Json (member memberUnless memberIfSome)
open Shape (required optional defaulted)

instance : Encode TransactionState where
  encode
    | .create => .string "CREATE"
    | .pending => .string "PENDING"
    | .confirmed => .string "CONFIRMED"
    | .processing => .string "PROCESSING"
    | .failed => .string "FAILED"
    | .authorized => .string "AUTHORIZED"
    | .voided => .string "VOIDED"
    | .completed => .string "COMPLETED"
    | .fulfill => .string "FULFILL"
    | .decline => .string "DECLINE"

/-- The state of a transaction of a name. -/
def TransactionState.ofName? : String → Option TransactionState
  | "CREATE" => some .create
  | "PENDING" => some .pending
  | "CONFIRMED" => some .confirmed
  | "PROCESSING" => some .processing
  | "FAILED" => some .failed
  | "AUTHORIZED" => some .authorized
  | "VOIDED" => some .voided
  | "COMPLETED" => some .completed
  | "FULFILL" => some .fulfill
  | "DECLINE" => some .decline
  | _ => none

instance : Decode TransactionState := ⟨Json.decodeName TransactionState.ofName?⟩

instance : Encode TransactionItem where
  encode i := .object [
    member "unique_id" i.uniqueId,
    member "name" i.name,
    member "sku" i.sku,
    member "quantity" i.quantity,
    member "unit_price_including_tax" i.unitPrice,
    member "amount_including_tax" i.amount,
    member "type" i.type]

instance : Decode TransactionItem where
  decode := Shape.run <|
    TransactionItem.mk <$> required "unique_id" <*> required "name" <*> defaulted "sku" none
      <*> required "quantity" <*> required "unit_price_including_tax"
      <*> required "amount_including_tax" <*> required "type"

instance : Encode Transaction where
  encode t := .object [
    member "id" t.id,
    member "linked_space_id" t.space,
    member "state" t.state,
    member "merchant_reference" t.merchantReference,
    member "currency" t.currency,
    member "authorization_amount" t.authorized,
    member "completed_amount" t.captured,
    member "refunded_amount" t.refunded,
    member "line_items" t.items,
    member "online_refund_supported" t.supportsRefunds]

instance : Decode Transaction where
  decode := Shape.run <|
    Transaction.mk <$> required "id" <*> required "linked_space_id" <*> required "state"
      <*> defaulted "merchant_reference" none <*> required "currency"
      <*> defaulted "authorization_amount" 0 <*> defaulted "completed_amount" 0
      <*> defaulted "refunded_amount" 0 <*> defaulted "line_items" []
      <*> defaulted "online_refund_supported" true

instance : Encode RefundType where
  encode
    | .merchantOnline => .string "MERCHANT_INITIATED_ONLINE"
    | .merchantOffline => .string "MERCHANT_INITIATED_OFFLINE"
    | .customerAutomatic => .string "CUSTOMER_INITIATED_AUTOMATIC"
    | .customerManual => .string "CUSTOMER_INITIATED_MANUAL"

/-- The type of a refund of a name. -/
def RefundType.ofName? : String → Option RefundType
  | "MERCHANT_INITIATED_ONLINE" => some .merchantOnline
  | "MERCHANT_INITIATED_OFFLINE" => some .merchantOffline
  | "CUSTOMER_INITIATED_AUTOMATIC" => some .customerAutomatic
  | "CUSTOMER_INITIATED_MANUAL" => some .customerManual
  | _ => none

instance : Decode RefundType := ⟨Json.decodeName RefundType.ofName?⟩

instance : Encode Reduction where
  encode r := .object [
    member "line_item_unique_id" r.item,
    member "quantity_reduction" r.units,
    member "unit_price_reduction" r.priceCut]

instance : Decode Reduction where
  decode := Shape.run <|
    Reduction.mk <$> required "line_item_unique_id" <*> required "quantity_reduction"
      <*> required "unit_price_reduction"

instance : Encode RefundRequest where
  encode r := .object <|
    memberIfSome "amount" r.amount
      ++ [member "external_id" r.externalId]
      ++ memberIfSome "merchant_reference" r.merchantReference
      ++ memberUnless r.reductions.isEmpty "reductions" r.reductions
      ++ [member "transaction" r.transaction, member "type" r.type]

instance : Decode RefundRequest where
  decode := Shape.run <|
    RefundRequest.mk <$> defaulted "amount" none <*> required "external_id"
      <*> defaulted "merchant_reference" none <*> defaulted "reductions" []
      <*> required "transaction" <*> required "type"

instance : Encode RefundState where
  encode
    | .create => .string "CREATE"
    | .scheduled => .string "SCHEDULED"
    | .pending => .string "PENDING"
    | .manualCheck => .string "MANUAL_CHECK"
    | .failed => .string "FAILED"
    | .successful => .string "SUCCESSFUL"

/-- The state of a refund of a name. -/
def RefundState.ofName? : String → Option RefundState
  | "CREATE" => some .create
  | "SCHEDULED" => some .scheduled
  | "PENDING" => some .pending
  | "MANUAL_CHECK" => some .manualCheck
  | "FAILED" => some .failed
  | "SUCCESSFUL" => some .successful
  | _ => none

instance : Decode RefundState := ⟨Json.decodeName RefundState.ofName?⟩

instance : Encode Refund where
  encode r := .object [
    member "id" r.id,
    member "linked_space_id" r.space,
    member "transaction" r.transaction,
    member "state" r.state,
    member "amount" r.amount,
    member "external_id" r.externalId,
    member "reductions" r.reductions]

instance : Decode Refund where
  decode := Shape.run <|
    Refund.mk <$> required "id" <*> defaulted "linked_space_id" 0 <*> required "transaction"
      <*> required "state" <*> required "amount" <*> required "external_id"
      <*> defaulted "reductions" []

end ShopPayments
