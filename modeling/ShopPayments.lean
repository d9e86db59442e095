import ShopPayments.Binary64
import ShopPayments.Binary64.Shortest
import ShopPayments.CalendarDate
import ShopPayments.Checkout
import ShopPayments.Cli.Arguments
import ShopPayments.Cli.Directory
import ShopPayments.Cli.Program
import ShopPayments.Decimal
import ShopPayments.Decimal.Arithmetic
import ShopPayments.Decimal.Text
import ShopPayments.Decimal.Wire
import ShopPayments.Dictionary
import ShopPayments.Failure
import ShopPayments.Gateway
import ShopPayments.Http.MediaType
import ShopPayments.Http.Message
import ShopPayments.Http.RefundApi
import ShopPayments.Json
import ShopPayments.Json.Codec
import ShopPayments.Json.Numeral
import ShopPayments.Json.Printer
import ShopPayments.Json.Reader
import ShopPayments.Json.Shape
import ShopPayments.Main
import ShopPayments.Money
import ShopPayments.Order
import ShopPayments.Order.Codec
import ShopPayments.Payload
import ShopPayments.Payload.Codec
import ShopPayments.Payload.Discounts
import ShopPayments.Payload.Items
import ShopPayments.Payload.Preparation
import ShopPayments.Payload.Sale
import ShopPayments.Payload.Shipping
import ShopPayments.PaymentMethod
import ShopPayments.Powers
import ShopPayments.Proofs.ByteOrder
import ShopPayments.Proofs.CalendarDate
import ShopPayments.Proofs.Decimal.Arithmetic
import ShopPayments.Proofs.Decimal.Fit
import ShopPayments.Proofs.Decimal.Quantity
import ShopPayments.Proofs.Decimal.Quotient
import ShopPayments.Proofs.Decimal.Reading
import ShopPayments.Proofs.Decimal.Sum
import ShopPayments.Proofs.Decimal.Text
import ShopPayments.Proofs.Decimal.Tolerance
import ShopPayments.Proofs.Gateway.Batch
import ShopPayments.Proofs.Gateway.Booking
import ShopPayments.Proofs.Gateway.Conservation
import ShopPayments.Proofs.Gateway.Keys
import ShopPayments.Proofs.Gateway.Room
import ShopPayments.Proofs.Gateway.UnitOffers
import ShopPayments.Proofs.Gateway.UnitTotals
import ShopPayments.Proofs.Http.AllOrNothing
import ShopPayments.Proofs.Http.Drift
import ShopPayments.Proofs.Http.Endpoints
import ShopPayments.Proofs.Http.InPlace
import ShopPayments.Proofs.Http.Interleaving
import ShopPayments.Proofs.Http.LineItems
import ShopPayments.Proofs.Http.NoCrash
import ShopPayments.Proofs.Http.PlainAmounts
import ShopPayments.Proofs.Http.Refundable
import ShopPayments.Proofs.Http.Rejections
import ShopPayments.Proofs.Http.Report
import ShopPayments.Proofs.Http.Spaces
import ShopPayments.Proofs.Http.SplitUnits
import ShopPayments.Proofs.Http.UnitCount
import ShopPayments.Proofs.Json.Carrier
import ShopPayments.Proofs.Json.Numeral
import ShopPayments.Proofs.Json.RoundTrip
import ShopPayments.Proofs.Json.Shape
import ShopPayments.Proofs.Json.Text
import ShopPayments.Proofs.Json.Values
import ShopPayments.Proofs.Money
import ShopPayments.Proofs.NearestCents
import ShopPayments.Proofs.Order.Codec
import ShopPayments.Proofs.Outcome
import ShopPayments.Proofs.Payload.Acceptance
import ShopPayments.Proofs.Payload.Balance
import ShopPayments.Proofs.Payload.Codec
import ShopPayments.Proofs.Payload.Completeness
import ShopPayments.Proofs.Payload.Consistency
import ShopPayments.Proofs.Payload.Discounts
import ShopPayments.Proofs.Payload.Items
import ShopPayments.Proofs.Payload.PromotionShares
import ShopPayments.Proofs.Payload.Reordering
import ShopPayments.Proofs.Payload.Sale
import ShopPayments.Proofs.Payload.Shipping
import ShopPayments.Proofs.Payload.ShippingPart
import ShopPayments.Proofs.Payload.UniqueIds
import ShopPayments.Proofs.Payload.Validity
import ShopPayments.Proofs.PaymentMethod.Origin
import ShopPayments.Proofs.PaymentMethod.Synchronization
import ShopPayments.Proofs.Refund.Anonymous
import ShopPayments.Proofs.Refund.Ceilings
import ShopPayments.Proofs.Refund.Csv
import ShopPayments.Proofs.Refund.Parts
import ShopPayments.Proofs.Refund.Report
import ShopPayments.Proofs.Refund.Requests
import ShopPayments.Proofs.Refund.UnitPrices
import ShopPayments.Proofs.Refund.Units
import ShopPayments.Proofs.Rounding
import ShopPayments.Proofs.Settings.Codec
import ShopPayments.Proofs.Snapshot.Codec
import ShopPayments.Proofs.Snapshot.Keys
import ShopPayments.Proofs.Snapshot.Numbering
import ShopPayments.Proofs.Snapshot.RoundTrip
import ShopPayments.Proofs.Sorting
import ShopPayments.Proofs.Table
import ShopPayments.Proofs.Text
import ShopPayments.Proofs.Transaction.Codec
import ShopPayments.Refund.Builder
import ShopPayments.Refund.Csv
import ShopPayments.Refund.Limits
import ShopPayments.Refund.Pricing
import ShopPayments.Refund.Report
import ShopPayments.Refund.Submission
import ShopPayments.Rounding
import ShopPayments.Settings
import ShopPayments.Settings.Codec
import ShopPayments.Snapshot
import ShopPayments.Snapshot.Codec
import ShopPayments.Table
import ShopPayments.Text
import ShopPayments.Text.Digest
import ShopPayments.Transaction
import ShopPayments.Transaction.Codec
