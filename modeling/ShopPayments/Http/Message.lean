import ShopPayments.Failure
import ShopPayments.Http.MediaType

/-!
# Messages of the administrative API

Requests and responses. The wording of a body that could not be read is left
open, and a handler whose arithmetic overflows ends without a response.
-/

namespace ShopPayments
namespace Http

/-- A request to the administrative API. -/
structure Request where
  path : String
  method : String
  contentType : Option String
  body : String

/-- A status with a text, which is left open where only the status is fixed. -/
structure Response where
  status : Nat
  body : Option String
  deriving DecidableEq, Repr

/-- What comes of a request. -/
inductive Reply where
  | response (response : Response)
  | crash (operation : Overflow)
  deriving DecidableEq

/-- Why a handler turns a request down. -/
inductive Rejection where
  /-- A text that the administration translates. -/
  | key (text : String)
  | failure (cause : Failure)
  deriving DecidableEq

instance : MonadLift (Except Failure) (Except Rejection) where
  monadLift
    | .ok a => .ok a
    | .error f => .error (.failure f)

/-- The reply to a request that was turned down. -/
def Rejection.reply : Rejection → Reply
  | .key text => .response ⟨400, some text⟩
  | .failure (.refundsUnsupported _) => .response ⟨400, some "methodDoesNotSupportRefund"⟩
  | .failure (.unknownTransaction id) =>
    .response ⟨404, some (Failure.unknownTransaction id).message⟩
  | .failure (.overflow operation) => .crash operation
  | .failure f => .response ⟨500, some f.message⟩

end Http
end ShopPayments
