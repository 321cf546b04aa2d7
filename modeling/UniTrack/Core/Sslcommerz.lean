import UniTrack.Python.Datetime
import UniTrack.Python.Fixed

/-!
# The payment gateway's answers (`app/core/sslcommerz.py`)

What the gateway says about a payment is an untyped JSON object. Only the keys
that the program reads, and the `tran_id` the payment was made for, are kept;
a key is `none` when the object does not have it. The HTTP exchange itself is
outside the model: a body is what it decodes to, a gateway is whatever answers
its three calls give.
-/

namespace UniTrack.Sslcommerz

open UniTrack.Python

/-- A decoded JSON value. A float carries its `repr`, an array or object its
`repr` and whether it is empty: nothing else of them is ever read. -/
inductive Json where
  | null
  | bool (b : Bool)
  | int (n : Int)
  | float (repr : Text) (value : PyFloat)
  | str (s : Text)
  | container (repr : Text) (empty : Bool)
deriving DecidableEq

/-- `bool(value)`. -/
def Json.truthy : Json → Bool
  | .null => false
  | .bool b => b
  | .int n => n != 0
  | .float _ (.finite q) => q != 0
  | .float _ _ => true
  | .str s => s != []
  | .container _ empty => !empty

/-- `str(value)`. -/
def Json.text : Json → Text
  | .null => "None".toList
  | .bool true => "True".toList
  | .bool false => "False".toList
  | .int n => decimal n
  | .float repr _ => repr
  | .str s => s
  | .container repr _ => repr

/-- `a or b`. -/
def Json.orElse (a b : Json) : Json := if a.truthy then a else b

/-- `float(value)`; `none` is a `TypeError` or a `ValueError`. -/
def Json.toFloat : Json → Option PyFloat
  | .bool b => some (.finite (if b then 1 else 0))
  | .int n => some (.finite n)
  | .float _ value => some value
  | .str s => parseFloat s
  | .null => none
  | .container _ _ => none

/-- A validation response, or one element of a transaction query. -/
structure Validation where
  status : Option Json := none
  currencyAmount : Option Json := none
  amount : Option Json := none
  currencyType : Option Json := none
  currency : Option Json := none
  riskLevel : Option Json := none
  valId : Option Json := none
  bankTranId : Option Json := none
  cardType : Option Json := none
  tranId : Option Json := none
  /-- the rest of it, what its containers hold included, is text without NUL and
  finite numbers -/
  restPlain : Bool := true
deriving DecidableEq

/-- `d.get(key)`: an absent key reads as null. -/
def get (value : Option Json) : Json := value.getD .null

/-- `validation.setdefault("val_id", val_id)`. -/
def Validation.setdefaultValId (v : Validation) (valId : Text) : Validation :=
  { v with valId := some (v.valId.getD (.str valId)) }

def successfulStatuses : List Text := ["VALID".toList, "VALIDATED".toList]

def paymentSucceeded (validation : Validation) : Bool :=
  upper (validation.status.getD (.str [])).text ∈ successfulStatuses

/-- `round(float(raw_amount) * 100)`. The `TypeError` and `ValueError` are
caught (`none`); the `OverflowError` of an infinite or too large value is not. -/
def settledPaisa (rawAmount : Json) : Except Uncaught (Option Int) :=
  match rawAmount.toFloat with
  | none => .ok none
  | some .nan => .ok none
  | some .infinite => .error .overflowError
  | some (.finite q) =>
      if maxDouble ≤ |q * 100| then .error .overflowError
      else .ok (some (roundHalfEven (q * 100)))

def amountMatches (validation : Validation) (expectedPaisa : Int)
    (expectedCurrency : Text) : Except Uncaught Bool :=
  let rawAmount := (get validation.currencyAmount).orElse (get validation.amount)
  let rawCurrency := (get validation.currencyType).orElse (get validation.currency)
  match settledPaisa rawAmount with
  | .error e => .error e
  | .ok none => .ok false
  | .ok (some settled) =>
      let currencyOk := upper (rawCurrency.orElse (.str [])).text = upper expectedCurrency
      .ok (settled = expectedPaisa ∧ currencyOk)

def riskFlagged (validation : Validation) : Bool :=
  (validation.riskLevel.getD (.str [])).text = "1".toList

/-- The gateway could not be reached, or answered something unusable. -/
structure GatewayError where
  message : String
deriving DecidableEq

/-- What `create_session` is asked to open a payment page for. -/
structure SessionRequest where
  tranId : Text
  amountPaisa : Int
  currency : Text
  customerName : Text
  customerEmail : Text
  customerPhone : Option Text
  productName : Text
deriving DecidableEq

/-- The credentials of the store. -/
structure StoreSettings where
  storeId : Text
  storePasswd : Text

/-- Where the gateway sends the student, and its own report. -/
structure Callbacks where
  successUrl : Text
  failUrl : Text
  cancelUrl : Text
  ipnUrl : Option Text

/-- The form that `create_session` posts. -/
structure SessionPayload where
  storeId : Text
  storePasswd : Text
  totalAmount : Text
  currency : Text
  tranId : Text
  successUrl : Text
  failUrl : Text
  cancelUrl : Text
  shippingMethod : Text := "NO".toList
  productName : Text
  productCategory : Text := "transport".toList
  productProfile : Text := "non-physical-".toList ++ "goods".toList
  cusName : Text
  cusEmail : Text
  cusPhone : Text
  cusAdd1 : Text := "N/A".toList
  cusCity : Text := "Dhaka".toList
  cusCountry : Text := "Bangladesh".toList
  ipnUrl : Option Text
deriving DecidableEq

/-- The amount goes out in major units, as a decimal string. -/
def sessionPayload (store : StoreSettings) (urls : Callbacks) (request : SessionRequest) :
    SessionPayload where
  storeId := store.storeId
  storePasswd := store.storePasswd
  totalAmount := fixed2 ((request.amountPaisa : ℚ) / 100)
  currency := request.currency
  tranId := request.tranId
  successUrl := urls.successUrl
  failUrl := urls.failUrl
  cancelUrl := urls.cancelUrl
  productName := request.productName
  cusName := request.customerName
  cusEmail := request.customerEmail
  cusPhone :=
    match request.customerPhone with
    | none => "N/A".toList
    | some phone => if phone = [] then "N/A".toList else phone
  ipnUrl := urls.ipnUrl.filter fun url => url != []

/-- The keys that are read of the answer to it. -/
structure SessionBody where
  status : Option Json := none
  gatewayPageUrl : Option Json := none
  failedReason : Option Json := none

/-- How a call of the client fails: with the error its callers expect, or with
another one. -/
inductive Failure where
  | gateway (e : GatewayError)
  | uncaught (e : Uncaught)
deriving DecidableEq

/-- `create_session`, over what the exchange makes of a form: the message of an
error, or a decoded body, which is `none` when it is no object. -/
def createSession (post : SessionPayload → Except String (Option SessionBody))
    (store : StoreSettings) (urls : Callbacks) (request : SessionRequest) : Except Failure Text :=
  match post (sessionPayload store urls request) with
  | .error e => .error (.gateway ⟨s!"session init failed: {e}"⟩)
  | .ok none => .error (.uncaught .attributeError)
  | .ok (some body) =>
      if get body.status ≠ .str "SUCCESS".toList ∨ (get body.gatewayPageUrl).truthy = false then
        let reason := ((get body.failedReason).orElse (get body.status)).text
        .error (.gateway ⟨s!"session refused: {String.ofList reason}"⟩)
      else .ok (get body.gatewayPageUrl).text

/-- One element of a transaction query; `none` is a value that is no object. -/
abbrev Element := Option Validation

/-- `query_by_tran_id`. A body that is an object is its `element`, where that is
a list. -/
def queryByTranId (exchange : Text → Except String (Option (Option (List Element))))
    (tranId : Text) : Except Failure (List Element) :=
  match exchange tranId with
  | .error e => .error (.gateway ⟨s!"transaction query failed: {e}"⟩)
  | .ok none => .error (.uncaught .attributeError)
  | .ok (some elements) => .ok (elements.getD [])

/-- What `dict` makes of a decoded body. -/
inductive DictOf where
  | dict (validation : Validation)
  /-- a list of something else than pairs, or a text -/
  | valueError (e : String)
  /-- a number, a boolean, null, or a list of such -/
  | typeError

/-- `validate`. -/
def validate (exchange : Text → Except String DictOf) (valId : Text) :
    Except Failure Validation :=
  match exchange valId with
  | .error e => .error (.gateway ⟨s!"validation failed: {e}"⟩)
  | .ok (.dict validation) => .ok validation
  | .ok (.valueError e) => .error (.gateway ⟨s!"validation failed: {e}"⟩)
  | .ok .typeError => .error (.uncaught .typeError)

/-- The answers the gateway gives to the calls of one request. -/
structure Gateway where
  createSession : SessionRequest → Except Failure Text
  validate : Text → Except Failure Validation
  queryByTranId : Text → Except Failure (List Element)

/-- `SslCommerzClient`, over its three exchanges. -/
def sslCommerzClient (post : SessionPayload → Except String (Option SessionBody))
    (query : Text → Except String (Option (Option (List Element))))
    (validation : Text → Except String DictOf) (store : StoreSettings) (urls : Callbacks) :
    Gateway where
  createSession := createSession post store urls
  validate := validate validation
  queryByTranId := queryByTranId query

/-- A payment that pays an order: it went through, for the order's amount and
currency, and is not held for a risk review. -/
def GoodPayment (validation : Validation) (amountPaisa : Int) (currency : Text) : Prop :=
  paymentSucceeded validation = true ∧
    amountMatches validation amountPaisa currency = .ok true ∧
    riskFlagged validation = false

instance (v : Validation) (n : Int) (c : Text) : Decidable (GoodPayment v n c) := by
  unfold GoodPayment
  infer_instance

end UniTrack.Sslcommerz
