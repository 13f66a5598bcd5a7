import OdsPipeline.Construction.Processor

namespace OdsPipeline.PaymentProcessor
open Library SqlQueries

def validTypes : List String := ["credit_card", "debit_card", "voucher", "boleto"]

def cleanSelect (row : PaymentsSource) : PaymentsData where
  toPaymentsColumns := row.toPaymentsColumns
  paymentCategory := caseWhen
    [(check row.paymentValue (1000 < ·), "High Value Payment"),
     (check row.paymentValue (100 < ·), "Medium Value Payment")] "Low Value Payment"
  isHighValue := caseWhen [(check row.paymentValue (1000 < ·), true)] false
  isDeleted := row.isDeleted

def cleanConjuncts (row : PaymentsSource) : List (Column × Truth) :=
  [(.orderId, isNotNull row.orderId),
   (.orderId, check (charLength row.orderId) (· ≤ 50)),
   (.paymentType, check row.paymentType (· ∈ validTypes)),
   (.paymentValue, isNotNull row.paymentValue),
   (.paymentValue, check row.paymentValue (0 < ·)),
   (.paymentValue, check row.paymentValue (· ≤ 50000))]

def errorConjuncts (row : PaymentsSource) : List (Column × Truth) :=
  [(.orderId, isNotNull row.orderId),
   (.orderId, check (charLength row.orderId) (· ≤ 50)),
   (.paymentType, check row.paymentType (· ∈ validTypes)),
   (.paymentValue, isNotNull row.paymentValue),
   (.paymentValue, check row.paymentValue (0 < ·)),
   (.paymentValue, check row.paymentValue (· ≤ 50000))]

/-- Two branches share the payment value: one is for small values and one for large values. -/
def messageBranches (row : PaymentsSource) : List (Truth × String) :=
  [((isNull row.orderId).or (check (charLength row.orderId) (50 < ·)), "Invalid order ID"),
   ((check row.paymentType (· ∈ validTypes)).not, "Invalid payment type"),
   ((isNull row.paymentValue).or (check row.paymentValue (· ≤ 0)), "Invalid payment value"),
   (check row.paymentValue (50000 < ·), "Payment value too high")]

def errorMessage (row : PaymentsSource) : String :=
  caseWhen (messageBranches row) "Unknown validation error"

def processPaymentsWithSQL :
    Processor PaymentsSource PaymentsData PaymentsColumns (Option String × Option String)
      ((Option String × Option String) × Timestamp) where
  clean := {
    condition := fun row => whereAll (cleanConjuncts row)
    select := fun now row => cleanRow now (cleanSelect row)
    primaryKey := paymentsSinkKey }
  error := {
    condition := fun row => (whereAll (errorConjuncts row)).not
    select := fun now row => errorRow now row.toPaymentsColumns (errorMessage row)
      (rawData "order_id" row.orderId)
    primaryKey := paymentsErrorSinkKey }

end OdsPipeline.PaymentProcessor
