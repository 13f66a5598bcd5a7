import OdsPipeline.Construction.DataGenerator
import OdsPipeline.Construction.OdsETLJob

/-
This file contains the latency test of `DataGenerator.java`.
-/

namespace OdsPipeline.DataGenerator
open Library Postgres Program StarRocks

section Insert

structure TestDraws where
  currentTimeMillis : Int
  customer : IdDraws
  product : IdDraws
  startTime : Int
  now : Timestamp
  itemId : Nat
  paymentId : Nat
  connectFault : Option SqlError
  orderFault : Option SqlError
  itemFault : Option SqlError
  paymentFault : Option SqlError
  commitFault : Option SqlError

def TestDraws.testOrderId (draws : TestDraws) : String :=
  "latency_test_" ++ toString draws.currentTimeMillis

/-- The statements of `insertTestOrder` between the connection and the commit. -/
def insertTestRows (draws : TestDraws) (orderId : String) (customerId productId : Option String) :
    Action := do
  executeUpdate (attempt draws.orderFault (insertOrders orderId customerId "pending" draws.now none))
  executeUpdate (attempt draws.itemFault (insertOrderItems draws.itemId orderId productId
    (9999 / 100) (999 / 100)))
  executeUpdate (attempt draws.paymentFault (insertPayments draws.paymentId orderId "credit_card"
    (10998 / 100)))

def insertTestOrder (draws : TestDraws) (orderId : String) (customerId productId : Option String) :
    Action :=
  withConnection do
    connect draws.connectFault
    setAutoCommitFalse
    insertTestRows draws orderId customerId productId
    commit draws.commitFault

end Insert

section Wait

def maxAttempts : Nat := 60

def attemptInterval : Nat := 1000

/-- One attempt sleeps for the interval and then looks. The first one also counts the insert. -/
structure Attempt where
  interrupted : Bool
  connectionLost : Bool
  tables : CleanTables
  moreMillis : Nat

/-- SELECT COUNT( * ) FROM ods_orders WHERE order_id = ?. A lost connection finds nothing. -/
def checkOrderInStarRocks (orderId : String) (look : Attempt) : Bool :=
  !look.connectionLost &&
    decide (0 < (look.tables.orders.rows.filter fun o => o.orderId = orderId).length)

/-- The rounds of the loop that are left. -/
def waitRounds (orderId : String) (startTime : Int) (looks : Nat → Attempt) :
    Nat → Nat → Int → Int
  | 0, _, _ => -1
  | left + 1, round, clock =>
      let look := looks round
      let currentTimeMillis := clock + (attemptInterval + look.moreMillis)
      if look.interrupted then -1
      else if checkOrderInStarRocks orderId look then currentTimeMillis - startTime
      else waitRounds orderId startTime looks left (round + 1) currentTimeMillis

def waitForDataInStarRocks (orderId : String) (startTime : Int) (looks : Nat → Attempt) : Int :=
  waitRounds orderId startTime looks maxAttempts 1 startTime

end Wait

/-- The three reports of a test. -/
inductive LatencyReport where
  | result (latency : Int)
  | notFound
  | error (fault : SqlError)
  deriving DecidableEq, Repr

def performLatencyTest (draws : TestDraws) (looks : Nat → Attempt) :
    Program Database Generator SqlError LatencyReport := do
  let generator ← memory
  let testOrderId := draws.testOrderId
  let testCustomerId := getRandomCustomerId draws.customer generator.existingCustomers
  let testProductId := getRandomProductId draws.product generator.existingProducts
  tryCatch (do
    insertTestOrder draws testOrderId testCustomerId testProductId
    let latency := waitForDataInStarRocks testOrderId draws.startTime looks
    return if 0 < latency then .result latency else .notFound) fun fault => return .error fault

section Assessment

/-- The five statuses of a latency. -/
inductive LatencyStatus where
  | excellent
  | good
  | acceptable
  | slow
  | verySlow
  deriving DecidableEq, Repr

/-- The status and the throughput that a result prints. -/
structure LatencyAssessment where
  status : LatencyStatus
  recordsPerHour : Int
  deriving DecidableEq, Repr

def printLatencyAssessment (latencyMs : Int) : LatencyAssessment :=
  let latencySeconds : ℚ := latencyMs / 1000
  { status :=
      if latencySeconds < 1 then .excellent
      else if latencySeconds < 5 then .good
      else if latencySeconds < 15 then .acceptable
      else if latencySeconds < 30 then .slow
      else .verySlow
    recordsPerHour := ⌊(1000 : ℚ) / latencyMs * 3600 + 1 / 2⌋ }

end Assessment

end OdsPipeline.DataGenerator
