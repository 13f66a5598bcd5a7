import OdsPipeline.Construction.LatencyTest

/-
This file contains the tasks that `DataGenerator.main` schedules.
Each task catches the exceptions of its calls. The pool never interrupts its threads.
-/

namespace OdsPipeline.DataGenerator
open Library Postgres Program

section Caches

/-- The answers of the two SELECT statements. The server chooses the order of the rows, and a
fault can stop each answer after some rows. -/
structure CacheReads (database : Database) where
  customers : List CustomersRow
  products : List ProductsRow
  customersOrder : customers.Perm database.customers.rows
  productsOrder : products.Perm database.products.rows
  connectFault : Bool
  customersFault : Option Nat
  productsFault : Option Nat

/-- SELECT ... LIMIT 1000. -/
def readIds (ids : List String) (fault : Option Nat) : List String :=
  let limited := ids.take 1000
  match fault with
  | none => limited
  | some count => limited.take count

/-- A fault ends the method, and the rows before it stay in the lists. -/
def initializeCaches {database : Database} (reads : CacheReads database) : Generator where
  existingCustomers :=
    if reads.connectFault then []
    else readIds (reads.customers.map fun row => row.customerId.val) reads.customersFault
  existingProducts :=
    if reads.connectFault || reads.customersFault.isSome then []
    else readIds (reads.products.map fun row => row.productId.val) reads.productsFault
  recentOrders := []

end Caches

section Tasks

def ordersPerMinute : Nat := 120

def batchSize : Nat := max 1 (ordersPerMinute / 20)

def burstOrdersCount : Nat := 50

/-- The scheduler logs an exception of a task and goes on. -/
def logged (call : Action) : Action := tryCatch call fun _ => return

/-- The first fault ends the batch. -/
def scheduleOrderGeneration (draws : Nat → OrderDraws) : Action :=
  logged ((List.range batchSize).forM fun i => generateOrder (draws i))

/-- A fault of one order does not end the burst. The result is the success count. -/
def performBurstGeneration (draws : Nat → OrderDraws) : Program Database Generator SqlError Nat :=
  (List.range burstOrdersCount).foldlM (fun successCount i =>
    tryCatch (do
      generateOrder (draws i)
      return successCount + 1) fun _ => return successCount) 0

inductive Task where
  | orderBatch (draws : Nat → OrderDraws)
  | customer (draws : CustomerDraws)
  | product (draws : ProductDraws)
  | review (draws : ReviewDraws)
  | latencyTest (draws : TestDraws) (looks : Nat → Attempt)
  | burst (draws : Nat → OrderDraws)

def Task.action : Task → Action
  | .orderBatch draws => scheduleOrderGeneration draws
  | .customer draws => logged (generateCustomer draws)
  | .product draws => logged (generateProduct draws)
  | .review draws => logged (generateReview draws)
  | .latencyTest draws looks => do
      let _ ← performLatencyTest draws looks
  | .burst draws => do
      let _ ← performBurstGeneration draws

/-- The generator starts with filled caches. -/
def main (database : Database) (reads : CacheReads database) : GeneratorSession where
  committed := database
  working := none
  memory := initializeCaches reads

/-- The tasks run one after another here. The six threads of the pool can also overlap them, and
then the lists of the caches, which have no lock, can lose an entry. -/
def runTasks (session : GeneratorSession) (tasks : List Task) : GeneratorSession :=
  tasks.foldl (fun session task => (task.action.runOn session).2) session

end Tasks

end OdsPipeline.DataGenerator
