import Mathlib.Data.Rat.Floor
import OdsPipeline.Construction.PostgresInserts
import OdsPipeline.Library.Transaction

/-
This file contains the jobs of `DataGenerator.java`.
Each call reads its clock, its random draws, its serial keys and its faults from a record.
-/

namespace OdsPipeline.DataGenerator
open Library Postgres Program

/-- The lists that the jobs share. -/
structure Generator where
  existingCustomers : List String
  existingProducts : List String
  recentOrders : List String

abbrev GeneratorSession := Session Database Generator

abbrev Action := Program Database Generator SqlError Unit

section Draws

/-- A call of `random.nextDouble()`. -/
abbrev UnitDouble := {value : ℚ // 0 ≤ value ∧ value < 1}

/-- The draws of one random id. The position in a list is the remainder by its size. -/
structure IdDraws where
  chance : UnitDouble
  isNull : Bool
  number : Fin 1000
  position : Nat

def invalidId (label : String) (draws : IdDraws) : Option String :=
  if draws.isNull then none else some (label ++ toString draws.number.val)

/-- An empty list and a small chance give an invalid id. -/
def getRandomId (label : String) (rate : ℚ) (draws : IdDraws) : List String → Option String
  | [] => invalidId label draws
  | first :: rest =>
      if draws.chance.val < rate then invalidId label draws
      else some ((first :: rest).get ⟨draws.position % (rest.length + 1), Nat.mod_lt _ (by simp)⟩)

def getRandomCustomerId (draws : IdDraws) (existingCustomers : List String) : Option String :=
  getRandomId "invalid_customer_" (1 / 10) draws existingCustomers

def getRandomProductId (draws : IdDraws) (existingProducts : List String) : Option String :=
  getRandomId "invalid_product_" (1 / 20) draws existingProducts

/-- Math.round(value * 100.0) / 100.0. -/
def roundCents (value : ℚ) : ℚ := ⌊value * 100 + 1 / 2⌋ / 100

end Draws

section Orders

def itemsPerOrder : Nat := 3

def statuses : List String := ["pending", "processing", "shipped", "delivered", "cancelled"]

def paymentTypes : List String := ["credit_card", "debit_card", "boleto", "voucher"]

structure ItemDraws where
  product : IdDraws
  price : UnitDouble
  freight : UnitDouble
  id : Nat
  fault : Option SqlError

structure OrderDraws where
  currentTimeMillis : Int
  orderNumber : Fin 1000
  customer : IdDraws
  status : Fin statuses.length
  now : Timestamp
  deliveryDays : Fin 7
  moreItems : Fin (itemsPerOrder * 2)
  item : Nat → ItemDraws
  paymentType : Fin paymentTypes.length
  paymentId : Nat
  connectFault : Option SqlError
  orderFault : Option SqlError
  paymentFault : Option SqlError
  commitFault : Option SqlError

def OrderDraws.orderId (draws : OrderDraws) : String :=
  "order_" ++ toString draws.currentTimeMillis ++ "_" ++ toString draws.orderNumber.val

def OrderDraws.numItems (draws : OrderDraws) : Nat := 1 + draws.moreItems.val

def ItemDraws.priceValue (draws : ItemDraws) : ℚ := 10 + draws.price.val * 500

def ItemDraws.freightValue (draws : ItemDraws) : ℚ := 5 + draws.freight.val * 50

/-- One round of the item loop inserts an item and adds its exact value to the total. -/
def insertItem (draws : OrderDraws) (totalOrderValue : ℚ) (i : Nat) :
    Program Database Generator SqlError ℚ := do
  let generator ← memory
  let item := draws.item i
  let productId := getRandomProductId item.product generator.existingProducts
  executeUpdate (attempt item.fault (insertOrderItems item.id draws.orderId productId
    (roundCents item.priceValue) (roundCents item.freightValue)))
  return totalOrderValue + (item.priceValue + item.freightValue)

/-- The statements of `generateOrder` between the connection and the commit. -/
def insertPurchase (draws : OrderDraws) : Action := do
  let generator ← memory
  let customerId := getRandomCustomerId draws.customer generator.existingCustomers
  let deliveryDate := draws.now + dayMillis * (3 + draws.deliveryDays.val)
  executeUpdate (attempt draws.orderFault (insertOrders draws.orderId customerId
    (statuses.get draws.status) draws.now (some deliveryDate)))
  let totalOrderValue ← (List.range draws.numItems).foldlM (insertItem draws) 0
  executeUpdate (attempt draws.paymentFault (insertPayments draws.paymentId draws.orderId
    (paymentTypes.get draws.paymentType) (roundCents totalOrderValue)))

/-- The list keeps the last 1000 orders. -/
def addRecentOrder (orderId : String) (generator : Generator) : Generator :=
  let recentOrders := generator.recentOrders ++ [orderId]
  { generator with
    recentOrders := if 1000 < recentOrders.length then recentOrders.tail else recentOrders }

def generateOrder (draws : OrderDraws) : Action :=
  withConnection do
    connect draws.connectFault
    setAutoCommitFalse
    insertPurchase draws
    commit draws.commitFault
    remember (addRecentOrder draws.orderId)

end Orders

section Others

def states : List String := ["SP", "RJ", "MG", "RS", "PR", "SC", "BA", "GO", "PE", "CE"]

def categories : List String :=
  ["informatica_acessorios", "telefonia", "eletronicos", "casa_construcao", "esporte_lazer",
   "moveis_decoracao", "beleza_saude", "automotivo", "moda_bolsas_e_calcados", "cool_stuff",
   "malas_e_acessorios"]

structure CustomerDraws where
  currentTimeMillis : Int
  uniqueId : String
  city : String
  state : Fin states.length
  connectFault : Option SqlError
  fault : Option SqlError

structure ProductDraws where
  currentTimeMillis : Int
  category : Fin categories.length
  connectFault : Option SqlError
  fault : Option SqlError

structure ReviewDraws where
  position : Nat
  moreStars : Fin 5
  connectFault : Option SqlError
  fault : Option SqlError

def generateCustomer (draws : CustomerDraws) : Action :=
  withConnection do
    connect draws.connectFault
    let customerId := "customer_" ++ toString draws.currentTimeMillis
    executeUpdate (attempt draws.fault (insertCustomers customerId draws.uniqueId draws.city
      (states.get draws.state)))
    remember fun generator =>
      { generator with existingCustomers := generator.existingCustomers ++ [customerId] }

def generateProduct (draws : ProductDraws) : Action :=
  withConnection do
    connect draws.connectFault
    let productId := "product_" ++ toString draws.currentTimeMillis
    executeUpdate (attempt draws.fault (insertProducts productId
      (categories.get draws.category)))
    remember fun generator =>
      { generator with existingProducts := generator.existingProducts ++ [productId] }

/-- The statement names neither a review id nor a unique column to conflict on. -/
def generateReview (draws : ReviewDraws) : Action := do
  let generator ← memory
  match generator.recentOrders with
  | [] => return
  | first :: rest =>
      let orderId := (first :: rest).get
        ⟨draws.position % (rest.length + 1), Nat.mod_lt _ (by simp)⟩
      withConnection do
        connect draws.connectFault
        executeUpdate (attempt draws.fault (insertReviews none orderId (1 + draws.moreStars.val)
          ["order_id"]))

end Others

/-- The scheduler runs jobs one after another here. -/
inductive Job where
  | order (draws : OrderDraws)
  | customer (draws : CustomerDraws)
  | product (draws : ProductDraws)
  | review (draws : ReviewDraws)

def Job.action : Job → Action
  | .order draws => generateOrder draws
  | .customer draws => generateCustomer draws
  | .product draws => generateProduct draws
  | .review draws => generateReview draws

/-- The scheduler catches the exception of a job and goes on. -/
def runJobs (session : GeneratorSession) (jobs : List Job) : GeneratorSession :=
  jobs.foldl (fun session job => (job.action.runOn session).2) session

/-- The ids of the orders that a run commits, in commit order. -/
def committedIds (session : GeneratorSession) : List Job → List String
  | [] => []
  | job :: rest =>
      let (result, next) := job.action.runOn session
      match job, result with
      | .order draws, .ok _ => draws.orderId :: committedIds next rest
      | _, _ => committedIds next rest

end OdsPipeline.DataGenerator
