import Mathlib.Data.List.Infix
import Mathlib.Data.List.DropRight
import Mathlib.Tactic.Linarith
import Mathlib.Tactic.NormNum
import OdsPipeline.Construction.DataGenerator
import OdsPipeline.Construction.SqlQueries

namespace OdsPipeline.DataGenerator
open Library Postgres Program

section Text

theorem space_notMem_toString_nat (number : Nat) : ' ' ∉ (toString number).toList := by
  intro inside
  change ' ' ∈ (Nat.repr number).toList at inside
  rw [Nat.toList_repr] at inside
  exact absurd (Nat.isDigit_of_mem_toDigits (by decide) (by decide) inside) (by decide)

theorem space_notMem_toString_int (number : Int) : ' ' ∉ (toString number).toList := by
  cases number with
  | ofNat number => exact space_notMem_toString_nat number
  | negSucc number =>
      change ' ' ∉ ("-" ++ toString (number + 1)).toList
      rw [String.toList_append, List.mem_append, not_or]
      exact ⟨by decide, space_notMem_toString_nat _⟩

/-- An order id is stored as it is. -/
theorem space_notMem_orderId (draws : OrderDraws) : ' ' ∉ draws.orderId.toList := by
  simp only [OrderDraws.orderId, String.toList_append, List.mem_append, not_or]
  exact ⟨⟨⟨by decide, space_notMem_toString_int _⟩, by decide⟩, space_notMem_toString_nat _⟩

end Text

section Rounding

theorem roundCents_mono {small large : ℚ} (order : small ≤ large) :
    roundCents small ≤ roundCents large := by
  unfold roundCents
  have floors : ⌊small * 100 + 1 / 2⌋ ≤ ⌊large * 100 + 1 / 2⌋ := by
    apply Int.floor_le_floor
    linarith
  have casted : (⌊small * 100 + 1 / 2⌋ : ℚ) ≤ ⌊large * 100 + 1 / 2⌋ := by exact_mod_cast floors
  linarith

/-- Whole amounts are not rounded. -/
theorem roundCents_natCast (amount : Nat) : roundCents amount = amount := by
  unfold roundCents
  have whole : ⌊(amount : ℚ) * 100 + 1 / 2⌋ = (amount : ℤ) * 100 := by
    rw [Int.floor_eq_iff]
    push_cast
    constructor <;> linarith
  rw [whole]
  push_cast
  ring

/-- An amount between whole bounds is between them after it is rounded. -/
theorem roundCents_mem {amount : ℚ} (low high : Nat) (above : (low : ℚ) ≤ amount)
    (below : amount ≤ high) : (low : ℚ) ≤ roundCents amount ∧ roundCents amount ≤ high := by
  have first := roundCents_mono above
  have second := roundCents_mono below
  rw [roundCents_natCast] at first second
  exact ⟨first, second⟩

theorem ItemDraws.priceValue_mem (draws : ItemDraws) :
    10 ≤ draws.priceValue ∧ draws.priceValue ≤ 510 := by
  have unit := draws.price.property
  unfold priceValue
  constructor <;> linarith

theorem ItemDraws.freightValue_mem (draws : ItemDraws) :
    5 ≤ draws.freightValue ∧ draws.freightValue ≤ 55 := by
  have unit := draws.freight.property
  unfold freightValue
  constructor <;> linarith

end Rounding

section Inserts

theorem bind_eq_ok {α β : Type} {first : Except SqlError α} {second : α → Except SqlError β}
    {value : β} (done : (first >>= second) = .ok value) :
    ∃ middle, first = .ok middle ∧ second middle = .ok value := by
  cases first with
  | error fault => cases done
  | ok middle => exact ⟨middle, rfl, done⟩

theorem attempt_eq_ok {fault : Option SqlError} {statement : Database → Except SqlError Database}
    {view next : Database} (done : attempt fault statement view = .ok next) :
    statement view = .ok next := by
  cases fault with
  | some fault => cases done
  | none => exact done

/-- A committed orders statement adds one row with the values of the statement. -/
theorem insertOrders_ok {orderId : String} {customerId : Option String} {orderStatus : String}
    {purchase : Timestamp} {estimated : Option Timestamp} {database next : Database}
    (done : insertOrders orderId customerId orderStatus purchase estimated database = .ok next) :
    ∃ row, next.orders.rows = database.orders.rows ++ [row] ∧
      next = { database with orders := next.orders } ∧
      assignVarchar 50 orderId = .ok row.orderId ∧
      assignNullable 20 (some orderStatus) = .ok row.orderStatus ∧
      row.orderPurchaseTimestamp = some purchase ∧
      assignNullable 50 customerId = .ok row.customerId ∧ row.isDeleted = some false := by
  unfold insertOrders at done
  obtain ⟨id, assigned, done⟩ := bind_eq_ok done
  obtain ⟨customer, named, done⟩ := bind_eq_ok done
  obtain ⟨status, known, done⟩ := bind_eq_ok done
  obtain ⟨orders, inserted, done⟩ := bind_eq_ok done
  obtain ⟨_, -, done⟩ := bind_eq_ok done
  cases done
  refine ⟨_, insertRow_rows _ _ _ _ inserted, rfl, assigned, ?_, rfl, named, rfl⟩
  rw [assignNullable, known]
  rfl

/-- A committed items statement adds one row with the values of the statement. -/
theorem insertOrderItems_ok {id : Nat} {orderId : String} {productId : Option String}
    {price freightValue : ℚ} {database next : Database}
    (done : insertOrderItems id orderId productId price freightValue database = .ok next) :
    ∃ row, next.orderItems.rows = database.orderItems.rows ++ [row] ∧
      next = { database with orderItems := next.orderItems } ∧
      assignNullable 50 (some orderId) = .ok row.orderId ∧
      row.price = some price ∧ row.freightValue = some freightValue := by
  unfold insertOrderItems at done
  obtain ⟨order, assigned, done⟩ := bind_eq_ok done
  obtain ⟨product, -, done⟩ := bind_eq_ok done
  obtain ⟨items, inserted, done⟩ := bind_eq_ok done
  obtain ⟨_, -, done⟩ := bind_eq_ok done
  obtain ⟨_, -, done⟩ := bind_eq_ok done
  cases done
  refine ⟨_, insertRow_rows _ _ _ _ inserted, rfl, ?_, rfl, rfl⟩
  rw [assignNullable, assigned]
  rfl

/-- A committed payments statement adds one row with the values of the statement. -/
theorem insertPayments_ok {id : Nat} {orderId paymentType : String} {paymentValue : ℚ}
    {database next : Database}
    (done : insertPayments id orderId paymentType paymentValue database = .ok next) :
    ∃ row, next.payments.rows = database.payments.rows ++ [row] ∧
      next = { database with payments := next.payments } ∧
      assignNullable 50 (some orderId) = .ok row.orderId ∧
      assignNullable 20 (some paymentType) = .ok row.paymentType ∧
      row.paymentValue = some paymentValue := by
  unfold insertPayments at done
  obtain ⟨order, assigned, done⟩ := bind_eq_ok done
  obtain ⟨type, known, done⟩ := bind_eq_ok done
  obtain ⟨payments, inserted, done⟩ := bind_eq_ok done
  obtain ⟨_, -, done⟩ := bind_eq_ok done
  cases done
  refine ⟨_, insertRow_rows _ _ _ _ inserted, rfl, ?_, ?_, rfl⟩
  · rw [assignNullable, assigned]
    rfl
  · rw [assignNullable, known]
    rfl

/-- A text without spaces reaches the column as it is. -/
theorem toText_assigned {bound : Nat} {text : String} {value : Option (Varchar bound)}
    (solid : ' ' ∉ text.toList) (assigned : assignNullable bound (some text) = .ok value) :
    toText value = some text := by
  rw [assignNullable] at assigned
  cases stored : assignVarchar bound text with
  | error fault =>
      rw [stored] at assigned
      cases assigned
  | ok kept =>
      rw [stored] at assigned
      cases assigned
      exact congrArg some (assignVarchar_eq bound text kept solid stored)

end Inserts

section Purchase

/-- One order with its items. -/
structure OrderLines (orderId : String) where
  order : OrdersRow
  items : List OrderItemsRow
  id : order.orderId.val = orderId
  status : ∃ status ∈ statuses, toText order.orderStatus = some status
  purchased : order.orderPurchaseTimestamp.isSome = true
  itemOrders : ∀ item ∈ items, toText item.orderId = some orderId
  prices : ∀ item ∈ items, ∃ price, item.price = some price ∧ 10 ≤ price ∧ price ≤ 510
  freights : ∀ item ∈ items, ∃ freight, item.freightValue = some freight ∧
    5 ≤ freight ∧ freight ≤ 55

/-- The rows of one generated order. -/
structure Purchase (orderId : String) extends OrderLines orderId where
  payment : PaymentsRow
  itemCount : 1 ≤ items.length ∧ items.length ≤ 6
  paymentOrder : toText payment.orderId = some orderId
  paymentType : ∃ type ∈ paymentTypes, toText payment.paymentType = some type
  paymentValue : ∃ value, payment.paymentValue = some value ∧ 15 ≤ value ∧ value ≤ 3390

/-- The open transaction holds an order and its first items. -/
structure Placed {orderId : String} (lines : OrderLines orderId) (before view : Database) :
    Prop where
  orders : view.orders.rows = before.orders.rows ++ [lines.order]
  orderItems : view.orderItems.rows = before.orderItems.rows ++ lines.items
  payments : view.payments = before.payments
  customers : view.customers = before.customers
  products : view.products = before.products
  reviews : view.reviews = before.reviews

/-- The three tables gain the rows of a purchase, and nothing else changes. -/
structure Adds {orderId : String} (purchase : Purchase orderId) (before after : Database) :
    Prop where
  orders : after.orders.rows = before.orders.rows ++ [purchase.order]
  orderItems : after.orderItems.rows = before.orderItems.rows ++ purchase.items
  payments : after.payments.rows = before.payments.rows ++ [purchase.payment]
  customers : after.customers = before.customers
  products : after.products = before.products
  reviews : after.reviews = before.reviews

/-- The loop has placed one item for each round, and the total is near their values. -/
def InLoop (orderId : String) (before : Database) (rounds : List Nat) (total : ℚ)
    (view : Database) : Prop :=
  15 * rounds.length ≤ total ∧ total ≤ 565 * rounds.length ∧
    ∃ lines : OrderLines orderId, lines.items.length = rounds.length ∧ Placed lines before view

/-- The order statement places an order without items. -/
theorem inLoop_of_insertOrders (draws : OrderDraws) (customerId : Option String)
    (estimated : Option Timestamp) (before next : Database)
    (done : insertOrders draws.orderId customerId (statuses.get draws.status) draws.now estimated
      before = .ok next) : InLoop draws.orderId before [] 0 next := by
  obtain ⟨row, rows, same, assigned, status, purchased, -⟩ := insertOrders_ok done
  have member : statuses.get draws.status ∈ statuses := List.get_mem _ _
  have solid : ∀ status ∈ statuses, ' ' ∉ status.toList := by decide
  let lines : OrderLines draws.orderId := {
    order := row
    items := []
    id := assignVarchar_eq 50 _ _ (space_notMem_orderId draws) assigned
    status := ⟨_, member, toText_assigned (solid _ member) status⟩
    purchased := by rw [purchased]; rfl
    itemOrders := by simp
    prices := by simp
    freights := by simp }
  refine ⟨by simp, by simp, lines, rfl, ?_⟩
  rw [same]
  exact ⟨rows, (List.append_nil _).symm, rfl, rfl, rfl, rfl⟩

/-- One items statement of the loop places one more item. -/
theorem inLoop_of_insertOrderItems (draws : OrderDraws) (before : Database) (rounds : List Nat)
    (total : ℚ) (i : Nat) (productId : Option String) (view next : Database)
    (placed : InLoop draws.orderId before rounds total view)
    (done : insertOrderItems (draws.item i).id draws.orderId productId
      (roundCents (draws.item i).priceValue) (roundCents (draws.item i).freightValue) view =
        .ok next) :
    InLoop draws.orderId before (rounds ++ [i])
      (total + ((draws.item i).priceValue + (draws.item i).freightValue)) next := by
  have price := (draws.item i).priceValue_mem
  have freight := (draws.item i).freightValue_mem
  obtain ⟨low, high, lines, count, placed⟩ := placed
  obtain ⟨row, rows, same, assigned, priced, freighted⟩ := insertOrderItems_ok done
  have size : ((rounds ++ [i]).length : ℚ) = rounds.length + 1 := by simp
  let longer : OrderLines draws.orderId := {
    order := lines.order
    items := lines.items ++ [row]
    id := lines.id
    status := lines.status
    purchased := lines.purchased
    itemOrders := by
      rw [List.forall_mem_append, List.forall_mem_singleton]
      exact ⟨lines.itemOrders, toText_assigned (space_notMem_orderId draws) assigned⟩
    prices := by
      rw [List.forall_mem_append, List.forall_mem_singleton]
      exact ⟨lines.prices, _, priced, roundCents_mem 10 510 price.1 price.2⟩
    freights := by
      rw [List.forall_mem_append, List.forall_mem_singleton]
      exact ⟨lines.freights, _, freighted, roundCents_mem 5 55 freight.1 freight.2⟩ }
  refine ⟨by rw [size]; linarith, by rw [size]; linarith, longer, ?_, ?_⟩
  · change (lines.items ++ [row]).length = _
    rw [List.length_append, List.length_append, count]
    rfl
  · rw [same]
    exact {
      orders := placed.orders
      orderItems := by
        change next.orderItems.rows = before.orderItems.rows ++ (lines.items ++ [row])
        rw [rows, placed.orderItems, List.append_assoc]
      payments := placed.payments
      customers := placed.customers
      products := placed.products
      reviews := placed.reviews }

/-- The payment statement completes the purchase. -/
theorem adds_of_insertPayments (draws : OrderDraws) (before view next : Database) (total : ℚ)
    (placed : InLoop draws.orderId before (List.range draws.numItems) total view)
    (done : insertPayments draws.paymentId draws.orderId (paymentTypes.get draws.paymentType)
      (roundCents total) view = .ok next) :
    ∃ purchase : Purchase draws.orderId, Adds purchase before next := by
  obtain ⟨low, high, lines, count, placed⟩ := placed
  obtain ⟨row, rows, same, assigned, type, value⟩ := insertPayments_ok done
  have member : paymentTypes.get draws.paymentType ∈ paymentTypes := List.get_mem _ _
  have solid : ∀ type ∈ paymentTypes, ' ' ∉ type.toList := by decide
  rw [List.length_range] at low high count
  have few : 1 ≤ draws.numItems ∧ draws.numItems ≤ 6 := by
    have bound := draws.moreItems.isLt
    unfold OrderDraws.numItems itemsPerOrder at *
    omega
  have least : (1 : ℚ) ≤ draws.numItems := by exact_mod_cast few.1
  have most : (draws.numItems : ℚ) ≤ 6 := by exact_mod_cast few.2
  let purchase : Purchase draws.orderId := {
    toOrderLines := lines
    payment := row
    itemCount := by rw [count]; exact few
    paymentOrder := toText_assigned (space_notMem_orderId draws) assigned
    paymentType := ⟨_, member, toText_assigned (solid _ member) type⟩
    paymentValue := ⟨_, value, roundCents_mem 15 3390 (by push_cast; linarith)
      (by push_cast; linarith)⟩ }
  refine ⟨purchase, ?_⟩
  rw [same]
  exact {
    orders := placed.orders
    orderItems := placed.orderItems
    payments := by
      change next.payments.rows = before.payments.rows ++ [row]
      rw [rows, placed.payments]
    customers := placed.customers
    products := placed.products
    reviews := placed.reviews }

/-- What each statement of a call keeps holds when all statements have run. -/
theorem works_insertPurchase_of (draws : OrderDraws) (before : Database)
    (invariant : List Nat → ℚ → Database → Prop) (after : Database → Prop)
    (starts : ∀ customerId estimated next, insertOrders draws.orderId customerId
      (statuses.get draws.status) draws.now estimated before = .ok next → invariant [] 0 next)
    (step : ∀ rounds total i productId view next, invariant rounds total view →
      insertOrderItems (draws.item i).id draws.orderId productId
        (roundCents (draws.item i).priceValue) (roundCents (draws.item i).freightValue) view =
          .ok next →
      invariant (rounds ++ [i]) (total + ((draws.item i).priceValue + (draws.item i).freightValue))
        next)
    (ends : ∀ total view next, invariant (List.range draws.numItems) total view →
      insertPayments draws.paymentId draws.orderId (paymentTypes.get draws.paymentType)
        (roundCents total) view = .ok next → after next) :
    Works (· = before) (insertPurchase draws) fun _ view => after view := by
  have round (rounds : List Nat) (total : ℚ) (i : Nat) :
      Works (invariant rounds total) (insertItem draws total i) (invariant (rounds ++ [i])) := by
    apply works_bind works_memory
    intro generator
    apply works_bind (works_executeUpdate (invariant (rounds ++ [i])
      (total + ((draws.item i).priceValue + (draws.item i).freightValue))) ?_)
    · intro _
      exact (works_pure _).weaken (fun _ holds => holds) fun _ _ ends => ends.1 ▸ ends.2
    · intro view next holds executed
      exact step rounds total i _ view next holds (attempt_eq_ok executed)
  apply works_bind works_memory
  intro generator
  apply works_bind (works_executeUpdate (invariant [] 0) ?_)
  · intro _
    apply works_bind (works_foldlM _ _ _ invariant fun rounds i _ total _ => round rounds total i)
    intro total
    apply works_executeUpdate
    intro view next holds executed
    exact ends total view next holds (attempt_eq_ok executed)
  · rintro view next rfl executed
    exact starts _ _ next (attempt_eq_ok executed)

/-- The statements of a call write the rows of one purchase into the open transaction. -/
theorem works_insertPurchase (draws : OrderDraws) (before : Database) :
    Works (· = before) (insertPurchase draws)
      fun _ view => ∃ purchase : Purchase draws.orderId, Adds purchase before view := by
  apply works_insertPurchase_of draws before (InLoop draws.orderId before)
  case starts =>
    intro customerId estimated next done
    exact inLoop_of_insertOrders draws customerId estimated before next done
  case step =>
    intro rounds total i productId view next placed done
    exact inLoop_of_insertOrderItems draws before rounds total i productId view next placed done
  case ends =>
    intro total view next placed done
    exact adds_of_insertPayments draws before view next total placed done

/-- A call leaves the database and the memory as they were, or it adds one purchase and
remembers its id. -/
theorem generateOrder_outcome (session : GeneratorSession) (draws : OrderDraws) :
    (∃ fault, (generateOrder draws).runOn session =
        (.error fault, { session with working := none })) ∨
      ∃ (purchase : Purchase draws.orderId) (after : Database),
        Adds purchase session.committed after ∧ (generateOrder draws).runOn session =
          (.ok (), ⟨after, none, addRecentOrder draws.orderId session.memory⟩) := by
  have outcome := runOn_transaction session draws.connectFault draws.commitFault
    (addRecentOrder draws.orderId) (works_insertPurchase draws session.committed)
  rcases outcome with failed | ⟨_, after, ⟨purchase, adds⟩, done⟩
  · exact .inl failed
  · exact .inr ⟨purchase, after, adds, done⟩

end Purchase

section Others

/-- A job that generates no order keeps the order tables and the list of recent orders. -/
structure KeepsOrders (before after : GeneratorSession) : Prop where
  orders : after.committed.orders = before.committed.orders
  orderItems : after.committed.orderItems = before.committed.orderItems
  payments : after.committed.payments = before.committed.payments
  recentOrders : after.memory.recentOrders = before.memory.recentOrders

/-- Without a transaction a job keeps the orders when its statement and its memory do. -/
theorem keepsOrders_autoCommit (session : GeneratorSession) (connectFault : Option SqlError)
    (statement : Database → Except SqlError Database) (change : Generator → Generator)
    (keeps : ∀ next, statement session.committed = .ok next →
      next.orders = session.committed.orders ∧ next.orderItems = session.committed.orderItems ∧
        next.payments = session.committed.payments)
    (remembers : (change session.memory).recentOrders = session.memory.recentOrders) :
    KeepsOrders session (runOn (withConnection do
      connect connectFault
      executeUpdate statement
      remember change) session).2 := by
  rcases runOn_autoCommit session connectFault statement change with
    ⟨fault, failed⟩ | ⟨next, executed, done⟩
  · rw [failed]
    exact ⟨rfl, rfl, rfl, rfl⟩
  · rw [done]
    obtain ⟨orders, items, payments⟩ := keeps next executed
    exact ⟨orders, items, payments, remembers⟩

theorem generateCustomer_keeps (session : GeneratorSession) (draws : CustomerDraws) :
    KeepsOrders session ((generateCustomer draws).runOn session).2 := by
  apply keepsOrders_autoCommit
  case keeps =>
    intro next executed
    have inserted := attempt_eq_ok executed
    unfold insertCustomers at inserted
    obtain ⟨_, -, inserted⟩ := bind_eq_ok inserted
    obtain ⟨_, -, inserted⟩ := bind_eq_ok inserted
    obtain ⟨_, -, inserted⟩ := bind_eq_ok inserted
    obtain ⟨_, -, inserted⟩ := bind_eq_ok inserted
    obtain ⟨_, -, inserted⟩ := bind_eq_ok inserted
    cases inserted
    exact ⟨rfl, rfl, rfl⟩
  case remembers => rfl

theorem generateProduct_keeps (session : GeneratorSession) (draws : ProductDraws) :
    KeepsOrders session ((generateProduct draws).runOn session).2 := by
  apply keepsOrders_autoCommit
  case keeps =>
    intro next executed
    have inserted := attempt_eq_ok executed
    unfold insertProducts at inserted
    obtain ⟨_, -, inserted⟩ := bind_eq_ok inserted
    obtain ⟨_, -, inserted⟩ := bind_eq_ok inserted
    obtain ⟨_, -, inserted⟩ := bind_eq_ok inserted
    cases inserted
    exact ⟨rfl, rfl, rfl⟩
  case remembers => rfl

/-- The review statement is rejected in every state, so a call does nothing or fails. -/
theorem generateReview_eq (session : GeneratorSession) (draws : ReviewDraws) :
    (generateReview draws).runOn session =
      if session.memory.recentOrders = [] then (.ok (), session)
      else (.error ((draws.connectFault <|> draws.fault).getD .invalidColumnReference),
        { session with working := none }) := by
  rw [generateReview, runOn_bind, runOn_memory]
  dsimp only
  cases session.memory.recentOrders with
  | nil => rfl
  | cons first rest =>
      rw [if_neg (List.cons_ne_nil first rest)]
      cases draws.connectFault with
      | some fault => rfl
      | none =>
          cases draws.fault with
          | some fault => rfl
          | none => rfl

theorem generateReview_keeps (session : GeneratorSession) (draws : ReviewDraws) :
    KeepsOrders session ((generateReview draws).runOn session).2 := by
  rw [generateReview_eq]
  split
  · exact ⟨rfl, rfl, rfl, rfl⟩
  · exact ⟨rfl, rfl, rfl, rfl⟩

end Others

section Runs

/-- A list of the last values stays so when a new value pushes the oldest one out. -/
theorem rtake_concat {α : Type} (values : List α) (value : α) (limit : Nat) :
    (if limit < (values.rtake limit ++ [value]).length then (values.rtake limit ++ [value]).tail
      else values.rtake limit ++ [value]) = (values ++ [value]).rtake limit := by
  unfold List.rtake
  simp only [List.length_append, List.length_drop, List.length_singleton]
  by_cases full : limit ≤ values.length
  · have next : values.length - limit + 1 = values.length + 1 - limit := by omega
    rw [if_pos (by omega), ← List.drop_one, ← List.drop_append_of_le_length (by omega),
      List.drop_drop, next]
  · have all : values.length - limit = 0 := by omega
    have all' : values.length + 1 - limit = 0 := by omega
    rw [if_neg (by omega), all, all', List.drop_zero, List.drop_zero]

theorem addRecentOrder_rtake (ids : List String) (orderId : String) (generator : Generator)
    (last : generator.recentOrders = ids.rtake 1000) :
    (addRecentOrder orderId generator).recentOrders = (ids ++ [orderId]).rtake 1000 := by
  rw [← rtake_concat, ← last]
  rfl

def orderIds (database : Database) : List String := database.orders.rows.map fun o => o.orderId.val

/-- What a job of the run adds to the orders is what it adds to the committed ids. -/
theorem job_step (session : GeneratorSession) (job : Job) (rest : List Job) (known : List String)
    (last : session.memory.recentOrders = known.rtake 1000) :
    ∃ added, committedIds session (job :: rest) =
        added ++ committedIds (job.action.runOn session).2 rest ∧
      orderIds (job.action.runOn session).2.committed = orderIds session.committed ++ added ∧
      (job.action.runOn session).2.memory.recentOrders = (known ++ added).rtake 1000 := by
  have idle (keeps : KeepsOrders session (job.action.runOn session).2) :
      orderIds (job.action.runOn session).2.committed = orderIds session.committed ++ [] ∧
        (job.action.runOn session).2.memory.recentOrders = (known ++ []).rtake 1000 := by
    rw [List.append_nil, List.append_nil, orderIds, keeps.orders, keeps.recentOrders]
    exact ⟨rfl, last⟩
  cases job with
  | customer draws => exact ⟨[], rfl, idle (generateCustomer_keeps session draws)⟩
  | product draws => exact ⟨[], rfl, idle (generateProduct_keeps session draws)⟩
  | review draws => exact ⟨[], rfl, idle (generateReview_keeps session draws)⟩
  | order draws =>
      rcases generateOrder_outcome session draws with ⟨fault, failed⟩ | ⟨purchase, after, adds, done⟩
      · refine ⟨[], ?_⟩
        simp only [committedIds, Job.action, failed, List.append_nil, List.nil_append]
        exact ⟨trivial, trivial, last⟩
      · refine ⟨[draws.orderId], ?_⟩
        simp only [committedIds, Job.action, done, List.singleton_append, true_and]
        refine ⟨?_, addRecentOrder_rtake known _ _ last⟩
        rw [orderIds, adds.orders, List.map_append, List.map_singleton, purchase.id]
        rfl

/-- A run adds the committed ids to the orders and keeps the last 1000 of them. -/
theorem runJobs_orders (session : GeneratorSession) (jobs : List Job) (known : List String)
    (last : session.memory.recentOrders = known.rtake 1000) :
    orderIds (runJobs session jobs).committed =
        orderIds session.committed ++ committedIds session jobs ∧
      (runJobs session jobs).memory.recentOrders =
        (known ++ committedIds session jobs).rtake 1000 := by
  induction jobs generalizing session known with
  | nil =>
      rw [committedIds, List.append_nil, List.append_nil]
      exact ⟨rfl, last⟩
  | cons job rest ih =>
      obtain ⟨added, ids, stored, recent⟩ := job_step session job rest known last
      obtain ⟨orders, recents⟩ := ih _ _ recent
      rw [ids, ← List.append_assoc, ← List.append_assoc, ← stored]
      exact ⟨orders, recents⟩

/-- A generator with filled caches has generated no order yet. -/
def startSession (database : Database) (customers products : List String) : GeneratorSession where
  committed := database
  working := none
  memory := ⟨customers, products, []⟩

/-- After any run, a call of `generateOrder` adds one purchase or changes nothing, and the recent
orders are the last 1000 committed ids, which all name stored orders. -/
theorem generateOrder_all_or_nothing (database : Database) (customers products : List String)
    (jobs : List Job) :
    let start := startSession database customers products
    let reached := runJobs start jobs
    (∀ draws : OrderDraws,
      match (generateOrder draws).runOn reached with
      | (.error _, after) => after.committed = reached.committed ∧ after.memory = reached.memory
      | (.ok _, after) => ∃ purchase : Purchase draws.orderId,
          Adds purchase reached.committed after.committed) ∧
    orderIds reached.committed = orderIds database ++ committedIds start jobs ∧
    reached.memory.recentOrders = (committedIds start jobs).rtake 1000 ∧
    ∀ id ∈ reached.memory.recentOrders, ∃ o ∈ reached.committed.orders.rows, o.orderId.val = id := by
  dsimp only
  obtain ⟨orders, recent⟩ := runJobs_orders (startSession database customers products) jobs [] rfl
  rw [List.nil_append] at recent
  refine ⟨fun draws => ?_, orders, recent, fun id inside => ?_⟩
  · rcases generateOrder_outcome (runJobs (startSession database customers products) jobs) draws with
      ⟨fault, failed⟩ | ⟨purchase, after, adds, done⟩
    · rw [failed]
      exact ⟨rfl, rfl⟩
    · rw [done]
      exact ⟨purchase, adds⟩
  · rw [recent] at inside
    have known : id ∈ orderIds (runJobs (startSession database customers products) jobs).committed := by
      rw [orders]
      exact List.mem_append_right _ (List.mem_of_mem_drop inside)
    exact List.mem_map.mp known

end Runs

end OdsPipeline.DataGenerator
