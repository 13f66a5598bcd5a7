import OdsPipeline.Library.Rollup
import OdsPipeline.Proof.Balance
import OdsPipeline.Proof.SourceRows
import OdsPipeline.Proof.Threads

namespace OdsPipeline
open Library SqlQueries Postgres

namespace Postgres

/-- A new row is not marked as deleted, and a new order is not delivered. -/
def NewRow.Fresh : NewRow → Prop
  | .orders row => row.isDeleted = some false ∧ row.orderDeliveredCustomerDate = none
  | .orderItems row => row.isDeleted = some false
  | .payments row => row.isDeleted = some false
  | .customers row => row.isDeleted = some false
  | .products row => row.isDeleted = some false

/-- Each row of a statement is fresh. -/
theorem Insert.row_fresh {insert : Insert} {row : NewRow} (known : insert.row = .ok row) :
    row.Fresh := by
  cases insert with
  | orders orderId customerId orderStatus purchase estimated =>
      obtain ⟨order, rfl, -, -, -, -, delivered, live⟩ := row_orders known
      exact ⟨live, delivered⟩
  | orderItems id orderId productId price freightValue =>
      obtain ⟨item, rfl, -, -, -, -, -, live⟩ := row_orderItems known
      exact live
  | payments id orderId paymentType paymentValue =>
      obtain ⟨payment, rfl, -, -, -, -, live⟩ := row_payments known
      exact live
  | customers customerId uniqueId city state =>
      simp only [Insert.row, bind_eq_ok_iff] at known
      obtain ⟨_, -, _, -, _, -, _, -, same⟩ := known
      cases same
      rfl
  | products productId categoryName =>
      simp only [Insert.row, bind_eq_ok_iff] at known
      obtain ⟨_, -, _, -, same⟩ := known
      cases same
      rfl

def paidValue (payments : List PaymentsRow) : ℚ := (payments.filterMap PaymentsRow.paymentValue).sum

def soldValue (items : List OrderItemsRow) : ℚ :=
  (items.filterMap fun item => plus item.price item.freightValue).sum

theorem paidValue_append (first second : List PaymentsRow) :
    paidValue (first ++ second) = paidValue first + paidValue second := by
  rw [paidValue, List.filterMap_append, List.sum_append]
  rfl

theorem soldValue_append (first second : List OrderItemsRow) :
    soldValue (first ++ second) = soldValue first + soldValue second := by
  rw [soldValue, List.filterMap_append, List.sum_append]
  rfl

end Postgres

namespace DataGenerator

section Sale

/-- An order of the generator. Its payment misses at most half a cent for each rounded amount. -/
structure Sale where
  orderId : String
  purchase : Purchase orderId
  liveOrder : purchase.order.isDeleted = some false
  liveItems : ∀ item ∈ purchase.items, item.isDeleted = some false
  livePayment : purchase.payment.isDeleted = some false
  undelivered : purchase.order.orderDeliveredCustomerDate = none
  balance : |paidValue [purchase.payment] - soldValue purchase.items| ≤
    (2 * purchase.items.length + 1) / 200

/-- The source tables gain the rows of some sales, and no other order or payment. -/
structure Sold (sales : List Sale) (before after : Database) : Prop where
  orders : after.orders.rows = before.orders.rows ++ sales.map fun sale => sale.purchase.order
  orderItems : after.orderItems.rows =
    before.orderItems.rows ++ sales.flatMap fun sale => sale.purchase.items
  payments : after.payments.rows =
    before.payments.rows ++ sales.map fun sale => sale.purchase.payment

theorem Sold.trans {first second : List Sale} {before middle after : Database}
    (early : Sold first before middle) (late : Sold second middle after) :
    Sold (first ++ second) before after where
  orders := by rw [late.orders, early.orders, List.append_assoc, List.map_append]
  orderItems := by rw [late.orderItems, early.orderItems, List.append_assoc, List.flatMap_append]
  payments := by rw [late.payments, early.payments, List.append_assoc, List.map_append]

/-- A sale takes the rows that a call adds. -/
theorem exists_sale_of_adds {orderId : String} {purchase : Purchase orderId}
    {rows : List NewRow} {before : Database} (fits : FitsAll before rows)
    (adds : Adds purchase before (before.addAll rows)) (fresh : ∀ row ∈ rows, row.Fresh)
    (balance : |paidValue (rows.filterMap NewRow.paymentsRow) -
        soldValue (rows.filterMap NewRow.orderItemsRow)| ≤
      (2 * (rows.filterMap NewRow.orderItemsRow).length + 1) / 200) :
    ∃ sale, Sold [sale] before (before.addAll rows) := by
  have orders : [purchase.order] = rows.filterMap NewRow.ordersRow :=
    List.append_cancel_left (adds.orders.symm.trans (ordersFeed_reads.rows_addAll fits))
  have items : purchase.items = rows.filterMap NewRow.orderItemsRow :=
    List.append_cancel_left (adds.orderItems.symm.trans (orderItemsFeed_reads.rows_addAll fits))
  have payments : [purchase.payment] = rows.filterMap NewRow.paymentsRow :=
    List.append_cancel_left (adds.payments.symm.trans (paymentsFeed_reads.rows_addAll fits))
  rw [← items, ← payments] at balance
  have picked : purchase.order ∈ rows.filterMap NewRow.ordersRow := by
    rw [← orders]
    exact List.mem_singleton.mpr rfl
  have paid : purchase.payment ∈ rows.filterMap NewRow.paymentsRow := by
    rw [← payments]
    exact List.mem_singleton.mpr rfl
  obtain ⟨orderRow, inside, isOrder⟩ := List.mem_filterMap.mp picked
  obtain ⟨paymentRow, member, isPayment⟩ := List.mem_filterMap.mp paid
  have order := fresh orderRow inside
  have payment := fresh paymentRow member
  cases orderRow <;> cases isOrder
  cases paymentRow <;> cases isPayment
  have live : ∀ item ∈ purchase.items, item.isDeleted = some false := by
    intro item member
    rw [items] at member
    obtain ⟨itemRow, listed, isItem⟩ := List.mem_filterMap.mp member
    have own := fresh itemRow listed
    cases itemRow <;> cases isItem
    exact own
  refine ⟨⟨orderId, purchase, order.1, live, payment, order.2, balance⟩, ?_⟩
  exact {
    orders := adds.orders
    orderItems := by
      rw [adds.orderItems, List.flatMap_singleton]
    payments := adds.payments }

end Sale

section Balance

/-- Rounding to cents moves an amount by at most half a cent. -/
theorem abs_roundCents_sub_le (amount : ℚ) : |roundCents amount - amount| ≤ 1 / 200 := by
  obtain ⟨low, high⟩ := (roundCents_eq_iff amount ⌊amount * 100 + 1 / 2⌋).mp rfl
  rw [roundCents, abs_le]
  constructor <;> linarith

theorem totalOrderValue_eq_exactTotal (draws : OrderDraws) (count : Nat) :
    totalOrderValue draws (List.range count) 0 = exactTotal draws (List.range count) := by
  induction count with
  | zero => rfl
  | succ count ih =>
      rw [totalOrderValue_succ, ih, exactTotal, exactTotal, List.range_succ, List.map_append,
        List.sum_append, List.map_singleton, List.sum_singleton]
      rfl

/-- The rounded total is near the sum of the rounded items. -/
theorem abs_roundCents_exactTotal_sub_le (draws : OrderDraws) (count : Nat) :
    |roundCents (exactTotal draws (List.range count)) - storedTotal draws (List.range count)| ≤
      (2 * count + 1) / 200 := by
  have items := abs_sum_map_sub_le (List.range count) (fun i => (draws.item i).storedValue)
    (fun i => (draws.item i).exactValue) (1 / 100) fun i _ => by
      have price := abs_le.mp (abs_roundCents_sub_le (draws.item i).priceValue)
      have freight := abs_le.mp (abs_roundCents_sub_le (draws.item i).freightValue)
      rw [ItemDraws.storedValue, ItemDraws.exactValue, abs_le]
      constructor <;> linarith
  have total := abs_roundCents_sub_le (exactTotal draws (List.range count))
  rw [List.length_range] at items
  change |storedTotal draws _ - exactTotal draws _| ≤ _ at items
  rw [abs_le] at items
  rw [abs_le] at total ⊢
  constructor <;> linarith

variable {draws : OrderDraws} {rows : List NewRow}

/-- The rows before the payment have the rounded values of the items. -/
theorem values_of_completes (completes : Completes (.order draws) rows) (count : Nat)
    (few : count ≤ draws.numItems) :
    ((rows.take (count + 1)).filterMap NewRow.orderItemsRow).map
        (fun item => plus item.price item.freightValue) =
      (List.range count).map (fun i => some (draws.item i).storedValue) ∧
    (rows.take (count + 1)).filterMap NewRow.paymentsRow = [] := by
  have size := length_of_completes completes
  induction count with
  | zero =>
      obtain ⟨_, insert, next, known⟩ := completes.produces 0 (by omega)
      cases next
      obtain ⟨order, isOrder, -⟩ := Insert.row_orders known
      have first : rows.take 1 = [.orders order] := by
        rw [← isOrder, List.take_one, List.head?_eq_getElem?, List.getElem?_eq_getElem (by omega)]
        rfl
      rw [first]
      exact ⟨rfl, rfl⟩
  | succ count ih =>
      obtain ⟨items, payments⟩ := ih (by omega)
      obtain ⟨_, insert, next, known⟩ := completes.produces (count + 1) (by omega)
      rw [Call.insertAt, if_pos (by omega)] at next
      cases next
      obtain ⟨item, isItem, -, -, -, price, freight, -⟩ := Insert.row_orderItems known
      rw [← List.take_append_getElem (by omega : count + 1 < rows.length), isItem,
        List.filterMap_append, List.filterMap_append, List.map_append, items, payments,
        List.range_succ, List.map_append]
      refine ⟨?_, rfl⟩
      change _ ++ [plus item.price item.freightValue] = _
      rw [price, freight]
      rfl

/-- The payment of a whole call misses at most half a cent for each rounded amount. -/
theorem balance_of_completes (completes : Completes (.order draws) rows) :
    |paidValue (rows.filterMap NewRow.paymentsRow) -
        soldValue (rows.filterMap NewRow.orderItemsRow)| ≤
      (2 * (rows.filterMap NewRow.orderItemsRow).length + 1) / 200 := by
  have size := length_of_completes completes
  obtain ⟨items, payments⟩ := values_of_completes completes draws.numItems (Nat.le_refl _)
  obtain ⟨_, insert, next, known⟩ := completes.produces (draws.numItems + 1) (by omega)
  rw [Call.insertAt, if_neg (by omega), if_pos rfl] at next
  cases next
  obtain ⟨payment, isPayment, -, -, -, value, -⟩ := Insert.row_payments known
  have split : rows = rows.take (draws.numItems + 1) ++ [.payments payment] := by
    rw [← isPayment, List.take_append_getElem, List.take_of_length_le (by omega)]
  have paid : rows.filterMap NewRow.paymentsRow = [payment] := by
    rw [split, List.filterMap_append, payments]
    rfl
  have sold : (rows.filterMap NewRow.orderItemsRow).map
      (fun item => plus item.price item.freightValue) =
        (List.range draws.numItems).map (fun i => some (draws.item i).storedValue) := by
    rw [split, List.filterMap_append, List.map_append, items]
    exact List.append_nil _
  have few := congrArg List.length sold
  rw [List.length_map, List.length_map, List.length_range] at few
  have amount : paidValue (rows.filterMap NewRow.paymentsRow) =
      roundCents (exactTotal draws (List.range draws.numItems)) := by
    rw [paid, ← totalOrderValue_eq_exactTotal]
    change ([payment].filterMap PaymentsRow.paymentValue).sum = _
    rw [List.filterMap_cons_some value]
    exact List.sum_singleton
  have worth : soldValue (rows.filterMap NewRow.orderItemsRow) =
      storedTotal draws (List.range draws.numItems) := by
    have listed := congrArg (List.filterMap id) sold
    rw [List.filterMap_map, List.filterMap_map] at listed
    rw [storedTotal, ← List.filterMap_eq_map]
    exact congrArg List.sum listed
  rw [amount, worth, few]
  exact abs_roundCents_exactTotal_sub_le draws draws.numItems

end Balance

section Runs

/-- Each row of a call comes from one of its statements. -/
theorem Completes.exists_insert {call : Call} {rows : List NewRow}
    (completes : Completes call rows) : ∀ row ∈ rows, ∃ insert : Insert, insert.row = .ok row := by
  intro row member
  obtain ⟨sent, inside, rfl⟩ := List.mem_iff_getElem.mp member
  obtain ⟨_, insert, -, known⟩ := completes.produces sent inside
  exact ⟨insert, known⟩

theorem Completes.fresh {call : Call} {rows : List NewRow} (completes : Completes call rows) :
    ∀ row ∈ rows, row.Fresh := by
  intro row member
  obtain ⟨insert, known⟩ := completes.exists_insert row member
  exact Insert.row_fresh known

/-- A test pays exactly the value of its item. -/
theorem balance_of_test {draws : TestDraws} {customerId productId : Option String}
    {rows : List NewRow} (completes : Completes (.test draws customerId productId) rows) :
    |paidValue (rows.filterMap NewRow.paymentsRow) -
        soldValue (rows.filterMap NewRow.orderItemsRow)| ≤
      (2 * (rows.filterMap NewRow.orderItemsRow).length + 1) / 200 := by
  have size := length_of_test completes
  obtain ⟨_, _, next, known⟩ := completes.produces 0 (by omega)
  cases next
  obtain ⟨order, first, -⟩ := Insert.row_orders known
  obtain ⟨_, _, next, known⟩ := completes.produces 1 (by omega)
  cases next
  obtain ⟨item, second, -, -, -, price, freight, -⟩ := Insert.row_orderItems known
  obtain ⟨_, _, next, known⟩ := completes.produces 2 (by omega)
  cases next
  obtain ⟨payment, third, -, -, -, value, -⟩ := Insert.row_payments known
  have listed : rows = [.orders order, .orderItems item, .payments payment] := by
    obtain ⟨a, b, c, rfl⟩ := List.length_eq_three.mp size
    rw [show a = _ from first, show b = _ from second, show c = _ from third]
  have paid : paidValue (rows.filterMap NewRow.paymentsRow) = 10998 / 100 := by
    rw [listed]
    change ([payment].filterMap PaymentsRow.paymentValue).sum = _
    rw [List.filterMap_cons_some value]
    exact List.sum_singleton
  have sold : soldValue (rows.filterMap NewRow.orderItemsRow) = 9999 / 100 + 999 / 100 := by
    have value : plus item.price item.freightValue = some (9999 / 100 + 999 / 100) := by
      rw [price, freight]
      rfl
    rw [listed]
    have single : [item].filterMap (fun item => plus item.price item.freightValue) = [_] :=
      List.filterMap_cons_some value
    exact (congrArg List.sum single).trans List.sum_singleton
  have even : (10998 / 100 - (9999 / 100 + 999 / 100) : ℚ) = 0 := by norm_num
  rw [paid, sold, even, abs_zero]
  positivity

/-- A whole call adds one sale or none. -/
theorem exists_sales_of_completes {call : Call} {rows : List NewRow} {before : Database}
    (completes : Completes call rows) (fits : FitsAll before rows) :
    ∃ sales, Sold sales before (before.addAll rows) := by
  cases call with
  | order draws =>
      obtain ⟨purchase, adds⟩ := exists_purchase_of_completes completes fits
      obtain ⟨sale, sold⟩ := exists_sale_of_adds fits adds completes.fresh
        (balance_of_completes completes)
      exact ⟨[sale], sold⟩
  | test draws customerId productId =>
      obtain ⟨purchase, adds, -⟩ := placesTest_of_completes completes fits
      obtain ⟨sale, sold⟩ := exists_sale_of_adds fits adds completes.fresh
        (balance_of_test completes)
      exact ⟨[sale], sold⟩
  | customer draws =>
      obtain ⟨row, after, -⟩ := completes.commits fits
      rw [after]
      exact ⟨[], ⟨(List.append_nil _).symm, (List.append_nil _).symm, (List.append_nil _).symm⟩⟩
  | product draws =>
      obtain ⟨row, after, -⟩ := completes.commits fits
      rw [after]
      exact ⟨[], ⟨(List.append_nil _).symm, (List.append_nil _).symm, (List.append_nil _).symm⟩⟩

theorem exists_sales_of_log (database : Database) (log : List (Call × List NewRow))
    (whole : ∀ entry ∈ log, Completes entry.1 entry.2)
    (fits : FitsAll database (log.map Prod.snd).flatten) :
    ∃ sales, Sold sales database (database.addAll (log.map Prod.snd).flatten) := by
  induction log generalizing database with
  | nil =>
      exact ⟨[], ⟨(List.append_nil _).symm, (List.append_nil _).symm, (List.append_nil _).symm⟩⟩
  | cons entry rest ih =>
      obtain ⟨complete, wholeRest⟩ := List.forall_mem_cons.mp whole
      rw [List.map_cons, List.flatten_cons, FitsAll, allFit_append] at fits
      obtain ⟨first, early⟩ := exists_sales_of_completes complete fits.1
      obtain ⟨others, late⟩ := ih _ wholeRest fits.2
      rw [List.map_cons, List.flatten_cons, Database.addAll, List.foldl_append]
      exact ⟨first ++ others, early.trans late⟩

/-- A reachable pool has committed some sales. -/
theorem PoolRun.exists_sales {Thread : Type} [DecidableEq Thread] (run : PoolRun Thread) :
    ∃ sales, Sold sales run.database run.pool.committed := by
  have serial := Pool.serial_of_reachable run.reached
  have stored : run.pool.committed = run.database.addAll (run.pool.log.map Prod.snd).flatten :=
    serial.committed
  rw [stored]
  exact exists_sales_of_log run.database run.pool.log (Pool.whole_of_reachable run.reached).log
    serial.log

/-- The gaps of the sales add up. -/
theorem abs_gap_le (sales : List Sale) :
    |paidValue (sales.map fun sale => sale.purchase.payment) -
        soldValue (sales.flatMap fun sale => sale.purchase.items)| ≤
      (2 * (sales.flatMap fun sale => sale.purchase.items).length + sales.length) / 200 := by
  induction sales with
  | nil => simp [paidValue, soldValue]
  | cons sale rest ih =>
      have own := abs_le.mp sale.balance
      have others := abs_le.mp ih
      rw [List.map_cons, List.flatMap_cons, ← List.singleton_append, paidValue_append,
        soldValue_append, List.length_append, List.length_cons, abs_le]
      push_cast
      constructor <;> linarith

/-- In every interleaving the new payments miss the new items by at most half a cent for each new
price, freight and payment. -/
theorem payments_near_items {Thread : Type} [DecidableEq Thread] (run : PoolRun Thread) :
    let before := run.database
    let after := run.pool.committed
    |(paidValue after.payments.rows - paidValue before.payments.rows) -
        (soldValue after.orderItems.rows - soldValue before.orderItems.rows)| ≤
      (2 * ((after.orderItems.rows.length : ℚ) - before.orderItems.rows.length) +
        ((after.payments.rows.length : ℚ) - before.payments.rows.length)) / 200 := by
  obtain ⟨sales, sold⟩ := run.exists_sales
  have gap := abs_gap_le sales
  dsimp only
  rw [sold.payments, sold.orderItems, paidValue_append, soldValue_append, List.length_append,
    List.length_append, List.length_map, add_sub_cancel_left, add_sub_cancel_left]
  push_cast
  rw [add_sub_cancel_left, add_sub_cancel_left]
  exact gap

theorem shop_payments_near_items :
    |(paidValue shopPool.committed.payments.rows - paidValue shop.database.payments.rows) -
        (soldValue shopPool.committed.orderItems.rows -
          soldValue shop.database.orderItems.rows)| ≤
      (2 * ((shopPool.committed.orderItems.rows.length : ℚ) -
          shop.database.orderItems.rows.length) +
        ((shopPool.committed.payments.rows.length : ℚ) -
          shop.database.payments.rows.length)) / 200 :=
  payments_near_items shopRun

end Runs

end DataGenerator

end OdsPipeline
