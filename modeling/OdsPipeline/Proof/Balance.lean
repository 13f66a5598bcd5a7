import OdsPipeline.Library.Percentage
import OdsPipeline.Proof.GenerateOrder

namespace OdsPipeline.DataGenerator
open Library Postgres Program

section Cents

/-- The exact value of an item. -/
def ItemDraws.exactValue (draws : ItemDraws) : ℚ := draws.priceValue + draws.freightValue

/-- The value that the inserted row of an item has. -/
def ItemDraws.storedValue (draws : ItemDraws) : ℚ :=
  roundCents draws.priceValue + roundCents draws.freightValue

def exactTotal (draws : OrderDraws) (rounds : List Nat) : ℚ :=
  (rounds.map fun i => (draws.item i).exactValue).sum

def storedTotal (draws : OrderDraws) (rounds : List Nat) : ℚ :=
  (rounds.map fun i => (draws.item i).storedValue).sum

/-- The rounding errors of the items of an order, exact minus stored. -/
def roundingError (draws : OrderDraws) : ℚ :=
  ((List.range draws.numItems).map fun i =>
    (draws.item i).exactValue - (draws.item i).storedValue).sum

theorem exactTotal_eq (draws : OrderDraws) : exactTotal draws (List.range draws.numItems) =
    roundingError draws + storedTotal draws (List.range draws.numItems) := by
  rw [roundingError, storedTotal, ← List.sum_map_add, exactTotal]
  simp only [sub_add_cancel]

/-- A sum of rounded amounts is a whole number of cents. -/
theorem exists_storedTotal_eq (draws : OrderDraws) (rounds : List Nat) :
    ∃ cents : ℤ, storedTotal draws rounds = cents / 100 := by
  induction rounds with
  | nil => exact ⟨0, by simp [storedTotal]⟩
  | cons i rest ih =>
      obtain ⟨cents, same⟩ := ih
      have added : storedTotal draws (i :: rest) =
          (draws.item i).storedValue + storedTotal draws rest := rfl
      refine ⟨⌊(draws.item i).priceValue * 100 + 1 / 2⌋ +
        ⌊(draws.item i).freightValue * 100 + 1 / 2⌋ + cents, ?_⟩
      rw [added, same, ItemDraws.storedValue, roundCents, roundCents]
      push_cast
      ring

/-- An amount is rounded to the cents that it is within half a cent of. -/
theorem roundCents_eq_iff (amount : ℚ) (cents : ℤ) : roundCents amount = cents / 100 ↔
    -(1 / 200) ≤ amount - cents / 100 ∧ amount - cents / 100 < 1 / 200 := by
  have whole : roundCents amount = cents / 100 ↔ ⌊amount * 100 + 1 / 2⌋ = cents := by
    rw [roundCents, div_left_inj' (by norm_num), Int.cast_inj]
  rw [whole, Int.floor_eq_iff]
  constructor
  · rintro ⟨low, high⟩
    constructor <;> linarith
  · rintro ⟨low, high⟩
    constructor <;> linarith

end Cents

section Loop

/-- The total is the exact sum of the rounds, and the inserted rows have the stored values. -/
def SumsRounds (draws : OrderDraws) (before : Database) (rounds : List Nat) (total : ℚ)
    (view : Database) : Prop :=
  total = exactTotal draws rounds ∧ ∃ items, view.orderItems.rows = before.orderItems.rows ++ items ∧
    items.map (fun item => plus item.price item.freightValue) =
      rounds.map fun i => some (draws.item i).storedValue

/-- The inserted items have the stored values, and the payment is the rounded exact total. -/
def WritesTotal (draws : OrderDraws) (before view : Database) : Prop :=
  ∃ items, view.orderItems.rows = before.orderItems.rows ++ items ∧
    items.map (fun item => plus item.price item.freightValue) =
      ((List.range draws.numItems).map fun i => some (draws.item i).storedValue) ∧
    ∃ payment : PaymentsRow, payment ∈ view.payments.rows.getLast? ∧
      payment.paymentValue = some (roundCents (exactTotal draws (List.range draws.numItems)))

theorem works_insertPurchase_total (draws : OrderDraws) (before : Database) :
    Works (· = before) (insertPurchase draws) fun _ view => WritesTotal draws before view := by
  apply works_insertPurchase_of draws before (SumsRounds draws before)
  case starts =>
    intro customerId estimated next done
    obtain ⟨row, -, same, -⟩ := insertOrders_ok done
    refine ⟨rfl, [], ?_, rfl⟩
    rw [same, List.append_nil]
  case step =>
    intro rounds total i productId view next ⟨exact, items, stored, values⟩ done
    obtain ⟨row, rows, -, -, priced, freighted⟩ := insertOrderItems_ok done
    constructor
    · rw [exact, exactTotal, exactTotal, List.map_append, List.sum_append, List.map_singleton,
        List.sum_singleton]
      rfl
    · refine ⟨items ++ [row], by rw [rows, stored, List.append_assoc], ?_⟩
      rw [List.map_append, List.map_append, values, List.map_singleton, List.map_singleton, priced,
        freighted]
      rfl
  case ends =>
    intro total view next ⟨exact, items, stored, values⟩ done
    obtain ⟨row, rows, same, -, -, value⟩ := insertPayments_ok done
    rw [exact] at value
    refine ⟨items, ?_, values, row, ?_, value⟩
    · rw [same]
      exact stored
    · rw [rows, List.getLast?_concat]
      rfl

end Loop

section Balance

/-- The payment is the sum of price and freight over the items of the order. -/
def Purchase.Balanced {orderId : String} (purchase : Purchase orderId) : Prop :=
  purchase.payment.paymentValue =
    sumColumn (fun item : OrderItemsRow => plus item.price item.freightValue) purchase.items

/-- A purchase that was written with the exact total balances exactly when the rounding errors of
its items stay within half a cent. -/
theorem balanced_iff (draws : OrderDraws) (before after : Database)
    (purchase : Purchase draws.orderId) (adds : Adds purchase before after)
    (written : WritesTotal draws before after) : purchase.Balanced ↔
      -(1 / 200) ≤ roundingError draws ∧ roundingError draws < 1 / 200 := by
  obtain ⟨items, rows, values, payment, last, value⟩ := written
  rw [adds.orderItems, List.append_cancel_left_eq] at rows
  rw [adds.payments, List.getLast?_concat, Option.mem_some_iff] at last
  obtain ⟨cents, whole⟩ := exists_storedTotal_eq draws (List.range draws.numItems)
  have summed : sumColumn (fun item : OrderItemsRow => plus item.price item.freightValue) items =
      some (storedTotal draws (List.range draws.numItems)) := by
    have present : List.range draws.numItems ≠ [] := by
      rw [Ne, List.range_eq_nil, OrderDraws.numItems]
      omega
    have listed := sumColumn_map id
      (fun item : OrderItemsRow => plus item.price item.freightValue) items
    rw [values, sumColumn_map] at listed
    apply listed.symm.trans
    change sumColumn (fun i => some (draws.item i).storedValue) (List.range draws.numItems) = _
    rw [sumColumn_some, if_neg present]
    rfl
  have error : exactTotal draws (List.range draws.numItems) - cents / 100 = roundingError draws := by
    rw [exactTotal_eq, whole]
    ring
  rw [Purchase.Balanced, last, value, rows, summed, Option.some.injEq, whole, roundCents_eq_iff,
    error]

/-- A call changes nothing, or it commits a purchase with the rounded exact total. -/
theorem generateOrder_total (session : GeneratorSession) (draws : OrderDraws) :
    (∃ fault, (generateOrder draws).runOn session =
        (.error fault, { session with working := none })) ∨
      ∃ (purchase : Purchase draws.orderId) (after : Database),
        Adds purchase session.committed after ∧ WritesTotal draws session.committed after ∧
          (generateOrder draws).runOn session =
            (.ok (), ⟨after, none, addRecentOrder draws.orderId session.memory⟩) := by
  have works := (works_insertPurchase draws session.committed).both
    (works_insertPurchase_total draws session.committed)
  have outcome := runOn_transaction session draws.connectFault draws.commitFault
    (addRecentOrder draws.orderId) works
  rcases outcome with failed | ⟨_, after, ⟨⟨purchase, adds⟩, written⟩, done⟩
  · exact .inl failed
  · exact .inr ⟨purchase, after, adds, written, done⟩

/-- A call that commits balances exactly when the rounding errors of its items stay within half a
cent. -/
theorem order_balances_iff (session : GeneratorSession) (draws : OrderDraws) :
    match (generateOrder draws).runOn session with
    | (.error _, after) => after.committed = session.committed
    | (.ok _, after) => ∃ purchase : Purchase draws.orderId,
        Adds purchase session.committed after.committed ∧ (purchase.Balanced ↔
          -(1 / 200) ≤ roundingError draws ∧ roundingError draws < 1 / 200) := by
  rcases generateOrder_total session draws with ⟨fault, failed⟩ | ⟨purchase, after, adds, written, done⟩
  · rw [failed]
  · rw [done]
    exact ⟨purchase, adds, balanced_iff draws session.committed after purchase adds written⟩

/-- One item costs 10.004 and has a freight of 5.004. -/
def fourTenths : OrderDraws where
  currentTimeMillis := 0
  orderNumber := 0
  customer := ⟨⟨0, by decide⟩, true, 0, 0⟩
  status := ⟨0, by decide⟩
  now := 0
  deliveryDays := 0
  moreItems := ⟨0, by decide⟩
  item := fun i => ⟨⟨⟨0, by decide⟩, true, 0, 0⟩, ⟨1 / 125000, by decide +kernel⟩,
    ⟨1 / 12500, by decide +kernel⟩, i, none⟩
  paymentType := ⟨0, by decide⟩
  paymentId := 0
  connectFault := none
  orderFault := none
  paymentFault := none
  commitFault := none

def emptyDatabase : Database where
  orders := KeyedTable.empty _
  customers := KeyedTable.empty _
  orderItems := KeyedTable.empty _
  payments := KeyedTable.empty _
  reviews := KeyedTable.empty _
  products := KeyedTable.empty _

/-- The payment of the order is 15.01, and its item has 10.00 and 5.00. -/
theorem four_tenths_unbalanced :
    roundCents (exactTotal fourTenths (List.range fourTenths.numItems)) = 1501 / 100 ∧
      storedTotal fourTenths (List.range fourTenths.numItems) = 15 ∧
      ∃ (purchase : Purchase fourTenths.orderId) (after : Database),
        Adds purchase emptyDatabase after ∧ ¬ purchase.Balanced ∧
          (generateOrder fourTenths).runOn (startSession emptyDatabase [] []) =
            (.ok (), ⟨after, none, ⟨[], [], [fourTenths.orderId]⟩⟩) := by
  have commits : ((generateOrder fourTenths).runOn (startSession emptyDatabase [] [])).1 = .ok () := by
    decide +kernel
  refine ⟨by decide +kernel, by decide +kernel, ?_⟩
  rcases generateOrder_total (startSession emptyDatabase [] []) fourTenths with
    ⟨fault, failed⟩ | ⟨purchase, after, adds, written, done⟩
  · rw [failed] at commits
    cases commits
  · refine ⟨purchase, after, adds, ?_, done⟩
    rw [balanced_iff fourTenths _ after purchase adds written]
    decide +kernel

end Balance

end OdsPipeline.DataGenerator
