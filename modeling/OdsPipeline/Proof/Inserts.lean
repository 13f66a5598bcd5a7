import OdsPipeline.Construction.Inserts
import OdsPipeline.Library.Interleaving

namespace OdsPipeline
open Library

namespace Postgres

section Checks
variable {α β : Type} {Row Key : Type} [DecidableEq Key] {keyOf : Row → Key}

theorem bind_eq_ok_iff (first : Except SqlError α) (second : α → Except SqlError β) (value : β) :
    (first >>= second) = .ok value ↔ ∃ middle, first = .ok middle ∧ second middle = .ok value := by
  cases first with
  | error fault =>
      constructor
      · intro impossible
        cases impossible
      · rintro ⟨_, impossible, -⟩
        cases impossible
  | ok middle =>
      constructor
      · intro done
        exact ⟨middle, rfl, done⟩
      · rintro ⟨_, same, done⟩
        cases same
        exact done

/-- A new row is stored exactly when its key is new. -/
theorem insertRow_eq_ok_iff (constraint : String) (table next : KeyedTable keyOf) (row : Row) :
    insertRow constraint table row = .ok next ↔
      table.lookup (keyOf row) = none ∧ next = table.commit (.insert row) := by
  rw [insertRow, KeyedTable.commit]
  cases table.lookup (keyOf row) with
  | none => simp [eq_comm]
  | some old => simp

theorem checkReference_eq_ok_iff (constraint : String) (reference : Option Key)
    (table : KeyedTable keyOf) (done : Unit) :
    checkReference constraint reference table = .ok done ↔ References reference table := by
  rw [checkReference]
  split
  · next holds => exact iff_of_true rfl holds
  · next fails =>
      apply iff_of_false _ fails
      intro impossible
      cases impossible

end Checks

/-- The checks and the write of a statement after its texts fit. -/
def NewRow.store (database : Database) : NewRow → Except SqlError Database
  | .orders row => do
      let orders ← insertRow "orders_pkey" database.orders row
      checkReference "fk_orders_customer" row.customerId database.customers
      return { database with orders := orders }
  | .orderItems row => do
      let orderItems ← insertRow "order_items_pkey" database.orderItems row
      checkReference "fk_order_items_order" row.orderId database.orders
      checkReference "fk_order_items_product" row.productId database.products
      return { database with orderItems := orderItems }
  | .payments row => do
      let payments ← insertRow "payments_pkey" database.payments row
      checkReference "fk_payments_order" row.orderId database.orders
      return { database with payments := payments }
  | .customers row => do
      let customers ← insertRow "customers_pkey" database.customers row
      return { database with customers := customers }
  | .products row => do
      let products ← insertRow "products_pkey" database.products row
      return { database with products := products }

theorem Insert.execute_eq (insert : Insert) (database : Database) :
    insert.execute database = insert.row >>= fun row => row.store database := by
  cases insert with
  | orders => simp only [row, execute, insertOrders, bind_assoc, pure_bind, NewRow.store]
  | orderItems => simp only [row, execute, insertOrderItems, bind_assoc, pure_bind, NewRow.store]
  | payments => simp only [row, execute, insertPayments, bind_assoc, pure_bind, NewRow.store]
  | customers => simp only [row, execute, insertCustomers, bind_assoc, pure_bind, NewRow.store]
  | products => simp only [row, execute, insertProducts, bind_assoc, pure_bind, NewRow.store]

/-- A row is stored exactly when it fits. -/
theorem NewRow.store_eq_ok_iff (row : NewRow) (database next : Database) :
    row.store database = .ok next ↔
      row.Fits database ∧ next = database.commit row.statement := by
  cases row with
  | orders row =>
      constructor
      · intro done
        simp only [store, bind_eq_ok_iff, insertRow_eq_ok_iff, checkReference_eq_ok_iff] at done
        obtain ⟨_, ⟨fresh, rfl⟩, _, customer, same⟩ := done
        cases same
        exact ⟨⟨fresh, customer⟩, rfl⟩
      · rintro ⟨⟨fresh, customer⟩, rfl⟩
        simp only [store, bind_eq_ok_iff, insertRow_eq_ok_iff, checkReference_eq_ok_iff]
        exact ⟨_, ⟨fresh, rfl⟩, (), customer, rfl⟩
  | orderItems row =>
      constructor
      · intro done
        simp only [store, bind_eq_ok_iff, insertRow_eq_ok_iff, checkReference_eq_ok_iff] at done
        obtain ⟨_, ⟨fresh, rfl⟩, _, order, _, product, same⟩ := done
        cases same
        exact ⟨⟨fresh, order, product⟩, rfl⟩
      · rintro ⟨⟨fresh, order, product⟩, rfl⟩
        simp only [store, bind_eq_ok_iff, insertRow_eq_ok_iff, checkReference_eq_ok_iff]
        exact ⟨_, ⟨fresh, rfl⟩, (), order, (), product, rfl⟩
  | payments row =>
      constructor
      · intro done
        simp only [store, bind_eq_ok_iff, insertRow_eq_ok_iff, checkReference_eq_ok_iff] at done
        obtain ⟨_, ⟨fresh, rfl⟩, _, order, same⟩ := done
        cases same
        exact ⟨⟨fresh, order⟩, rfl⟩
      · rintro ⟨⟨fresh, order⟩, rfl⟩
        simp only [store, bind_eq_ok_iff, insertRow_eq_ok_iff, checkReference_eq_ok_iff]
        exact ⟨_, ⟨fresh, rfl⟩, (), order, rfl⟩
  | customers row =>
      constructor
      · intro done
        simp only [store, bind_eq_ok_iff, insertRow_eq_ok_iff] at done
        obtain ⟨_, ⟨fresh, rfl⟩, same⟩ := done
        cases same
        exact ⟨fresh, rfl⟩
      · rintro ⟨fresh, rfl⟩
        simp only [store, bind_eq_ok_iff, insertRow_eq_ok_iff]
        exact ⟨_, ⟨fresh, rfl⟩, rfl⟩
  | products row =>
      constructor
      · intro done
        simp only [store, bind_eq_ok_iff, insertRow_eq_ok_iff] at done
        obtain ⟨_, ⟨fresh, rfl⟩, same⟩ := done
        cases same
        exact ⟨fresh, rfl⟩
      · rintro ⟨fresh, rfl⟩
        simp only [store, bind_eq_ok_iff, insertRow_eq_ok_iff]
        exact ⟨_, ⟨fresh, rfl⟩, rfl⟩

/-- A statement succeeds exactly when it has a row that fits, and it writes this row. -/
theorem Insert.execute_eq_ok_iff (insert : Insert) (database next : Database) :
    insert.execute database = .ok next ↔
      ∃ row, insert.row = .ok row ∧ row.Fits database ∧ next = database.commit row.statement := by
  simp only [execute_eq, bind_eq_ok_iff, NewRow.store_eq_ok_iff]

def Database.add (database : Database) (row : NewRow) : Database := database.commit row.statement

/-- The rows of a list are written one after another. -/
def Database.addAll (database : Database) (rows : List NewRow) : Database :=
  rows.foldl Database.add database

/-- Each row of a list fits after the rows before it. -/
def FitsAll (database : Database) (rows : List NewRow) : Prop :=
  AllFit (fun database row => row.Fits database) Database.add database rows

theorem attempt_eq_ok_iff (fault : Option SqlError) (statement : Database → Except SqlError Database)
    (database next : Database) :
    Program.attempt fault statement database = .ok next ↔
      fault = none ∧ statement database = .ok next := by
  cases fault with
  | none => simp [Program.attempt]
  | some fault => simp [Program.attempt]

theorem replay_cons (insert : Option SqlError × Insert) (rest : List (Option SqlError × Insert))
    (database : Database) :
    replay (insert :: rest) database =
      (Program.attempt insert.1 insert.2.execute database >>= replay rest) :=
  List.foldlM_cons

theorem replay_append (first second : List (Option SqlError × Insert)) (database : Database) :
    replay (first ++ second) database = (replay first database >>= replay second) :=
  List.foldlM_append

theorem replay_singleton (insert : Option SqlError × Insert) (database : Database) :
    replay [insert] database = Program.attempt insert.1 insert.2.execute database := by
  rw [replay_cons]
  cases Program.attempt insert.1 insert.2.execute database <;> rfl

/-- A replay succeeds exactly without faults and with rows that fit one after another. -/
theorem replay_eq_ok_iff (inserts : List (Option SqlError × Insert)) (database next : Database) :
    replay inserts database = .ok next ↔ (∀ insert ∈ inserts, insert.1 = none) ∧
      ∃ rows, List.Forall₂ (fun insert row => insert.2.row = .ok row) inserts rows ∧
        FitsAll database rows ∧ next = database.addAll rows := by
  induction inserts generalizing database with
  | nil =>
      constructor
      · intro done
        cases done
        exact ⟨List.forall_mem_nil _, [], .nil, trivial, rfl⟩
      · rintro ⟨-, rows, same, -, rfl⟩
        cases same
        rfl
  | cons insert rest ih =>
      rw [replay_cons, bind_eq_ok_iff, List.forall_mem_cons]
      simp only [attempt_eq_ok_iff, Insert.execute_eq_ok_iff, ih]
      constructor
      · rintro ⟨_, ⟨quiet, row, known, fits, rfl⟩, quietRest, rows, rowsKnown, rowsFit, rfl⟩
        exact ⟨⟨quiet, quietRest⟩, row :: rows, .cons known rowsKnown, ⟨fits, rowsFit⟩, rfl⟩
      · rintro ⟨⟨quiet, quietRest⟩, _, known, fits, rfl⟩
        cases known with
        | cons known rowsKnown =>
            exact ⟨_, ⟨quiet, _, known, fits.1, rfl⟩, quietRest, _, rowsKnown, fits.2, rfl⟩

end Postgres

namespace DataGenerator
open Postgres Program

section Orders
variable (draws : OrderDraws) (generator : Generator)

/-- A replay changes the view and gives no result of its own. -/
def replayEffect (inserts : List (Option SqlError × Insert)) : Effect Database SqlError Unit :=
  fun view => (replay inserts view).map fun next => ((), next)

/-- A statement before a replay is the first statement of a longer replay. -/
theorem has_replay_cons {rest : List (Option SqlError × Insert)} {program : Action}
    (insert : Option SqlError × Insert) (has : program.Has generator (replayEffect rest)) :
    (executeUpdate (attempt insert.1 insert.2.execute) >>= fun _ => program).Has generator
      (replayEffect (insert :: rest)) := by
  apply (has_bind (has_executeUpdate _) fun _ => has).congr
  intro view
  change Except.map _ (replay (insert :: rest) view) =
    Except.bind (Except.map _ (attempt insert.1 insert.2.execute view)) _
  rw [replay_cons]
  cases attempt insert.1 insert.2.execute view <;> rfl

theorem has_replay_singleton (insert : Option SqlError × Insert) :
    (executeUpdate (attempt insert.1 insert.2.execute) : Action).Has generator
      (replayEffect [insert]) := by
  apply (has_executeUpdate _).congr
  intro view
  change Except.map _ (replay [insert] view) = Except.map _ _
  rw [replay_singleton]

theorem insertItem_has (total : ℚ) (i : Nat) :
    (insertItem draws total i).Has generator fun view =>
      (attempt (draws.item i).fault (itemInsert draws generator i).execute view).map
        fun next => (total + ((draws.item i).priceValue + (draws.item i).freightValue), next) := by
  apply has_memory_bind
  apply (has_bind (has_executeUpdate _) fun _ => has_pure _).congr
  intro view
  change Except.map _ (attempt (draws.item i).fault (itemInsert draws generator i).execute view) =
    Except.bind (Except.map _ (attempt (draws.item i).fault
      (itemInsert draws generator i).execute view)) _
  cases attempt (draws.item i).fault (itemInsert draws generator i).execute view <;> rfl

/-- The item loop replays its statements and adds up its total. -/
theorem insertItems_has (rounds : List Nat) (start : ℚ) :
    (rounds.foldlM (insertItem draws) start).Has generator fun view =>
      (replay (rounds.map fun i => ((draws.item i).fault, itemInsert draws generator i)) view).map
        fun next => (totalOrderValue draws rounds start, next) := by
  induction rounds generalizing start with
  | nil => exact has_pure start
  | cons i rest ih =>
      rw [List.foldlM_cons]
      apply (has_bind (insertItem_has draws generator start i) fun total => ih total).congr
      intro view
      change Except.map _ (replay (_ :: _) view) = Except.bind (Except.map _ _) _
      rw [replay_cons]
      dsimp only
      cases attempt (draws.item i).fault (itemInsert draws generator i).execute view <;> rfl

/-- The statements of a call are the inserts of its purchase. -/
theorem insertPurchase_has :
    (insertPurchase draws).Has generator (replayEffect (purchaseInserts draws generator)) := by
  apply has_memory_bind
  apply has_replay_cons generator (draws.orderFault, orderInsert draws generator)
  apply (has_bind (insertItems_has draws generator (List.range draws.numItems) 0) fun total =>
    has_executeUpdate _).congr
  intro view
  change Except.map _ (replay (_ ++ _) view) = Except.bind (Except.map _ (replay _ view)) _
  rw [replay_append]
  cases replay ((List.range draws.numItems).map fun i =>
    ((draws.item i).fault, itemInsert draws generator i)) view with
  | error fault => rfl
  | ok filled =>
      change Except.map _ (replay [_] filled) = Except.map _ (attempt _ _ filled)
      rw [replay_singleton]
      rfl

/-- A call publishes the replay of its purchase and remembers the order, or it changes nothing. -/
theorem generateOrder_runOn (session : GeneratorSession) :
    (generateOrder draws).runOn session =
      publish session (addRecentOrder draws.orderId)
        (settle draws.connectFault draws.commitFault
          (replayEffect (purchaseInserts draws session.memory)) session.committed) :=
  runOn_settle (insertPurchase_has draws session.memory) session rfl draws.connectFault
    draws.commitFault (addRecentOrder draws.orderId)

end Orders

section Settle

/-- A transaction settles exactly without faults and with rows that fit one after another. -/
theorem settle_replay_eq_ok_iff (connectFault commitFault : Option SqlError)
    (inserts : List (Option SqlError × Insert)) (database next : Database) :
    settle connectFault commitFault (replayEffect inserts) database = .ok next ↔
      connectFault = none ∧ commitFault = none ∧ replay inserts database = .ok next := by
  cases connectFault with
  | some fault => simp [settle, raise, bind, Except.bind]
  | none =>
      have settled : settle none commitFault (replayEffect inserts) database =
          (replay inserts database).bind fun view => do
            raise commitFault
            return view := by
        change Except.bind (Except.map _ (replay inserts database)) _ = _
        cases replay inserts database <;> rfl
      rw [settled]
      cases replay inserts database with
      | error fault => simp [Except.bind]
      | ok view =>
          cases commitFault with
          | some fault => simp [raise, bind, Except.bind]
          | none => simp [raise, bind, pure, Except.pure, Except.bind]

end Settle

section Test
variable (draws : TestDraws)

/-- The statements of a latency test are its inserts. -/
theorem insertTestRows_has (generator : Generator) (orderId : String)
    (customerId productId : Option String) :
    (insertTestRows draws orderId customerId productId).Has generator
      (replayEffect (testInserts draws orderId customerId productId)) :=
  has_replay_cons generator (draws.orderFault, .orders orderId customerId "pending" draws.now none)
    (has_replay_cons generator (draws.itemFault, .orderItems draws.itemId orderId productId
      (9999 / 100) (999 / 100))
      (has_replay_singleton generator (draws.paymentFault, .payments draws.paymentId orderId
        "credit_card" (10998 / 100))))

theorem insertTestOrder_runOn (session : GeneratorSession) (orderId : String)
    (customerId productId : Option String) :
    (insertTestOrder draws orderId customerId productId).runOn session =
      publish session id (settle draws.connectFault draws.commitFault
        (replayEffect (testInserts draws orderId customerId productId)) session.committed) := by
  have remembered : (commit draws.commitFault : Action) =
      (commit draws.commitFault >>= fun _ => remember id) := by
    cases draws.commitFault <;> rfl
  rw [insertTestOrder, remembered]
  exact runOn_settle (insertTestRows_has draws session.memory orderId customerId productId) session
    rfl draws.connectFault draws.commitFault id

end Test

end DataGenerator

end OdsPipeline
