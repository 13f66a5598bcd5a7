import OdsPipeline.Proof.Caches
import OdsPipeline.Proof.LatencyTest

namespace OdsPipeline
open Library

namespace Postgres

/-- The statements succeed one after another. -/
def Replays (database : Database) (inserts : List (Option SqlError × Insert)) : Prop :=
  ∃ next, replay inserts database = .ok next

theorem replays_nil (database : Database) : Replays database [] := ⟨database, rfl⟩

theorem replays_cons_iff (database : Database) (fault : Option SqlError) (insert : Insert)
    (rest : List (Option SqlError × Insert)) :
    Replays database ((fault, insert) :: rest) ↔ fault = none ∧
      ∃ row, insert.row = .ok row ∧ row.Fits database ∧
        Replays (database.commit row.statement) rest := by
  simp only [Replays, replay_cons, bind_eq_ok_iff, attempt_eq_ok_iff, Insert.execute_eq_ok_iff]
  constructor
  · rintro ⟨next, _, ⟨quiet, row, known, fits, rfl⟩, replayed⟩
    exact ⟨quiet, row, known, fits, next, replayed⟩
  · rintro ⟨quiet, row, known, fits, next, replayed⟩
    exact ⟨next, _, ⟨quiet, row, known, fits, rfl⟩, replayed⟩

/-- A text that fits into its column is stored as it is. -/
theorem assignVarchar_of_length_le {bound : Nat} {text : String} (short : text.length ≤ bound) :
    assignVarchar bound text = .ok ⟨text, short⟩ := by
  rw [assignVarchar, dif_pos short]

/-- A solid text is stored exactly when it fits. -/
theorem assignVarchar_eq_ok_iff {bound : Nat} {text : String} (solid : ' ' ∉ text.toList)
    (value : Varchar bound) : assignVarchar bound text = .ok value ↔ value.val = text := by
  constructor
  · intro assigned
    exact assignVarchar_eq bound text value solid assigned
  · intro same
    have short : text.length ≤ bound := by
      rw [← same]
      exact value.property
    rw [assignVarchar_of_length_le short, Except.ok.injEq]
    exact Subtype.ext same.symm

section References
variable {Row : Type} {bound : Nat} {keyOf : Row → Varchar bound}

/-- Each id of a nullable text names a row. -/
def Names (id : Option String) (table : KeyedTable keyOf) : Prop :=
  ∀ text ∈ id, ∃ row ∈ table.rows, (keyOf row).val = text

/-- A nullable id that names a row is stored as it is. -/
theorem exists_reference_of_names {id : Option String} {table : KeyedTable keyOf}
    (names : Names id table) :
    ∃ reference, assignNullable bound id = .ok reference ∧ References reference table := by
  cases id with
  | none => exact ⟨none, rfl, by rintro key ⟨⟩⟩
  | some text =>
      obtain ⟨row, stored, rfl⟩ := names text rfl
      refine ⟨some (keyOf row), ?_, ?_⟩
      · rw [assignNullable, assignVarchar_of_length_le (keyOf row).property]
        rfl
      · rw [references_iff]
        rintro key ⟨⟩
        exact ⟨row, stored, rfl⟩

/-- A solid id that is stored as a valid reference names a row. -/
theorem names_of_reference {id : Option String} {reference : Option (Varchar bound)}
    {table : KeyedTable keyOf} (solid : ∀ text ∈ id, ' ' ∉ text.toList)
    (assigned : assignNullable bound id = .ok reference) (holds : References reference table) :
    Names id table := by
  rintro text ⟨⟩
  have stored := DataGenerator.toText_assigned (solid text rfl) assigned
  obtain ⟨key, rfl, same⟩ := Option.map_eq_some_iff.mp stored
  obtain ⟨row, member, named⟩ := (references_iff _ _).mp holds key rfl
  exact ⟨row, member, by rw [named, same]⟩

end References

end Postgres

namespace DataGenerator
open Postgres Program

section Drawn

/-- The id that a draw makes up with a label. NULL and a cached id are not made up. -/
def IdDraws.madeUp (draws : IdDraws) (label : String) (rate : ℚ) (existing : List String) :
    Option String :=
  if existing = [] ∨ draws.chance.val < rate then invalidId label draws else none

/-- A drawn id is made up, or it is NULL, or it is cached. -/
theorem getRandomId_cases (label : String) (rate : ℚ) (draws : IdDraws) (existing : List String) :
    getRandomId label rate draws existing = draws.madeUp label rate existing ∨
      draws.madeUp label rate existing = none ∧
        ∃ id ∈ existing, getRandomId label rate draws existing = some id := by
  cases existing with
  | nil => simp [getRandomId, IdDraws.madeUp]
  | cons first rest =>
      rw [getRandomId, IdDraws.madeUp]
      by_cases small : draws.chance.val < rate
      · rw [if_pos small, if_pos (.inr small)]
        exact .inl rfl
      · rw [if_neg small, if_neg (by simp [small])]
        exact .inr ⟨rfl, _, List.get_mem _ _, rfl⟩

theorem space_notMem_invalidId (label : String) (solid : ' ' ∉ label.toList) (draws : IdDraws) :
    ∀ text ∈ invalidId label draws, ' ' ∉ text.toList := by
  intro text drawn
  unfold invalidId at drawn
  split at drawn
  · cases drawn
  · cases drawn
    rw [String.toList_append, List.mem_append, not_or]
    exact ⟨solid, space_notMem_toString_nat _⟩

variable {Row : Type} {bound : Nat} {keyOf : Row → Varchar bound}

/-- A drawn id is stored as a valid reference exactly when a made-up id of the draw names a row,
because the cached ids name rows. -/
theorem exists_reference_iff (label : String) (solid : ' ' ∉ label.toList) (rate : ℚ)
    (draws : IdDraws) (existing : List String) (table : KeyedTable keyOf)
    (cached : ∀ id ∈ existing, ∃ row ∈ table.rows, (keyOf row).val = id) :
    (∃ reference, assignNullable bound (getRandomId label rate draws existing) = .ok reference ∧
        References reference table) ↔ Names (draws.madeUp label rate existing) table := by
  rcases getRandomId_cases label rate draws existing with same | ⟨none, id, member, same⟩
  · constructor
    · rintro ⟨reference, assigned, holds⟩
      rw [same] at assigned
      apply names_of_reference _ assigned holds
      intro text drawn
      unfold IdDraws.madeUp at drawn
      split at drawn
      · exact space_notMem_invalidId label solid draws text drawn
      · cases drawn
    · intro names
      rw [same]
      exact exists_reference_of_names names
  · rw [none, same]
    refine iff_of_true (exists_reference_of_names ?_) ?_
    · rintro text ⟨⟩
      exact cached id member
    · rintro text ⟨⟩

end Drawn

section Commits

/-- No connection of a call is lost. -/
structure OrderDraws.Connected (draws : OrderDraws) : Prop where
  connect : draws.connectFault = none
  order : draws.orderFault = none
  items : ∀ i < draws.numItems, (draws.item i).fault = none
  payment : draws.paymentFault = none
  commit : draws.commitFault = none

/-- The keys of a call are new, and the ids that it makes up exist. -/
structure Commits (session : GeneratorSession) (draws : OrderDraws) : Prop where
  connected : draws.Connected
  short : draws.orderId.length ≤ 50
  newOrder : ∀ row ∈ session.committed.orders.rows, row.orderId.val ≠ draws.orderId
  newItems : ∀ i < draws.numItems, session.committed.orderItems.lookup (draws.item i).id = none
  distinctItems : ((List.range draws.numItems).map fun i => (draws.item i).id).Nodup
  newPayment : session.committed.payments.lookup draws.paymentId = none
  customer : Names (draws.customer.madeUp "invalid_customer_" (1 / 10)
    session.memory.existingCustomers) session.committed.customers
  products : ∀ i < draws.numItems, Names ((draws.item i).product.madeUp "invalid_product_" (1 / 20)
    session.memory.existingProducts) session.committed.products

/-- The rows that the item loop and the payment need. -/
structure ItemsCommit (draws : OrderDraws) (generator : Generator) (rounds : List Nat)
    (view : Database) : Prop where
  items : ∀ i ∈ rounds, (draws.item i).fault = none
  payment : draws.paymentFault = none
  newItems : ∀ i ∈ rounds, view.orderItems.lookup (draws.item i).id = none
  distinctItems : (rounds.map fun i => (draws.item i).id).Nodup
  newPayment : view.payments.lookup draws.paymentId = none
  products : ∀ i ∈ rounds, Names ((draws.item i).product.madeUp "invalid_product_" (1 / 20)
    generator.existingProducts) view.products

variable {draws : OrderDraws} {generator : Generator}

/-- A placed order is a valid reference of its items and of its payment. -/
theorem exists_placed_reference {view : Database}
    (placed : ∃ row ∈ view.orders.rows, row.orderId.val = draws.orderId) :
    ∃ id, assignVarchar 50 draws.orderId = .ok id ∧ References (some id) view.orders := by
  obtain ⟨row, stored, same⟩ := placed
  refine ⟨row.orderId, (assignVarchar_eq_ok_iff (space_notMem_orderId draws) _).mpr same, ?_⟩
  rw [references_iff]
  rintro key ⟨⟩
  exact ⟨row, stored, rfl⟩

/-- The payment of a placed order succeeds exactly with a new key. -/
theorem replays_payment_iff {view : Database}
    (placed : ∃ row ∈ view.orders.rows, row.orderId.val = draws.orderId) :
    Replays view [(draws.paymentFault, paymentInsert draws)] ↔
      ItemsCommit draws generator [] view := by
  rw [replays_cons_iff]
  constructor
  · rintro ⟨quiet, row, known, fits, -⟩
    obtain ⟨payment, rfl, same, -⟩ := Insert.row_payments known
    exact {
      items := List.forall_mem_nil _
      payment := quiet
      newItems := List.forall_mem_nil _
      distinctItems := List.nodup_nil
      newPayment := same ▸ fits.1
      products := List.forall_mem_nil _ }
  · intro ready
    obtain ⟨id, assigned, holds⟩ := exists_placed_reference placed
    have type : ∀ type ∈ paymentTypes, type.length ≤ 20 := by decide
    let payment : PaymentsRow := ⟨draws.paymentId, some id,
      some ⟨_, type _ (List.get_mem _ draws.paymentType)⟩,
      some (roundCents (totalOrderValue draws (List.range draws.numItems) 0)), some false⟩
    refine ⟨ready.payment, .payments payment, ?_, ⟨ready.newPayment, holds⟩, replays_nil _⟩
    rw [paymentInsert, Insert.row, assigned, assignVarchar_of_length_le]
    rfl

/-- The items and the payment of a placed order succeed exactly with new keys and known products. -/
theorem replays_items_iff (rounds : List Nat) {view : Database}
    (placed : ∃ row ∈ view.orders.rows, row.orderId.val = draws.orderId)
    (cached : ∀ id ∈ generator.existingProducts,
      ∃ row ∈ view.products.rows, row.productId.val = id) :
    Replays view ((rounds.map fun i => ((draws.item i).fault, itemInsert draws generator i)) ++
        [(draws.paymentFault, paymentInsert draws)]) ↔
      ItemsCommit draws generator rounds view := by
  induction rounds generalizing view with
  | nil => exact replays_payment_iff placed
  | cons i rest ih =>
      have reference := exists_reference_iff "invalid_product_" (by decide) (1 / 20)
        (draws.item i).product generator.existingProducts view.products cached
      rw [List.map_cons, List.cons_append, replays_cons_iff]
      constructor
      · rintro ⟨quiet, row, known, fits, replayed⟩
        obtain ⟨item, rfl, same, -, product, -⟩ := Insert.row_orderItems known
        obtain ⟨fresh, -, holds⟩ := fits
        have ready := (@ih (view.commit (NewRow.orderItems item).statement) placed cached).mp replayed
        have later (j : Nat) (member : j ∈ rest) : (draws.item j).id ≠ (draws.item i).id ∧
            view.orderItems.lookup (draws.item j).id = none := by
          have absent := ready.newItems j member
          change (view.orderItems.commit (.insert item)).lookup _ = none at absent
          rw [KeyedTable.lookup_commit_insert _ _ _ fresh, same] at absent
          split at absent
          · cases absent
          · next other => exact ⟨other, absent⟩
        exact {
          items := List.forall_mem_cons.mpr ⟨quiet, ready.items⟩
          payment := ready.payment
          newItems := List.forall_mem_cons.mpr ⟨same ▸ fresh, fun j member => (later j member).2⟩
          distinctItems := by
            rw [List.map_cons, List.nodup_cons]
            refine ⟨?_, ready.distinctItems⟩
            intro inside
            obtain ⟨j, member, equal⟩ := List.mem_map.mp inside
            exact (later j member).1 equal
          newPayment := ready.newPayment
          products := List.forall_mem_cons.mpr ⟨reference.mp ⟨_, product, holds⟩, ready.products⟩ }
      · intro ready
        obtain ⟨id, assigned, order⟩ := exists_placed_reference placed
        obtain ⟨product, named, holds⟩ :=
          reference.mpr (List.forall_mem_cons.mp ready.products).1
        have distinct := List.nodup_cons.mp ready.distinctItems
        have fresh := (List.forall_mem_cons.mp ready.newItems).1
        let item : OrderItemsRow := ⟨(draws.item i).id, some id, product,
          some (roundCents (draws.item i).priceValue), some (roundCents (draws.item i).freightValue),
          some false⟩
        refine ⟨(List.forall_mem_cons.mp ready.items).1, .orderItems item, ?_,
          ⟨fresh, order, holds⟩,
          (@ih (view.commit (NewRow.orderItems item).statement) placed cached).mpr ?_⟩
        · rw [itemInsert, Insert.row, assigned]
          change Except.bind (assignNullable 50 (getRandomId _ _ _ _)) _ = _
          rw [named]
          rfl
        · exact {
            items := (List.forall_mem_cons.mp ready.items).2
            payment := ready.payment
            newItems := by
              intro j member
              change (view.orderItems.commit (.insert item)).lookup _ = none
              rw [KeyedTable.lookup_commit_insert _ item _ fresh, if_neg]
              · exact (List.forall_mem_cons.mp ready.newItems).2 j member
              · intro equal
                exact distinct.1 (List.mem_map.mpr ⟨j, member, equal⟩)
            distinctItems := distinct.2
            newPayment := ready.newPayment
            products := (List.forall_mem_cons.mp ready.products).2 }

/-- The statements of a purchase succeed exactly when its call can commit. -/
theorem replays_purchase_iff (session : GeneratorSession) (sound : Sound session) :
    Replays session.committed (purchaseInserts draws session.memory) ↔
      (draws.orderFault = none ∧ draws.orderId.length ≤ 50 ∧
        (∀ row ∈ session.committed.orders.rows, row.orderId.val ≠ draws.orderId) ∧
        Names (draws.customer.madeUp "invalid_customer_" (1 / 10) session.memory.existingCustomers)
          session.committed.customers) ∧
      ItemsCommit draws session.memory (List.range draws.numItems) session.committed := by
  have reference := exists_reference_iff "invalid_customer_" (by decide) (1 / 10) draws.customer
    session.memory.existingCustomers session.committed.customers sound.customers
  rw [purchaseInserts, List.cons_append, replays_cons_iff]
  constructor
  · rintro ⟨quiet, row, known, fits, replayed⟩
    obtain ⟨order, rfl, assigned, customer, -⟩ := Insert.row_orders known
    obtain ⟨fresh, holds⟩ := fits
    have same := assignVarchar_eq 50 _ _ (space_notMem_orderId draws) assigned
    have ready := (@replays_items_iff draws session.memory (List.range draws.numItems)
      (session.committed.commit (NewRow.orders order).statement)
      ⟨order, by
        change order ∈ (session.committed.orders.commit (.insert order)).rows
        rw [KeyedTable.rows_commit_insert _ order fresh]
        exact List.mem_append_right _ (List.mem_singleton.mpr rfl), same⟩ sound.products).mp replayed
    refine ⟨⟨quiet, ?_, ?_, reference.mp ⟨_, customer, holds⟩⟩, ?_⟩
    · rw [← same]
      exact order.orderId.property
    · intro row stored equal
      apply (KeyedTable.lookup_eq_none_iff _ _).mp fresh row stored
      exact Subtype.ext (equal.trans same.symm)
    · exact ⟨ready.items, ready.payment, ready.newItems, ready.distinctItems, ready.newPayment,
        ready.products⟩
  · rintro ⟨⟨quiet, short, fresh, names⟩, ready⟩
    obtain ⟨customer, named, holds⟩ := reference.mpr names
    have status : ∀ status ∈ statuses, status.length ≤ 20 := by decide
    let order : OrdersRow := ⟨⟨draws.orderId, short⟩, customer,
      some ⟨_, status _ (List.get_mem _ draws.status)⟩, some draws.now, none,
      some (draws.now + dayMillis * (3 + draws.deliveryDays.val)), some false⟩
    have absent : session.committed.orders.lookup order.orderId = none := by
      rw [KeyedTable.lookup_eq_none_iff]
      intro row stored equal
      exact fresh row stored (congrArg Subtype.val equal)
    refine ⟨quiet, .orders order, ?_, ⟨absent, holds⟩, ?_⟩
    · rw [orderInsert, Insert.row, assignVarchar_of_length_le short]
      change Except.bind (assignNullable 50 (getRandomId _ _ _ _)) _ = _
      rw [named, assignVarchar_of_length_le (status _ (List.get_mem _ draws.status))]
      rfl
    · apply (@replays_items_iff draws session.memory (List.range draws.numItems)
        (session.committed.commit (NewRow.orders order).statement) ⟨order, by
          change order ∈ (session.committed.orders.commit (.insert order)).rows
          rw [KeyedTable.rows_commit_insert _ order absent]
          exact List.mem_append_right _ (List.mem_singleton.mpr rfl), rfl⟩ sound.products).mpr
      exact ⟨ready.items, ready.payment, ready.newItems, ready.distinctItems, ready.newPayment,
        ready.products⟩

theorem publish_ok_iff (session : GeneratorSession) (change : Generator → Generator)
    (settled : Except SqlError Database) :
    (publish session change settled).1 = .ok () ↔ ∃ next, settled = .ok next := by
  cases settled with
  | error fault => simp [publish]
  | ok next => simp [publish]

/-- A call in a sound state commits exactly when its keys are new and its made-up ids exist. -/
theorem generateOrder_commits_iff (session : GeneratorSession) (sound : Sound session) :
    ((generateOrder draws).runOn session).1 = .ok () ↔ Commits session draws := by
  rw [generateOrder_runOn, publish_ok_iff]
  simp only [settle_replay_eq_ok_iff, exists_and_left]
  rw [← Replays, replays_purchase_iff session sound]
  constructor
  · rintro ⟨connect, commit, ⟨order, short, fresh, names⟩, ready⟩
    exact {
      connected := ⟨connect, order, fun i few => ready.items i (List.mem_range.mpr few),
        ready.payment, commit⟩
      short := short
      newOrder := fresh
      newItems := fun i few => ready.newItems i (List.mem_range.mpr few)
      distinctItems := ready.distinctItems
      newPayment := ready.newPayment
      customer := names
      products := fun i few => ready.products i (List.mem_range.mpr few) }
  · intro commits
    have connected := commits.connected
    refine ⟨connected.connect, connected.commit,
      ⟨connected.order, commits.short, commits.newOrder, commits.customer⟩, ?_⟩
    exact {
      items := fun i member => connected.items i (List.mem_range.mp member)
      payment := connected.payment
      newItems := fun i member => commits.newItems i (List.mem_range.mp member)
      distinctItems := commits.distinctItems
      newPayment := commits.newPayment
      products := fun i member => commits.products i (List.mem_range.mp member) }

/-- In every run of the scheduler, with its tasks one after another, an order commits exactly when
its keys are new and each id that it makes up exists, so a cached id never fails and NULL never
fails. -/
theorem order_commits_iff (valid : ValidDatabase) (reads : CacheReads valid.database)
    (tasks : List Task) (draws : OrderDraws) :
    let reached := runTasks (main valid.database reads) tasks
    ((generateOrder draws).runOn reached).1 = .ok () ↔ Commits reached draws :=
  generateOrder_commits_iff _ (runTasks_keeps (fun _ _ sound moves => sound.moves moves) _
    (sound_main valid.database reads valid.foreignKeys) tasks)

theorem shop_sells :
    Commits (runTasks (main shop.database shopReads) [.customer visitor]) shopDraws :=
  (order_commits_iff shop shopReads [.customer visitor] shopDraws).mp (by decide +kernel)

end Commits

end DataGenerator

end OdsPipeline
