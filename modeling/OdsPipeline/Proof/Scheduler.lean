import OdsPipeline.Construction.Scheduler
import OdsPipeline.Proof.GenerateOrder
import OdsPipeline.Proof.Inserts

namespace OdsPipeline.DataGenerator
open Library Postgres Program

section Moves

/-- What one call of the generator does to the database and to the caches. -/
inductive Moves (session next : GeneratorSession) : Prop
  | idle (store : next.committed = session.committed) (memory : next.memory = session.memory)
  | order (draws : OrderDraws) (rows : List NewRow)
      (known : List.Forall₂ (fun insert row => insert.2.row = .ok row)
        (purchaseInserts draws session.memory) rows)
      (fits : FitsAll session.committed rows)
      (store : next.committed = session.committed.addAll rows)
      (memory : next.memory = addRecentOrder draws.orderId session.memory)
  | test (draws : TestDraws) (rows : List NewRow)
      (known : List.Forall₂ (fun insert row => insert.2.row = .ok row)
        (testInserts draws draws.testOrderId
          (getRandomCustomerId draws.customer session.memory.existingCustomers)
          (getRandomProductId draws.product session.memory.existingProducts)) rows)
      (fits : FitsAll session.committed rows)
      (store : next.committed = session.committed.addAll rows)
      (memory : next.memory = session.memory)
  | customer (draws : CustomerDraws) (row : NewRow)
      (known : (Insert.customers ("customer_" ++ toString draws.currentTimeMillis) draws.uniqueId
        draws.city (states.get draws.state)).row = .ok row)
      (fits : row.Fits session.committed)
      (store : next.committed = session.committed.addAll [row])
      (memory : next.memory = { session.memory with
        existingCustomers := session.memory.existingCustomers ++
          ["customer_" ++ toString draws.currentTimeMillis] })
  | product (draws : ProductDraws) (row : NewRow)
      (known : (Insert.products ("product_" ++ toString draws.currentTimeMillis)
        (categories.get draws.category)).row = .ok row)
      (fits : row.Fits session.committed)
      (store : next.committed = session.committed.addAll [row])
      (memory : next.memory = { session.memory with
        existingProducts := session.memory.existingProducts ++
          ["product_" ++ toString draws.currentTimeMillis] })

/-- A call commits exactly when its transaction settles. -/
theorem generateOrder_cases (session : GeneratorSession) (draws : OrderDraws) :
    (∃ fault, (generateOrder draws).runOn session =
        (.error fault, { session with working := none })) ∨
      ∃ rows, List.Forall₂ (fun insert row => insert.2.row = .ok row)
          (purchaseInserts draws session.memory) rows ∧ FitsAll session.committed rows ∧
        (generateOrder draws).runOn session = (.ok (), ⟨session.committed.addAll rows, none,
          addRecentOrder draws.orderId session.memory⟩) := by
  rw [generateOrder_runOn]
  cases settled : settle draws.connectFault draws.commitFault
      (replayEffect (purchaseInserts draws session.memory)) session.committed with
  | error fault => exact .inl ⟨fault, rfl⟩
  | ok next =>
      obtain ⟨-, -, replayed⟩ := (settle_replay_eq_ok_iff _ _ _ _ _).mp settled
      obtain ⟨-, rows, known, fits, rfl⟩ := (replay_eq_ok_iff _ _ _).mp replayed
      exact .inr ⟨rows, known, fits, rfl⟩

theorem generateOrder_follows (draws : OrderDraws) : Follows Moves (generateOrder draws) := by
  intro session
  rcases generateOrder_cases session draws with ⟨fault, failed⟩ | ⟨rows, known, fits, done⟩
  · rw [failed]
    exact .single (.idle rfl rfl)
  · rw [done]
    exact .single (.order draws rows known fits rfl rfl)

theorem generateCustomer_follows (draws : CustomerDraws) :
    Follows Moves (generateCustomer draws) := by
  intro session
  rcases runOn_autoCommit session draws.connectFault (attempt draws.fault (insertCustomers
    ("customer_" ++ toString draws.currentTimeMillis) draws.uniqueId draws.city
    (states.get draws.state))) (fun generator => { generator with
      existingCustomers := generator.existingCustomers ++
        ["customer_" ++ toString draws.currentTimeMillis] }) with
    ⟨fault, failed⟩ | ⟨next, executed, done⟩
  · refine .single (.idle ?_ ?_)
    · exact congrArg (fun outcome => outcome.2.committed) failed
    · exact congrArg (fun outcome => outcome.2.memory) failed
  · obtain ⟨-, inserted⟩ := (attempt_eq_ok_iff _ _ _ _).mp executed
    obtain ⟨row, known, fits, rfl⟩ := (Insert.execute_eq_ok_iff (.customers _ _ _ _) _ _).mp inserted
    refine .single (.customer draws row known fits ?_ ?_)
    · exact congrArg (fun outcome => outcome.2.committed) done
    · exact congrArg (fun outcome => outcome.2.memory) done

theorem generateProduct_follows (draws : ProductDraws) :
    Follows Moves (generateProduct draws) := by
  intro session
  rcases runOn_autoCommit session draws.connectFault (attempt draws.fault (insertProducts
    ("product_" ++ toString draws.currentTimeMillis) (categories.get draws.category)))
    (fun generator => { generator with
      existingProducts := generator.existingProducts ++
        ["product_" ++ toString draws.currentTimeMillis] }) with
    ⟨fault, failed⟩ | ⟨next, executed, done⟩
  · refine .single (.idle ?_ ?_)
    · exact congrArg (fun outcome => outcome.2.committed) failed
    · exact congrArg (fun outcome => outcome.2.memory) failed
  · obtain ⟨-, inserted⟩ := (attempt_eq_ok_iff _ _ _ _).mp executed
    obtain ⟨row, known, fits, rfl⟩ := (Insert.execute_eq_ok_iff (.products _ _) _ _).mp inserted
    refine .single (.product draws row known fits ?_ ?_)
    · exact congrArg (fun outcome => outcome.2.committed) done
    · exact congrArg (fun outcome => outcome.2.memory) done

theorem generateReview_follows (draws : ReviewDraws) : Follows Moves (generateReview draws) := by
  intro session
  rw [generateReview_eq]
  split
  · exact .refl
  · exact .single (.idle rfl rfl)

theorem insertTestOrder_cases (session : GeneratorSession) (draws : TestDraws) (orderId : String)
    (customerId productId : Option String) :
    (∃ fault, (insertTestOrder draws orderId customerId productId).runOn session =
        (.error fault, { session with working := none })) ∨
      ∃ rows, List.Forall₂ (fun insert row => insert.2.row = .ok row)
          (testInserts draws orderId customerId productId) rows ∧
        FitsAll session.committed rows ∧
        (insertTestOrder draws orderId customerId productId).runOn session =
          (.ok (), ⟨session.committed.addAll rows, none, session.memory⟩) := by
  rw [insertTestOrder_runOn]
  cases settled : settle draws.connectFault draws.commitFault
      (replayEffect (testInserts draws orderId customerId productId)) session.committed with
  | error fault => exact .inl ⟨fault, rfl⟩
  | ok next =>
      obtain ⟨-, -, replayed⟩ := (settle_replay_eq_ok_iff _ _ _ _ _).mp settled
      obtain ⟨-, rows, known, fits, rfl⟩ := (replay_eq_ok_iff _ _ _).mp replayed
      exact .inr ⟨rows, known, fits, rfl⟩

theorem performLatencyTest_follows (draws : TestDraws) (looks : Nat → Attempt) :
    Follows Moves (performLatencyTest draws looks) := by
  intro session
  unfold performLatencyTest
  rw [runOn_bind]
  -- The ids are drawn from the caches of the session in which the test starts.
  change Relation.ReflTransGen Moves session (runOn (tryCatch _ _) session).2
  rw [runOn_tryCatch, runOn_bind]
  rcases insertTestOrder_cases session draws draws.testOrderId
      (getRandomCustomerId draws.customer session.memory.existingCustomers)
      (getRandomProductId draws.product session.memory.existingProducts) with
    ⟨fault, failed⟩ | ⟨rows, known, fits, done⟩
  · rw [failed]
    exact .single (.idle rfl rfl)
  · rw [done]
    exact .single (.test draws rows known fits rfl rfl)

theorem Task.follows (task : Task) : Follows Moves task.action := by
  cases task with
  | orderBatch draws =>
      exact follows_tryCatch (follows_forM _ _ fun i => generateOrder_follows (draws i))
        fun _ => follows_pure ()
  | customer draws => exact follows_tryCatch (generateCustomer_follows draws) fun _ => follows_pure ()
  | product draws => exact follows_tryCatch (generateProduct_follows draws) fun _ => follows_pure ()
  | review draws => exact follows_tryCatch (generateReview_follows draws) fun _ => follows_pure ()
  | latencyTest draws looks =>
      exact follows_bind (performLatencyTest_follows draws looks) fun _ => follows_pure ()
  | burst draws =>
      apply follows_bind _ fun _ => follows_pure ()
      apply follows_foldlM
      intro successCount i
      apply follows_tryCatch _ fun _ => follows_pure _
      exact follows_bind (generateOrder_follows (draws i)) fun _ => follows_pure _

/-- A run of tasks is a run of calls. -/
theorem runTasks_follows (session : GeneratorSession) (tasks : List Task) :
    Relation.ReflTransGen Moves session (runTasks session tasks) := by
  induction tasks generalizing session with
  | nil => exact .refl
  | cons task rest ih => exact (task.follows session).trans (ih _)

end Moves

end OdsPipeline.DataGenerator
