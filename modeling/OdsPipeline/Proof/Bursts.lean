import OdsPipeline.Proof.Scheduler

namespace OdsPipeline.DataGenerator
open Library Postgres Program

section Calls
variable (draws : Nat → OrderDraws) (session : GeneratorSession)

/-- The session after the first calls of a loop, whether they commit or not. -/
def afterCalls (count : Nat) : GeneratorSession :=
  (List.range count).foldl (fun session i => ((generateOrder (draws i)).runOn session).2) session

/-- The call of a round commits in the session that the rounds before it reach. -/
def commitsAt (i : Nat) : Bool :=
  ((generateOrder (draws i)).runOn (afterCalls draws session i)).1.isOk

/-- The rounds that commit. -/
def committedRounds (count : Nat) : List Nat :=
  (List.range count).filter (commitsAt draws session)

theorem afterCalls_succ (count : Nat) : afterCalls draws session (count + 1) =
    ((generateOrder (draws count)).runOn (afterCalls draws session count)).2 := by
  rw [afterCalls, List.range_succ, List.foldl_append]
  rfl

theorem committedRounds_succ (count : Nat) : committedRounds draws session (count + 1) =
    committedRounds draws session count ++
      if commitsAt draws session count then [count] else [] := by
  rw [committedRounds, List.range_succ, List.filter_append, List.filter_singleton,
    Bool.cond_eq_ite]
  rfl

/-- A round adds the id of its order exactly when it commits. -/
theorem orderIds_afterCalls (count : Nat) :
    orderIds (afterCalls draws session count).committed = orderIds session.committed ++
      (committedRounds draws session count).map fun i => (draws i).orderId := by
  induction count with
  | zero => exact (List.append_nil _).symm
  | succ count ih =>
      rw [committedRounds_succ, List.map_append, ← List.append_assoc, ← ih, afterCalls_succ,
        commitsAt]
      rcases generateOrder_outcome (afterCalls draws session count) (draws count) with
        ⟨fault, failed⟩ | ⟨purchase, after, adds, done⟩
      · rw [failed]
        exact (List.append_nil _).symm
      · rw [done, orderIds, adds.orders, List.map_append, List.map_singleton, purchase.id]
        rfl

end Calls

section Burst
variable (draws : Nat → OrderDraws) (session : GeneratorSession)

/-- The burst goes on after a fault, and it counts the rounds that commit. -/
theorem performBurstGeneration_runOn :
    (performBurstGeneration draws).runOn session =
      (.ok (committedRounds draws session burstOrdersCount).length,
        afterCalls draws session burstOrdersCount) := by
  unfold performBurstGeneration
  generalize burstOrdersCount = count
  induction count with
  | zero => rfl
  | succ count ih =>
      rw [List.range_succ, List.foldlM_append, runOn_bind, ih, committedRounds_succ,
        afterCalls_succ, commitsAt]
      dsimp only
      rw [List.foldlM_cons, runOn_bind, runOn_tryCatch, runOn_bind]
      cases ran : (generateOrder (draws count)).runOn (afterCalls draws session count) with
      | mk outcome after =>
          cases outcome with
          | error fault =>
              change (Except.ok _, after) = (Except.ok (_ ++ []).length, after)
              rw [List.append_nil]
          | ok value =>
              change (Except.ok (_ + 1), after) = (Except.ok (_ ++ [count]).length, after)
              rw [List.length_append]
              rfl

end Burst

section Batch
variable (draws : Nat → OrderDraws) (session : GeneratorSession)

/-- A loop without a handler stops at its first round that does not commit. -/
theorem runOn_forM_generateOrder (count : Nat) :
    ((∀ i < count, commitsAt draws session i = true) ∧
      runOn ((List.range count).forM fun i => generateOrder (draws i)) session =
        (.ok (), afterCalls draws session count)) ∨
    ∃ rounds < count, (∀ i < rounds, commitsAt draws session i = true) ∧
      commitsAt draws session rounds = false ∧
      ∃ fault, runOn ((List.range count).forM fun i => generateOrder (draws i)) session =
        (.error fault, afterCalls draws session (rounds + 1)) := by
  induction count with
  | zero =>
      refine .inl ⟨?_, rfl⟩
      intro i inside
      omega
  | succ count ih =>
      have split : ((List.range (count + 1)).forM fun i => generateOrder (draws i)) =
          ((List.range count).forM fun i => generateOrder (draws i)) >>= fun _ =>
            generateOrder (draws count) >>= fun _ => pure () := by
        rw [List.range_succ]
        exact List.forM_append
      rw [split, runOn_bind]
      rcases ih with ⟨all, done⟩ | ⟨rounds, few, all, stopped, fault, failed⟩
      · rw [done]
        dsimp only
        rw [runOn_bind]
        cases ran : (generateOrder (draws count)).runOn (afterCalls draws session count) with
        | mk outcome after =>
            have next : afterCalls draws session (count + 1) = after := by
              rw [afterCalls_succ, ran]
            have commits : commitsAt draws session count = outcome.isOk := by
              rw [commitsAt, ran]
            cases outcome with
            | error fault =>
                refine .inr ⟨count, Nat.lt_succ_self count, all, commits, fault, ?_⟩
                rw [next]
            | ok value =>
                refine .inl ⟨?_, ?_⟩
                · intro i inside
                  rcases Nat.lt_succ_iff_lt_or_eq.mp inside with before | rfl
                  · exact all i before
                  · exact commits
                · rw [next]
                  rfl
      · refine .inr ⟨rounds, Nat.lt_succ_of_lt few, all, stopped, fault, ?_⟩
        rw [failed]

/-- The rounds that commit are all rounds before the first one that does not. -/
theorem committedRounds_of_all (count : Nat)
    (all : ∀ i < count, commitsAt draws session i = true) :
    committedRounds draws session count = List.range count := by
  rw [committedRounds, List.filter_eq_self]
  intro i member
  exact all i (List.mem_range.mp member)

/-- The batch adds the orders before its first fault, and it catches this fault. -/
theorem scheduleOrderGeneration_runOn :
    ∃ rounds ≤ batchSize, (∀ i < rounds, commitsAt draws session i = true) ∧
      (rounds < batchSize → commitsAt draws session rounds = false) ∧
      ((scheduleOrderGeneration draws).runOn session).1 = .ok () ∧
      orderIds ((scheduleOrderGeneration draws).runOn session).2.committed =
        orderIds session.committed ++ (List.range rounds).map fun i => (draws i).orderId := by
  unfold scheduleOrderGeneration logged
  rw [runOn_tryCatch]
  rcases runOn_forM_generateOrder draws session batchSize with
    ⟨all, done⟩ | ⟨rounds, few, all, stopped, fault, failed⟩
  · refine ⟨batchSize, Nat.le_refl _, all, ?_, ?_⟩
    · intro less
      exact absurd less (Nat.lt_irrefl _)
    · rw [done, ← committedRounds_of_all draws session batchSize all]
      exact ⟨rfl, orderIds_afterCalls draws session batchSize⟩
  · refine ⟨rounds, Nat.le_of_lt few, all, fun _ => stopped, ?_⟩
    have ended : committedRounds draws session (rounds + 1) = List.range rounds := by
      rw [committedRounds_succ, committedRounds_of_all draws session rounds all, stopped]
      exact List.append_nil _
    rw [failed, ← ended]
    exact ⟨rfl, orderIds_afterCalls draws session (rounds + 1)⟩

end Batch

section Tasks

theorem logged_ok (call : Action) (session : GeneratorSession) :
    ((logged call).runOn session).1 = .ok () := by
  rw [logged, runOn_tryCatch]
  cases ran : (call.runOn session).1 with
  | error fault => rfl
  | ok value => rfl

theorem performLatencyTest_ok (draws : TestDraws) (looks : Nat → Attempt)
    (session : GeneratorSession) :
    ∃ report, ((performLatencyTest draws looks).runOn session).1 = .ok report := by
  unfold performLatencyTest
  rw [runOn_bind]
  change ∃ report, (runOn (tryCatch _ _) session).1 = .ok report
  rw [runOn_tryCatch]
  split
  · next value _ => exact ⟨value, rfl⟩
  · next fault _ => exact ⟨.error fault, rfl⟩

/-- No exception leaves a task, so the pool never cancels its later executions. -/
theorem Task.action_ok (task : Task) (session : GeneratorSession) :
    (task.action.runOn session).1 = .ok () := by
  cases task with
  | orderBatch draws => exact logged_ok _ session
  | customer draws => exact logged_ok _ session
  | product draws => exact logged_ok _ session
  | review draws => exact logged_ok _ session
  | latencyTest draws looks =>
      obtain ⟨report, ended⟩ := performLatencyTest_ok draws looks session
      rw [Task.action, runOn_bind, ended]
      rfl
  | burst draws =>
      rw [Task.action, runOn_bind, performBurstGeneration_runOn]
      rfl

/-- No task of a run fails. A batch adds exactly the orders before its first fault, and a burst adds
exactly the orders of the rounds that commit and reports their number. -/
theorem tasks_add_committed_orders (session : GeneratorSession) :
    (∀ task : Task, (task.action.runOn session).1 = .ok ()) ∧
      (∀ draws : Nat → OrderDraws, ∃ rounds ≤ batchSize,
        (∀ i < rounds, commitsAt draws session i = true) ∧
        (rounds < batchSize → commitsAt draws session rounds = false) ∧
        orderIds ((scheduleOrderGeneration draws).runOn session).2.committed =
          orderIds session.committed ++ (List.range rounds).map fun i => (draws i).orderId) ∧
      ∀ draws : Nat → OrderDraws,
        let rounds := (List.range burstOrdersCount).filter (commitsAt draws session)
        ((performBurstGeneration draws).runOn session).1 = .ok rounds.length ∧
          orderIds ((performBurstGeneration draws).runOn session).2.committed =
            orderIds session.committed ++ rounds.map fun i => (draws i).orderId := by
  refine ⟨fun task => task.action_ok session, fun draws => ?_, fun draws => ?_⟩
  · obtain ⟨rounds, few, all, stopped, -, added⟩ := scheduleOrderGeneration_runOn draws session
    exact ⟨rounds, few, all, stopped, added⟩
  · rw [performBurstGeneration_runOn]
    exact ⟨rfl, orderIds_afterCalls draws session burstOrdersCount⟩

end Tasks

end OdsPipeline.DataGenerator
