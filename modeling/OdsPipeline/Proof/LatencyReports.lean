import OdsPipeline.Proof.LatencyTest

namespace OdsPipeline.DataGenerator
open Library SqlQueries Postgres Program StarRocks

section Wait
variable (orderId : String) (startTime : Int) (looks : Nat → Attempt)

/-- The rounds before a round ran to their end and did not see the order. -/
def Waits (done : Nat) : Prop :=
  ∀ round, 1 ≤ round → round ≤ done → (looks round).interrupted = false ∧
    checkOrderInStarRocks orderId (looks round) = false

/-- The round is the first one that sees the order. -/
structure FirstSeen (found : Nat) : Prop where
  late : 1 ≤ found
  waits : Waits orderId looks (found - 1)
  running : (looks found).interrupted = false
  seen : checkOrderInStarRocks orderId (looks found) = true

/-- The milliseconds that the first rounds take. -/
def elapsed (rounds : Nat) : Nat :=
  ((List.range rounds).map fun round => attemptInterval + (looks (round + 1)).moreMillis).sum

theorem elapsed_succ (rounds : Nat) : elapsed looks (rounds + 1) =
    elapsed looks rounds + (attemptInterval + (looks (rounds + 1)).moreMillis) := by
  rw [elapsed, List.range_succ, List.map_append, List.sum_append, List.map_singleton,
    List.sum_singleton]
  rfl

/-- Each round takes at least its interval. -/
theorem le_elapsed (rounds : Nat) : attemptInterval * rounds ≤ elapsed looks rounds := by
  induction rounds with
  | zero => exact Nat.zero_le _
  | succ rounds ih =>
      rw [elapsed_succ, Nat.mul_succ]
      omega

variable {orderId looks}

theorem Waits.succ {done : Nat} (waits : Waits orderId looks done)
    (running : (looks (done + 1)).interrupted = false)
    (unseen : checkOrderInStarRocks orderId (looks (done + 1)) = false) :
    Waits orderId looks (done + 1) := by
  intro round late early
  rcases Nat.le_succ_iff.mp early with before | rfl
  · exact waits round late before
  · exact ⟨running, unseen⟩

/-- A round that is interrupted or sees the order leaves no later round. -/
theorem FirstSeen.le_of_stop {found stop : Nat} (first : FirstSeen orderId looks found)
    (late : 1 ≤ stop) (stops : (looks stop).interrupted = true ∨
      checkOrderInStarRocks orderId (looks stop) = true) : found ≤ stop := by
  by_contra after
  obtain ⟨running, unseen⟩ := first.waits stop late (by omega)
  rcases stops with interrupted | seen
  · rw [running] at interrupted
    cases interrupted
  · rw [unseen] at seen
    cases seen

theorem FirstSeen.unique {found other : Nat} (first : FirstSeen orderId looks found)
    (second : FirstSeen orderId looks other) : found = other :=
  Nat.le_antisymm (first.le_of_stop second.late (.inr second.seen))
    (second.le_of_stop first.late (.inr first.seen))

/-- The remaining rounds report the first one that sees the order, or no round sees it. -/
theorem waitRounds_cases (left done : Nat) (waits : Waits orderId looks done) :
    (∃ found ≤ done + left, FirstSeen orderId looks found ∧
        waitRounds orderId startTime looks left (done + 1) (startTime + elapsed looks done) =
          elapsed looks found) ∨
      (¬ ∃ found ≤ done + left, FirstSeen orderId looks found) ∧
        waitRounds orderId startTime looks left (done + 1) (startTime + elapsed looks done) =
          -1 := by
  induction left generalizing done with
  | zero =>
      refine .inr ⟨?_, rfl⟩
      rintro ⟨found, few, first⟩
      obtain ⟨-, unseen⟩ := waits found first.late few
      rw [first.seen] at unseen
      cases unseen
  | succ left ih =>
      have clock : startTime + elapsed looks done +
          (attemptInterval + (looks (done + 1)).moreMillis) =
            startTime + elapsed looks (done + 1) := by
        rw [elapsed_succ]
        push_cast
        ring
      rw [waitRounds, clock]
      cases interrupted : (looks (done + 1)).interrupted with
      | true =>
          refine .inr ⟨?_, rfl⟩
          rintro ⟨found, -, first⟩
          have here := first.le_of_stop (Nat.le_add_left 1 done) (.inl interrupted)
          rcases Nat.le_succ_iff.mp here with before | rfl
          · obtain ⟨-, unseen⟩ := waits found first.late before
            rw [first.seen] at unseen
            cases unseen
          · rw [first.running] at interrupted
            cases interrupted
      | false =>
          cases seen : checkOrderInStarRocks orderId (looks (done + 1)) with
          | true =>
              refine .inl ⟨done + 1, by omega, ⟨by omega, waits, interrupted, seen⟩, ?_⟩
              exact add_sub_cancel_left _ _
          | false =>
              have next := ih (done + 1) (waits.succ interrupted seen)
              rw [show done + (left + 1) = done + 1 + left by omega]
              exact next

/-- A wait reports the first of its rounds that sees the order, or no round sees it. -/
theorem waitForDataInStarRocks_cases (orderId : String) (looks : Nat → Attempt) :
    (∃ found ≤ maxAttempts, FirstSeen orderId looks found ∧
        waitForDataInStarRocks orderId startTime looks = elapsed looks found) ∨
      (¬ ∃ found ≤ maxAttempts, FirstSeen orderId looks found) ∧
        waitForDataInStarRocks orderId startTime looks = -1 := by
  have nothing : Waits orderId looks 0 := fun round late early => by omega
  have outcome := waitRounds_cases startTime maxAttempts 0 nothing
  have begins : startTime + (elapsed looks 0 : ℕ) = startTime := add_zero _
  rw [begins, Nat.zero_add, Nat.zero_add] at outcome
  exact outcome

/-- A round that sees the order has taken some time. -/
theorem FirstSeen.elapsed_pos {found : Nat} (first : FirstSeen orderId looks found) :
    (0 : Int) < elapsed looks found := by
  have interval : attemptInterval = 1000 := rfl
  have rounds := le_elapsed looks found
  have late := first.late
  nlinarith

end Wait

section Reports

/-- A latency is the time of the first round that sees the order, so it is never excellent and
never shows more than 3600 records an hour. -/
structure ReportsLatency (orderId : String) (looks : Nat → Attempt) (latency : Int) : Prop where
  seen : ∃ found ≤ maxAttempts, FirstSeen orderId looks found ∧ latency = elapsed looks found ∧
    attemptInterval * found ≤ latency
  notExcellent : (printLatencyAssessment latency).status ≠ .excellent
  throughput : (printLatencyAssessment latency).recordsPerHour ≤ 3600

theorem reportsLatency_of_seen {orderId : String} {looks : Nat → Attempt} {found : Nat}
    (few : found ≤ maxAttempts) (first : FirstSeen orderId looks found) :
    ReportsLatency orderId looks (elapsed looks found) := by
  have second : (1000 : ℚ) ≤ elapsed looks found := by
    have interval : attemptInterval = 1000 := rfl
    have rounds := le_elapsed looks found
    have late := first.late
    exact_mod_cast (show 1000 ≤ elapsed looks found by nlinarith)
  refine ⟨⟨found, few, first, rfl, by exact_mod_cast le_elapsed looks found⟩, ?_, ?_⟩
  · have long : ¬ (((elapsed looks found : ℕ) : ℤ) : ℚ) / 1000 < 1 := by
      rw [Int.cast_natCast, not_lt, le_div_iff₀ (by norm_num)]
      linarith
    rw [printLatencyAssessment]
    dsimp only
    rw [if_neg long]
    split
    · decide
    · split
      · decide
      · split <;> decide
  · have rate : (1000 : ℚ) / elapsed looks found ≤ 1 := by
      rw [div_le_one (by linarith)]
      exact second
    change ⌊(1000 : ℚ) / (((elapsed looks found : ℕ) : ℤ) : ℚ) * 3600 + 1 / 2⌋ ≤ 3600
    rw [Int.cast_natCast, ← Int.lt_add_one_iff, Int.floor_lt]
    push_cast
    linarith

/-- A result is the time of the first round that sees the order, a missing order was seen in no
round, and a failed insert has stored nothing. -/
def Reports (session : GeneratorSession) (orderId : String) (looks : Nat → Attempt) :
    Except SqlError LatencyReport × GeneratorSession → Prop
  | (.ok (.result latency), _) => ReportsLatency orderId looks latency
  | (.ok .notFound, _) => ¬ ∃ found ≤ maxAttempts, FirstSeen orderId looks found
  | (.ok (.error _), after) => after.committed = session.committed
  | (.error _, _) => False

/-- In every session and for every sequence of looks, the report of a test follows its rounds. -/
theorem latency_report_follows_rounds (session : GeneratorSession) (draws : TestDraws)
    (looks : Nat → Attempt) :
    Reports session draws.testOrderId looks ((performLatencyTest draws looks).runOn session) := by
  unfold performLatencyTest
  rw [runOn_bind]
  change Reports session _ looks (runOn (tryCatch _ _) session)
  rw [runOn_tryCatch, runOn_bind]
  rcases insertTestOrder_outcome draws session
      (getRandomCustomerId draws.customer session.memory.existingCustomers)
      (getRandomProductId draws.product session.memory.existingProducts) with
    ⟨fault, failed⟩ | ⟨after, -, done⟩
  · rw [failed]
    rfl
  · rw [done]
    change Reports session _ looks (.ok (if 0 < waitForDataInStarRocks draws.testOrderId
      draws.startTime looks then .result (waitForDataInStarRocks draws.testOrderId draws.startTime
        looks) else .notFound), _)
    rcases waitForDataInStarRocks_cases draws.startTime draws.testOrderId looks with
      ⟨found, few, first, latency⟩ | ⟨never, latency⟩
    · rw [latency, if_pos first.elapsed_pos]
      exact reportsLatency_of_seen few first
    · rw [latency]
      exact never

end Reports

end OdsPipeline.DataGenerator
