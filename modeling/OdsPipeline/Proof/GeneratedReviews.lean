import OdsPipeline.Proof.Balance
import OdsPipeline.Proof.GeneratedRows

namespace OdsPipeline.DataGenerator
open Library Postgres Program

section Calls

def reviewsOf (database : Database) (orderId : String) : List ReviewsRow :=
  database.reviews.rows.filter fun row => toText row.orderId = some orderId

/-- The order that a call picks from the recent orders. -/
def chosenOrder (draws : ReviewDraws) (recentOrders : List String) : Option String :=
  recentOrders[draws.position % recentOrders.length]?

/-- An order has one review after a call. The first call gives its score, and a later call changes
nothing. -/
structure StoresOnce (orderId : String) (score : Int) (before after : Database) : Prop where
  one : ∃ row, reviewsOf after orderId = [row] ∧
    ReviewProcessor.processReviewsWithSQL.RoutesClean row.toSource
  first : reviewsOf before orderId = [] →
    (reviewsOf after orderId).map ReviewsRow.reviewScore = [some score]
  later : reviewsOf before orderId ≠ [] → after = before

/-- A call ends without an error and stores the review of its order. -/
structure StoresReview (session : GeneratorSession) (draws : ReviewDraws) : Prop where
  completes : ((generateReview draws).runOn session).1 = .ok ()
  once : ∀ orderId ∈ chosenOrder draws session.memory.recentOrders,
    StoresOnce orderId (1 + draws.moreStars.val) session.committed
      ((generateReview draws).runOn session).2.committed

/-- No draw of the call loses the connection. -/
def ReviewDraws.Connected (draws : ReviewDraws) : Prop :=
  draws.connectFault = none ∧ draws.fault = none

/-- Each connected call of a run stores a review when there are recent orders. -/
def ReviewsStored (start : GeneratorSession) (jobs : List Job) : Prop :=
  ∀ before draws rest, jobs = before ++ Job.review draws :: rest → draws.Connected →
    (runJobs start before).memory.recentOrders ≠ [] → StoresReview (runJobs start before) draws

/-- A call with recent orders never stores a review. -/
theorem not_storesReview (session : GeneratorSession) (draws : ReviewDraws)
    (recent : session.memory.recentOrders ≠ []) : ¬ StoresReview session draws := by
  intro stores
  have completes := stores.completes
  rw [generateReview_eq, if_neg recent] at completes
  cases completes

end Calls

section Runs
variable (database : Database) (customers products : List String)

/-- There are recent orders as soon as one order is committed. -/
theorem recentOrders_eq_nil_iff (jobs : List Job) :
    (runJobs (startSession database customers products) jobs).memory.recentOrders = [] ↔
      committedIds (startSession database customers products) jobs = [] := by
  obtain ⟨-, recent⟩ := runJobs_orders (startSession database customers products) jobs [] rfl
  rw [recent, List.nil_append, List.rtake, List.drop_eq_nil_iff]
  constructor
  · intro short
    rw [← List.length_eq_zero_iff]
    omega
  · intro none
    rw [none]
    exact Nat.zero_le _

/-- The reviews of a run are stored exactly when no order is committed before any connected call. -/
theorem reviews_stored_iff (jobs : List Job) :
    ReviewsStored (startSession database customers products) jobs ↔
      ∀ before draws rest, jobs = before ++ Job.review draws :: rest → draws.Connected →
        committedIds (startSession database customers products) before = [] := by
  constructor
  · intro stored before draws rest split connected
    by_contra committed
    rw [← recentOrders_eq_nil_iff] at committed
    exact not_storesReview _ draws committed (stored before draws rest split connected committed)
  · intro uncommitted before draws rest split connected recent
    have none := uncommitted before draws rest split connected
    rw [← recentOrders_eq_nil_iff] at none
    exact absurd none recent

end Runs

/-- A call that gives five stars to the only recent order. -/
def fiveStars : ReviewDraws := ⟨0, ⟨4, by decide⟩, none, none⟩

/-- The first review of the only order is an SQL error. -/
theorem five_stars_rejected :
    let start := startSession emptyDatabase [] []
    let reached := runJobs start [.order fourTenths]
    reached.memory.recentOrders = [fourTenths.orderId] ∧
      ((generateReview fiveStars).runOn reached).1 = .error .invalidColumnReference ∧
      ((generateReview fiveStars).runOn reached).2.committed.reviews.rows = [] ∧
      ¬ ReviewsStored start [.order fourTenths, .review fiveStars] := by
  have recent : (runJobs (startSession emptyDatabase [] []) [.order fourTenths]).memory.recentOrders =
      [fourTenths.orderId] := by decide +kernel
  refine ⟨recent, by decide +kernel, by decide +kernel, ?_⟩
  intro stored
  apply not_storesReview _ fiveStars (by rw [recent]; exact List.cons_ne_nil _ _)
  exact stored [.order fourTenths] fiveStars [] rfl ⟨rfl, rfl⟩
    (by rw [recent]; exact List.cons_ne_nil _ _)

end OdsPipeline.DataGenerator
