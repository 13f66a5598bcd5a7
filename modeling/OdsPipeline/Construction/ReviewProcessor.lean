import OdsPipeline.Construction.Processor

namespace OdsPipeline.ReviewProcessor
open Library SqlQueries

def cleanSelect (row : ReviewsSource) : ReviewsData where
  toReviewsColumns := row.toReviewsColumns
  reviewCategory := caseWhen
    [(check row.reviewScore (4 ≤ ·), "Excellent"),
     (check row.reviewScore (· = 3), "Good"),
     (check row.reviewScore (· = 2), "Fair")] "Poor"
  isPositiveReview := caseWhen [(check row.reviewScore (3 ≤ ·), true)] false
  isDeleted := row.isDeleted

def cleanConjuncts (row : ReviewsSource) : List (Column × Truth) :=
  [(.orderId, isNotNull row.orderId),
   (.orderId, check (charLength row.orderId) (· ≤ 50)),
   (.reviewScore, isNotNull row.reviewScore),
   (.reviewScore, check row.reviewScore (1 ≤ ·)),
   (.reviewScore, check row.reviewScore (· ≤ 5))]

def errorConjuncts (row : ReviewsSource) : List (Column × Truth) :=
  [(.orderId, isNotNull row.orderId),
   (.orderId, check (charLength row.orderId) (· ≤ 50)),
   (.reviewScore, isNotNull row.reviewScore),
   (.reviewScore, check row.reviewScore (1 ≤ ·)),
   (.reviewScore, check row.reviewScore (· ≤ 5))]

def messageBranches (row : ReviewsSource) : List (Truth × String) :=
  [((isNull row.orderId).or (check (charLength row.orderId) (50 < ·)), "Invalid order ID"),
   (.any [isNull row.reviewScore, check row.reviewScore (· < 1), check row.reviewScore (5 < ·)],
    "Invalid review score (must be 1-5)")]

def errorMessage (row : ReviewsSource) : String :=
  caseWhen (messageBranches row) "Unknown validation error"

def processReviewsWithSQL :
    Processor ReviewsSource ReviewsData ReviewsColumns (Option String)
      (Option String × Timestamp) where
  clean := {
    condition := fun row => whereAll (cleanConjuncts row)
    select := fun now row => cleanRow now (cleanSelect row)
    primaryKey := reviewsSinkKey }
  error := {
    condition := fun row => (whereAll (errorConjuncts row)).not
    select := fun now row => errorRow now row.toReviewsColumns (errorMessage row)
      (rawData "order_id" row.orderId)
    primaryKey := reviewsErrorSinkKey }

end OdsPipeline.ReviewProcessor
