import Mathlib.Data.Option.NAry
import OdsPipeline.Construction.SqlQueries

namespace OdsPipeline
open Library SqlQueries

/-- The source columns that some validation condition reads. -/
inductive Column where
  | orderId
  | customerId
  | orderStatus
  | orderPurchaseTimestamp
  | productId
  | price
  | freightValue
  | paymentType
  | paymentValue
  | customerUniqueId
  | customerCity
  | customerState
  | reviewScore
  | productCategoryName
  deriving DecidableEq, Repr

/-- A processor runs one clean statement and one error statement on the same source. -/
structure Processor (Source Data Columns CleanKey ErrorKey : Type) where
  clean : InsertSelect Timestamp Source (CleanSink Data) CleanKey
  error : InsertSelect Timestamp Source (ErrorSink Columns) ErrorKey

/-- A WHERE clause is a chain of AND over conditions that each read one column. -/
def whereAll (conjuncts : List (Column × Truth)) : Truth := Truth.all (conjuncts.map Prod.snd)

theorem whereAll_eq_true_iff (conjuncts : List (Column × Truth)) :
    whereAll conjuncts = .true ↔ ∀ conjunct ∈ conjuncts, conjunct.2 = .true := by
  rw [whereAll, Truth.all_eq_true_iff, List.forall_mem_map]

theorem whereAll_eq_false_iff (conjuncts : List (Column × Truth)) :
    whereAll conjuncts = .false ↔ ∃ conjunct ∈ conjuncts, conjunct.2 = .false := by
  simp [whereAll, Truth.all_eq_false_iff]

end OdsPipeline
