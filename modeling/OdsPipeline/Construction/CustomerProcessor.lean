import OdsPipeline.Construction.Processor

namespace OdsPipeline.CustomerProcessor
open Library SqlQueries

def stateRegion (state : Option String) : String :=
  caseWhen
    [(check state (· ∈ ["SP", "RJ", "MG"]), "Southeast"),
     (check state (· ∈ ["RS", "SC", "PR"]), "South"),
     (check state (· ∈ ["BA", "SE", "AL", "PE", "PB", "RN", "CE", "PI", "MA"]), "Northeast"),
     (check state (· ∈ ["GO", "MT", "MS", "DF"]), "Central-West")] "North"

def cleanSelect (row : CustomersSource) : CustomersData where
  toCustomersColumns := row.toCustomersColumns
  stateRegion := stateRegion row.customerState
  isDeleted := row.isDeleted

def cleanConjuncts (row : CustomersSource) : List (Column × Truth) :=
  [(.customerId, isNotNull row.customerId),
   (.customerId, check (charLength row.customerId) (· ≤ 50)),
   (.customerUniqueId, isNotNull row.customerUniqueId),
   (.customerUniqueId, check (charLength row.customerUniqueId) (· ≤ 50)),
   (.customerCity, isNotNull row.customerCity),
   (.customerCity, check (charLength row.customerCity) (· ≤ 100)),
   (.customerState, isNotNull row.customerState),
   (.customerState, check (charLength row.customerState) (· ≤ 10))]

def errorConjuncts (row : CustomersSource) : List (Column × Truth) :=
  [(.customerId, isNotNull row.customerId),
   (.customerId, check (charLength row.customerId) (· ≤ 50)),
   (.customerUniqueId, isNotNull row.customerUniqueId),
   (.customerUniqueId, check (charLength row.customerUniqueId) (· ≤ 50)),
   (.customerCity, isNotNull row.customerCity),
   (.customerCity, check (charLength row.customerCity) (· ≤ 100)),
   (.customerState, isNotNull row.customerState),
   (.customerState, check (charLength row.customerState) (· ≤ 10))]

def messageBranches (row : CustomersSource) : List (Truth × String) :=
  [((isNull row.customerId).or (check (charLength row.customerId) (50 < ·)),
    "Invalid customer ID"),
   ((isNull row.customerUniqueId).or (check (charLength row.customerUniqueId) (50 < ·)),
    "Invalid customer unique ID"),
   ((isNull row.customerCity).or (check (charLength row.customerCity) (100 < ·)),
    "Invalid customer city"),
   ((isNull row.customerState).or (check (charLength row.customerState) (10 < ·)),
    "Invalid customer state")]

def errorMessage (row : CustomersSource) : String :=
  caseWhen (messageBranches row) "Unknown validation error"

def processCustomersWithSQL :
    Processor CustomersSource CustomersData CustomersColumns (Option String)
      (Option String × Timestamp) where
  clean := {
    condition := fun row => whereAll (cleanConjuncts row)
    select := fun now row => cleanRow now (cleanSelect row)
    primaryKey := customersSinkKey }
  error := {
    condition := fun row => (whereAll (errorConjuncts row)).not
    select := fun now row => errorRow now row.toCustomersColumns (errorMessage row)
      (rawData "customer_id" row.customerId)
    primaryKey := customersErrorSinkKey }

end OdsPipeline.CustomerProcessor
