import OdsPipeline.Construction.Processor

namespace OdsPipeline.ProductProcessor
open Library SqlQueries

/-- LOWER(name) LIKE '%keyword%'. -/
def lowerLike (name : Option String) (keyword : String) : Truth :=
  check (name.map lower) (contains keyword)

def categoryGroup (name : Option String) : String :=
  caseWhen
    [((lowerLike name "informatica").or (lowerLike name "eletronic"), "Electronics"),
     ((lowerLike name "fashion").or (lowerLike name "moda"), "Fashion"),
     ((lowerLike name "casa").or (lowerLike name "home"), "Home"),
     ((lowerLike name "esporte").or (lowerLike name "sport"), "Sports")] "Other"

def cleanSelect (row : ProductsSource) : ProductsData where
  toProductsColumns := row.toProductsColumns
  categoryGroup := categoryGroup row.productCategoryName
  isDeleted := row.isDeleted

def cleanConjuncts (row : ProductsSource) : List (Column × Truth) :=
  [(.productId, isNotNull row.productId),
   (.productId, check (charLength row.productId) (· ≤ 50)),
   (.productCategoryName, isNotNull row.productCategoryName),
   (.productCategoryName, check (charLength row.productCategoryName) (· ≤ 100))]

def errorConjuncts (row : ProductsSource) : List (Column × Truth) :=
  [(.productId, isNotNull row.productId),
   (.productId, check (charLength row.productId) (· ≤ 50)),
   (.productCategoryName, isNotNull row.productCategoryName),
   (.productCategoryName, check (charLength row.productCategoryName) (· ≤ 100))]

def messageBranches (row : ProductsSource) : List (Truth × String) :=
  [((isNull row.productId).or (check (charLength row.productId) (50 < ·)), "Invalid product ID"),
   ((isNull row.productCategoryName).or (check (charLength row.productCategoryName) (100 < ·)),
    "Invalid category name")]

def errorMessage (row : ProductsSource) : String :=
  caseWhen (messageBranches row) "Unknown validation error"

def processProductsWithSQL :
    Processor ProductsSource ProductsData ProductsColumns (Option String)
      (Option String × Timestamp) where
  clean := {
    condition := fun row => whereAll (cleanConjuncts row)
    select := fun now row => cleanRow now (cleanSelect row)
    primaryKey := productsSinkKey }
  error := {
    condition := fun row => (whereAll (errorConjuncts row)).not
    select := fun now row => errorRow now row.toProductsColumns (errorMessage row)
      (rawData "product_id" row.productId)
    primaryKey := productsErrorSinkKey }

end OdsPipeline.ProductProcessor
