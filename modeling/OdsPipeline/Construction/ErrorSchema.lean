import OdsPipeline.Construction.SqlQueries
import OdsPipeline.Library.Schema

/-
This file contains the tables of `create-error-schema.sql`, the primary keys of the error sinks
and the records that these sinks send.
-/

namespace OdsPipeline.ErrorSchema
open Library SqlQueries

def odsOrdersError : TableDef where
  columns :=
    [⟨"order_id", .varchar 50, true⟩,
     ⟨"error_timestamp", .datetime, true⟩,
     ⟨"customer_id", .varchar 50, false⟩,
     ⟨"order_status", .varchar 50, false⟩,
     ⟨"order_purchase_timestamp", .datetime, false⟩,
     ⟨"order_delivered_customer_date", .datetime, false⟩,
     ⟨"order_estimated_delivery_date", .datetime, false⟩,
     ⟨"error_type", .varchar 50, true⟩,
     ⟨"error_message", .varchar 500, true⟩,
     ⟨"raw_data", .json, false⟩,
     ⟨"is_deleted", .boolean, true⟩,
     ⟨"created_at", .datetime, true⟩,
     ⟨"updated_at", .datetime, true⟩]
  primaryKey := ["order_id", "error_timestamp"]

def odsOrderItemsError : TableDef where
  columns :=
    [⟨"order_id", .varchar 50, true⟩,
     ⟨"product_id", .varchar 50, false⟩,
     ⟨"error_timestamp", .datetime, true⟩,
     ⟨"price", .double, false⟩,
     ⟨"freight_value", .double, false⟩,
     ⟨"error_type", .varchar 50, true⟩,
     ⟨"error_message", .varchar 500, true⟩,
     ⟨"raw_data", .json, false⟩,
     ⟨"is_deleted", .boolean, true⟩,
     ⟨"created_at", .datetime, true⟩,
     ⟨"updated_at", .datetime, true⟩]
  primaryKey := ["order_id", "product_id", "error_timestamp"]

def odsProductsError : TableDef where
  columns :=
    [⟨"product_id", .varchar 50, true⟩,
     ⟨"error_timestamp", .datetime, true⟩,
     ⟨"product_category_name", .varchar 100, false⟩,
     ⟨"error_type", .varchar 50, true⟩,
     ⟨"error_message", .varchar 500, true⟩,
     ⟨"raw_data", .json, false⟩,
     ⟨"is_deleted", .boolean, true⟩,
     ⟨"created_at", .datetime, true⟩,
     ⟨"updated_at", .datetime, true⟩]
  primaryKey := ["product_id", "error_timestamp"]

def odsReviewsError : TableDef where
  columns :=
    [⟨"order_id", .varchar 50, true⟩,
     ⟨"error_timestamp", .datetime, true⟩,
     ⟨"review_score", .int, false⟩,
     ⟨"error_type", .varchar 50, true⟩,
     ⟨"error_message", .varchar 500, true⟩,
     ⟨"raw_data", .json, false⟩,
     ⟨"is_deleted", .boolean, true⟩,
     ⟨"created_at", .datetime, true⟩,
     ⟨"updated_at", .datetime, true⟩]
  primaryKey := ["order_id", "error_timestamp"]

def odsPaymentsError : TableDef where
  columns :=
    [⟨"order_id", .varchar 50, true⟩,
     ⟨"payment_type", .varchar 50, false⟩,
     ⟨"error_timestamp", .datetime, true⟩,
     ⟨"payment_value", .double, false⟩,
     ⟨"error_type", .varchar 50, true⟩,
     ⟨"error_message", .varchar 500, true⟩,
     ⟨"raw_data", .json, false⟩,
     ⟨"is_deleted", .boolean, true⟩,
     ⟨"created_at", .datetime, true⟩,
     ⟨"updated_at", .datetime, true⟩]
  primaryKey := ["order_id", "payment_type", "error_timestamp"]

def odsCustomersError : TableDef where
  columns :=
    [⟨"customer_id", .varchar 50, true⟩,
     ⟨"error_timestamp", .datetime, true⟩,
     ⟨"customer_unique_id", .varchar 50, false⟩,
     ⟨"customer_city", .varchar 100, false⟩,
     ⟨"customer_state", .varchar 10, false⟩,
     ⟨"error_type", .varchar 50, true⟩,
     ⟨"error_message", .varchar 500, true⟩,
     ⟨"raw_data", .json, false⟩,
     ⟨"is_deleted", .boolean, true⟩,
     ⟨"created_at", .datetime, true⟩,
     ⟨"updated_at", .datetime, true⟩]
  primaryKey := ["customer_id", "error_timestamp"]

section SinkKeys

def ordersErrorSink : List String := ["order_id", "error_timestamp"]

def orderItemsErrorSink : List String := ["order_id", "product_id", "error_timestamp"]

def productsErrorSink : List String := ["product_id", "error_timestamp"]

def reviewsErrorSink : List String := ["order_id", "error_timestamp"]

def paymentsErrorSink : List String := ["order_id", "payment_type", "error_timestamp"]

def customersErrorSink : List String := ["customer_id", "error_timestamp"]

end SinkKeys

section Records

def reportCells {Columns : Type} (row : ErrorSink Columns) : Record :=
  [("error_type", .text row.errorType),
   ("error_message", .text row.errorMessage),
   ("error_timestamp", .datetime row.errorTimestamp),
   ("raw_data", .text row.rawData),
   ("is_deleted", .boolean row.isDeleted),
   ("created_at", .datetime row.createdAt),
   ("updated_at", .datetime row.updatedAt)]

def ordersRecord (row : ErrorSink OrdersColumns) : Record :=
  [("order_id", .ofOption .text row.columns.orderId),
   ("customer_id", .ofOption .text row.columns.customerId),
   ("order_status", .ofOption .text row.columns.orderStatus),
   ("order_purchase_timestamp", .ofOption .datetime row.columns.orderPurchaseTimestamp),
   ("order_delivered_customer_date", .ofOption .datetime row.columns.orderDeliveredCustomerDate),
   ("order_estimated_delivery_date", .ofOption .datetime row.columns.orderEstimatedDeliveryDate)] ++
    reportCells row

def orderItemsRecord (row : ErrorSink OrderItemsColumns) : Record :=
  [("order_id", .ofOption .text row.columns.orderId),
   ("product_id", .ofOption .text row.columns.productId),
   ("price", .ofOption .double row.columns.price),
   ("freight_value", .ofOption .double row.columns.freightValue)] ++ reportCells row

def productsRecord (row : ErrorSink ProductsColumns) : Record :=
  [("product_id", .ofOption .text row.columns.productId),
   ("product_category_name", .ofOption .text row.columns.productCategoryName)] ++ reportCells row

def reviewsRecord (row : ErrorSink ReviewsColumns) : Record :=
  [("order_id", .ofOption .text row.columns.orderId),
   ("review_score", .ofOption .int row.columns.reviewScore)] ++ reportCells row

def paymentsRecord (row : ErrorSink PaymentsColumns) : Record :=
  [("order_id", .ofOption .text row.columns.orderId),
   ("payment_type", .ofOption .text row.columns.paymentType),
   ("payment_value", .ofOption .double row.columns.paymentValue)] ++ reportCells row

def customersRecord (row : ErrorSink CustomersColumns) : Record :=
  [("customer_id", .ofOption .text row.columns.customerId),
   ("customer_unique_id", .ofOption .text row.columns.customerUniqueId),
   ("customer_city", .ofOption .text row.columns.customerCity),
   ("customer_state", .ofOption .text row.columns.customerState)] ++ reportCells row

end Records

end OdsPipeline.ErrorSchema
