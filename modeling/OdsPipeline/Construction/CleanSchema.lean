import OdsPipeline.Construction.SqlQueries
import OdsPipeline.Library.Schema

/-
This file contains the tables of `create-clean-schema.sql` and the records that the clean sinks
send to them.
-/

namespace OdsPipeline.CleanSchema
open Library SqlQueries

def odsOrders : TableDef where
  columns :=
    [⟨"order_id", .varchar 50, true⟩,
     ⟨"customer_id", .varchar 50, true⟩,
     ⟨"order_status", .varchar 20, true⟩,
     ⟨"order_purchase_timestamp", .datetime, true⟩,
     ⟨"order_delivered_customer_date", .datetime, false⟩,
     ⟨"order_estimated_delivery_date", .datetime, false⟩,
     ⟨"order_year", .int, true⟩,
     ⟨"order_month", .int, true⟩,
     ⟨"order_day", .int, true⟩,
     ⟨"delivery_delay_days", .int, false⟩,
     ⟨"is_delivered", .boolean, true⟩,
     ⟨"is_deleted", .boolean, true⟩,
     ⟨"created_at", .datetime, true⟩,
     ⟨"updated_at", .datetime, true⟩]
  primaryKey := ["order_id"]

def odsOrderItems : TableDef where
  columns :=
    [⟨"order_id", .varchar 50, true⟩,
     ⟨"product_id", .varchar 50, true⟩,
     ⟨"price", .double, true⟩,
     ⟨"freight_value", .double, true⟩,
     ⟨"total_item_value", .double, true⟩,
     ⟨"price_category", .varchar 10, true⟩,
     ⟨"is_deleted", .boolean, true⟩,
     ⟨"created_at", .datetime, true⟩,
     ⟨"updated_at", .datetime, true⟩]
  primaryKey := ["order_id", "product_id"]

def odsProducts : TableDef where
  columns :=
    [⟨"product_id", .varchar 50, true⟩,
     ⟨"product_category_name", .varchar 100, true⟩,
     ⟨"category_group", .varchar 50, true⟩,
     ⟨"is_deleted", .boolean, true⟩,
     ⟨"created_at", .datetime, true⟩,
     ⟨"updated_at", .datetime, true⟩]
  primaryKey := ["product_id"]

def odsReviews : TableDef where
  columns :=
    [⟨"order_id", .varchar 50, true⟩,
     ⟨"review_score", .int, true⟩,
     ⟨"review_category", .varchar 20, true⟩,
     ⟨"is_positive_review", .boolean, true⟩,
     ⟨"is_deleted", .boolean, true⟩,
     ⟨"created_at", .datetime, true⟩,
     ⟨"updated_at", .datetime, true⟩]
  primaryKey := ["order_id"]

def odsPayments : TableDef where
  columns :=
    [⟨"order_id", .varchar 50, true⟩,
     ⟨"payment_type", .varchar 20, true⟩,
     ⟨"payment_value", .double, true⟩,
     ⟨"payment_category", .varchar 30, true⟩,
     ⟨"is_high_value", .boolean, true⟩,
     ⟨"is_deleted", .boolean, true⟩,
     ⟨"created_at", .datetime, true⟩,
     ⟨"updated_at", .datetime, true⟩]
  primaryKey := ["order_id", "payment_type"]

def odsCustomers : TableDef where
  columns :=
    [⟨"customer_id", .varchar 50, true⟩,
     ⟨"customer_unique_id", .varchar 50, true⟩,
     ⟨"customer_city", .varchar 100, true⟩,
     ⟨"customer_state", .varchar 10, true⟩,
     ⟨"state_region", .varchar 20, true⟩,
     ⟨"is_deleted", .boolean, true⟩,
     ⟨"created_at", .datetime, true⟩,
     ⟨"updated_at", .datetime, true⟩]
  primaryKey := ["customer_id"]

section Records

def loadCells {Data : Type} (row : CleanSink Data) : Record :=
  [("created_at", .datetime row.createdAt), ("updated_at", .datetime row.updatedAt)]

def ordersRecord (row : CleanSink OrdersData) : Record :=
  [("order_id", .ofOption .text row.data.orderId),
   ("customer_id", .ofOption .text row.data.customerId),
   ("order_status", .ofOption .text row.data.orderStatus),
   ("order_purchase_timestamp", .ofOption .datetime row.data.orderPurchaseTimestamp),
   ("order_delivered_customer_date", .ofOption .datetime row.data.orderDeliveredCustomerDate),
   ("order_estimated_delivery_date", .ofOption .datetime row.data.orderEstimatedDeliveryDate),
   ("order_year", .ofOption .int row.data.orderYear),
   ("order_month", .ofOption .int row.data.orderMonth),
   ("order_day", .ofOption .int row.data.orderDay),
   ("delivery_delay_days", .ofOption .int row.data.deliveryDelayDays),
   ("is_delivered", .boolean row.data.isDelivered),
   ("is_deleted", .ofOption .boolean row.data.isDeleted)] ++ loadCells row

def orderItemsRecord (row : CleanSink OrderItemsData) : Record :=
  [("order_id", .ofOption .text row.data.orderId),
   ("product_id", .ofOption .text row.data.productId),
   ("price", .ofOption .double row.data.price),
   ("freight_value", .ofOption .double row.data.freightValue),
   ("total_item_value", .ofOption .double row.data.totalItemValue),
   ("price_category", .text row.data.priceCategory),
   ("is_deleted", .ofOption .boolean row.data.isDeleted)] ++ loadCells row

def productsRecord (row : CleanSink ProductsData) : Record :=
  [("product_id", .ofOption .text row.data.productId),
   ("product_category_name", .ofOption .text row.data.productCategoryName),
   ("category_group", .text row.data.categoryGroup),
   ("is_deleted", .ofOption .boolean row.data.isDeleted)] ++ loadCells row

def reviewsRecord (row : CleanSink ReviewsData) : Record :=
  [("order_id", .ofOption .text row.data.orderId),
   ("review_score", .ofOption .int row.data.reviewScore),
   ("review_category", .text row.data.reviewCategory),
   ("is_positive_review", .boolean row.data.isPositiveReview),
   ("is_deleted", .ofOption .boolean row.data.isDeleted)] ++ loadCells row

def paymentsRecord (row : CleanSink PaymentsData) : Record :=
  [("order_id", .ofOption .text row.data.orderId),
   ("payment_type", .ofOption .text row.data.paymentType),
   ("payment_value", .ofOption .double row.data.paymentValue),
   ("payment_category", .text row.data.paymentCategory),
   ("is_high_value", .boolean row.data.isHighValue),
   ("is_deleted", .ofOption .boolean row.data.isDeleted)] ++ loadCells row

def customersRecord (row : CleanSink CustomersData) : Record :=
  [("customer_id", .ofOption .text row.data.customerId),
   ("customer_unique_id", .ofOption .text row.data.customerUniqueId),
   ("customer_city", .ofOption .text row.data.customerCity),
   ("customer_state", .ofOption .text row.data.customerState),
   ("state_region", .text row.data.stateRegion),
   ("is_deleted", .ofOption .boolean row.data.isDeleted)] ++ loadCells row

end Records

end OdsPipeline.CleanSchema
