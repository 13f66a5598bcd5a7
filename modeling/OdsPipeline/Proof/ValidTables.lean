import OdsPipeline.Construction.OdsETLJob
import OdsPipeline.Library.Survival

namespace OdsPipeline
open Library SqlQueries StarRocks OdsETLJob

/-- Each stored order has a status that the clean statement accepts. -/
def StatusesValid (tables : CleanTables) : Prop :=
  ∀ o ∈ tables.orders.rows, o.orderStatus ∈ OrderProcessor.validStatuses

/-- Each stored payment has a value that the clean statement accepts. -/
def PaymentsValid (tables : CleanTables) : Prop :=
  ∀ p ∈ tables.payments.rows, 0 < p.paymentValue ∧ p.paymentValue ≤ 50000

instance (tables : CleanTables) : Decidable (StatusesValid tables) :=
  inferInstanceAs (Decidable (∀ o ∈ tables.orders.rows, _))

instance (tables : CleanTables) : Decidable (PaymentsValid tables) :=
  inferInstanceAs (Decidable (∀ p ∈ tables.payments.rows, _))

section Selected

theorem orderStatus_of_selects (row : OrdersSource)
    (selected : OrderProcessor.processOrdersWithSQL.clean.Selects row) :
    ∃ status, row.orderStatus = some status ∧ status ∈ OrderProcessor.validStatuses := by
  have valid := (whereAll_eq_true_iff _).mp selected
  simp only [OrderProcessor.cleanConjuncts, List.forall_mem_cons] at valid
  obtain ⟨-, -, -, -, accepted, -⟩ := valid
  obtain ⟨status, known, holds⟩ := (check_eq_true_iff _ _).mp accepted
  exact ⟨status, known, of_decide_eq_true holds⟩

theorem paymentValue_mem_of_selects (row : PaymentsSource)
    (selected : PaymentProcessor.processPaymentsWithSQL.clean.Selects row) :
    ∃ value, row.paymentValue = some value ∧ 0 < value ∧ value ≤ 50000 := by
  have valid := (whereAll_eq_true_iff _).mp selected
  simp only [PaymentProcessor.cleanConjuncts, List.forall_mem_cons] at valid
  obtain ⟨-, -, -, -, positive, most, -⟩ := valid
  obtain ⟨value, known, above⟩ := (check_eq_true_iff _ _).mp positive
  obtain ⟨same, other, below⟩ := (check_eq_true_iff _ _).mp most
  rw [known, Option.some.injEq] at other
  subst other
  exact ⟨value, known, of_decide_eq_true above, of_decide_eq_true below⟩

end Selected

section Runs
variable (records : List (Timestamp × OdsETLJob.Record))

/-- The jobs store valid statuses only. -/
theorem statusesValid_run : StatusesValid (main.run records).cleanTables := by
  intro o member
  obtain ⟨sink, inside, stored⟩ := List.mem_filterMap.mp member
  rw [Jobs.run_orders] at inside
  obtain ⟨record, -, written, rfl⟩ := InsertSelect.mem_deliver _ _ _ _ inside
  obtain ⟨status, known, valid⟩ := orderStatus_of_selects _ written.2.1
  have same : record.2.row.orderStatus = some o.orderStatus :=
    ((OdsOrders.ofData_eq_some_iff _ _).mp stored).2.2.1
  rw [known, Option.some.injEq] at same
  rw [← same]
  exact valid

/-- The jobs store valid payments only. -/
theorem paymentsValid_run : PaymentsValid (main.run records).cleanTables := by
  intro p member
  obtain ⟨sink, inside, stored⟩ := List.mem_filterMap.mp member
  rw [Jobs.run_payments] at inside
  obtain ⟨record, -, written, rfl⟩ := InsertSelect.mem_deliver _ _ _ _ inside
  obtain ⟨value, known, valid⟩ := paymentValue_mem_of_selects _ written.2.1
  have same : record.2.row.paymentValue = some p.paymentValue :=
    ((OdsPayments.ofData_eq_some_iff _ _).mp stored).2.2.1
  rw [known, Option.some.injEq] at same
  rw [← same]
  exact valid

end Runs

end OdsPipeline
