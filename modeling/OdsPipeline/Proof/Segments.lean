import OdsPipeline.Library.Rounding
import OdsPipeline.Proof.OrderCounts
import OdsPipeline.Proof.ValidTables

namespace OdsPipeline
open Library StarRocks MaterializedViews PeriodicDashboard

section Limits

/-- The number of limits that a value reaches. -/
def reached (limits : List Nat) (value : ℚ) : Nat := limits.countP fun limit : Nat => (limit : ℚ) ≤ value

theorem reached_mono (limits : List Nat) {low high : ℚ} (order : low ≤ high) :
    reached limits low ≤ reached limits high := by
  apply List.countP_mono_left
  intro limit _ holds
  exact decide_eq_true ((of_decide_eq_true holds).trans order)

/-- A value reaches more limits exactly when some limit separates it from the other value. -/
theorem reached_lt_iff (limits : List Nat) (low high : ℚ) :
    reached limits low < reached limits high ↔
      ∃ limit ∈ limits, low < (limit : ℚ) ∧ (limit : ℚ) ≤ high := by
  rcases le_total high low with order | order
  · have fewer := reached_mono limits order
    constructor
    · intro more
      omega
    · rintro ⟨limit, -, above, below⟩
      linarith
  · induction limits with
    | nil => simp [reached]
    | cons limit rest ih =>
        have fewer := reached_mono rest order
        rw [List.exists_mem_cons_iff, ← ih]
        simp only [reached, List.countP_cons, decide_eq_true_eq] at fewer ⊢
        by_cases both : (limit : ℚ) ≤ low
        · have high : (limit : ℚ) ≤ high := both.trans order
          simp only [both, high, not_lt.mpr both, if_true, false_and, false_or]
          omega
        · by_cases high : (limit : ℚ) ≤ high
          · simp only [both, high, not_le.mp both, if_true, if_false, true_and, true_or, iff_true]
            omega
          · simp only [both, high, if_false, and_false, false_or]
            omega

end Limits

section Thresholds

def thresholds : List Nat := [200, 500, 1000]

/-- The segments are ordered by their spend. -/
def segmentRank (segment : String) : Nat :=
  if segment = "VIP" then 3 else if segment = "Premium" then 2 else if segment = "Regular" then 1 else 0

/-- The spend is below a threshold by at most half a cent. -/
def JustBelow (spent : ℚ) : Prop :=
  ∃ limit ∈ thresholds, (limit : ℚ) - 1 / 200 ≤ spent ∧ spent < limit

theorem segmentRank_segmentOf (spent : ℚ) :
    segmentRank (segmentOf spent) = reached thresholds spent := by
  simp only [segmentOf, caseWhen, Truth.ofBool_eq_true_iff, decide_eq_true_eq, reached, thresholds]
  by_cases top : 1000 ≤ spent
  · have middle : 500 ≤ spent := by linarith
    have bottom : 200 ≤ spent := by linarith
    simp [top, middle, bottom, segmentRank]
  · by_cases middle : 500 ≤ spent
    · have bottom : 200 ≤ spent := by linarith
      simp [top, middle, bottom, segmentRank]
    · by_cases bottom : 200 ≤ spent
      · simp [top, middle, bottom, segmentRank]
      · simp [top, middle, bottom, segmentRank]

/-- Two sums of one rank reach the same thresholds. -/
theorem reach_iff_of_rank_eq (first second : ℚ)
    (ranks : segmentRank (segmentOf first) = segmentRank (segmentOf second)) :
    ∀ limit ∈ thresholds, (limit : ℚ) ≤ first ↔ (limit : ℚ) ≤ second := by
  intro limit member
  rw [segmentRank_segmentOf, segmentRank_segmentOf] at ranks
  have apart (low high : ℚ) (equal : reached thresholds low = reached thresholds high)
      (above : (limit : ℚ) ≤ high) : (limit : ℚ) ≤ low := by
    by_contra below
    have more := (reached_lt_iff thresholds low high).mpr ⟨limit, member, not_le.mp below, above⟩
    omega
  exact ⟨apart second first ranks.symm, apart first second ranks⟩

/-- Two sums have one segment exactly when they reach the same thresholds. -/
theorem segmentOf_eq_iff (first second : ℚ) : segmentOf first = segmentOf second ↔
    ∀ limit ∈ thresholds, (limit : ℚ) ≤ first ↔ (limit : ℚ) ≤ second := by
  constructor
  · intro same
    exact reach_iff_of_rank_eq first second (congrArg segmentRank same)
  · intro agree
    simp only [thresholds, List.forall_mem_cons] at agree
    obtain ⟨bottom, middle, top, -⟩ := agree
    push_cast at bottom middle top
    simp only [segmentOf, bottom, middle, top]

/-- Rounding to cents changes the segment exactly when the sum is just below a threshold. -/
theorem segmentOf_roundTo_iff (spent : ℚ) :
    segmentOf spent = segmentOf (roundTo 2 spent) ↔ ¬ JustBelow spent := by
  have cents : (1 : ℚ) / 2 / 10 ^ 2 = 1 / 200 := by norm_num
  have positive : ∀ limit ∈ thresholds, 0 < limit := by decide
  rw [segmentOf_eq_iff, JustBelow, not_exists]
  apply forall_congr'
  intro limit
  rw [not_and]
  apply imp_congr_right
  intro member
  rw [natCast_le_roundTo_iff 2 limit (positive limit member), cents, not_and, not_lt]
  constructor
  · intro agree above
    exact agree.mpr above
  · intro reaches
    constructor
    · intro above
      linarith
    · exact reaches

/-- The published values of two segments meet at most at a threshold. -/
theorem roundTo_le_of_rank_lt (low high : ℚ)
    (ranked : segmentRank (segmentOf low) < segmentRank (segmentOf high)) :
    roundTo 2 low ≤ roundTo 2 high ∧ (roundTo 2 low = roundTo 2 high → JustBelow low) := by
  have cents : (1 : ℚ) / 2 / 10 ^ 2 = 1 / 200 := by norm_num
  have positive : ∀ limit ∈ thresholds, 0 < limit := by decide
  rw [segmentRank_segmentOf, segmentRank_segmentOf, reached_lt_iff] at ranked
  obtain ⟨limit, member, below, above⟩ := ranked
  have lower := roundTo_le_natCast 2 limit below.le
  have upper := (natCast_le_roundTo_iff 2 limit (positive limit member) high).mpr (by linarith)
  constructor
  · exact lower.trans upper
  · intro same
    rw [← same] at upper
    have near := (natCast_le_roundTo_iff 2 limit (positive limit member) low).mp upper
    rw [cents] at near
    exact ⟨limit, member, near, below⟩

end Thresholds

section Views
variable (tables : CleanTables)

/-- The exact sum of the counted payments of a customer. -/
def spentBy (customerId : String) : ℚ :=
  sumOf (fun row => row.2.paymentValue) (joinedRows tables fun o => o.customerId = customerId)

theorem lifetime_published (row : CustomerLifetime) (member : row ∈ mvCustomerLifetimeAnalysis tables) :
    row.totalSpent = roundTo 2 (spentBy tables row.customerId) ∧
      row.customerSegment = segmentOf (spentBy tables row.customerId) := by
  obtain ⟨first, -, rfl⟩ := (mem_groupBy _ _ _ _).mp member
  exact ⟨rfl, rfl⟩

/-- A published sum is not rounded again. -/
theorem roundTo_totalSpent (row : CustomerLifetime) (member : row ∈ mvCustomerLifetimeAnalysis tables) :
    roundTo 2 row.totalSpent = row.totalSpent := by
  rw [(lifetime_published tables row member).1, roundTo_roundTo]

/-- A customer of the view whose segment is shown. -/
def InSegment (segment : SegmentTotal) (row : CustomerLifetime) : Prop :=
  row ∈ mvCustomerLifetimeAnalysis tables ∧ row.customerSegment = segment.customerSegment

/-- The ends of a range are published sums of its customers. -/
theorem segment_range (segment : SegmentTotal) (member : segment ∈ customerSegmentation tables) :
    (∃ row, InSegment tables segment row ∧ segment.minClv = some row.totalSpent) ∧
      ∃ row, InSegment tables segment row ∧ segment.maxClv = some row.totalSpent := by
  rw [customerSegmentation, mem_orderByDesc] at member
  obtain ⟨first, inView, rfl⟩ := (mem_groupBy _ _ _ _).mp member
  have chosen (amount : ℚ) (listed : amount ∈ ((mvCustomerLifetimeAnalysis tables).filter fun other =>
      other.customerSegment = first.customerSegment).map CustomerLifetime.totalSpent) :
      ∃ row, (row ∈ mvCustomerLifetimeAnalysis tables ∧
        row.customerSegment = first.customerSegment) ∧ roundTo 2 amount = row.totalSpent := by
    obtain ⟨row, inside, rfl⟩ := List.mem_map.mp listed
    obtain ⟨stored, same⟩ := List.mem_filter.mp inside
    exact ⟨row, ⟨stored, of_decide_eq_true same⟩, roundTo_totalSpent tables row stored⟩
  have present : first.totalSpent ∈ ((mvCustomerLifetimeAnalysis tables).filter fun other =>
      other.customerSegment = first.customerSegment).map CustomerLifetime.totalSpent :=
    List.mem_map_of_mem (List.mem_filter.mpr ⟨inView, decide_eq_true rfl⟩)
  constructor
  · obtain ⟨low, least⟩ := Option.isSome_iff_exists.mp (List.isSome_min?_of_mem present)
    obtain ⟨row, inSegment, rounded⟩ := chosen low (List.min?_mem least)
    exact ⟨row, inSegment, by rw [least, Option.map_some, rounded]⟩
  · obtain ⟨high, most⟩ := Option.isSome_iff_exists.mp (List.isSome_max?_of_mem present)
    obtain ⟨row, inSegment, rounded⟩ := chosen high (List.max?_mem most)
    exact ⟨row, inSegment, by rw [most, Option.map_some, rounded]⟩

/-- The first range ends before the second one starts, or both meet at a sum that was rounded up to
a threshold. -/
def RangeBefore (low high : SegmentTotal) : Prop :=
  ∃ top bottom, low.maxClv = some top ∧ high.minClv = some bottom ∧ top ≤ bottom ∧
    (top = bottom → ∃ row, InSegment tables low row ∧ JustBelow (spentBy tables row.customerId))

theorem rangeBefore_of_rank_lt (low high : SegmentTotal) (lowShown : low ∈ customerSegmentation tables)
    (highShown : high ∈ customerSegmentation tables)
    (ranked : segmentRank low.customerSegment < segmentRank high.customerSegment) :
    RangeBefore tables low high := by
  obtain ⟨-, last, inLow, most⟩ := segment_range tables low lowShown
  obtain ⟨⟨first, inHigh, least⟩, -⟩ := segment_range tables high highShown
  have lasts := lifetime_published tables last inLow.1
  have firsts := lifetime_published tables first inHigh.1
  rw [← inLow.2, ← inHigh.2, lasts.2, firsts.2] at ranked
  have ends := roundTo_le_of_rank_lt _ _ ranked
  rw [← lasts.1, ← firsts.1] at ends
  refine ⟨_, _, most, least, ends.1, ?_⟩
  intro meet
  exact ⟨last, inLow, ends.2 meet⟩

/-- Different segments have different ranks. -/
theorem rank_ne (low high : SegmentTotal) (lowShown : low ∈ customerSegmentation tables)
    (highShown : high ∈ customerSegmentation tables)
    (different : low.customerSegment ≠ high.customerSegment) :
    segmentRank low.customerSegment ≠ segmentRank high.customerSegment := by
  obtain ⟨-, last, inLow, -⟩ := segment_range tables low lowShown
  obtain ⟨-, first, inHigh, -⟩ := segment_range tables high highShown
  rw [← inLow.2, ← inHigh.2, (lifetime_published tables last inLow.1).2,
    (lifetime_published tables first inHigh.1).2] at different ⊢
  intro ranks
  exact different ((segmentOf_eq_iff _ _).mpr (reach_iff_of_rank_eq _ _ ranks))

/-- The segment follows the exact sum, it fits the published sum unless the exact sum is just below
a threshold, and the published ranges follow the order of the segments. -/
theorem segments_follow_exact_spend :
    (∀ row ∈ mvCustomerLifetimeAnalysis tables,
      row.customerSegment = segmentOf (spentBy tables row.customerId) ∧
        (row.customerSegment = segmentOf row.totalSpent ↔
          ¬ JustBelow (spentBy tables row.customerId))) ∧
    ∀ low ∈ customerSegmentation tables, ∀ high ∈ customerSegmentation tables,
      low.customerSegment ≠ high.customerSegment →
        segmentRank low.customerSegment < segmentRank high.customerSegment ∧
            RangeBefore tables low high ∨
          segmentRank high.customerSegment < segmentRank low.customerSegment ∧
            RangeBefore tables high low := by
  constructor
  · intro row member
    obtain ⟨spent, segment⟩ := lifetime_published tables row member
    rw [segment, spent]
    exact ⟨rfl, segmentOf_roundTo_iff _⟩
  · intro low lowShown high highShown different
    rcases Nat.lt_or_gt_of_ne (rank_ne tables low high lowShown highShown different) with less | more
    · exact .inl ⟨less, rangeBefore_of_rank_lt tables low high lowShown highShown less⟩
    · exact .inr ⟨more, rangeBefore_of_rank_lt tables high low highShown lowShown more⟩

end Views

/-- One customer spends four tenths of a cent less than 1000, and another one spends 1000. -/
def nearlyVip : CleanTables where
  orders := ⟨[⟨"o1", "c1", "delivered", 0, none, none, false⟩,
    ⟨"o2", "c2", "delivered", 0, none, none, false⟩], by decide⟩
  orderItems := KeyedTable.empty _
  products := KeyedTable.empty _
  payments := ⟨[⟨"o1", "credit_card", 999996 / 1000, false⟩, ⟨"o2", "credit_card", 1000, false⟩],
    by decide⟩

/-- Two customers with one published spend have two segments, and the ranges of the segments meet. -/
theorem nearly_vip_published :
    PaymentsValid nearlyVip ∧
      (mvCustomerLifetimeAnalysis nearlyVip).map
          (fun row => (row.customerId, row.totalSpent, row.customerSegment)) =
        [("c1", 1000, "Premium"), ("c2", 1000, "VIP")] ∧
      ¬ (∀ row ∈ mvCustomerLifetimeAnalysis nearlyVip,
        row.customerSegment = segmentOf row.totalSpent) ∧
      (∃ row ∈ customerSegmentation nearlyVip,
        row.customerSegment = "Premium" ∧ row.maxClv = some 1000) ∧
      ∃ row ∈ customerSegmentation nearlyVip, row.customerSegment = "VIP" ∧ row.minClv = some 1000 := by
  simp only [customerSegmentation, mem_orderByDesc]
  exact ⟨by decide +kernel, by decide +kernel, by decide +kernel, by decide +kernel,
    by decide +kernel⟩

end OdsPipeline
