import OdsPipeline.Construction.Threads
import OdsPipeline.Proof.Caches
import OdsPipeline.Proof.LatencyTest

namespace OdsPipeline
open Library

namespace Postgres

section Tables
variable {Row Key : Type} [DecidableEq Key] {keyOf : Row → Key}

/-- Two tables answer each lookup alike. -/
def SameRows (first second : KeyedTable keyOf) : Prop :=
  ∀ key, first.lookup key = second.lookup key

theorem fresh_commit (table : KeyedTable keyOf) (row : Row) (key : Key)
    (fresh : table.lookup (keyOf row) = none) (absent : table.lookup key = none)
    (other : keyOf row ≠ key) : (table.commit (.insert row)).lookup key = none := by
  rw [KeyedTable.lookup_commit_insert table row key fresh, if_neg (Ne.symm other), absent]

theorem SameRows.commit {first second : KeyedTable keyOf} (same : SameRows first second) (row : Row)
    (fresh : first.lookup (keyOf row) = none) :
    SameRows (first.commit (.insert row)) (second.commit (.insert row)) := by
  intro key
  rw [KeyedTable.lookup_commit_insert first row key fresh,
    KeyedTable.lookup_commit_insert second row key (same _ ▸ fresh), same key]

/-- Two inserts with different keys commute. -/
theorem sameRows_swap (table : KeyedTable keyOf) (first second : Row)
    (freshFirst : table.lookup (keyOf first) = none)
    (freshSecond : table.lookup (keyOf second) = none) (different : keyOf first ≠ keyOf second) :
    SameRows ((table.commit (.insert first)).commit (.insert second))
      ((table.commit (.insert second)).commit (.insert first)) := by
  intro key
  rw [KeyedTable.lookup_commit_insert _ second key
      (fresh_commit table first _ freshFirst freshSecond different),
    KeyedTable.lookup_commit_insert _ first key
      (fresh_commit table second _ freshSecond freshFirst different.symm),
    KeyedTable.lookup_commit_insert _ first key freshFirst,
    KeyedTable.lookup_commit_insert _ second key freshSecond]
  by_cases atFirst : key = keyOf first
  · rw [if_pos atFirst, if_pos atFirst, if_neg]
    rw [atFirst]
    exact different
  · rw [if_neg atFirst, if_neg atFirst]

theorem References.congr {reference : Option Key} {first second : KeyedTable keyOf}
    (holds : References reference first) (same : SameRows first second) :
    References reference second := by
  intro key named
  rw [← same key]
  exact holds key named

end Tables

/-- Two databases answer each lookup alike. -/
structure Database.Same (first second : Database) : Prop where
  orders : SameRows first.orders second.orders
  orderItems : SameRows first.orderItems second.orderItems
  payments : SameRows first.payments second.payments
  customers : SameRows first.customers second.customers
  products : SameRows first.products second.products
  reviews : first.reviews = second.reviews

theorem Database.Same.refl (database : Database) : database.Same database :=
  ⟨fun _ => rfl, fun _ => rfl, fun _ => rfl, fun _ => rfl, fun _ => rfl, rfl⟩

/-- A row still fits after a row with another key. -/
theorem NewRow.Fits.keeps {database : Database} {first second : NewRow}
    (fitsFirst : first.Fits database) (fits : second.Fits database)
    (apart : ¬ first.Conflicts second) : second.Fits (database.add first) := by
  cases first with
  | orders row =>
      cases second with
      | orders other =>
          exact ⟨fresh_commit _ row _ fitsFirst.1 fits.1 apart, fits.2⟩
      | orderItems other =>
          exact ⟨fits.1, fits.2.1.insert row fitsFirst.1, fits.2.2⟩
      | payments other => exact ⟨fits.1, fits.2.insert row fitsFirst.1⟩
      | customers other => exact fits
      | products other => exact fits
  | orderItems row =>
      cases second with
      | orderItems other =>
          exact ⟨fresh_commit _ row _ fitsFirst.1 fits.1 apart, fits.2⟩
      | orders other => exact fits
      | payments other => exact fits
      | customers other => exact fits
      | products other => exact fits
  | payments row =>
      cases second with
      | payments other =>
          exact ⟨fresh_commit _ row _ fitsFirst.1 fits.1 apart, fits.2⟩
      | orders other => exact fits
      | orderItems other => exact fits
      | customers other => exact fits
      | products other => exact fits
  | customers row =>
      cases second with
      | customers other => exact fresh_commit _ row _ fitsFirst fits apart
      | orders other => exact ⟨fits.1, fits.2.insert row fitsFirst⟩
      | orderItems other => exact fits
      | payments other => exact fits
      | products other => exact fits
  | products row =>
      cases second with
      | products other => exact fresh_commit _ row _ fitsFirst fits apart
      | orderItems other => exact ⟨fits.1, fits.2.1, fits.2.2.insert row fitsFirst⟩
      | orders other => exact fits
      | payments other => exact fits
      | customers other => exact fits

/-- Rows with different keys are stored in either order. -/
theorem NewRow.swaps {database : Database} {first second : NewRow}
    (fitsFirst : first.Fits database) (fits : second.Fits database)
    (apart : ¬ first.Conflicts second) :
    ((database.add first).add second).Same ((database.add second).add first) := by
  cases first with
  | orders row =>
      cases second with
      | orders other =>
          exact { Database.Same.refl _ with
            orders := sameRows_swap _ row other fitsFirst.1 fits.1 apart }
      | _ => exact .refl _
  | orderItems row =>
      cases second with
      | orderItems other =>
          exact { Database.Same.refl _ with
            orderItems := sameRows_swap _ row other fitsFirst.1 fits.1 apart }
      | _ => exact .refl _
  | payments row =>
      cases second with
      | payments other =>
          exact { Database.Same.refl _ with
            payments := sameRows_swap _ row other fitsFirst.1 fits.1 apart }
      | _ => exact .refl _
  | customers row =>
      cases second with
      | customers other =>
          exact { Database.Same.refl _ with
            customers := sameRows_swap _ row other fitsFirst fits apart }
      | _ => exact .refl _
  | products row =>
      cases second with
      | products other =>
          exact { Database.Same.refl _ with
            products := sameRows_swap _ row other fitsFirst fits apart }
      | _ => exact .refl _

theorem NewRow.Fits.congr {first second : Database} {row : NewRow} (fits : row.Fits first)
    (same : first.Same second) : row.Fits second := by
  cases row with
  | orders row => exact ⟨same.orders _ ▸ fits.1, fits.2.congr same.customers⟩
  | orderItems row =>
      exact ⟨same.orderItems _ ▸ fits.1, fits.2.1.congr same.orders, fits.2.2.congr same.products⟩
  | payments row => exact ⟨same.payments _ ▸ fits.1, fits.2.congr same.orders⟩
  | customers row => exact (same.customers _).symm.trans fits
  | products row => exact (same.products _).symm.trans fits

theorem Database.Same.add {first second : Database} (same : first.Same second) {row : NewRow}
    (fits : row.Fits first) : (first.add row).Same (second.add row) := by
  cases row with
  | orders row => exact { same with orders := same.orders.commit row fits.1 }
  | orderItems row => exact { same with orderItems := same.orderItems.commit row fits.1 }
  | payments row => exact { same with payments := same.payments.commit row fits.1 }
  | customers row => exact { same with customers := same.customers.commit row fits }
  | products row => exact { same with products := same.products.commit row fits }

theorem NewRow.Conflicts.symm {first second : NewRow} (conflict : first.Conflicts second) :
    second.Conflicts first := by
  cases first <;> cases second <;> first | exact Eq.symm conflict | cases conflict

/-- INSERT statements with different primary keys commute. -/
theorem inserts_commute :
    Commutes (fun database row => NewRow.Fits database row) Database.add NewRow.Conflicts
      Database.Same where
  symm _ _ := NewRow.Conflicts.symm
  keeps _ _ _ := NewRow.Fits.keeps
  swaps _ _ _ := NewRow.swaps
  fits_congr _ _ _ same fits := fits.congr same
  write_congr _ _ _ same fits := same.add fits

end Postgres

namespace DataGenerator
open Postgres

section Serial
variable {Thread : Type} [DecidableEq Thread]

/-- The transactions of a pool without its calls. -/
def Pool.threads (pool : Pool Thread) : Threads Database NewRow Thread where
  committed := pool.committed
  opened thread := (pool.phase thread).rows
  log := pool.log.map Prod.snd

theorem Pool.opened_enter (pool : Pool Thread) (thread : Thread) (phase : Phase) :
    (pool.enter thread phase).threads.opened =
      Function.update pool.threads.opened thread phase.rows :=
  Function.comp_update Phase.rows pool.phase thread phase

/-- The steps of the transactions of a pool. -/
def TransactionMoves : Threads Database NewRow Thread → Threads Database NewRow Thread → Prop :=
  Threads.Moves (fun database row => NewRow.Fits database row) Database.add NewRow.Conflicts

/-- A step of a pool is a step of its transactions, or it leaves them as they are. -/
theorem Pool.Moves.simulates {pool next : Pool Thread} (moves : Pool.Moves pool next) :
    Relation.ReflTransGen TransactionMoves pool.threads next.threads := by
  cases moves with
  | starts thread call idle =>
      have opened := pool.opened_enter thread (.working call [])
      have nothing : pool.threads.opened thread = [] := congrArg Phase.rows idle
      have same : (pool.enter thread (.working call [])).threads = pool.threads := by
        change Threads.mk _ (pool.enter thread (.working call [])).threads.opened _ = _
        rw [opened, Phase.rows, ← nothing, Function.update_eq_self]
        rfl
      rw [same]
  | inserts thread call rows seen insert row working _ _ fits free =>
      have own : pool.threads.opened thread = rows := congrArg Phase.rows working
      have step : TransactionMoves pool.threads { pool.threads with
          opened := Function.update pool.threads.opened thread
            (pool.threads.opened thread ++ [row]) } :=
        .writes thread row (by rw [own]; exact fits) free
      rw [own] at step
      have opened := pool.opened_enter thread (.working call (rows ++ [row]))
      apply Relation.ReflTransGen.single
      change TransactionMoves pool.threads
        ⟨_, (pool.enter thread (.working call (rows ++ [row]))).threads.opened, _⟩
      rw [opened]
      exact step
  | fails thread call rows working =>
      have opened := pool.opened_enter thread .idle
      apply Relation.ReflTransGen.single
      change TransactionMoves pool.threads ⟨_, (pool.enter thread .idle).threads.opened, _⟩
      rw [opened]
      exact .rollsBack thread
  | commits thread call rows seen working complete =>
      have own : pool.threads.opened thread = rows := congrArg Phase.rows working
      have step : TransactionMoves pool.threads _ := .commits thread
      rw [own] at step
      have opened := pool.opened_enter thread .idle
      apply Relation.ReflTransGen.single
      change TransactionMoves pool.threads
        ⟨_, (pool.enter thread .idle).threads.opened, (pool.log ++ [_]).map Prod.snd⟩
      rw [opened, List.map_append]
      exact step

theorem Pool.serial_of_reachable {database : Database} {pool : Pool Thread}
    (reached : pool.Reachable database) :
    Threads.Serial (fun database row => NewRow.Fits database row) Database.add NewRow.Conflicts
      database pool.threads := by
  apply Threads.serial_of_reachable inserts_commute
  induction reached with
  | refl => exact .refl
  | tail _ moves ih => exact ih.trans moves.simulates

end Serial

section Calls

/-- The rows are the first rows of a call, whatever the caches showed it. -/
def Produces (call : Call) (rows : List NewRow) : Prop :=
  ∀ sent (inside : sent < rows.length), ∃ seen insert,
    call.insertAt seen sent = some insert ∧ insert.row = .ok rows[sent]

theorem produces_nil (call : Call) : Produces call [] := by
  intro sent inside
  cases inside

theorem Produces.append {call : Call} {rows : List NewRow} (produces : Produces call rows)
    (seen : Generator) (insert : Insert) (row : NewRow)
    (next : call.insertAt seen rows.length = some insert) (known : insert.row = .ok row) :
    Produces call (rows ++ [row]) := by
  intro sent inside
  rw [List.length_append, List.length_singleton] at inside
  rcases Nat.lt_succ_iff_lt_or_eq.mp inside with before | rfl
  · obtain ⟨earlier, statement, same, stored⟩ := produces sent before
    refine ⟨earlier, statement, same, ?_⟩
    rw [stored, List.getElem_append_left before]
  · refine ⟨seen, insert, next, ?_⟩
    rw [known, List.getElem_concat_length rfl]

/-- The rows of a whole call. -/
structure Completes (call : Call) (rows : List NewRow) : Prop where
  produces : Produces call rows
  complete : ∃ seen, call.insertAt seen rows.length = none

/-- The log of a pool has the rows of whole calls, and an open transaction those of a begun call. -/
structure Pool.Whole {Thread : Type} (pool : Pool Thread) : Prop where
  log : ∀ entry ∈ pool.log, Completes entry.1 entry.2
  working : ∀ thread call rows, pool.phase thread = .working call rows → Produces call rows

variable {Thread : Type} [DecidableEq Thread]

theorem Pool.Whole.enter {pool : Pool Thread} (whole : pool.Whole) (thread : Thread) (phase : Phase)
    (begun : ∀ call rows, phase = .working call rows → Produces call rows) :
    ∀ other call rows, (pool.enter thread phase).phase other = .working call rows →
      Produces call rows := by
  intro other call rows working
  by_cases own : other = thread
  · subst own
    apply begun
    rw [← working]
    exact (Function.update_self other phase pool.phase).symm
  · apply whole.working other
    rw [← working]
    exact (Function.update_of_ne own phase pool.phase).symm

theorem Pool.Whole.moves {pool next : Pool Thread} (whole : pool.Whole)
    (moves : Pool.Moves pool next) : next.Whole := by
  cases moves with
  | starts thread call idle =>
      refine ⟨whole.log, whole.enter thread _ ?_⟩
      rintro _ _ ⟨⟩
      exact produces_nil call
  | inserts thread call rows seen insert row working next known fits free =>
      refine ⟨whole.log, whole.enter thread _ ?_⟩
      rintro _ _ ⟨⟩
      exact (whole.working thread call rows working).append seen insert row next known
  | fails thread call rows working =>
      refine ⟨whole.log, whole.enter thread _ ?_⟩
      rintro _ _ ⟨⟩
  | commits thread call rows seen working complete =>
      refine ⟨?_, whole.enter thread _ ?_⟩
      · rw [List.forall_mem_append, List.forall_mem_singleton]
        exact ⟨whole.log, whole.working thread call rows working, seen, complete⟩
      · rintro _ _ ⟨⟩

theorem Pool.whole_of_reachable {database : Database} {pool : Pool Thread}
    (reached : pool.Reachable database) : pool.Whole := by
  induction reached with
  | refl =>
      refine ⟨List.forall_mem_nil _, ?_⟩
      rintro thread call rows ⟨⟩
  | tail _ moves ih => exact ih.moves moves

end Calls

section Turns

/-- The next row of a list fits after the rows before it. -/
theorem fits_of_fitsAll {database : Database} {rows : List NewRow} (fits : FitsAll database rows)
    (sent : Nat) (inside : sent < rows.length) :
    rows[sent].Fits (database.addAll (rows.take sent)) := by
  have split := List.take_append_drop sent rows
  rw [List.drop_eq_getElem_cons inside] at split
  rw [FitsAll, ← split, allFit_append] at fits
  exact fits.2.1

theorem addAll_take_succ (database : Database) (rows : List NewRow) (sent : Nat)
    (inside : sent < rows.length) : database.addAll (rows.take (sent + 1)) =
      (database.addAll (rows.take sent)).add rows[sent] := by
  rw [← List.take_append_getElem inside, Database.addAll, List.foldl_append]
  rfl

/-- Each statement of a call succeeds after the statements before it. -/
theorem Produces.executes {call : Call} {rows : List NewRow} (produces : Produces call rows)
    {database : Database} (fits : FitsAll database rows) (sent : Nat) (inside : sent < rows.length) :
    ∃ seen insert, call.insertAt seen sent = some insert ∧
      insert.execute (database.addAll (rows.take sent)) =
        .ok (database.addAll (rows.take (sent + 1))) := by
  obtain ⟨seen, insert, next, known⟩ := produces sent inside
  refine ⟨seen, insert, next, (insert.execute_eq_ok_iff _ _).mpr ⟨_, known, ?_, ?_⟩⟩
  · exact fits_of_fitsAll fits sent inside
  · exact addAll_take_succ database rows sent inside

section Orders
variable {draws : OrderDraws} {rows : List NewRow} {before : Database}

/-- A whole order call has an order row, its items and a payment row. -/
theorem length_of_completes (completes : Completes (.order draws) rows) :
    rows.length = draws.numItems + 2 := by
  obtain ⟨produces, seen, ended⟩ := completes
  apply le_antisymm
  · by_contra long
    obtain ⟨_, insert, next, -⟩ := produces (draws.numItems + 2) (by omega)
    rw [Call.insertAt, if_neg (by omega), if_neg (by omega)] at next
    cases next
  · by_contra short
    cases count : rows.length with
    | zero =>
        rw [count] at ended
        cases ended
    | succ i =>
        rw [count, Call.insertAt] at ended
        split at ended
        · cases ended
        · rw [if_pos (by omega)] at ended
          cases ended

theorem totalOrderValue_succ (draws : OrderDraws) (count : Nat) :
    totalOrderValue draws (List.range (count + 1)) 0 =
      totalOrderValue draws (List.range count) 0 +
        ((draws.item count).priceValue + (draws.item count).freightValue) := by
  rw [totalOrderValue, List.range_succ, List.foldl_append]
  rfl

/-- The item statements of a call fill its order one after another. -/
theorem inLoop_of_completes (completes : Completes (.order draws) rows)
    (fits : FitsAll before rows) (count : Nat) (few : count ≤ draws.numItems) :
    InLoop draws.orderId before (List.range count) (totalOrderValue draws (List.range count) 0)
      (before.addAll (rows.take (count + 1))) := by
  have size := length_of_completes completes
  induction count with
  | zero =>
      obtain ⟨seen, insert, next, executed⟩ := completes.produces.executes fits 0 (by omega)
      cases next
      exact inLoop_of_insertOrders draws _ _ before _ executed
  | succ count ih =>
      obtain ⟨seen, insert, next, executed⟩ :=
        completes.produces.executes fits (count + 1) (by omega)
      rw [Call.insertAt, if_pos (by omega)] at next
      cases next
      rw [totalOrderValue_succ, List.range_succ]
      exact inLoop_of_insertOrderItems draws before _ _ count _ _ _ (ih (by omega)) executed

/-- A whole order call that commits adds one purchase. -/
theorem exists_purchase_of_completes (completes : Completes (.order draws) rows)
    (fits : FitsAll before rows) :
    ∃ purchase : Purchase draws.orderId, Adds purchase before (before.addAll rows) := by
  have size := length_of_completes completes
  have placed := inLoop_of_completes completes fits draws.numItems (Nat.le_refl _)
  obtain ⟨seen, insert, next, executed⟩ :=
    completes.produces.executes fits (draws.numItems + 1) (by omega)
  rw [Call.insertAt, if_neg (by omega), if_pos rfl] at next
  cases next
  rw [List.take_of_length_le (by omega : rows.length ≤ draws.numItems + 1 + 1)] at executed
  exact adds_of_insertPayments draws before _ _ _ placed executed

end Orders

/-- A whole test call has an order row, one item and a payment row. -/
theorem length_of_test {draws : TestDraws} {customerId productId : Option String}
    {rows : List NewRow} (completes : Completes (.test draws customerId productId) rows) :
    rows.length = 3 := by
  obtain ⟨produces, seen, ended⟩ := completes
  apply le_antisymm
  · by_contra more
    obtain ⟨_, insert, next, -⟩ := produces 3 (Nat.lt_of_not_le more)
    cases next
  · exact List.getElem?_eq_none_iff.mp (Option.map_eq_none_iff.mp ended)

/-- A whole test call that commits adds one purchase. -/
theorem placesTest_of_completes {draws : TestDraws} {customerId productId : Option String}
    {rows : List NewRow} {before : Database}
    (completes : Completes (.test draws customerId productId) rows) (fits : FitsAll before rows) :
    PlacesTest draws customerId before (before.addAll rows) := by
  have size := length_of_test completes
  obtain ⟨_, ordered, next, placed⟩ := completes.produces.executes fits 0 (by omega)
  cases next
  obtain ⟨_, itemized, next, filled⟩ := completes.produces.executes fits 1 (by omega)
  cases next
  obtain ⟨_, charged, next, paid⟩ := completes.produces.executes fits 2 (by omega)
  cases next
  rw [List.take_of_length_le (by omega : rows.length ≤ 2 + 1)] at paid
  exact placesTest_of_inserts draws customerId productId before _ _ _ placed filled paid

/-- A whole call with one statement has one row. -/
theorem exists_row_of_completes {call : Call} {insert : Insert} {rows : List NewRow}
    {before : Database} (first : ∀ seen, call.insertAt seen 0 = some insert)
    (second : ∀ seen, call.insertAt seen 1 = none) (completes : Completes call rows)
    (fits : FitsAll before rows) :
    ∃ row, rows = [row] ∧ insert.row = .ok row ∧ row.Fits before := by
  obtain ⟨seen, ended⟩ := completes.complete
  cases rows with
  | nil =>
      rw [List.length_nil, first seen] at ended
      cases ended
  | cons row rest =>
      obtain ⟨earlier, statement, next, known⟩ := completes.produces 0 (Nat.zero_lt_succ _)
      rw [first earlier] at next
      cases next
      refine ⟨row, ?_, known, fits.1⟩
      cases rest with
      | nil => rfl
      | cons extra more =>
          obtain ⟨later, statement, next, -⟩ := completes.produces 1 (by simp)
          rw [second later] at next
          cases next

/-- The rows of a call go into the database together. -/
def Call.Commits (before after : Database) : Call → Prop
  | .order draws => ∃ purchase : Purchase draws.orderId, Adds purchase before after
  | .test draws customerId _ => PlacesTest draws customerId before after
  | .customer draws => ∃ row : CustomersRow, after = before.add (.customers row) ∧
      row.customerId.val = "customer_" ++ toString draws.currentTimeMillis ∧
      before.customers.lookup row.customerId = none
  | .product draws => ∃ row : ProductsRow, after = before.add (.products row) ∧
      row.productId.val = "product_" ++ toString draws.currentTimeMillis ∧
      before.products.lookup row.productId = none

theorem Completes.commits {call : Call} {rows : List NewRow} (completes : Completes call rows)
    {before : Database} (fits : FitsAll before rows) :
    call.Commits before (before.addAll rows) := by
  cases call with
  | order draws => exact exists_purchase_of_completes completes fits
  | test draws customerId productId => exact placesTest_of_completes completes fits
  | customer draws =>
      obtain ⟨row, rfl, known, fit⟩ :=
        exists_row_of_completes (fun _ => rfl) (fun _ => rfl) completes fits
      obtain ⟨customer, rfl, id⟩ := exists_customer known
      exact ⟨customer, rfl, id, fit⟩
  | product draws =>
      obtain ⟨row, rfl, known, fit⟩ :=
        exists_row_of_completes (fun _ => rfl) (fun _ => rfl) completes fits
      obtain ⟨product, rfl, id⟩ := exists_product known
      exact ⟨product, rfl, id, fit⟩

/-- The calls of a list commit one after another. -/
inductive CommitsInTurn : Database → List Call → Database → Prop
  | done (database : Database) : CommitsInTurn database [] database
  | next {before middle after : Database} {call : Call} {rest : List Call}
      (commits : call.Commits before middle) (later : CommitsInTurn middle rest after) :
      CommitsInTurn before (call :: rest) after

theorem commitsInTurn_of_completes (database : Database) (log : List (Call × List NewRow))
    (whole : ∀ entry ∈ log, Completes entry.1 entry.2)
    (fits : FitsAll database (log.map Prod.snd).flatten) :
    CommitsInTurn database (log.map Prod.fst) (database.addAll (log.map Prod.snd).flatten) := by
  induction log generalizing database with
  | nil => exact .done database
  | cons entry rest ih =>
      obtain ⟨complete, wholeRest⟩ := List.forall_mem_cons.mp whole
      rw [List.map_cons, List.flatten_cons, FitsAll, allFit_append] at fits
      rw [List.map_cons, List.map_cons, List.flatten_cons, Database.addAll, List.foldl_append]
      exact .next (complete.commits fits.1) (ih _ wholeRest fits.2)

/-- A pool that has run on a database whose foreign keys hold. -/
structure PoolRun (Thread : Type) [DecidableEq Thread] extends ValidDatabase where
  pool : Pool Thread
  reached : pool.Reachable database

/-- After any interleaving of the threads the database is as if the committed calls had run one
after another, each of them whole, and its foreign keys hold. -/
theorem interleaving_commits_in_turn {Thread : Type} [DecidableEq Thread] (run : PoolRun Thread) :
    CommitsInTurn run.database (run.pool.log.map Prod.fst) run.pool.committed ∧
      run.pool.committed.ForeignKeys := by
  have serial := Pool.serial_of_reachable run.reached
  have stored : run.pool.committed = run.database.addAll (run.pool.log.map Prod.snd).flatten :=
    serial.committed
  have whole := (Pool.whole_of_reachable run.reached).log
  rw [stored]
  exact ⟨commitsInTurn_of_completes run.database run.pool.log whole serial.log,
    run.foreignKeys.addAll serial.log⟩

end Turns

section Steps
variable {Thread : Type} [DecidableEq Thread] {database : Database} {pool : Pool Thread}
  {call : Call} {rows : List NewRow}

theorem Pool.Reachable.starts (reached : pool.Reachable database) (thread : Thread) (call : Call)
    (idle : pool.phase thread = .idle) :
    (pool.enter thread (.working call [])).Reachable database :=
  reached.tail (.starts thread call idle)

theorem Pool.Reachable.inserts (reached : pool.Reachable database) (thread : Thread)
    (working : pool.phase thread = .working call rows) (seen : Generator) (row : NewRow)
    (next : ∃ insert, call.insertAt seen rows.length = some insert ∧ insert.row = .ok row)
    (fits : row.Fits (pool.committed.addAll rows))
    (free : ∀ other ≠ thread, ∀ taken ∈ (pool.phase other).rows, ¬ taken.Conflicts row) :
    (pool.enter thread (.working call (rows ++ [row]))).Reachable database := by
  obtain ⟨insert, sent, known⟩ := next
  exact reached.tail (.inserts thread call rows seen insert row working sent known fits free)

theorem Pool.Reachable.commits (reached : pool.Reachable database) (thread : Thread)
    (working : pool.phase thread = .working call rows) (seen : Generator)
    (complete : call.insertAt seen rows.length = none) :
    Pool.Reachable database { pool.enter thread .idle with
      committed := pool.committed.addAll rows
      log := pool.log ++ [(call, rows)] } :=
  reached.tail (.commits thread call rows seen working complete)

end Steps

section Example

def shopOrder : OrdersRow := { nobodysOrder with
  orderId := ⟨"order_0_0", by decide⟩
  customerId := some customerOne
  orderEstimatedDeliveryDate := some (3 * dayMillis) }

/-- The rows of the order, with their rounded values. -/
def shopRows : List NewRow := [
  .orders shopOrder,
  .orderItems ⟨0, some shopOrder.orderId, some productOne, some 10, some 5, some false⟩,
  .payments ⟨0, some shopOrder.orderId, some creditCard, some (1501 / 100), some false⟩]

/-- A latency test without a customer and a product. -/
def shopTest : TestDraws := { nothingDrawn with
  itemId := 1
  paymentId := 1 }

def shopTestRows : List NewRow := [
  .orders nobodysOrder,
  .orderItems ⟨1, some nobodysOrder.orderId, none, some (9999 / 100), some (999 / 100),
    some false⟩,
  .payments ⟨1, some nobodysOrder.orderId, some creditCard, some (10998 / 100), some false⟩]

/-- A second thread commits its test while the first one writes an order. -/
def shopPool : Pool Bool where
  committed := (shop.database.addAll shopTestRows).addAll shopRows
  phase _ := .idle
  log := [(.test shopTest none none, shopTestRows), (.order shopDraws, shopRows)]

def shopCaches : Generator := ⟨["c1"], ["p1"], []⟩

theorem shop_reached : shopPool.Reachable shop.database := by
  have begun := Pool.Reachable.starts (.refl : (Pool.start shop.database).Reachable _) false
    (.order shopDraws) rfl
  have ordered := begun.inserts false rfl shopCaches (.orders shopOrder)
    ⟨_, rfl, by decide +kernel⟩ (by decide +kernel)
    (by simp [Pool.enter, Pool.start, Phase.rows])
  have entered := ordered.starts true (.test shopTest none none) rfl
  have placed := entered.inserts true rfl shopCaches (.orders nobodysOrder)
    ⟨_, rfl, by decide +kernel⟩ (by decide +kernel)
    (by simp [Pool.enter, Phase.rows, NewRow.Conflicts, shopOrder, nobodysOrder])
  have itemized := placed.inserts true rfl shopCaches
    (.orderItems ⟨1, some nobodysOrder.orderId, none, some (9999 / 100), some (999 / 100),
      some false⟩)
    ⟨_, rfl, by decide +kernel⟩ (by decide +kernel)
    (by simp [Pool.enter, Phase.rows, NewRow.Conflicts])
  have filled := itemized.inserts false rfl shopCaches
    (.orderItems ⟨0, some shopOrder.orderId, some productOne, some 10, some 5, some false⟩)
    ⟨_, rfl, by decide +kernel⟩ (by decide +kernel)
    (by simp [Pool.enter, Phase.rows, NewRow.Conflicts])
  have charged := filled.inserts true rfl shopCaches
    (.payments ⟨1, some nobodysOrder.orderId, some creditCard, some (10998 / 100), some false⟩)
    ⟨_, rfl, by decide +kernel⟩ (by decide +kernel)
    (by simp [Pool.enter, Phase.rows, NewRow.Conflicts])
  have tested := charged.commits true rfl shopCaches rfl
  have paid := tested.inserts false rfl shopCaches
    (.payments ⟨0, some shopOrder.orderId, some creditCard, some (1501 / 100), some false⟩)
    ⟨_, rfl, by decide +kernel⟩ (by decide +kernel)
    (by simp [Pool.enter, Phase.rows])
  refine Eq.mp (congrArg (Pool.Reachable shop.database) ?_) (paid.commits false rfl shopCaches rfl)
  change Pool.mk _ _ _ = Pool.mk _ _ _
  congr 1
  funext thread
  cases thread <;> rfl

def shopRun : PoolRun Bool := ⟨shop, shopPool, shop_reached⟩

theorem shop_commits_in_turn :
    CommitsInTurn shop.database [.test shopTest none none, .order shopDraws]
      shopPool.committed :=
  (interleaving_commits_in_turn shopRun).1

end Example

end DataGenerator

end OdsPipeline
