import OdsPipeline.Construction.Inserts

/-
This file interleaves the calls of the thread pool that `DataGenerator.main` creates.
Each call has a connection of its own.
-/

namespace OdsPipeline.DataGenerator
open Library Postgres

/-- A call of a thread. A test draws its ids before its first statement. A review never gets a
row into its table, so no call writes one. -/
inductive Call where
  | order (draws : OrderDraws)
  | test (draws : TestDraws) (customerId productId : Option String)
  | customer (draws : CustomerDraws)
  | product (draws : ProductDraws)

namespace Call

/-- The statement that a call sends next. The ids come from the caches at this moment. -/
def insertAt (generator : Generator) (call : Call) (sent : Nat) : Option Insert :=
  match call with
  | .order draws =>
      match sent with
      | 0 => some (orderInsert draws generator)
      | i + 1 =>
          if i < draws.numItems then some (itemInsert draws generator i)
          else if i = draws.numItems then some (paymentInsert draws)
          else none
  | .test draws customerId productId =>
      ((testInserts draws draws.testOrderId customerId productId)[sent]?).map Prod.snd
  | .customer draws =>
      match sent with
      | 0 => some (.customers ("customer_" ++ toString draws.currentTimeMillis) draws.uniqueId
          draws.city (states.get draws.state))
      | _ => none
  | .product draws =>
      match sent with
      | 0 => some (.products ("product_" ++ toString draws.currentTimeMillis)
          (categories.get draws.category))
      | _ => none

end Call

/-- A thread waits for a task, or it has written some rows of its call. -/
inductive Phase where
  | idle
  | working (call : Call) (rows : List NewRow)

/-- The uncommitted rows of a thread. -/
def Phase.rows : Phase → List NewRow
  | .idle => []
  | .working _ rows => rows

/-- The database that the threads share. The log has the committed calls with their rows. -/
structure Pool (Thread : Type) where
  committed : Database
  phase : Thread → Phase
  log : List (Call × List NewRow)

namespace Pool
variable {Thread : Type} [DecidableEq Thread]

/-- All threads wait for their first task. -/
def start (database : Database) : Pool Thread := ⟨database, fun _ => .idle, []⟩

def enter (pool : Pool Thread) (thread : Thread) (phase : Phase) : Pool Thread :=
  { pool with phase := Function.update pool.phase thread phase }

/-- One step of one thread. A statement sees the committed rows and the rows of its own
transaction, and it waits while another transaction holds its primary key. The lists of the
caches have no lock, so a read of them can show anything. -/
inductive Moves (pool : Pool Thread) : Pool Thread → Prop
  | starts (thread : Thread) (call : Call) (idle : pool.phase thread = .idle) :
      Moves pool (pool.enter thread (.working call []))
  | inserts (thread : Thread) (call : Call) (rows : List NewRow) (seen : Generator)
      (insert : Insert) (row : NewRow) (working : pool.phase thread = .working call rows)
      (next : call.insertAt seen rows.length = some insert) (known : insert.row = .ok row)
      (fits : row.Fits (rows.foldl (fun database row => database.commit row.statement)
        pool.committed))
      (free : ∀ other ≠ thread, ∀ taken ∈ (pool.phase other).rows, ¬ taken.Conflicts row) :
      Moves pool (pool.enter thread (.working call (rows ++ [row])))
  | fails (thread : Thread) (call : Call) (rows : List NewRow)
      (working : pool.phase thread = .working call rows) : Moves pool (pool.enter thread .idle)
  | commits (thread : Thread) (call : Call) (rows : List NewRow) (seen : Generator)
      (working : pool.phase thread = .working call rows)
      (complete : call.insertAt seen rows.length = none) :
      Moves pool { pool.enter thread .idle with
        committed := rows.foldl (fun database row => database.commit row.statement) pool.committed
        log := pool.log ++ [(call, rows)] }

/-- The pool after any interleaving of its threads. -/
def Reachable (database : Database) (pool : Pool Thread) : Prop :=
  Relation.ReflTransGen Moves (start database) pool

end Pool

end OdsPipeline.DataGenerator
