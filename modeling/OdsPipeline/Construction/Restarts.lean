import Mathlib.Logic.Function.Basic
import Mathlib.Logic.Relation
import OdsPipeline.Construction.Feed

/-
This file runs the six jobs beside the source database. The clean sinks are exactly-once, so a
checkpoint publishes their rows. The error sinks flush their rows before, and write them once more
after a restart.
-/

namespace OdsPipeline
open Library SqlQueries Postgres OdsETLJob

/-- Each source table has its own replication slot. -/
inductive SourceTable where
  | orders
  | orderItems
  | products
  | reviews
  | payments
  | customers
  deriving DecidableEq, Repr

/-- The records that a slot holds after a history. -/
def slot (history : List Statement) : SourceTable → List OdsETLJob.Record
  | .orders => (ordersFeed.changelog history).map .orders
  | .orderItems => (orderItemsFeed.changelog history).map .orderItems
  | .products => (productsFeed.changelog history).map .products
  | .reviews => (reviewsFeed.changelog history).map .reviews
  | .payments => (paymentsFeed.changelog history).map .payments
  | .customers => (customersFeed.changelog history).map .customers

/-- The job of one table. Its position counts the records that its last checkpoint has published. It
has read the pending records since, and the error rows of the first of these are flushed. -/
structure Reader where
  position : Nat
  pending : List (Timestamp × OdsETLJob.Record)
  flushed : Nat
  within : flushed ≤ pending.length

namespace Reader

def start : Reader := ⟨0, [], 0, Nat.le_refl _⟩

def read (reader : Reader) (arrived : Timestamp × OdsETLJob.Record) : Reader where
  position := reader.position
  pending := reader.pending ++ [arrived]
  flushed := reader.flushed
  within := by
    rw [List.length_append]
    exact Nat.le_add_right_of_le reader.within

/-- The error sink writes the buffered rows of the first pending records. -/
def flush (reader : Reader) (count : Nat) (inside : count ≤ reader.pending.length) : Reader :=
  { reader with flushed := count, within := inside }

/-- A checkpoint covers the first pending records. The others arrived behind its barrier. -/
def publish (reader : Reader) (count : Nat) : Reader where
  position := reader.position + count
  pending := reader.pending.drop count
  flushed := reader.flushed - count
  within := by
    rw [List.length_drop]
    exact Nat.sub_le_sub_right reader.within count

/-- A job that starts again has neither open transactions nor buffers. -/
def restart (checkpoint : Nat) : Reader := ⟨checkpoint, [], 0, Nat.le_refl _⟩

end Reader

/-- The clean tables of some jobs with the error tables of others. -/
def OdsETLJob.Jobs.beside (clean error : Jobs) : Jobs where
  orders := ⟨clean.orders.clean, error.orders.error⟩
  orderItems := ⟨clean.orderItems.clean, error.orderItems.error⟩
  products := ⟨clean.products.clean, error.products.error⟩
  reviews := ⟨clean.reviews.clean, error.reviews.error⟩
  payments := ⟨clean.payments.clean, error.payments.error⟩
  customers := ⟨clean.customers.clean, error.customers.error⟩

/-- The committed statements, the six jobs and the rows that can be seen in the sink tables. -/
structure Pipeline where
  history : List Statement
  readers : SourceTable → Reader
  jobs : Jobs

namespace Pipeline

def start : Pipeline := ⟨[], fun _ => .start, main⟩

/-- The job of a table goes on. -/
def enter (state : Pipeline) (table : SourceTable) (reader : Reader) : Pipeline :=
  { state with readers := Function.update state.readers table reader }

def commit (state : Pipeline) (next : Statement) : Pipeline :=
  { state with history := state.history ++ [next] }

def read (state : Pipeline) (table : SourceTable) (arrived : Timestamp × OdsETLJob.Record) :
    Pipeline :=
  state.enter table ((state.readers table).read arrived)

/-- The error rows of the next pending records become visible. -/
def flush (state : Pipeline) (table : SourceTable) (count : Nat)
    (inside : count ≤ (state.readers table).pending.length) : Pipeline :=
  { state.enter table ((state.readers table).flush count inside) with
    jobs := state.jobs.beside (state.jobs.run
      (((state.readers table).pending.take count).drop (state.readers table).flushed)) }

/-- The clean rows of the first pending records become visible. -/
def publish (state : Pipeline) (table : SourceTable) (count : Nat) : Pipeline :=
  { state.enter table ((state.readers table).publish count) with
    jobs := (state.jobs.run ((state.readers table).pending.take count)).beside state.jobs }

def restart (state : Pipeline) (table : SourceTable) (checkpoint : Nat) : Pipeline :=
  state.enter table (.restart checkpoint)

/-- One step of the database or of one job. A checkpoint publishes clean rows only after all error
rows before it are flushed, and a failure takes back the clean rows that are not published. -/
inductive Moves (state : Pipeline) : Pipeline → Prop
  | commits (next : Statement) : Moves state (state.commit next)
  | reads (table : SourceTable) (now : Timestamp) (record : OdsETLJob.Record)
      (found : (slot state.history table)[(state.readers table).position +
        (state.readers table).pending.length]? = some record) :
      Moves state (state.read table (now, record))
  | flushes (table : SourceTable) (count : Nat)
      (inside : count ≤ (state.readers table).pending.length)
      (more : (state.readers table).flushed ≤ count) :
      Moves state (state.flush table count inside)
  | publishes (table : SourceTable) (count : Nat)
      (written : count ≤ (state.readers table).flushed) : Moves state (state.publish table count)
  | restarts (table : SourceTable) (checkpoint : Nat)
      (passed : checkpoint ≤ (state.readers table).position) :
      Moves state (state.restart table checkpoint)

def Reachable (state : Pipeline) : Prop := Relation.ReflTransGen Moves start state

/-- The job of a table has published all records of its slot. -/
def CaughtUp (state : Pipeline) (table : SourceTable) : Prop :=
  (state.readers table).position = (slot state.history table).length

end Pipeline

/-- A pipeline after some commits, reads, flushes, checkpoints and restarts in any order. -/
structure RestartedPipeline where
  state : Pipeline
  reached : state.Reachable

/-- A whole run of the pipeline, move by move. -/
structure PipelineRun where
  states : Nat → Pipeline
  begins : states 0 = Pipeline.start
  moves : ∀ moment, (states moment).Moves (states (moment + 1))

/-- The number of records of a table that a checkpoint has published up to a moment. -/
def PipelineRun.published (run : PipelineRun) (table : SourceTable) : Nat → Nat
  | 0 => ((run.states 0).readers table).position
  | moment + 1 =>
      max (run.published table moment) ((run.states (moment + 1)).readers table).position

end OdsPipeline
