import DocMapper.Model.Basic
import DocMapper.Store.Call
import DocMapper.Reconciliation.Execution

namespace DocMapper

/-! # Models: batches, and calls of the store -/

/-- A list cut into parts of `size + 1` items; the last part may be shorter. -/
def batches {α : Type} (size : Nat) : List α → List (List α)
  | [] => []
  | x :: rest => (x :: rest.take size) :: batches size (rest.drop size)
termination_by xs => xs.length
decreasing_by simp only [List.length_drop, List.length_cons]; omega

namespace Model

/-- How many instances one read covers, unless the caller says. -/
def defaultBatchSize : Nat := 10000

/-- Parts of the given size; a size of zero counts as one. -/
def batchesOf {α : Type} (size : Nat) (xs : List α) : List (List α) := batches (size - 1) xs

/-- Carries out actions one after the other and adds up what they did. -/
def sumUp {α : Type} (run : α → Action BatchSummary) (parts : List α) : Action BatchSummary :=
  parts.foldlM (fun summary part => return summary.add (← run part)) {}

/-- Updates the given fields of every instance, found by its identifier. Callers know this as
`bulk_update`. -/
def updateInstances (m : Model) (instances : List Document) (fields : List String)
    (batchSize : Option Nat) : Action BatchSummary := do
  let docs ← .check (instances.mapM m.encode)
  let updates ← .check (Document.planUpdates m.schema fields docs)
  let parts := batchesOf (batchSize.getD updates.length) updates
  sumUp (fun updates => Plan.perform { updates }) parts

/-- Updates the stored documents that instances match, and inserts the other instances. Each batch
reads the store anew. Callers know this as `bulk_update_or_create`. -/
def upsertInstances (m : Model) (instances : List Document) (queryFields : List String)
    (updateFields? : Option (List String)) (batchSize : Option Nat) : Action BatchSummary := do
  let reconciler ← .check (Reconciler.make m.schema queryFields updateFields?)
  let docs ← .check (instances.mapM m.encode)
  .check (reconciler.checkBatch docs)
  let parts := batchesOf (batchSize.getD defaultBatchSize) docs
  sumUp (fun docs => do (← reconciler.reconcile docs).perform) parts

/-- Makes a call of the store after checking it against the schema (`raw_query`). -/
def call (m : Model) (collection : String → List Document) (call : StoreCall) :
    Action StoreAnswer := do
  (← .check (call.accept m.schema)).perform collection

end Model

end DocMapper
