import DocMapper.Reconciliation.Basic
import DocMapper.Store.Basic

namespace DocMapper

/-! # Carrying out plans

Nothing guards the time between reading the stored documents and writing: a plan is made for the
store as it was read.
-/

namespace Reconciler

/-- Checks the instances, reads the stored documents once, and makes the plan. -/
def reconcile (r : Reconciler) (instances : List Document) : Action Plan := do
  .check (r.checkBatch instances)
  if instances.isEmpty then return {}
  else
    let persisted ← Action.read (·.find (r.candidateFilter instances) r.projection)
    return r.plan instances persisted

end Reconciler

namespace Plan

/-- Carries out updates in order and adds up what they did. -/
def performUpdates (summary : BatchSummary) : List PlannedUpdate → Action BatchSummary
  | [] => return summary
  | u :: rest => do
    let outcome ← Action.updateOne u.filter u.update false
    performUpdates (summary.add ⟨outcome.matched, outcome.modified, []⟩) rest

/-- Carries out the updates and then the inserts of a plan (`execute_plan`). -/
def perform (p : Plan) : Action BatchSummary := do
  let summary ← performUpdates {} p.updates
  if p.inserts.isEmpty then return summary
  else
    let ids ← Action.insertMany (p.inserts.map (·.document))
    return { summary with insertedIds := ids }

end Plan

end DocMapper
