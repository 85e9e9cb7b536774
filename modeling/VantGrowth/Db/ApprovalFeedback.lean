import VantGrowth.Db.Outbox

namespace VantGrowth.Db
open Lib Lib.Text

inductive FeedbackAction where
  | approved | edited_then_approved | rejected | auto_approved
deriving DecidableEq

/-- A decision on an artefact, without the texts a reviewer adds. -/
structure ApprovalFeedback where
  id : String
  tenantId : String
  issueId : String
  outputType : String
  action : FeedbackAction
  createdAt : Instant

structure RecordApprovalParams where
  tenantId : String
  issueId : String
  outputType : String
  action : FeedbackAction

/-- `recordApprovalParamsSchema` -/
def RecordApprovalParams.valid (params : RecordApprovalParams) : Bool :=
  isUuid params.tenantId && isUuid params.issueId && params.outputType != ""

structure InMemoryApprovalFeedbackRepository where
  rows : List ApprovalFeedback
  nextId : Nat

namespace InMemoryApprovalFeedbackRepository

def empty : InMemoryApprovalFeedbackRepository := ⟨[], 1⟩

def record (clock : Instant) (params : RecordApprovalParams) :
    Store DbError InMemoryApprovalFeedbackRepository ApprovalFeedback := do
  Store.require (params.valid = true) .zod
  let row ← Store.read fun f =>
    { id := "00000000-0000-4000-8000-" ++ padStart 12 f.nextId, tenantId := params.tenantId,
      issueId := params.issueId, outputType := params.outputType, action := params.action,
      createdAt := clock : ApprovalFeedback }
  Store.modify fun f => { f with nextId := f.nextId + 1, rows := f.rows ++ [row] }
  return row

/-- The rows of a tenant, of one type where one is asked for. -/
def selected (f : InMemoryApprovalFeedbackRepository) (tenantId : String) (outputType : Option String) :
    List ApprovalFeedback :=
  f.rows.filter fun r => r.tenantId == tenantId && outputType.all (r.outputType == ·)

/-- Newest first; rows of one moment keep their order. -/
def listRecent (f : InMemoryApprovalFeedbackRepository) (tenantId : String) (limit : Nat)
    (outputType : Option String) : Except DbError (List ApprovalFeedback) :=
  if isUuid tenantId = true then
    .ok (((f.selected tenantId outputType).insertionSort fun a b => b.createdAt ≤ a.createdAt).take limit)
  else .error .zod

end InMemoryApprovalFeedbackRepository

end VantGrowth.Db
