import OrchLab.Model.Orders.Database
import OrchLab.Model.Shared.Artifacts
import Mathlib.Data.Prod.Lex

/-! # Collecting the artifacts of an execution

`scripts/pilot/collect_artifacts.py`: the trajectories are exported from `orders.db`, the artifacts each
process wrote are merged. Times are compared as numbers, tasks as the texts they print.
-/

namespace OrchLab

/-- A line of `task_events.jsonl`. -/
structure TaskEventRecord where
  executionId : String
  taskId : TaskId
  messageId : Option MessageId
  eventSeq : ℤ
  eventType : EventType
  service : EventSource
  target : Option Target
  timestamp : Timestamp
  publishedAt : Option Timestamp
  redelivered : Bool
  attemptNumber : ℕ
  payload : Option EventPayload
deriving DecidableEq, Repr

/-- `task_event_record`. -/
def taskEventRecord (row : TaskEvent) : TaskEventRecord where
  executionId := row.executionId
  taskId := row.taskId
  messageId := row.messageId
  eventSeq := row.eventSeq
  eventType := row.eventType
  service := row.service
  target := row.target
  timestamp := row.recordedAt
  publishedAt := row.publishedAt
  redelivered := row.redelivered
  attemptNumber := row.attemptNumber
  payload := row.payload

/-- `ORDER BY task_id, event_id`. -/
def exportKey (row : TaskEvent) : String ×ₗ ℕ := toLex (sequentialId "TASK" row.taskId, row.eventId)

/-- `export_task_events`. -/
def exportTaskEvents (executionId : String) (db : OrdersDb) : List TaskEventRecord :=
  (sortOn exportKey (db.taskEvents.rows.filter (·.executionId = executionId))).map taskEventRecord

end OrchLab
