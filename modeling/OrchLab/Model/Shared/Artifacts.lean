import OrchLab.Model.Shared.Json
import OrchLab.Text.Lines
import OrchLab.ToMathlib.SortOn
import Mathlib.Data.String.Basic

/-! # Artifact files

`JsonlWriter` and `_write_jsonl` write one JSON text per line; five readers take a file apart again. Three
split what they have read with `str.splitlines`, two iterate over the lines of the open file, and one of these
sorts what it has read by its timestamps. `json.loads` is a parameter of the readers; a file is its characters.
-/

namespace OrchLab

/-- A record: the fields of a dictionary. -/
abbrev JsonRecord := List (String × Json)

/-- The text of a record. -/
def JsonRecord.text (record : JsonRecord) : List Char := Json.dumps (.object record)

/-- `JsonlWriter.write`: the content of the file with one line more. -/
def JsonlWriter.write (content : List Char) (record : JsonRecord) : List Char :=
  content ++ (record.text ++ ['\n'])

/-- `_write_jsonl`: the content of a new file. -/
def writeJsonl (records : List JsonRecord) : List Char := records.foldl JsonlWriter.write []

section Readers

variable (loads : List Char → Option Json)

/-- The values of the lines that are not blank; an error of one is an error of all. -/
def loadLines (lines : List (List Char)) : Option (List Json) :=
  (lines.filter fun line => !isBlank line).mapM loads

/-- `consolidate._read_jsonl`. -/
def Consolidate.readJsonl (content : List Char) : Option (List Json) :=
  loadLines loads (splitLines (universalNewlines content))

/-- `run_scenario._read_jsonl`. -/
def RunScenario.readJsonl (content : List Char) : Option (List Json) :=
  loadLines loads (splitLines (universalNewlines content))

/-- `check_traceability._read_jsonl`. -/
def CheckTraceability.readJsonl (content : List Char) : Option (List Json) :=
  loadLines loads (fileLines (universalNewlines content))

/-- `unreadable_artifacts`, of the `.jsonl` files that are present. -/
def unreadableArtifacts (files : List (String × List Char)) : List String :=
  (files.filter fun file => ((splitLines (universalNewlines file.2)).filter fun line => !isBlank line).any
    fun line => (loads line).isNone).map Prod.fst

end Readers

/-! ## Merging shards -/

/-- `merge_shards`: the records of every process by their time. -/
def mergeShards {α β : Type*} [LinearOrder β] (timestamp : α → β) (shards : List (List α)) : List α :=
  sortOn timestamp shards.flatten

namespace Json

def isObject : Json → Bool
  | .object _ => true
  | _ => false

/-- `record.get("timestamp", "")` of a dictionary. -/
def timestamp : Json → Json
  | .object fields => (fields.lookup "timestamp").getD (.string "")
  | _ => .string ""

/-- `<`, with `none` for a `TypeError`: texts compare by their characters, and `others` compares what is not two
texts. -/
def less? (others : Json → Json → Option Bool) : Json → Json → Option Bool
  | .string one, .string two => some (decide (one < two))
  | one, two => others one two

end Json

/-- `collect_artifacts.merge_shards`, on the files of the processes: what it writes to the merged file. A value
without `get` is an error, and so are timestamps that do not compare. -/
def CollectArtifacts.mergeShards (loads : List Char → Option Json) (others : Json → Json → Option Bool)
    (shards : List (List Char)) : Option (List Json) := do
  let records := (← shards.mapM fun content => loadLines loads (fileLines (universalNewlines content))).flatten
  if records.all Json.isObject then
    sortBy? (fun one two => Json.less? others one.timestamp two.timestamp) records
  else none

end OrchLab
