import TableExplorer.ExportFile
import TableExplorer.QueryState.Reader
import TableExplorer.RequestLog.Table

/-!
# Documents of the application

What the endpoints answer with, as JSON documents.
-/

namespace TableExplorer.Api

def groupsDocument (groups : Dict (List String)) : Value :=
  .record (groups.map fun g => (g.1, .ofTexts g.2))

def operatorNames (ops : List Operator) : Value := .ofTexts (ops.map Operator.name)

def columnDocument (c : TableColumn) : Value :=
  .record [("name", .text c.description.name), ("dataType", .text c.description.dataType),
    ("format", .text c.description.format), ("operators", operatorNames c.operators),
    ("hasLookup", .bool c.hasLookup)]

def joinDocument (j : Registry.KnownJoin) : Value :=
  .record [("column", .text j.column), ("foreignTable", .text j.foreignTable),
    ("foreignColumn", .text j.foreignColumn)]

def optionDocument (o : LookupOption) : Value :=
  .record [("id", .text o.id), ("label", .text o.label)]

def catalogDocument (c : OperatorCatalog) : Value :=
  .record [("labels", .record (c.labels.map fun p => (p.1.name, .text p.2))),
    ("byType", .record (c.byType.map fun p => (p.1.name, operatorNames p.2))),
    ("withoutValue", operatorNames c.withoutValue)]

def resultDocument (r : QueryResult) : Value :=
  .record [("data", .list (r.rows.map .record)), ("count", .int r.count),
    ("error", (r.error.map Value.text).getD .null)]

/-- How much the cache holds. -/
def statsDocument (s : LookupCache.Stats) : Value :=
  .record [("optionLists", .int s.optionLists), ("labelSources", .int s.labelSources),
    ("labels", .int s.labels)]

def optionalText (s : Option String) : Value := (s.map Value.text).getD .null

/-- An entry of the log. -/
def entryDocument (e : RequestLog.Entry) : Value :=
  .record [("id", .int e.id), ("method", .text e.method), ("path", .text e.path),
    ("status_code", .int e.status), ("client_ip", optionalText e.clientIp),
    ("request_body", optionalText e.requestBody), ("error", optionalText e.error),
    ("application_id", optionalText e.applicationId)]

end TableExplorer.Api
