import TableExplorer.Api.Url

/-!
# Routes

The endpoints of the application, each with its path and its methods, and those of the pages that
document them. A path that belongs to an endpoint with another method is not allowed; a path that
would belong to one with a slash more or less at its end is redirected there; any other path is not
found.
-/

namespace TableExplorer.Api

/-- The pages that document the endpoints: two renderings of their description, and the page that a
sign-in comes back to. -/
inductive Page
  | docs
  | redoc
  | signedIn
  deriving DecidableEq, Repr

/-- An endpoint, with the parts of the path that it takes. -/
inductive Endpoint
  | tables
  | columns (table : String)
  | joins (table : String)
  | options (table column : String)
  | operators
  | query
  | preview
  | exportRows
  | exportFile (format : String)
  | clearCache
  | logs
  | log (id : String)
  | description
  | page (p : Page)
  deriving DecidableEq, Repr

def Endpoint.methods : Endpoint → List String
  | query => ["POST"]
  | preview => ["POST"]
  | exportRows => ["POST"]
  | exportFile _ => ["POST"]
  | clearCache => ["POST"]
  | description => ["GET", "HEAD"]
  | page _ => ["GET", "HEAD"]
  | _ => ["GET"]

def Endpoint.readsLog : Endpoint → Bool
  | logs => true
  | log _ => true
  | _ => false

/-- Whether all that an endpoint answers can be sent. The log is flat, and its texts were kept as
such; what others of these answer is no data but the application's own. -/
def Endpoint.alwaysSent : Endpoint → Bool
  | joins _ => true
  | operators => true
  | clearCache => true
  | logs => true
  | log _ => true
  | description => true
  | page _ => true
  | _ => false

/-- Whether the path of an endpoint ends with a part that it takes. -/
def Endpoint.takesLast : Endpoint → Bool
  | exportFile _ => true
  | log _ => true
  | _ => false

/-- The endpoint below `/api/explorer`. -/
def explorerEndpoint? : List String → Option Endpoint
  | ["tables"] => some .tables
  | ["tables", table, "columns"] => if table.isEmpty then none else some (.columns table)
  | ["tables", table, "joins"] => if table.isEmpty then none else some (.joins table)
  | ["tables", table, "columns", column, "options"] =>
    if table.isEmpty || column.isEmpty then none else some (.options table column)
  | ["operators"] => some .operators
  | ["query"] => some .query
  | ["query", "preview"] => some .preview
  | ["export"] => some .exportRows
  | ["export", format] => if format.isEmpty then none else some (.exportFile format)
  | ["cache", "clear"] => some .clearCache
  | _ => none

/-- The endpoint below `/api/logs`. -/
def logEndpoint? : List String → Option Endpoint
  | [""] => some .logs
  | [id] => some (.log id)
  | _ => none

def segments (path : String) : List String :=
  (Text.splitAtChar '/' path.toList).map String.ofList

/-- The endpoint of the segments of a path. -/
def Endpoint.ofSegments? : List String → Option Endpoint
  | "" :: "api" :: "explorer" :: rest => explorerEndpoint? rest
  | "" :: "api" :: "logs" :: rest => logEndpoint? rest
  | ["", "api", "openapi.json"] => some .description
  | ["", "api", "docs"] => some (.page .docs)
  | ["", "api", "redoc"] => some (.page .redoc)
  | ["", "docs", "oauth2-redirect"] => some (.page .signedIn)
  | _ => none

/-- A text without the line feed at its end. -/
def withoutLineFeed (s : String) : String :=
  match s.toList.reverse with
  | '\n' :: cs => String.ofList cs.reverse
  | _ => s

/-- The endpoint of a path. A line feed at the end of the path belongs to the part that stands
there, if the endpoint takes it, and else does not count. -/
def Endpoint.ofPath? (path : String) : Option Endpoint :=
  match ofSegments? (segments (withoutLineFeed path)) with
  | some e => if e.takesLast then ofSegments? (segments path) else some e
  | none => ofSegments? (segments path)

/-- The path with a slash more, or with none, at its end. -/
def otherSlash (path : String) : String :=
  if path.endsWith "/" then
    String.ofList ((path.toList.reverse.dropWhile (· == '/')).reverse)
  else path ++ "/"

/-- Where a request leads. -/
inductive Route
  | endpoint (e : Endpoint)
  | notAllowed (allowed : String)
  | redirect (path : String)
  | notFound
  deriving DecidableEq, Repr

def Route.find (method path : String) : Route :=
  match Endpoint.ofPath? path with
  | some e =>
    if method ∈ e.methods then .endpoint e
    else .notAllowed (String.intercalate ", " e.methods)
  | none =>
    if path = "/" then .notFound
    else match Endpoint.ofPath? (otherSlash path) with
      | some _ => .redirect (otherSlash path)
      | none => .notFound

end TableExplorer.Api
