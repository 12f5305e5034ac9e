import Positional.Feature.Registry
import Positional.Json.Published
import Positional.Service.Request

/-!
# The HTTP service

Four routes: the name of the service, its version, formatting and parsing.  A rejected template or
argument list is the client's error, any other fault of a feature the server's.  There is no
response at all where its data, or the data of a refused body, cannot be published.

Beside the routes there are pages that document the service.  Only their places are known here.
-/

namespace Positional.Service

structure Request where
  method : String
  path : String
  body : List UInt8

inductive Content where
  | data (document : Json)
  /-- a page that documents the service -/
  | page
  | nothing

structure Response where
  status : Nat
  content : Content

namespace Response

def ok (data : Json) : Response :=
  ⟨200, .data data⟩

def page : Response :=
  ⟨200, .page⟩

def detail (status : Nat) (data : Json) : Response :=
  ⟨status, .data (.object [("detail", data)])⟩

def error (status : Nat) (text : String) (diagnostics : List Diagnostic) : Response :=
  detail status
    (.object [("error", .text text), ("diagnostics", .list (diagnostics.map Diagnostic.payload))])

def redirect : Response :=
  ⟨307, .nothing⟩

def notFound : Response :=
  detail 404 (.text "Not Found")

def methodNotAllowed : Response :=
  detail 405 (.text "Method Not Allowed")

/-- The refusal of a body.  What was found in the body is part of the response, so it must be fit to
be published. -/
def ofRefusal : Refusal → Except Fault Response
  | .unreadable => .ok (detail 400 (.text "There was an error parsing the body"))
  | .invalid problems =>
    (Json.object [("detail", .list (problems.map Problem.data))]).publish.map fun data =>
      ⟨422, .data data⟩

def ofAnswer : Answer → Except Fault Response
  | .outcome (.completed report) => report.data.publish.map ok
  | .outcome (.rejected text diagnostics) =>
    .ok (error 400 (if text = "" then "An error occurred" else text) diagnostics)
  | .plain data => data.publish.map ok

end Response

def capitalized (name : String) : String :=
  match name.toList with
  | [] => ""
  | c :: rest => String.ofList (c.toUpper :: rest.map Char.toLower)

/-- Let a feature answer.  A fault is logged and hidden behind a general error. -/
def call (env : Environment) (registry : Registry) (name : String) (keywords : Keywords) :
    Logged (Except Fault Response) :=
  match registry.find? name with
  | none => return .ok (.detail 404 (.text (capitalized name ++ " feature not found")))
  | some feature => do
    match ← feature.handler env keywords with
    | .ok answer => return Response.ofAnswer answer
    | .error fault =>
      Logged.write .error ("Error in " ++ name ++ " endpoint: " ++ fault.message)
      return .ok (.error 500 "Internal server error" fault.diagnostics)

def identity : Json :=
  .object [("name", .text "posfmt"), ("version", .text version), ("docs", .text "/docs")]

/-- Whether a path leads to a place.  A line feed at its end makes no difference. -/
def leadsTo (place path : String) : Bool :=
  path = place || path = place ++ "\n"

def toggleSlash (path : String) : String :=
  let reversed := path.toList.reverse
  if reversed.head? = some '/' then String.ofList (reversed.dropWhile (· = '/')).reverse
  else path ++ "/"

def pages : List String :=
  ["/openapi.json", "/docs", "/docs/oauth2-redirect", "/redoc"]

def isPage (path : String) : Bool :=
  pages.any fun place => leadsTo place path

def pageMethods : List String :=
  ["GET", "HEAD"]

inductive Route where
  | root
  | version
  | format
  | parse
deriving DecidableEq

namespace Route

def all : List Route :=
  [root, version, format, parse]

def path : Route → String
  | root => "/"
  | version => "/api/v1/version"
  | format => "/api/v1/format"
  | parse => "/api/v1/parse"

def ofPath? (path : String) : Option Route :=
  all.find? fun route => leadsTo route.path path

def method : Route → String
  | root => "GET"
  | version => "GET"
  | format => "POST"
  | parse => "POST"

def respond (env : Environment) (registry : Registry) (body : List UInt8) :
    Route → Logged (Except Fault Response)
  | root => return .ok (.ok identity)
  | version => call env registry "version" .none
  | format =>
    match readFormat body with
    | .error refusal => return Response.ofRefusal refusal
    | .ok request =>
      call env registry "format"
        (.ofFormat request.template (Json.toValues request.arguments) (request.typed.getD false))
  | parse =>
    match readParse body with
    | .error refusal => return Response.ofRefusal refusal
    | .ok template => call env registry "parse" (.ofTemplate template)

@[simp] theorem ofPath?_path (route : Route) : ofPath? route.path = some route := by
  cases route <;> rfl

end Route

def isRedirected (path : String) : Bool :=
  let toggled := toggleSlash path
  path != "/" && ((Route.ofPath? toggled).isSome || isPage toggled)

def respond (env : Environment) (registry : Registry) (request : Request) :
    Logged (Except Fault Response) :=
  match Route.ofPath? request.path with
  | some route =>
    if request.method = route.method then route.respond env registry request.body
    else return .ok .methodNotAllowed
  | none =>
    if isPage request.path then
      return .ok (if pageMethods.contains request.method then .page else .methodNotAllowed)
    else return .ok (if isRedirected request.path then .redirect else .notFound)

end Positional.Service
