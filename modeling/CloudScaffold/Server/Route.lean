import CloudScaffold.Server.Address
/-!
# Routes

The paths of the server. A path of no route that ends in slashes redirects to the path without them.
-/
namespace CloudScaffold.Server

inductive Route where
  | health
  | providers
  | services (provider : String)
  | service (provider id : String)
  | generate
  | terraform (operation : String)
  /-- A page that tells of the other routes. -/
  | guide
  deriving DecidableEq, Repr

/-- The methods that a route answers to. -/
def Route.methods : Route → List String
  | health | providers | services _ | service _ _ => ["GET"]
  | generate | terraform _ => ["POST"]
  | guide => ["GET", "HEAD"]

/-- A text without slashes at its end. -/
def dropEndSlashes (cs : List Char) : List Char := (cs.reverse.dropWhile (· == '/')).reverse

/-- A text without a line break at its end. -/
def dropEndBreak (s : String) : String := if s.endsWith "\n" then (s.dropEnd 1).toString else s

/-- The route of a path. A line break may stand behind a path that ends in a name of the route. -/
def Route.ofPath? (path : List Char) : Option Route :=
  match (Text.partsAt '/' path.tail).map String.ofList with
  | ["providers", p, "services", s] => if p = "" || s = "" then none else some (.service p s)
  | ["providers", p, s] =>
    if p = "" || dropEndBreak s ≠ "services" then none else some (.services p)
  | ["terraform", o] => if o = "" then none else some (.terraform o)
  | ["docs", s] => if dropEndBreak s = "oauth2-redirect" then some .guide else none
  | [s] => match dropEndBreak s with
    | "health" => some .health
    | "providers" => some .providers
    | "generate" => some .generate
    | "docs" | "redoc" | "openapi.json" => some .guide
    | _ => none
  | _ => none

/-- Where a path without a route redirects: to the route without the slashes at its end, if there is
one. -/
def redirect? (path : List Char) : Option (List Char) :=
  let short := dropEndSlashes path
  if short ≠ path && (Route.ofPath? short).isSome then some (arrivingEscaped short) else none

/-- The route of a path, if need be by redirects, at most `limit` of them. -/
def Route.follow (limit : Nat) (path : List Char) : Except AddressFault (Option Route) :=
  match Route.ofPath? path, redirect? path with
  | some route, _ => .ok (some route)
  | none, none => .ok none
  | none, some next => match limit with
    | 0 => .error .tooManyRedirects
    | limit + 1 => Route.follow limit next

/-- How often a request is redirected. -/
def redirectLimit : Nat := 20

/-- The route of a reference. -/
def Route.ofReference (reference : String) : Except AddressFault (Option Route) := do
  Route.follow redirectLimit (← placeOf reference)

end CloudScaffold.Server
