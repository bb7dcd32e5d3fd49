import LiveTrader.Metrics

/-!
  LiveTrader.Listener

  What the listener for health and metrics answers.  It has two resources, both of them to
  be read only.
-/

namespace LiveTrader.Listener

/-! ## Targets -/

/-- What can be asked for. -/
inductive Resource
  | health
  | metrics
  deriving DecidableEq

/-- The text up to the first of these characters. -/
def before (stops : List Char) (cs : List Char) : List Char :=
  cs.takeWhile fun c => !stops.contains c

/-- What follows a scheme, if the target begins with one. -/
def afterScheme? : List Char → Option (List Char)
  | [] => none
  | c :: cs =>
    if "://".toList.isPrefixOf (c :: cs) then some ((c :: cs).drop 3)
    else if c.isAlphanum || ['+', '-', '.'].contains c then afterScheme? cs
    else none

/-- The path of a target: without a query, and without a scheme and a host. -/
def path (target : String) : String :=
  let whole := target.toList
  let local? := (afterScheme? whole).map fun cs => cs.drop (before ['/', '?', '#'] cs).length
  String.ofList (before ['?', '#'] (local?.getD whole))

/-- The resource at a path, which is taken as it is written. -/
def resource? (path : String) : Option Resource :=
  if path = "/healthz" then some .health
  else if path = "/metrics" then some .metrics
  else none

/-! ## Replies -/

/-- What is answered. -/
structure Reply where
  status : Nat
  contentType : Option String
  /-- The methods that may be used, if another one was. -/
  allow : Option String
  body : String
  deriving DecidableEq

/-- A reply as a record. -/
def Reply.toJson (r : Reply) : Json :=
  .object [
    ("status", .nat r.status),
    ("content_type", .ofOption .str r.contentType),
    ("allow", .ofOption .str r.allow),
    ("body", .str r.body)]

/-- There is no such resource. -/
def notFound : Reply := ⟨404, none, none, ""⟩

/-- The resource is to be read only. -/
def notAllowed : Reply := ⟨405, none, some "GET,HEAD", ""⟩

/-- The content of a resource.  The runtime is healthy until it begins to stop, whatever
    becomes of single cycles. -/
def content (isStopping : Bool) (metrics : Metrics) : Resource → Reply
  | .health =>
    if isStopping then ⟨503, some "text/plain; charset=utf-8", none, "shutting_down"⟩
    else ⟨200, some "text/plain; charset=utf-8", none, "ok"⟩
  | .metrics => ⟨200, some "text/plain; version=0.0.4; charset=utf-8", none, metrics.text⟩

/-- The reply to a request. -/
def reply (isStopping : Bool) (metrics : Metrics) (method target : String) : Reply :=
  match resource? (path target) with
  | none => notFound
  | some resource =>
    if method = "GET" then content isStopping metrics resource
    else if method = "HEAD" then { content isStopping metrics resource with body := "" }
    else notAllowed

end LiveTrader.Listener
