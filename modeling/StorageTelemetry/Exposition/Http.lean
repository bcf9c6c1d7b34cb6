import StorageTelemetry.Exposition.Text

namespace StorageTelemetry

/-!
# Answers over HTTP

Three pages can be read: a landing page, the metrics, and the health of the
gateway session.  Everything is plain text.
-/

/-- What is sent back for a request. -/
structure HttpReply where
  status : Nat
  contentType : Option String
  allow : Option String
  body : String
deriving DecidableEq

namespace HttpReply

def text (status : Nat) (body : String) : HttpReply :=
  ⟨status, some "text/plain; charset=utf-8", none, body⟩

/-- The page of the metrics: what was rendered, or why it could not be. -/
def metrics : Except EncodingFault String → HttpReply
  | .ok rendered => .text 200 rendered
  | .error fault => .text 500 ("Error rendering metrics: " ++ fault.message)

/-- Where a text is expected, a rendering stands for what its page shows. -/
instance : Coe (Except EncodingFault String) String := ⟨fun rendering => (metrics rendering).body⟩

/-- The reply for a path that names no page. -/
def notFound : HttpReply := ⟨404, none, none, ""⟩

/-- The reply for a page that can only be read. -/
def methodNotAllowed : HttpReply := ⟨405, none, some "GET,HEAD", ""⟩

end HttpReply

/-- The landing page. -/
def landingPage : String :=
  "<html>\n<head><title>PowerFlex Exporter</title></head>\n<body>\n" ++
  "<h1>PowerFlex Metrics Exporter</h1>\n" ++
  "<p><a href=\"/metrics\">Metrics</a></p>\n" ++
  "<p><a href=\"/health\">Health</a></p>\n</body>\n</html>"

namespace Registry

def page? (registry : Registry) (path : String) : Option HttpReply :=
  if path = "/" then some (.text 200 landingPage)
  else if path = "/metrics" then some (.metrics registry.render)
  else if path = "/health" then
    some (if registry.up.isPositive then .text 200 "OK"
      else .text 503 "PowerFlex gateway unreachable")
  else none

/-- The path of a request target, without its query. -/
def pathOf (target : String) : String := String.ofList (target.toList.takeWhile (· ≠ '?'))

def respond (registry : Registry) (method target : String) : HttpReply :=
  match registry.page? (pathOf target) with
  | none => .notFound
  | some reply =>
      if method = "GET" then reply
      else if method = "HEAD" then { reply with body := "" }
      else .methodNotAllowed

end Registry
end StorageTelemetry
