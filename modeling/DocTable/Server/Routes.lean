/-
**The routes of a service.**

* `Service.respond`: the response to a request.
-/

import DocTable.Regex.Room
import DocTable.Server.Startup

namespace DocTable

/-- The largest body of a request, in bytes. -/
def largestBody : Nat := 1048576

/-- The path that tells whether the service is up, and the methods it has. -/
def healthPath : String := "/healthz"
def healthMethods : String := "GET,HEAD"

/-- The response of the health path. -/
def healthResponse (method : String) : Web.Response :=
  if method = "GET" ∨ method = "HEAD" then .json 200 (.object [("status", .string "ok")])
  else .methodNotAllowed healthMethods

namespace Service

/-- The response to a request in full. The health path is met exactly; all else goes to the table,
whatever its path, unless its body is too large. -/
def route (s : Service) (cancelled : Bool) (r : Web.Request) : Option Web.Response :=
  if r.target.path = healthPath then some (healthResponse r.method)
  else if largestBody < r.body.length then some (.error 413 "length limit exceeded")
  else (s.table.handle s.store.source cancelled r).2

/-- The response to a request. One for the head alone has no body. -/
def respond (s : Service) (cancelled : Bool) (r : Web.Request) : Option Web.Response :=
  if r.method = "HEAD" then (s.route cancelled r).map (·.withoutBody) else s.route cancelled r

end Service

end DocTable
