/-
**Requests and responses.**

* `Request.build?`: a request from its parts, if they are well formed;
* `Request.ofLine?`: a request from its method, its target and its body on one line;
* `Response.json`: a response with a JSON body.
-/

import DocTable.Json.Basic
import DocTable.Text.Utf8
import DocTable.Web.Uri

namespace DocTable.Web

/-- A request as it reaches a service. -/
structure Request where
  method : String
  target : Target
  body : List UInt8
deriving DecidableEq, Repr

/-- The answer to a request. -/
structure Response where
  status : Nat
  contentType : Option String
  /-- The methods that the resource has, where the request had another one. -/
  allow : Option String
  body : String
deriving DecidableEq, Repr

/-- A character of a method. -/
def isMethodChar (c : Char) : Bool := c.isAlphanum || "!#$%&'*+-.^_\x60|~".toList.contains c

/-- A method is a word. -/
def isMethod (method : String) : Bool := method ≠ "" && method.toList.all isMethodChar

/-- A character of a header: all but controls, of which only the tab is one. -/
def isHeaderChar (c : Char) : Bool := (0x20 ≤ c.toNat && c.toNat ≠ 0x7f) || c = '\t'

/-- A request from its parts. -/
def Request.build? (method uri : String) (contentType : Option String) (body : List UInt8) :
    Option Request :=
  if !isMethod method || !contentType.all (·.toList.all isHeaderChar) then none
  else (Target.ofUri? uri).map fun target => ⟨method, target, body⟩

/-- A request on one line: method, target and body, with one blank between two of them. What is
missing at the end is empty. -/
def Request.ofLine? (line : List Char) : Option Request :=
  let method := line.takeWhile (· ≠ ' ')
  let rest := (line.dropWhile (· ≠ ' ')).drop 1
  let uri := rest.takeWhile (· ≠ ' ')
  let body := (rest.dropWhile (· ≠ ' ')).drop 1
  build? (String.ofList method) (String.ofList uri) none (Text.Utf8.encode (String.ofList body))

namespace Response

/-- A response with a JSON body. -/
def json (status : Nat) (body : Json) : Response :=
  ⟨status, some "application/json", none, body.print⟩

/-- A response that states what is wrong. -/
def error (status : Nat) (message : String) : Response :=
  json status (.object [("error", .string message)])

/-- A response that offers the methods of a resource. -/
def methodNotAllowed (allow : String) : Response := ⟨405, none, some allow, ""⟩

/-- The response on one line: its status and its body. -/
def line (r : Response) : String := toString r.status ++ " " ++ r.body

/-- The response without its body. -/
def withoutBody (r : Response) : Response := { r with body := "" }

end Response

end DocTable.Web
