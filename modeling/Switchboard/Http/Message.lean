/-
Requests and responses.
-/
import Switchboard.Json.Basic

namespace Switchboard

namespace Http

/-- What a request asks to do. -/
inductive Method
  | get
  | head
  | post
  | put
  | delete
  | other (name : String)
deriving DecidableEq, Repr

namespace Method

def ofText : String → Method
  | "GET" => get
  | "HEAD" => head
  | "POST" => post
  | "PUT" => put
  | "DELETE" => delete
  | name => other name

def text : Method → String
  | get => "GET"
  | head => "HEAD"
  | post => "POST"
  | put => "PUT"
  | delete => "DELETE"
  | other name => name

end Method

structure Request where
  method : Method
  /-- The address: a path, and what follows it. -/
  uri : String
  contentType : Option String
  body : String

/-- The content of a response. -/
inductive Body
  | empty
  | text (s : String)
  | json (v : Json)

structure Response where
  status : Nat
  contentType : Option String
  /-- The methods that are allowed, if the method was not. -/
  allow : Option (List Method)
  body : Body

namespace Response

def ofJson (status : Nat) (v : Json) : Response := ⟨status, some "application/json", none, .json v⟩

def ofText (status : Nat) (s : String) : Response :=
  ⟨status, some "text/plain; charset=utf-8", none, .text s⟩

/-- A status and nothing else. -/
def bare (status : Nat) : Response := ⟨status, none, none, .empty⟩

/-- The response without its content. -/
def withoutBody (r : Response) : Response := { r with body := .empty }

end Response

end Http

end Switchboard
