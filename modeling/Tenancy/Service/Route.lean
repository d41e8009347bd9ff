/-
# Routes

The service answers requests that arrive with a method, a path, a query and perhaps a body.
A path belongs to at most one route, and a route has one method.
-/

import Tenancy.Validation.Reader

namespace Tenancy.Service

open Validation

/-- A request as it arrives. -/
structure Arrival where
  method : String
  path : String
  /-- The fields of the query. -/
  query : List (String × String)
  /-- The body, if there is one. -/
  body : Option Json

/-- What is sent back. -/
structure Answer where
  status : Nat
  body : Json

namespace Answer

/-- All is well. -/
def fine (body : Json) : Answer := ⟨200, body⟩

/-- A plain refusal. -/
def plain (status : Nat) (message : String) : Answer :=
  ⟨status, .object [("detail", .text message)]⟩

/-- The answer to a path that does not exist. -/
def notFound : Answer := plain 404 "Not Found"

/-- The answer to a method that a path does not have. -/
def notAllowed : Answer := plain 405 "Method Not Allowed"

/-- The answer to a request that cannot be read. -/
def unreadable (issues : List Issue) : Answer :=
  ⟨422, .object [("detail", .list (issues.map Issue.toJson))]⟩

end Answer

/-- What can be asked of the service. -/
inductive Route where
  | greeting
  | schema
  | translate
  | execute
  | simulate
  | scenarios
  | lifecycle
deriving DecidableEq, Repr

namespace Route

/-- All routes. -/
def all : List Route :=
  [.greeting, .schema, .translate, .execute, .simulate, .scenarios, .lifecycle]

/-- The path of a route. -/
def path : Route → String
  | .greeting => "/"
  | .schema => "/agent/schema"
  | .translate => "/agent/translate"
  | .execute => "/agent/execute"
  | .simulate => "/agent/simulate"
  | .scenarios => "/agent/scenarios/run"
  | .lifecycle => "/agent/lifecycle/run"

/-- The method of a route. -/
def method : Route → String
  | .greeting | .schema => "GET"
  | _ => "POST"

/-- The route of an arrival, or the refusal when there is none. -/
def ofArrival (a : Arrival) : Except Answer Route :=
  match all.find? fun r => r.path == a.path with
  | none => .error .notFound
  | some r => if r.method == a.method then .ok r else .error .notAllowed

/-- A route that is found has the path and the method of the arrival. -/
theorem of_ofArrival {a : Arrival} {r : Route} (h : ofArrival a = .ok r) :
    r.path = a.path ∧ r.method = a.method := by
  unfold ofArrival at h
  split at h
  · cases h
  · rename_i found hfound
    have hpath := List.find?_some hfound
    split at h
    · rename_i hmethod
      cases h
      exact ⟨by simpa using hpath, by simpa using hmethod⟩
    · cases h

end Route

namespace Arrival

/-- Over the wire it does not matter of which kind an object has to be. -/
def complaint : Complaint → Complaint
  | .notShape _ => .notAttributes
  | c => c

/-- Read the body. -/
def readBody {α : Type} (a : Arrival) (r : Reader α) : Except Answer α :=
  match a.body with
  | none | some .null => .error (.unreadable [⟨[.name "body"], .missing⟩])
  | some body =>
      match r body with
      | .ok accepted => .ok accepted.value
      | .error issues =>
          .error (.unreadable (issues.map fun i => ⟨.name "body" :: i.path, complaint i.complaint⟩))

/-- The last value of a field of the query. -/
def queryText? (a : Arrival) (name : String) : Option String :=
  (a.query.reverse.find? fun f => f.1 == name).map Prod.snd

/-- Read a truth value in the query. -/
def queryFlag (a : Arrival) (name : String) (default : Bool) : Except Answer Bool :=
  match a.queryText? name with
  | none => .ok default
  | some s =>
      match Reader.bool (.text s) with
      | .ok accepted => .ok accepted.value
      | .error issues =>
          .error (.unreadable (issues.map fun i => (i.under (.name name)).under (.name "query")))

end Arrival

end Tenancy.Service
