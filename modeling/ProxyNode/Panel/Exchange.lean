import ProxyNode.Traffic.Snapshot

/-!
# Panel — Exchange

What goes to the panel and what comes back: the three resources, a request for one, and the answer
to it.  While a request is under way the engine may count traffic and the node may be told to stop.

* `take_single`: the last prepared answer is given again and again.
-/

namespace ProxyNode.Panel

inductive Endpoint where
  | config
  | users
  | push
  deriving DecidableEq, Repr

namespace Endpoint

def path : Endpoint → String
  | .config => "/api/v1/server/UniProxy/config"
  | .users => "/api/v1/server/UniProxy/user"
  | .push => "/api/v1/server/UniProxy/push"

def method : Endpoint → String
  | .push => "POST"
  | _ => "GET"

/-- What a resource is called where it did not change. -/
def label : Endpoint → String
  | .config => "node"
  | .users => "users"
  | .push => Endpoint.push.path

/-- What asking for a resource is called where it fails. -/
def errand : Endpoint → String
  | .config => "fetch node config"
  | .users => "fetch user list"
  | .push => "push traffic"

end Endpoint

/-- A request: the tag of the representation that is known already, the seconds to wait for an
answer, and what is sent along. -/
structure Request where
  endpoint : Endpoint
  tag : Option String
  timeout : Float
  body : Option (OrderedMap String Amount)

structure Response where
  status : Int := 200
  headers : List (String × String) := []
  text : String := ""
  deriving DecidableEq, Repr

/-- How a request ends: with a response, without one in time, without one at all, or broken off for
a cause that has nothing to do with the connection. -/
inductive Answer where
  | response (r : Response)
  | timedOut (detail : String)
  | failed (detail : String)
  | broken (cause : Unexpected)
  deriving DecidableEq, Repr

/-- What happens from a request to its answer, in this order. -/
structure Turn where
  counted : List Delta := []
  stops : Bool := false
  answer : Answer
  deriving DecidableEq, Repr

/-- The turn of a request for which none was prepared. -/
def Turn.idle : Turn := { answer := .response { text := "null" } }

/-- The turns to come, by resource. -/
structure Script where
  config : List Turn := []
  users : List Turn := []
  push : List Turn := []
  deriving DecidableEq, Repr

/-- The next of the turns; the last of them stays. -/
def take : List Turn → Turn × List Turn
  | [] => (.idle, [])
  | [t] => (t, [t])
  | t :: rest => (t, rest)

/-- The next turn of a resource. -/
def Script.next (s : Script) : Endpoint → Turn × Script
  | .config => ((take s.config).1, { s with config := (take s.config).2 })
  | .users => ((take s.users).1, { s with users := (take s.users).2 })
  | .push => ((take s.push).1, { s with push := (take s.push).2 })

theorem take_single (t : Turn) : take [t] = (t, [t]) := rfl

end ProxyNode.Panel
