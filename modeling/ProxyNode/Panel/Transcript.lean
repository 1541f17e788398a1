import ProxyNode.Json.Whole
import ProxyNode.Panel.Exchange
import ProxyNode.Traffic.Spool

/-!
# Panel — Transcript

Prepared answers of a panel, written as JSON: for each resource a list of turns, each a response or
the way in which the request fails, with the traffic counted meanwhile and whether the node is told
to stop.

* `turns_null`: a resource that is left out has no turns.
-/

namespace ProxyNode.Panel.Transcript

/-- A field of an object. -/
def field? (name : String) : Json → Option Json
  | .object fields => Json.field? name fields
  | _ => none

def text? : Json → Option String
  | .text s => s.whole?
  | _ => none

def int? : Json → Option Int
  | .int i => some i
  | _ => none

def entries : Json → List Json
  | .array items => items
  | _ => []

def textField (name : String) (v : Json) (default : String) : String :=
  ((field? name v).bind text?).getD default

/-- The number at a place of a list, zero if it is left out. -/
def numberAt (items : List Json) (i : Nat) : Int := ((items[i]?).bind int?).getD 0

/-- Traffic as a list of a user, bytes up and bytes down, of which the last may be left out. -/
def delta (v : Json) : Except Unexpected Delta :=
  let items := entries v
  Delta.of? (numberAt items 0) (numberAt items 1) (numberAt items 2)

/-- How a request fails, by the name of the failure. -/
def failure (kind detail : String) : Answer :=
  if kind ∈ ["timeout", "connect_timeout", "read_timeout"] then .timedOut detail
  else if kind ∈ ["connection", "ssl", "redirects", "request"] then .failed detail
  else .broken (.session detail)

def headers : Json → List (String × String)
  | .object fields => fields.filterMap fun f =>
    match f.1.whole?, text? f.2 with
    | some name, some s => some (name, s)
    | _, _ => none
  | _ => []

def answer (v : Json) : Answer :=
  match (field? "raise" v).bind text? with
  | some kind => failure kind (textField "message" v "")
  | none => .response {
      status := ((field? "status" v).bind int?).getD 200
      headers := headers ((field? "headers" v).getD .null)
      text := textField "text" v "" }

/-- Whether the node is told to stop during a turn, as such or by a signal to the process. -/
def stops (v : Json) : Bool :=
  !((field? "stop" v).getD .null).isVoid || !((field? "signal" v).getD .null).isVoid

/-- The entries of traffic up to the first that is none, and why it is none. -/
def deltas : List Json → List Delta × Option Unexpected
  | [] => ([], none)
  | v :: rest =>
    match delta v with
    | .error cause => ([], some cause)
    | .ok d => (d :: (deltas rest).1, (deltas rest).2)

/-- A turn; traffic that cannot have been counted breaks the request off. -/
def turn (v : Json) : Turn :=
  match deltas (entries ((field? "emit" v).getD .null)) with
  | (counted, none) => { counted, stops := stops v, answer := answer v }
  | (counted, some cause) => { counted, answer := .broken cause }

def turns (v : Json) : List Turn := (entries v).map turn

/-- The turns of each resource. -/
def script (v : Json) : Script where
  config := turns ((field? "config" v).getD .null)
  users := turns ((field? "users" v).getD .null)
  push := turns ((field? "push" v).getD .null)

/-- A row of the spool, its counters as text or as numbers. -/
def row (v : Json) : Row :=
  let items := entries v
  let counter (i : Nat) : String :=
    match items[i]? with
    | some (.text s) => s.shown
    | some (.int n) => toString n
    | _ => ""
  ⟨numberAt items 0, counter 1, counter 2⟩

theorem turns_null : turns .null = [] := rfl

end ProxyNode.Panel.Transcript
