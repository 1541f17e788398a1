import ProxyNode.Config.NodeConfig
import ProxyNode.Config.User
import ProxyNode.Panel.Exchange

/-!
# Panel — Client

The panel's client: which requests it makes and what it makes of the answers.  It remembers the tag
of the last configuration and of the last list of users that it could use, and sends it along so
that the panel may answer that nothing changed.

* `config_tag_of_error`, `users_tag_of_error`: an answer that cannot be used leaves the tags alone.
-/

namespace ProxyNode.Panel

structure Client where
  host : String
  node : Int
  key : String
  timeout : Float
  transport : Transport := {}
  configTag : Option String := none
  usersTag : Option String := none

/-- The seconds to wait for an answer where no usable number is given. -/
def defaultTimeout : Float := 5.0

def userAgent : String := "nodesync/1.0"

def nodeType : String := "shadowsocks"

/-- A text without the slashes at its end. -/
def dropSlashes (s : String) : String :=
  String.ofList (s.toList.reverse.dropWhile fun c => c = '/').reverse

namespace Client

def make (host : String) (node : Int) (key : String) (timeout : Float) (transport : Transport) :
    Client where
  host := dropSlashes host
  node := node
  key := key
  timeout := if 0.0 < timeout then timeout else defaultTimeout
  transport := transport

def url (c : Client) (e : Endpoint) : String := c.host ++ e.path

/-- How the client says who it is. -/
def parameters (c : Client) : List (String × String) :=
  [("node_id", toString c.node), ("node_type", nodeType), ("token", c.key)]

/-- The tag that goes with a request. -/
def tagFor (c : Client) : Endpoint → Option String
  | .config => c.configTag
  | .users => c.usersTag
  | .push => none

/-- The seconds to wait for one answer; zero counts as none given. -/
def patience (c : Client) : Option Float → Float
  | none => c.timeout
  | some t => if t == 0.0 then c.timeout else t

def request (c : Client) (e : Endpoint) (timeout : Option Float)
    (body : Option (OrderedMap String Amount)) : Request :=
  ⟨e, c.tagFor e, c.patience timeout, body⟩

/-- Whether a refusal only means that the panel is busy. -/
def isBusy (status : Int) : Bool := 500 ≤ status || status = 408 || status = 429

/-- The value of a header, whose name may be in any case; of a repeated one the last value. -/
def header? (name : String) (headers : List (String × String)) : Option String :=
  (headers.reverse.find? fun h => Text.lower h.1 == name).map Prod.snd

/-- How a client names itself: as its session does, if that has a name. -/
def agent (session : List (String × String)) : String :=
  (header? "user-agent" session).getD userAgent

/-- The body of a usable answer and the tag of what it shows. -/
def receive (c : Client) (e : Endpoint) : Answer → Except Fault (Json × Option String)
  | .timedOut detail => .error (.transient (.timedOut (c.url e) detail))
  | .failed detail => .error (.transient (.failed (c.url e) detail))
  | .broken cause => .error (.unexpected cause)
  | .response r =>
    if r.status = 304 then .error (.notModified e.label)
    else if isBusy r.status then .error (.transient (.badStatus (c.url e) r.status r.text))
    else if 400 ≤ r.status then .error (.rejected (c.url e) r.status r.text)
    else match Json.read r.text with
      | .error (.tooDeep nested) => .error (.unexpected (.tooDeep (.tooDeep nested)))
      | .error fault => .error (.transient (.unreadable (c.url e) fault))
      | .ok body => .ok (body, header? "etag" r.headers)

/-- The tag to remember when `new` comes with what is used; an empty one is none. -/
def newTag (old : Option String) : Option String → Option String
  | none => old
  | some tag => if tag = "" then old else some tag

/-- The configuration in an answer. -/
def acceptConfig (c : Client) (a : Answer) : Except Fault NodeConfig × Client :=
  match c.receive .config a with
  | .error fault => (.error fault, c)
  | .ok (body, tag) =>
    match NodeConfig.read body c.transport with
    | .error fault => (.error fault, c)
    | .ok config => (.ok config, { c with configTag := newTag c.configTag tag })

/-- Users read from a list, and the entries that were passed over. -/
structure Listing where
  malformed : List Json := []
  users : Except Fault (List User) := .ok []

/-- The user of an entry; `none` if the entry is malformed. -/
def readUser (item : Json) : Except Fault (Option User) :=
  match item with
  | .object fields =>
    match (Json.field? "id" fields).map Json.whole with
    | none => .ok none
    | some (.error .infinite) => .error (.unexpected .infinite)
    | some (.error _) => .ok none
    | some (.ok id) =>
      match Json.field? "uuid" fields with
      | none => .ok none
      | some secret => .ok (some { id, secret := secret.plain })
  | _ => .ok none

/-- The users of a list of entries; `before` holds those so far, the last one first. -/
def readUsers (before : List User) : List Json → Listing
  | [] => { users := .ok before.reverse }
  | item :: rest =>
    match readUser item with
    | .error fault => { users := .error fault }
    | .ok none =>
      let listing := readUsers before rest
      { listing with malformed := item :: listing.malformed }
    | .ok (some u) => readUsers (u :: before) rest

/-- The entries of a value that is gone through one by one. -/
def items : Json → Except Fault (List Json)
  | .array entries => .ok entries
  | .object fields => .ok (fields.map fun f => .text f.1)
  | .text s => .ok (s.pieces.map .text)
  | other => .error (.unexpected (.notAList other.kindName))

/-- The value in which an answer lists its users. -/
def usersField : Json → Json
  | .object fields => Json.field "users" fields
  | _ => .null

/-- The users in an answer and the entries passed over.  An empty list is not remembered. -/
def acceptUsers (c : Client) (a : Answer) : Listing × Client :=
  match c.receive .users a with
  | .error fault => ({ users := .error fault }, c)
  | .ok (body, tag) =>
    match usersField body with
    | .null => ({ users := .error (.transient .noUsersField) }, c)
    | entries =>
      if entries.isVoid then ({ users := .ok [] }, c)
      else match items entries with
        | .error fault => ({ users := .error fault }, c)
        | .ok entries =>
          let listing := readUsers [] entries
          match listing.users with
          | .error _ => (listing, c)
          | .ok [] => ({ listing with users := .error (.config .noUsableUsers) }, c)
          | .ok _ => (listing, { c with usersTag := newTag c.usersTag tag })

/-- Whether an answer acknowledges a report. -/
def acceptPush (c : Client) (a : Answer) : Except Fault Unit :=
  match c.receive .push a with
  | .error fault => .error fault
  | .ok _ => .ok ()

theorem config_tag_of_error {c c' : Client} {a : Answer} {fault : Fault}
    (h : c.acceptConfig a = (.error fault, c')) : c' = c := by
  unfold acceptConfig at h
  split at h
  · cases h; rfl
  · split at h
    · cases h; rfl
    · cases h

theorem users_tag_of_error {c c' : Client} {a : Answer} {listing : Listing} {fault : Fault}
    (h : c.acceptUsers a = (listing, c')) (hf : listing.users = .error fault) : c' = c := by
  unfold acceptUsers at h
  split at h
  · cases h; rfl
  · split at h
    · cases h; rfl
    · split at h
      · cases h; rfl
      · split at h
        · cases h; rfl
        · dsimp only at h
          split at h
          · cases h; rfl
          · cases h; rfl
          · next hu => cases h; rw [hu] at hf; cases hf

end Client

end ProxyNode.Panel
