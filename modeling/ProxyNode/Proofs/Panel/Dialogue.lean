import ProxyNode.Proofs.Panel.Tags

/-!
# Panel — Dialogue, the tags that a client names

A client is asked for this and that, and each request ends somehow.  The tag that its next request
for a resource names is that of the last answer handed to the caller under this resource, among
those that came with one.

* `Errand`, `Exchange`: what a client is asked for, and how that ends.
* `Client.hands`: whether the caller gets a value, and not an empty one, from an answer.
* `Client.next_cases`: all that an answer can do to a client.
* `Client.after`, `Client.handed`: a client after some exchanges, and the answers handed over.
* `Client.tagFor_after`: the tag that is remembered, as a function of the answers handed over.
* `Client.names_tag`: what this says of the next request.
* `Client.names_stale_tag`: an answer without a tag leaves the one before it in use.
-/

namespace ProxyNode.Panel

/-- What a client is asked for. -/
inductive Errand where
  | config
  | users
  | report (snapshot : Snapshot) (timeout : Option Float)

/-- The resource of an errand. -/
def Errand.endpoint : Errand → Endpoint
  | .config => .config
  | .users => .users
  | .report _ _ => .push

/-- An errand, and how its request ends. -/
structure Exchange where
  errand : Errand
  answer : Answer

/-- The tag that an answer comes with; an empty one is none. -/
def Answer.tag? : Answer → Option String
  | .response r => (Client.header? "etag" r.headers).filter fun tag => tag ≠ ""
  | _ => none

namespace Client

variable {c : Client} {e e' : Endpoint} {a : Answer} {x : Exchange} {xs : List Exchange}

/-- The request of an errand; none is sent for a snapshot that cannot be posted. -/
def sends (c : Client) : Errand → Option Request
  | .config => some (c.request .config none none)
  | .users => some (c.request .users none none)
  | .report snapshot timeout =>
    if snapshot.isPostable then some (c.request .push timeout (some snapshot.payload)) else none

/-- A client after an answer. -/
def next (c : Client) : Endpoint → Answer → Client
  | .config, a => (c.acceptConfig a).2
  | .users, a => (c.acceptUsers a).2
  | .push, _ => c

/-- Whether the caller gets a configuration, or users, from an answer. -/
def hands (c : Client) : Endpoint → Answer → Bool
  | .config, a => (c.acceptConfig a).1.isOk
  | .users, a =>
    match (c.acceptUsers a).1.users with
    | .ok users => !users.isEmpty
    | .error _ => false
  | .push, _ => false

/-- An answer does nothing to a client but that it may be remembered, if the caller gets something
from it. -/
theorem next_cases (c : Client) (e : Endpoint) (a : Answer) :
    (c.hands e a = false ∧ c.next e a = c)
    ∨ (c.hands e a = true ∧ ∃ r, a = .response r ∧ r.shows = true
      ∧ c.next e a = c.remember (header? "etag" r.headers) e) := by
  cases e with
  | config =>
      rcases c.acceptConfig_cases a with ⟨fault, h⟩ | ⟨r, config, ha, hs, -, h⟩
      · exact .inl ⟨by rw [hands, h]; rfl, by rw [next, h]⟩
      · exact .inr ⟨by rw [hands, h]; rfl, r, ha, hs, by rw [next, h]⟩
  | users =>
      rcases c.acceptUsers_cases a with ⟨hc, ⟨fault, h⟩ | h⟩ | ⟨r, u, us, ha, hs, -, h, hc⟩
      · exact .inl ⟨by rw [hands, h], hc⟩
      · exact .inl ⟨by rw [hands, h]; rfl, hc⟩
      · exact .inr ⟨by rw [hands, h]; rfl, r, ha, hs, hc⟩
  | push => exact .inl ⟨rfl, rfl⟩

/-- Whether the caller gets something depends on what the answer says, and not on the tags. -/
theorem hands_iff : c.hands e a = true ↔ ∃ r, a = .response r ∧ r.shows = true
    ∧ match e with
      | .config => (configIn c.transport r.text).isSome = true
      | .users => (usersIn r.text).isSome = true
      | .push => False := by
  cases e with
  | config =>
      constructor
      · intro h
        rcases c.acceptConfig_cases a with ⟨fault, hf⟩ | ⟨r, config, ha, hs, hc, -⟩
        · rw [hands, hf] at h
          cases h
        · exact ⟨r, ha, hs, by rw [hc]; rfl⟩
      · rintro ⟨r, rfl, hs, hc⟩
        obtain ⟨config, hc⟩ := Option.isSome_iff_exists.mp hc
        have hr : (c.acceptConfig (.response r)).1 = .ok config := (configReader.reads hs hc).1
        rw [hands, hr]
        rfl
  | users =>
      constructor
      · intro h
        rcases c.acceptUsers_cases a with ⟨-, ⟨fault, hu⟩ | hu⟩ | ⟨r, u, us, ha, hs, hu, -⟩
        · rw [hands, hu] at h
          cases h
        · rw [hands, hu] at h
          cases h
        · exact ⟨r, ha, hs, by rw [hu]; rfl⟩
      · rintro ⟨r, rfl, hs, hu⟩
        obtain ⟨users, hu⟩ := Option.isSome_iff_exists.mp hu
        obtain ⟨hr, hne⟩ := c.acceptUsers_of_usersIn hs hu
        rw [hands, hr]
        cases users with
        | nil => exact absurd rfl hne
        | cons u us => rfl
  | push => exact ⟨(nomatch ·), fun ⟨_, _, _, h⟩ => h.elim⟩

theorem hands_congr {c' : Client} (h : c.transport = c'.transport) (e : Endpoint) (a : Answer) :
    c.hands e a = c'.hands e a := by
  rw [Bool.eq_iff_iff, hands_iff, hands_iff, h]

theorem transport_next (c : Client) (e : Endpoint) (a : Answer) :
    (c.next e a).transport = c.transport := by
  rcases c.next_cases e a with ⟨-, h⟩ | ⟨-, r, -, -, h⟩
  · rw [h]
  · rw [h, transport_remember]

theorem next_of_not_hands (h : c.hands e a = false) : c.next e a = c := by
  rcases c.next_cases e a with ⟨-, hc⟩ | ⟨hh, -⟩
  · exact hc
  · cases h.symm.trans hh

/-- An answer changes the tag of its own resource alone. -/
theorem tagFor_next_of_ne (h : e' ≠ e) : (c.next e a).tagFor e' = c.tagFor e' := by
  rcases c.next_cases e a with ⟨-, hc⟩ | ⟨-, r, -, -, hc⟩
  · rw [hc]
  · rw [hc, tagFor_remember_of_ne c _ h]

theorem newTag_eq (old tag : Option String) :
    newTag old tag = (tag.filter fun t => t ≠ "").or old := by
  cases tag with
  | none => rfl
  | some t =>
      by_cases ht : t = ""
      · simp [newTag, ht, Option.filter]
      · simp [newTag, ht, Option.filter]

/-- An answer that is handed over gives the resource its tag, if it has one. -/
theorem tagFor_next_of_hands (h : c.hands e a = true) :
    (c.next e a).tagFor e = a.tag?.or (c.tagFor e) := by
  rcases c.next_cases e a with ⟨hh, -⟩ | ⟨-, r, rfl, -, hc⟩
  · cases h.symm.trans hh
  · have he : e ≠ .push := by
      rintro rfl
      cases h
    rw [hc, tagFor_remember c _ he, newTag_eq]
    rfl

/-! ### Many exchanges -/

/-- A client after some exchanges, the last of them first. -/
def after (c : Client) : List Exchange → Client
  | [] => c
  | x :: earlier => (c.after earlier).next x.errand.endpoint x.answer

theorem hands_after (c : Client) (xs : List Exchange) (e : Endpoint) (a : Answer) :
    (c.after xs).hands e a = c.hands e a := by
  refine hands_congr ?_ e a
  induction xs with
  | nil => rfl
  | cons x earlier ih => exact (transport_next _ _ _).trans ih

/-- The answers under a resource from which the caller got something, in the same order. -/
def handed (c : Client) (e : Endpoint) (xs : List Exchange) : List Answer :=
  (xs.filter fun x => x.errand.endpoint = e && c.hands e x.answer).map Exchange.answer

theorem handed_cons_of_hands (h : c.hands x.errand.endpoint x.answer = true)
    (xs : List Exchange) :
    c.handed x.errand.endpoint (x :: xs) = x.answer :: c.handed x.errand.endpoint xs := by
  rw [handed, List.filter_cons_of_pos (by simpa using h)]
  rfl

theorem handed_cons_of_not (h : ¬ (x.errand.endpoint = e ∧ c.hands e x.answer = true))
    (xs : List Exchange) : c.handed e (x :: xs) = c.handed e xs := by
  rw [handed, List.filter_cons_of_neg (by simpa using h)]
  rfl

/-- An exchange from which the caller gets nothing, or that is about another resource, changes
nothing. -/
theorem tagFor_after_cons_of_not (h : ¬ (x.errand.endpoint = e ∧ c.hands e x.answer = true))
    (xs : List Exchange) : (c.after (x :: xs)).tagFor e = (c.after xs).tagFor e := by
  rw [after]
  by_cases he : x.errand.endpoint = e
  · have hh : (c.after xs).hands x.errand.endpoint x.answer = false := by
      rw [hands_after, he]
      exact Bool.eq_false_iff.mpr fun hh => h ⟨he, hh⟩
    rw [next_of_not_hands hh]
  · exact tagFor_next_of_ne (Ne.symm he)

/-- The tag that is remembered is that of the last answer handed over, among those that have one. -/
theorem tagFor_after (hnone : c.tagFor e = none) (xs : List Exchange) :
    (c.after xs).tagFor e = (c.handed e xs).findSome? Answer.tag? := by
  induction xs with
  | nil => exact hnone
  | cons x earlier ih =>
      by_cases h : x.errand.endpoint = e ∧ c.hands e x.answer = true
      · obtain ⟨rfl, hh⟩ := h
        have ht := tagFor_next_of_hands ((hands_after c earlier _ _).trans hh)
        rw [after, ht, ih, handed_cons_of_hands hh, List.findSome?_cons]
        cases x.answer.tag? <;> rfl
      · rw [tagFor_after_cons_of_not h, ih, handed_cons_of_not h]

theorem tag_of_sends {errand : Errand} {request : Request} (h : c.sends errand = some request) :
    request.tag = c.tagFor errand.endpoint := by
  cases errand with
  | config => cases h; rfl
  | users => cases h; rfl
  | report snapshot timeout =>
      rw [sends] at h
      split at h
      · cases h; rfl
      · cases h

/-- What the request of an errand names after some exchanges. -/
structure Names (c : Client) (xs : List Exchange) (errand : Errand) : Prop where
  /-- The tag of the last answer handed over under its resource, among those that have one. -/
  sent : ∀ request, (c.after xs).sends errand = some request →
    request.tag = (c.handed errand.endpoint xs).findSome? Answer.tag?
  /-- If the last answer handed over has a tag, it is this one. -/
  latest : ∀ request a tag, (c.after xs).sends errand = some request →
    (c.handed errand.endpoint xs).head? = some a → a.tag? = some tag → request.tag = some tag
  /-- Before an answer is handed over there is none. -/
  unread : ∀ request, (c.after xs).sends errand = some request →
    c.handed errand.endpoint xs = [] → request.tag = none
  /-- An exchange from which the caller gets nothing, or that is about another resource, does not
  change it. -/
  kept : ∀ x, ¬ (x.errand.endpoint = errand.endpoint ∧ c.hands errand.endpoint x.answer = true) →
    (c.after (x :: xs)).tagFor errand.endpoint = (c.after xs).tagFor errand.endpoint
  /-- If the panel answers "not modified" only to a request with the tag of its body, then that tag
  is the one of the last answer handed over, if this has any. -/
  unmodified : ∀ request a tag tagOf body r, (c.after xs).sends errand = some request →
    (c.handed errand.endpoint xs).head? = some a → a.tag? = some tag →
    Fits tagOf body request.tag r → r.status = 304 → tag = tagOf body

theorem names_of_untagged {errand : Errand} (hnone : c.tagFor errand.endpoint = none)
    (xs : List Exchange) : c.Names xs errand := by
  have hsent : ∀ request, (c.after xs).sends errand = some request →
      request.tag = (c.handed errand.endpoint xs).findSome? Answer.tag? :=
    fun request h => (tag_of_sends h).trans (tagFor_after hnone xs)
  have hlatest : ∀ request a tag, (c.after xs).sends errand = some request →
      (c.handed errand.endpoint xs).head? = some a → a.tag? = some tag →
      request.tag = some tag := by
    intro request a tag h ha ht
    obtain ⟨earlier, hearlier⟩ := List.head?_eq_some_iff.mp ha
    rw [hsent request h, hearlier, List.findSome?_cons, ht]
  refine ⟨hsent, hlatest, fun request h hnil => ?_, fun x h => tagFor_after_cons_of_not h xs,
    fun request a tag tagOf body r h ha ht hfits h304 => ?_⟩
  · rw [hsent request h, hnil]
    rfl
  · have hnamed := hlatest request a tag h ha ht
    exact Option.some.inj (hnamed.symm.trans (hfits.unmodified h304))

/-- The tags that a new client names, whatever it is asked for and however that ends. -/
theorem names_tag (host : String) (node : Int) (key : String) (timeout : Float)
    (transport : Transport) (xs : List Exchange) (errand : Errand) :
    (make host node key timeout transport).Names xs errand :=
  names_of_untagged (by cases errand <;> rfl) xs

/-- A client that was asked for nothing yet. -/
def sampleNew : Client := make "https://panel.example.com/" 7 "node-token" 5.0 {}

/-- A body with a configuration for a port. -/
def sampleBody (port : String) : String :=
  "\x7b\"server_port\":" ++ port
    ++ ",\"cipher\":\"2022-blake3-aes-128-gcm\",\"server_key\":\"k\"\x7d"

/-- A configuration with a tag, and after it another one without. -/
def sampleExchanges : List Exchange :=
  [⟨.config, .response { text := sampleBody "8389" }⟩,
    ⟨.config, .response { text := sampleBody "8388", headers := [("ETag", "\"a\"")] }⟩]

/-- An answer that has no tag takes the place of the one before it, but not its tag: the next
request names the tag of a configuration that the caller does not hold any more. -/
theorem names_stale_tag :
    (sampleNew.handed .config sampleExchanges).head?
      = some (.response { text := sampleBody "8389" })
    ∧ Answer.tag? (.response { text := sampleBody "8389" }) = none
    ∧ ((sampleNew.after sampleExchanges).sends .config).map Request.tag
      = some (some "\"a\"") := by
  decide +kernel

end Client

end ProxyNode.Panel
