import Mathlib.Logic.Function.Defs
import ProxyNode.Proofs.Node.Books

/-!
# Panel — Tags

A panel gives each body a tag of its own, and answers "not modified" only to a request that names
the tag of the present body.  A client remembers the tag of the last body that it could use, and the
node what was read of it; the two stay together.

* `Honest`: a panel whose bodies may change from request to request, and whose answers may fail.
* `Reader`: what a client makes of the answers under one endpoint; `configReader`, `userReader`.
* `Known`: what is remembered is the tag of a body of which the value was read.
* `Reader.known_next`: an answer of an honest panel keeps it so.
* `Reader.next_of_tells`: after an answer that can be used the value is that of the present body.
-/

namespace ProxyNode.Panel

/-- Whether a response shows a body: it is of no error status and its text is JSON. -/
def Response.shows (r : Response) : Bool := (Answer.response r).acknowledges

/-- A response of a panel that has `body`, to a request with the tag `known`.  A response that shows
no body and is not "not modified" says nothing about it. -/
structure Fits (tag : String → String) (body : String) (known : Option String) (r : Response) :
    Prop where
  unmodified : r.status = 304 → known = some (tag body)
  shown : r.shows = true →
    r.text = body ∧ Client.header? "etag" r.headers = some (tag body)

instance (tag : String → String) (body : String) (known : Option String) (r : Response) :
    Decidable (Fits tag body known r) :=
  decidable_of_iff
    ((r.status = 304 → known = some (tag body))
      ∧ (r.shows = true → r.text = body ∧ Client.header? "etag" r.headers = some (tag body)))
    ⟨fun h => ⟨h.1, h.2⟩, fun h => ⟨h.unmodified, h.shown⟩⟩

/-- The last of some requests, listed first, was answered by a panel with the tags `tag`, which has
`body k e` under the endpoint `e` when it answers its `k`-th request, the first being the zeroth. -/
def LastFits (tag : Endpoint → String → String) (body : Nat → Endpoint → String) :
    List (Request × Turn) → Prop
  | [] => True
  | (request, turn) :: earlier =>
    match turn.answer with
    | .response r => request.endpoint ≠ .push →
      Fits (tag request.endpoint) (body earlier.length request.endpoint) request.tag r
    | _ => True

instance (tag : Endpoint → String → String) (body : Nat → Endpoint → String) :
    DecidablePred (LastFits tag body)
  | [] => .isTrue trivial
  | (request, ⟨_, _, answer⟩) :: earlier =>
    match answer with
    | .response r => inferInstanceAs (Decidable (request.endpoint ≠ .push →
        Fits (tag request.endpoint) (body earlier.length request.endpoint) request.tag r))
    | .timedOut _ => .isTrue trivial
    | .failed _ => .isTrue trivial
    | .broken _ => .isTrue trivial

/-- All requests were answered by such a panel.  No tag is empty, and different bodies have different
tags. -/
structure Honest (tag : Endpoint → String → String) (body : Nat → Endpoint → String)
    (asked : List (Request × Turn)) : Prop where
  nonempty : ∀ e text, tag e text ≠ ""
  injective : ∀ e, Function.Injective (tag e)
  fits : ∀ past, past <:+ asked → LastFits tag body past

section Answers

variable {tag : Endpoint → String → String} {body : Nat → Endpoint → String}
  {asked later : List (Request × Turn)}

theorem Honest.mono (h : Honest tag body later) (hs : asked <:+ later) : Honest tag body asked :=
  ⟨h.nonempty, h.injective, fun past hp => h.fits past (hp.trans hs)⟩

theorem Honest.last {request : Request} {turn : Turn} {r : Response}
    (h : Honest tag body ((request, turn) :: asked)) (he : request.endpoint ≠ .push)
    (ha : turn.answer = .response r) :
    Fits (tag request.endpoint) (body asked.length request.endpoint) request.tag r := by
  have hl := h.fits _ (List.suffix_refl _)
  rw [LastFits, ha] at hl
  exact hl he

end Answers

/-- Whether an answer tells what a body says, as far as it can be read: the body is the one that is
known already, or it is shown. -/
def Answer.tells {α : Type} (read : String → Option α) : Answer → Bool
  | .response r => r.status = 304 || r.shows && (read r.text).isSome
  | _ => false

/-! ### What a client makes of an answer -/

namespace Client

/-- A client with the tag of what it has just used. -/
def remember (c : Client) (tag : Option String) : Endpoint → Client
  | .config => { c with configTag := newTag c.configTag tag }
  | .users => { c with usersTag := newTag c.usersTag tag }
  | .push => c

theorem transport_remember (c : Client) (tag : Option String) (e : Endpoint) :
    (c.remember tag e).transport = c.transport := by
  cases e <;> rfl

theorem tagFor_remember (c : Client) (tag : Option String) {e : Endpoint} (h : e ≠ .push) :
    (c.remember tag e).tagFor e = newTag (c.tagFor e) tag := by
  cases e with
  | config => rfl
  | users => rfl
  | push => exact absurd rfl h

theorem tagFor_remember_of_ne (c : Client) (tag : Option String) {e e' : Endpoint} (h : e' ≠ e) :
    (c.remember tag e).tagFor e' = c.tagFor e' := by
  cases e <;> cases e' <;> first | rfl | exact absurd rfl h

/-- The client without the tags, which is all that is settled when it is made. -/
def untagged (c : Client) : Client := { c with configTag := none, usersTag := none }

theorem untagged_remember (c : Client) (tag : Option String) (e : Endpoint) :
    (c.remember tag e).untagged = c.untagged := by
  cases e <;> rfl

/-- A client can read no answer but a response that shows a body. -/
theorem receive_eq_ok {c : Client} {e : Endpoint} {a : Answer} {json : Json}
    {tag : Option String} (h : c.receive e a = .ok (json, tag)) :
    ∃ r, a = .response r ∧ r.shows = true ∧ Json.read r.text = .ok json
      ∧ tag = header? "etag" r.headers := by
  cases a with
  | timedOut detail => cases h
  | failed detail => cases h
  | broken cause => cases h
  | response r =>
      refine ⟨r, rfl, ?_⟩
      by_cases h304 : r.status = 304
      · simp [receive, h304] at h
      · by_cases hbusy : isBusy r.status = true
        · simp [receive, h304, hbusy] at h
        · by_cases h400 : 400 ≤ r.status
          · simp [receive, h304, hbusy, h400] at h
          · simp only [receive, h304, hbusy, h400, if_false] at h
            rcases hr : Json.read r.text with (_ | _ | nested) | body
            · rw [hr] at h
              cases h
            · rw [hr] at h
              cases h
            · rw [hr] at h
              cases h
            · rw [hr] at h
              cases h
              simp [Response.shows, Answer.acknowledges, h304, hbusy, Int.not_le.mp h400, hr,
                Except.isOk, Except.toBool]

theorem receive_of_shows (c : Client) (e : Endpoint) {r : Response} (h : r.shows = true) :
    ∃ json, Json.read r.text = .ok json
      ∧ c.receive e (.response r) = .ok (json, header? "etag" r.headers) := by
  simp only [Response.shows, Answer.acknowledges, Bool.and_eq_true, decide_eq_true_eq,
    Bool.not_eq_true'] at h
  obtain ⟨⟨⟨h304, hbusy⟩, h400⟩, hread⟩ := h
  cases hr : Json.read r.text with
  | error fault =>
      rw [hr] at hread
      cases hread
  | ok json =>
      have h400 : ¬ 400 ≤ r.status := Int.not_le.mpr h400
      exact ⟨json, rfl, by simp [receive, h304, hbusy, h400, hr]⟩

end Client

/-- What clients make of the answers under one endpoint.  Not all that can be used is worth being
remembered. -/
structure Reader (α : Type) where
  endpoint : Endpoint
  accept : Client → Answer → Except Fault α × Client
  read : Transport → String → Option α
  worth : α → Bool
  fetches : endpoint ≠ .push
  keeps : ∀ {c a fault}, (accept c a).1 = .error fault → (accept c a).2 = c
  unmodified : ∀ {c r}, r.status = 304 → ∃ fault, (accept c (.response r)).1 = .error fault
  reads : ∀ {c r v}, r.shows = true → read c.transport r.text = some v →
    (accept c (.response r)).1 = .ok v ∧ worth v = true
  passes : ∀ {c a v}, (accept c a).1 = .ok v → worth v = false → (accept c a).2 = c
  remembers : ∀ {c a v}, (accept c a).1 = .ok v → worth v = true →
    ∃ r, a = .response r ∧ r.shows = true ∧ read c.transport r.text = some v
      ∧ (accept c a).2 = c.remember (Client.header? "etag" r.headers) endpoint

/-- What is remembered, if anything, is the tag of a body of which the value was read. -/
def Known {α : Type} (tag : String → String) (read : String → Option α)
    (remembered : Option String) (value : Option α) : Prop :=
  ∀ t, remembered = some t → ∃ body, t = tag body ∧ value = read body

/-- Where nothing is remembered there is nothing to know. -/
theorem known_none {α : Type} (tag : String → String) (read : String → Option α)
    (value : Option α) : Known tag read none value :=
  fun _ h => absurd h nofun

namespace Reader

variable {α : Type} (R : Reader α) {tag : String → String} {body : String} {c : Client}
  {a : Answer} {old : Option α}

/-- What is known after a result. -/
def next (old : Option α) : Except Fault α → Option α
  | .ok v => if R.worth v then some v else old
  | .error _ => old

/-- An answer does nothing to a client but that it may remember a tag. -/
theorem accept_cases (c : Client) (a : Answer) :
    (R.accept c a).2 = c ∨ ∃ t, (R.accept c a).2 = c.remember t R.endpoint := by
  cases h : (R.accept c a).1 with
  | error fault => exact .inl (R.keeps h)
  | ok v =>
      by_cases hw : R.worth v = true
      · obtain ⟨r, -, -, -, hc⟩ := R.remembers h hw
        exact .inr ⟨_, hc⟩
      · exact .inl (R.passes h (Bool.eq_false_iff.mpr hw))

theorem transport_accept (c : Client) (a : Answer) :
    (R.accept c a).2.transport = c.transport := by
  rcases R.accept_cases c a with h | ⟨t, h⟩
  · rw [h]
  · rw [h, Client.transport_remember]

theorem untagged_accept (c : Client) (a : Answer) :
    (R.accept c a).2.untagged = c.untagged := by
  rcases R.accept_cases c a with h | ⟨t, h⟩
  · rw [h]
  · rw [h, Client.untagged_remember]

theorem tagFor_accept_of_ne (c : Client) (a : Answer) {e : Endpoint} (he : e ≠ R.endpoint) :
    (R.accept c a).2.tagFor e = c.tagFor e := by
  rcases R.accept_cases c a with h | ⟨t, h⟩
  · rw [h]
  · rw [h, Client.tagFor_remember_of_ne c t he]

/-- An answer of an honest panel keeps the tag and the value together. -/
theorem known_next (hne : ∀ text, tag text ≠ "")
    (hf : ∀ r, a = .response r → Fits tag body (c.tagFor R.endpoint) r)
    (hk : Known tag (R.read c.transport) (c.tagFor R.endpoint) old) :
    Known tag (R.read c.transport) ((R.accept c a).2.tagFor R.endpoint)
      (R.next old (R.accept c a).1) := by
  cases h : (R.accept c a).1 with
  | error fault =>
      rw [R.keeps h]
      exact hk
  | ok v =>
      by_cases hw : R.worth v = true
      · -- The new tag came with the body of which the new value was read.
        obtain ⟨r, ha, hs, hr, hc⟩ := R.remembers h hw
        obtain ⟨htext, htag⟩ := (hf r ha).shown hs
        rw [hc, Client.tagFor_remember _ _ R.fetches, htag, next, if_pos hw]
        intro t ht
        rw [Client.newTag, if_neg (hne body)] at ht
        exact ⟨body, (Option.some.inj ht).symm, htext ▸ hr.symm⟩
      · have hp := R.passes h (Bool.eq_false_iff.mpr hw)
        rw [hp, next, if_neg hw]
        exact hk

/-- After an answer that tells what a body says the value is that of the present body. -/
theorem next_of_tells (hi : Function.Injective tag)
    (hf : ∀ r, a = .response r → Fits tag body (c.tagFor R.endpoint) r)
    (hk : Known tag (R.read c.transport) (c.tagFor R.endpoint) old)
    (ht : a.tells (R.read c.transport) = true) :
    R.next old (R.accept c a).1 = R.read c.transport body := by
  cases a with
  | timedOut detail => cases ht
  | failed detail => cases ht
  | broken cause => cases ht
  | response r =>
      have hfits := hf r rfl
      rcases Bool.or_eq_true_iff.mp ht with h304 | hshown
      · -- The client named the tag of the present body, so what it knows is that body.
        have h304 : r.status = 304 := of_decide_eq_true h304
        obtain ⟨known, heq, hv⟩ := hk _ (hfits.unmodified h304)
        obtain ⟨fault, hr⟩ := R.unmodified (c := c) h304
        rw [hr, next, hv, hi heq]
      · obtain ⟨hs, hread⟩ := Bool.and_eq_true_iff.mp hshown
        obtain ⟨v, hv⟩ := Option.isSome_iff_exists.mp hread
        obtain ⟨hr, hw⟩ := R.reads hs hv
        rw [hr, next, if_pos hw, ← hv, (hfits.shown hs).1]

end Reader

/-! ### The configuration -/

/-- What is read of a body with a configuration. -/
def configIn (transport : Transport) (text : String) : Option NodeConfig :=
  match Json.read text with
  | .error _ => none
  | .ok body => (NodeConfig.read body transport).toOption

theorem Client.acceptConfig_cases (c : Client) (a : Answer) :
    (∃ fault, c.acceptConfig a = (.error fault, c))
    ∨ ∃ r config, a = .response r ∧ r.shows = true ∧ configIn c.transport r.text = some config
      ∧ c.acceptConfig a = (.ok config, c.remember (header? "etag" r.headers) .config) := by
  unfold acceptConfig
  split
  · next fault _ => exact .inl ⟨fault, rfl⟩
  · next body tag hr =>
    obtain ⟨r, rfl, hs, hread, rfl⟩ := receive_eq_ok hr
    split
    · next fault _ => exact .inl ⟨fault, rfl⟩
    · next config hc =>
      refine .inr ⟨r, config, rfl, hs, ?_, rfl⟩
      rw [configIn, hread]
      exact congrArg Except.toOption hc

/-- What a client makes of an answer with a configuration, all of which is worth being remembered. -/
def configReader : Reader NodeConfig where
  endpoint := .config
  accept c a := c.acceptConfig a
  read := configIn
  worth _ := true
  fetches := nofun
  keeps {c a fault} h := Client.config_tag_of_error (Prod.ext h rfl)
  unmodified {c r} h := ⟨.notModified Endpoint.config.label, by
    rw [Client.acceptConfig, Client.receive, if_pos h]⟩
  reads {c r v} hs hv := by
    obtain ⟨json, hread, hr⟩ := Client.receive_of_shows c .config hs
    rw [configIn, hread] at hv
    refine ⟨?_, rfl⟩
    unfold Client.acceptConfig
    rw [hr]
    dsimp only at hv ⊢
    cases hc : NodeConfig.read json c.transport with
    | error fault =>
        rw [hc] at hv
        cases hv
    | ok config =>
        rw [hc] at hv
        exact congrArg Except.ok (Option.some.inj hv)
  passes _ hw := Bool.noConfusion hw
  remembers {c a v} h _ := by
    rcases c.acceptConfig_cases a with ⟨fault, hf⟩ | ⟨r, config, ha, hs, hc, hf⟩
    · rw [hf] at h
      cases h
    · rw [hf] at h ⊢
      cases h
      exact ⟨r, ha, hs, hc, rfl⟩

/-! ### The users -/

/-- The users that are read of a body, if there are any. -/
def usersIn (text : String) : Option (List User) :=
  match Json.read text with
  | .error _ => none
  | .ok body =>
    match Client.items (Client.usersField body) with
    | .error _ => none
    | .ok entries =>
      match (Client.readUsers [] entries).users with
      | .ok (u :: us) => some (u :: us)
      | _ => none

namespace Client

/-- A void value has no entries. -/
theorem eq_nil_of_isVoid {j : Json} (hv : j.isVoid = true) {entries : List Json}
    (h : items j = .ok entries) : entries = [] := by
  cases j with
  | null => cases h
  | bool b => cases h
  | int i => cases h
  | real x => cases h
  | text s =>
      have hs : s = "" := eq_of_beq hv
      subst hs
      exact (Except.ok.inj h).symm
  | array l =>
      rw [List.isEmpty_iff.mp hv] at h
      exact (Except.ok.inj h).symm
  | object fields =>
      rw [List.isEmpty_iff.mp hv] at h
      exact (Except.ok.inj h).symm

theorem acceptUsers_cases (c : Client) (a : Answer) :
    ((c.acceptUsers a).2 = c
      ∧ ((∃ fault, (c.acceptUsers a).1.users = .error fault) ∨ (c.acceptUsers a).1.users = .ok []))
    ∨ ∃ r u us, a = .response r ∧ r.shows = true ∧ usersIn r.text = some (u :: us)
      ∧ (c.acceptUsers a).1.users = .ok (u :: us)
      ∧ (c.acceptUsers a).2 = c.remember (header? "etag" r.headers) .users := by
  unfold acceptUsers
  split
  · next fault _ => exact .inl ⟨rfl, .inl ⟨fault, rfl⟩⟩
  · next body tag hr =>
    obtain ⟨r, rfl, hs, hread, rfl⟩ := receive_eq_ok hr
    split
    · exact .inl ⟨rfl, .inl ⟨_, rfl⟩⟩
    · split
      · exact .inl ⟨rfl, .inr rfl⟩
      · split
        · next fault _ => exact .inl ⟨rfl, .inl ⟨fault, rfl⟩⟩
        · next entries hitems =>
          dsimp only
          split
          · next fault hu => exact .inl ⟨rfl, .inl ⟨fault, hu⟩⟩
          · exact .inl ⟨rfl, .inl ⟨_, rfl⟩⟩
          · next users hne hu =>
            cases users with
            | nil => exact absurd rfl hne
            | cons u us =>
                refine .inr ⟨r, u, us, rfl, hs, ?_, hu, rfl⟩
                rw [usersIn, hread]
                dsimp only
                rw [hitems]
                dsimp only
                rw [hu]

/-- Users that are read of a body that is shown are accepted. -/
theorem acceptUsers_of_usersIn (c : Client) {r : Response} {users : List User}
    (hs : r.shows = true) (h : usersIn r.text = some users) :
    (c.acceptUsers (.response r)).1.users = .ok users ∧ users ≠ [] := by
  obtain ⟨json, hread, hr⟩ := receive_of_shows c .users hs
  rw [usersIn, hread] at h
  dsimp only at h
  split at h
  · cases h
  · next entries hitems =>
    split at h
    · next u us hu =>
      cases h
      refine ⟨?_, List.cons_ne_nil u us⟩
      unfold acceptUsers
      rw [hr]
      dsimp only
      split
      · next hnull =>
        rw [hnull] at hitems
        cases hitems
      · split
        · next hv =>
          rw [eq_nil_of_isVoid hv hitems] at hu
          cases hu
        · rw [hitems]
          dsimp only
          rw [hu]
          exact hu
    · cases h

end Client

/-- What a client makes of an answer with users.  An empty list is not worth being remembered. -/
def userReader : Reader (List User) where
  endpoint := .users
  accept c a := ((c.acceptUsers a).1.users, (c.acceptUsers a).2)
  read _ := usersIn
  worth users := !users.isEmpty
  fetches := nofun
  keeps {c a fault} h := Client.users_tag_of_error (Prod.ext rfl rfl) h
  unmodified {c r} h := ⟨.notModified Endpoint.users.label, by
    rw [Client.acceptUsers, Client.receive, if_pos h]⟩
  reads {c r v} hs hv := by
    obtain ⟨hr, hne⟩ := c.acceptUsers_of_usersIn hs hv
    refine ⟨hr, ?_⟩
    cases v with
    | nil => exact absurd rfl hne
    | cons u us => rfl
  passes {c a v} h hw := by
    rcases c.acceptUsers_cases a with ⟨hc, -⟩ | ⟨r, u, us, -, -, -, hu, -⟩
    · exact hc
    · cases h.symm.trans hu
      cases hw
  remembers {c a v} h hw := by
    rcases c.acceptUsers_cases a with ⟨-, ⟨fault, hu⟩ | hu⟩ | ⟨r, u, us, ha, hs, hread, hu, hc⟩
    · cases h.symm.trans hu
    · cases h.symm.trans hu
      cases hw
    · cases h.symm.trans hu
      exact ⟨r, ha, hs, hread, hc⟩

end ProxyNode.Panel
