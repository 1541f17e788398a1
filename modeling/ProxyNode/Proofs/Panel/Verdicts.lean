import Mathlib.Data.String.Basic
import ProxyNode.Proofs.Panel.Tags

/-!
# Panel — Verdicts

Every answer of the panel ends in something to use or in a verdict: to try again, that the panel
refuses the node, that what it sent cannot be used, or that nothing changed.  The answers of which
this does not hold are told by their bodies.  They name an infinite number where a whole one is
read, hold no object where intervals are kept or no list where users are listed, or are nested too
deeply.

* `Fault.isVerdict`, `NodeConfig.IsSound`: what a client may make of an answer.
* `NodeConfig.strays`, `usersStray`, `Answer.isStray`: the bodies and the answers that get past it.
* `NodeConfig.read_classified`, `readUsers_of_not_stray`: what is read of a body.
* `answers_classified`: what becomes of any answer, under each of the three resources.
* `base_escapes`: an answer from which no verdict follows.
-/

namespace ProxyNode

/-- Whether a fault says what to do about an answer. -/
def Fault.isVerdict : Fault → Bool
  | .transient _ => true
  | .rejected .. => true
  | .config _ => true
  | .notModified _ => true
  | _ => false

/-- What becomes of an answer, by whether it is one that gets past a verdict: there is something to
use, or a verdict, or else a fault that nothing expects. -/
inductive Classified {α : Type} (sound : α → Prop) : Bool → Except Fault α → Prop
  | used {a : α} (h : sound a) : Classified sound false (.ok a)
  | verdict {fault : Fault} (h : fault.isVerdict = true) : Classified sound false (.error fault)
  | escaped (cause : Unexpected) : Classified sound true (.error (.unexpected cause))

/-! ### Values -/

namespace Json

/-- Whether a value is an infinite number. -/
def isInfinite : Json → Bool
  | .real x => Binary64.isInfinite x
  | _ => false

theorem whole_eq_infinite_iff {v : Json} : v.whole = .error .infinite ↔ v.isInfinite = true := by
  cases v with
  | real x =>
      simp only [whole, isInfinite, Binary64.truncate, Binary64.isInfinite]
      cases Binary64.view x <;> simp
  | text t =>
      cases t with
      | whole s =>
          simp only [whole, isInfinite]
          cases Numeral.read s <;> simp
      | torn before half after => simp [whole, isInfinite]
  | null => simp [whole, isInfinite]
  | bool b => simp [whole, isInfinite]
  | int i => simp [whole, isInfinite]
  | array items => simp [whole, isInfinite]
  | object fields => simp [whole, isInfinite]

theorem toString_nat_ne_empty (n : Nat) : toString n ≠ "" := Nat.repr_ne_empty

theorem scientificText_ne_empty (d : Binary64.Scientific) : scientificText d ≠ "" := by
  unfold scientificText
  dsimp only
  split
  · split
    · simp [String.append_eq_empty_iff]
    · split <;> simp [String.append_eq_empty_iff]
  · simp [String.append_eq_empty_iff]

theorem realText_ne_empty (x : Float) : realText x ≠ "" := by
  unfold realText
  split
  · decide
  · split <;> decide
  · next negative m e _ =>
    intro h
    obtain ⟨-, h⟩ := String.append_eq_empty_iff.mp h
    split at h
    · exact absurd h (by decide)
    · exact scientificText_ne_empty _ h

/-- What is not void is not shown as an empty text. -/
theorem plain_ne_empty {v : Json} (h : v.isVoid = false) : v.plain ≠ "" := by
  cases v with
  | null => cases h
  | bool b => cases b <;> decide
  | int i =>
      cases i with
      | ofNat n => exact fun he => toString_nat_ne_empty n (RawText.whole.inj he)
      | negSucc n => simp [plain, display, toString, Int.repr, String.append_eq_empty_iff]
  | real x => exact fun he => realText_ne_empty x (RawText.whole.inj he)
  | text s => simpa [isVoid, plain] using h
  | array items => simp [plain, display, String.append_eq_empty_iff]
  | object fields => simp [plain, display, String.append_eq_empty_iff]

end Json

/-! ### The configuration -/

namespace NodeConfig

/-- What holds of every configuration that is read: its port is one, its cipher is known, there is a
key, and an interval is positive or not given. -/
structure IsSound (c : NodeConfig) : Prop where
  port : 1 ≤ c.port ∧ c.port ≤ maxPort
  cipher : c.cipher ∈ Cipher.all
  serverKey : c.serverKey ≠ ""
  pullInterval : ∀ i, c.pullInterval = some i → 0 < i
  pushInterval : ∀ i, c.pushInterval = some i → 0 < i

/-- Whether a value gets past a verdict as a port. -/
def portStrays (v : Json) : Bool := !v.isVoid && v.isInfinite

/-- Whether a value gets past a verdict as the part of a body that holds the intervals. -/
def baseStrays (v : Json) : Bool :=
  !v.isVoid && match v with
    | .object base => (Json.field "pull_interval" base).isInfinite
      || (Json.field "push_interval" base).isInfinite
    | _ => true

/-- Whether a body gets past a verdict as a configuration.  The intervals come last, and are looked
at only if there is nothing else to object to. -/
def strays : Json → Bool
  | .object fields => portStrays (Json.field "server_port" fields)
    || (readPort (Json.field "server_port" fields)).isOk
      && (Cipher.read (Json.field "cipher" fields)).isOk
      && !(Json.field "server_key" fields).isVoid
      && baseStrays (Json.field "base_config" fields)
  | _ => false

theorem readPort_cases (v : Json) :
    (portStrays v = true ∧ readPort v = .error (.unexpected .infinite))
    ∨ portStrays v = false ∧ ((∃ port, readPort v = .ok port ∧ 1 ≤ port ∧ port ≤ maxPort)
      ∨ ∃ cause, readPort v = .error (.config cause)) := by
  unfold portStrays readPort
  by_cases hv : v.isVoid = true
  · rw [hv]
    exact .inr ⟨rfl, .inr ⟨_, rfl⟩⟩
  · rw [Bool.not_eq_true] at hv
    rw [hv]
    simp only [Bool.false_eq_true, if_false, Bool.not_false, Bool.true_and]
    cases hi : v.isInfinite with
    | true =>
        rw [Json.whole_eq_infinite_iff.mpr hi]
        exact .inl ⟨rfl, rfl⟩
    | false =>
        refine .inr ⟨rfl, ?_⟩
        split
        · next hw =>
          rw [Json.whole_eq_infinite_iff.mp hw] at hi
          cases hi
        · exact .inr ⟨_, rfl⟩
        · next port _ =>
          split
          · exact .inr ⟨_, rfl⟩
          · next hp => exact .inl ⟨port, rfl, by omega, by omega⟩

theorem positive?_cases (v : Json) :
    (v.isInfinite = true ∧ positive? v = .error (.unexpected .infinite))
    ∨ v.isInfinite = false ∧ ∃ o, positive? v = .ok o ∧ ∀ i, o = some i → 0 < i := by
  unfold positive?
  cases hi : v.isInfinite with
  | true =>
      rw [Json.whole_eq_infinite_iff.mpr hi]
      exact .inl ⟨rfl, rfl⟩
  | false =>
      refine .inr ⟨rfl, ?_⟩
      split
      · next i _ =>
        refine ⟨_, rfl, fun j hj => ?_⟩
        split at hj
        · next hp =>
          cases hj
          exact hp
        · cases hj
      · next hw =>
        rw [Json.whole_eq_infinite_iff.mp hw] at hi
        cases hi
      · exact ⟨none, rfl, nofun⟩

theorem cipher_cases (v : Json) :
    (∃ cipher, Cipher.read v = .ok cipher) ∨ ∃ cause, Cipher.read v = .error (.config cause) := by
  unfold Cipher.read
  split
  · exact .inr ⟨_, rfl⟩
  · split
    · next cipher _ => exact .inl ⟨cipher, rfl⟩
    · exact .inr ⟨_, rfl⟩

theorem mem_all (c : Cipher) : c ∈ Cipher.all := by
  cases c <;> decide

/-- The intervals of a body, which are read last. -/
def readIntervals (v : Json) : Except Fault (Option Int × Option Int) := do
  let base ← readBase v
  let pullInterval ← positive? (Json.field "pull_interval" base)
  let pushInterval ← positive? (Json.field "push_interval" base)
  .ok (pullInterval, pushInterval)

theorem readIntervals_cases (v : Json) :
    (baseStrays v = true ∧ ∃ cause, readIntervals v = .error (.unexpected cause))
    ∨ baseStrays v = false ∧ ∃ pull push, readIntervals v = .ok (pull, push)
      ∧ (∀ i, pull = some i → 0 < i) ∧ ∀ i, push = some i → 0 < i := by
  have hnone : positive? (Json.field "pull_interval" []) = .ok none
      ∧ positive? (Json.field "push_interval" []) = .ok none := ⟨rfl, rfl⟩
  unfold baseStrays readIntervals readBase
  by_cases hv : v.isVoid = true
  · rw [hv]
    exact .inr ⟨rfl, none, none, rfl, nofun, nofun⟩
  · rw [Bool.not_eq_true] at hv
    rw [hv]
    cases v with
    | object base =>
        simp only [Bool.false_eq_true, if_false, Bool.not_false, Bool.true_and]
        rcases positive?_cases (Json.field "pull_interval" base) with
          ⟨hi, hp⟩ | ⟨hi, pull, hp, hpull⟩
        · exact .inl ⟨by rw [hi]; rfl, .infinite, by simp only [bind, Except.bind, hp]⟩
        · rcases positive?_cases (Json.field "push_interval" base) with
            ⟨hi', hp'⟩ | ⟨hi', push, hp', hpush⟩
          · exact .inl ⟨by rw [hi, hi']; rfl, .infinite, by simp only [bind, Except.bind, hp, hp']⟩
          · exact .inr ⟨by rw [hi, hi']; rfl, pull, push,
              by simp only [bind, Except.bind, hp, hp'], hpull, hpush⟩
    | null => exact .inl ⟨rfl, _, rfl⟩
    | bool b => exact .inl ⟨rfl, _, rfl⟩
    | int i => exact .inl ⟨rfl, _, rfl⟩
    | real x => exact .inl ⟨rfl, _, rfl⟩
    | text t => exact .inl ⟨rfl, _, rfl⟩
    | array items => exact .inl ⟨rfl, _, rfl⟩

theorem read_object (fields : List (RawText × Json)) (transport : Transport) :
    read (.object fields) transport = (do
      let port ← readPort (Json.field "server_port" fields)
      let cipher ← Cipher.read (Json.field "cipher" fields)
      if (Json.field "server_key" fields).isVoid then .error (.config .noServerKey)
      else
        let intervals ← readIntervals (Json.field "base_config" fields)
        .ok ⟨port, cipher, (Json.field "server_key" fields).plain, intervals.1, intervals.2,
          transport⟩) := by
  unfold read readIntervals
  simp only [bind, Except.bind]
  cases readPort (Json.field "server_port" fields) with
  | error fault => rfl
  | ok port =>
      cases Cipher.read (Json.field "cipher" fields) with
      | error fault => rfl
      | ok cipher =>
          cases readBase (Json.field "base_config" fields) with
          | error fault => rfl
          | ok base =>
              dsimp only
              cases positive? (Json.field "pull_interval" base) with
              | error fault => rfl
              | ok pull =>
                  cases positive? (Json.field "push_interval" base) with
                  | error fault => rfl
                  | ok push => rfl

/-- What becomes of any body under the configuration. -/
theorem read_classified (v : Json) (transport : Transport) :
    Classified IsSound (strays v) (read v transport) := by
  cases v with
  | object fields =>
      rw [read_object, strays]
      rcases readPort_cases (Json.field "server_port" fields) with
        ⟨hs, hp⟩ | ⟨hs, ⟨port, hp, hlow, hhigh⟩ | ⟨cause, hp⟩⟩
      · rw [hs, hp]
        exact .escaped _
      · rcases cipher_cases (Json.field "cipher" fields) with ⟨cipher, hc⟩ | ⟨cause, hc⟩
        · cases hk : (Json.field "server_key" fields).isVoid with
          | true =>
              rw [hs, hp, hc]
              exact .verdict rfl
          | false =>
              rcases readIntervals_cases (Json.field "base_config" fields) with
                ⟨hb, cause, hi⟩ | ⟨hb, pull, push, hi, hpull, hpush⟩
              · rw [hs, hp, hc, hb, hi]
                exact .escaped cause
              · rw [hs, hp, hc, hb, hi]
                exact .used ⟨⟨hlow, hhigh⟩, mem_all cipher, Json.plain_ne_empty hk, hpull, hpush⟩
        · rw [hs, hp, hc]
          exact .verdict rfl
      · rw [hs, hp]
        exact .verdict rfl
  | null => exact .verdict rfl
  | bool b => exact .verdict rfl
  | int i => exact .verdict rfl
  | real x => exact .verdict rfl
  | text t => exact .verdict rfl
  | array items => exact .verdict rfl

end NodeConfig

/-! ### The users -/

namespace Panel

namespace Client

/-- Whether an entry gets past a verdict: it has an infinite number for a user's. -/
def entryStrays : Json → Bool
  | .object fields => (Json.field "id" fields).isInfinite
  | _ => false

/-- Whether a body gets past a verdict as a list of users: they are no list, or an entry does. -/
def usersStray (body : Json) : Bool :=
  !(usersField body).isVoid && match items (usersField body) with
    | .error _ => true
    | .ok entries => entries.any entryStrays

/-- The user of an entry, unless it is malformed. -/
def readable (item : Json) : Option User :=
  match readUser item with
  | .ok u => u
  | .error _ => none

theorem readUser_cases (item : Json) :
    (entryStrays item = true ∧ readUser item = .error (.unexpected .infinite))
    ∨ entryStrays item = false ∧ readUser item = .ok (readable item) := by
  cases item with
  | object fields =>
      unfold entryStrays readable readUser Json.field
      dsimp only
      cases Json.field? "id" fields with
      | none => exact .inr ⟨rfl, rfl⟩
      | some v =>
          rw [Option.getD_some, Option.map_some]
          cases hi : v.isInfinite with
          | true =>
              rw [Json.whole_eq_infinite_iff.mpr hi]
              exact .inl ⟨rfl, rfl⟩
          | false =>
              refine .inr ⟨rfl, ?_⟩
              cases hw : v.whole with
              | error fault =>
                  cases fault with
                  | infinite =>
                      rw [Json.whole_eq_infinite_iff.mp hw] at hi
                      cases hi
                  | kind => rfl
                  | numeral fault => rfl
                  | nan => rfl
              | ok id => cases Json.field? "uuid" fields <;> rfl
  | null => exact .inr ⟨rfl, rfl⟩
  | bool b => exact .inr ⟨rfl, rfl⟩
  | int i => exact .inr ⟨rfl, rfl⟩
  | real x => exact .inr ⟨rfl, rfl⟩
  | text t => exact .inr ⟨rfl, rfl⟩
  | array items => exact .inr ⟨rfl, rfl⟩

/-- Entries of which no user can be read are passed over, and all others are taken. -/
theorem readUsers_of_not_stray {entries : List Json}
    (h : ∀ item ∈ entries, entryStrays item = false) (before : List User) :
    readUsers before entries = ⟨entries.filter fun item => (readable item).isNone,
      .ok (before.reverse ++ entries.filterMap readable)⟩ := by
  induction entries generalizing before with
  | nil => rw [readUsers, List.filterMap_nil, List.append_nil]; rfl
  | cons item rest ih =>
      rw [List.forall_mem_cons] at h
      have hr : readUser item = .ok (readable item) :=
        ((readUser_cases item).resolve_left fun hs => by rw [h.1] at hs; cases hs.1).2
      rw [readUsers, hr]
      cases hu : readable item with
      | none =>
          rw [List.filterMap_cons_none hu, List.filter_cons_of_pos (by rw [hu]; rfl)]
          dsimp only
          rw [ih h.2 before]
      | some u =>
          rw [List.filterMap_cons_some hu, List.filter_cons_of_neg (by rw [hu]; nofun)]
          dsimp only
          rw [ih h.2 (u :: before), List.reverse_cons, List.append_assoc]
          rfl

/-- One entry with an infinite number for a user's, and nobody is read of the list. -/
theorem readUsers_of_stray {entries : List Json} (h : ∃ item ∈ entries, entryStrays item = true)
    (before : List User) : (readUsers before entries).users = .error (.unexpected .infinite) := by
  induction entries generalizing before with
  | nil =>
      obtain ⟨item, hmem, -⟩ := h
      cases hmem
  | cons item rest ih =>
      rw [readUsers]
      rcases readUser_cases item with ⟨-, hr⟩ | ⟨hs, hr⟩
      · rw [hr]
      · obtain ⟨other, hmem, ho⟩ := h
        have hrest : ∃ item ∈ rest, entryStrays item = true := by
          rcases List.mem_cons.mp hmem with rfl | hmem
          · rw [hs] at ho
            cases ho
          · exact ⟨other, hmem, ho⟩
        rw [hr]
        cases readable item with
        | none => exact ih hrest before
        | some u => exact ih hrest (u :: before)

theorem items_cases (v : Json) :
    (∃ entries, items v = .ok entries) ∨ ∃ cause, items v = .error (.unexpected cause) := by
  cases v with
  | array entries => exact .inl ⟨_, rfl⟩
  | object fields => exact .inl ⟨_, rfl⟩
  | text s => exact .inl ⟨_, rfl⟩
  | null => exact .inr ⟨_, rfl⟩
  | bool b => exact .inr ⟨_, rfl⟩
  | int i => exact .inr ⟨_, rfl⟩
  | real x => exact .inr ⟨_, rfl⟩

end Client

/-! ### Answers -/

/-- Whether an answer gets past a verdict, for a resource whose `stray` bodies do: it shows such a
body, its body is nested too deeply, or the request was broken off for a cause that is none of the
connection's. -/
def Answer.strays (stray : Json → Bool) : Answer → Bool
  | .timedOut _ => false
  | .failed _ => false
  | .broken _ => true
  | .response r =>
    r.status ≠ 304 && !Client.isBusy r.status && r.status < 400 && match Json.read r.text with
      | .ok body => stray body
      | .error (.tooDeep _) => true
      | .error _ => false

namespace Client

theorem receive_cases (c : Client) (e : Endpoint) (stray : Json → Bool) (a : Answer) :
    (a.strays stray = true ∧ ∃ cause, c.receive e a = .error (.unexpected cause))
    ∨ (a.strays stray = false ∧ ∃ fault, c.receive e a = .error fault ∧ fault.isVerdict = true)
    ∨ ∃ body tag, c.receive e a = .ok (body, tag) ∧ a.strays stray = stray body := by
  cases a with
  | timedOut detail => exact .inr (.inl ⟨rfl, _, rfl, rfl⟩)
  | failed detail => exact .inr (.inl ⟨rfl, _, rfl, rfl⟩)
  | broken cause => exact .inl ⟨rfl, cause, rfl⟩
  | response r =>
      unfold receive Answer.strays
      dsimp only
      by_cases h304 : r.status = 304
      · rw [if_pos h304]
        exact .inr (.inl ⟨by simp [h304], _, rfl, rfl⟩)
      · rw [if_neg h304]
        by_cases hbusy : isBusy r.status = true
        · rw [if_pos hbusy]
          exact .inr (.inl ⟨by simp [hbusy], _, rfl, rfl⟩)
        · rw [if_neg hbusy]
          by_cases h400 : 400 ≤ r.status
          · rw [if_pos h400]
            exact .inr (.inl ⟨by simp [Int.not_lt.mpr h400], _, rfl, rfl⟩)
          · have hshown : (decide (r.status ≠ 304) && !isBusy r.status && decide (r.status < 400))
                = true := by
              simp [h304, hbusy, Int.not_le.mp h400]
            rw [if_neg h400, hshown, Bool.true_and]
            rcases Json.read r.text with (_ | _ | nested) | body
            · exact .inr (.inl ⟨rfl, _, rfl, rfl⟩)
            · exact .inr (.inl ⟨rfl, _, rfl, rfl⟩)
            · exact .inl ⟨rfl, _, rfl⟩
            · exact .inr (.inr ⟨body, _, rfl, rfl⟩)

theorem acceptConfig_classified (c : Client) (a : Answer) :
    Classified NodeConfig.IsSound (a.strays NodeConfig.strays) (c.acceptConfig a).1 := by
  unfold acceptConfig
  rcases c.receive_cases .config NodeConfig.strays a with
    ⟨hs, cause, hr⟩ | ⟨hs, fault, hr, hv⟩ | ⟨body, tag, hr, hs⟩
  · rw [hs, hr]
    exact .escaped cause
  · rw [hs, hr]
    exact .verdict hv
  · rw [hs, hr]
    have hread := NodeConfig.read_classified body c.transport
    dsimp only
    cases hb : NodeConfig.read body c.transport with
    | error fault => rw [hb] at hread; exact hread
    | ok config => rw [hb] at hread; exact hread

theorem acceptPush_classified (c : Client) (a : Answer) :
    Classified (fun _ => True) (a.strays fun _ => false) (c.acceptPush a) := by
  unfold acceptPush
  rcases c.receive_cases .push (fun _ => false) a with
    ⟨hs, cause, hr⟩ | ⟨hs, fault, hr, hv⟩ | ⟨body, tag, hr, hs⟩
  · rw [hs, hr]
    exact .escaped cause
  · rw [hs, hr]
    exact .verdict hv
  · rw [hs, hr]
    exact .used trivial

/-- What is made of a list: what is read of its entries, if that is anyone. -/
theorem acceptUsers_of_entries {c : Client} {a : Answer} {body : Json} {tag : Option String}
    (hr : c.receive .users a = .ok (body, tag)) (hv : (usersField body).isVoid = false)
    {entries : List Json} (hi : items (usersField body) = .ok entries) :
    (c.acceptUsers a).1 = ⟨(readUsers [] entries).malformed,
      match (readUsers [] entries).users with
      | .ok [] => .error (.config .noUsableUsers)
      | users => users⟩ := by
  unfold acceptUsers
  rw [hr]
  dsimp only
  split
  · next hnull =>
    rw [hnull] at hv
    cases hv
  · rw [hv, if_neg nofun, hi]
    dsimp only
    obtain ⟨malformed, users⟩ := readUsers [] entries
    rcases users with fault | _ | ⟨u, us⟩ <;> rfl

/-- What is made of a list no entry of which gets past a verdict: entries of which no user can be
read are passed over, and the others are used, if there are any. -/
theorem acceptUsers_of_not_stray {c : Client} {a : Answer} {body : Json} {tag : Option String}
    (hr : c.receive .users a = .ok (body, tag)) (hv : (usersField body).isVoid = false)
    {entries : List Json} (hi : items (usersField body) = .ok entries)
    (h : ∀ item ∈ entries, entryStrays item = false) :
    (c.acceptUsers a).1 = ⟨entries.filter fun item => (readable item).isNone,
      if entries.filterMap readable = [] then .error (.config .noUsableUsers)
      else .ok (entries.filterMap readable)⟩ := by
  rw [acceptUsers_of_entries hr hv hi, readUsers_of_not_stray h, List.reverse_nil,
    List.nil_append]
  cases entries.filterMap readable with
  | nil => rfl
  | cons u us => rfl

theorem acceptUsers_classified (c : Client) (a : Answer) :
    Classified (fun _ => True) (a.strays usersStray) (c.acceptUsers a).1.users := by
  rcases c.receive_cases .users usersStray a with
    ⟨hs, cause, hr⟩ | ⟨hs, fault, hr, hv⟩ | ⟨body, tag, hr, hs⟩
  · rw [hs, acceptUsers, hr]
    exact .escaped cause
  · rw [hs, acceptUsers, hr]
    exact .verdict hv
  · rw [hs]
    cases hv : (usersField body).isVoid with
    | true =>
        have hstray : usersStray body = false := by rw [usersStray, hv]; rfl
        rw [hstray, acceptUsers, hr]
        dsimp only
        split
        · exact .verdict rfl
        · rw [hv]
          exact .used trivial
    | false =>
        rcases items_cases (usersField body) with ⟨entries, hi⟩ | ⟨cause, hi⟩
        · have hstray : usersStray body = entries.any entryStrays := by rw [usersStray, hv, hi]; rfl
          rw [hstray]
          cases hany : entries.any entryStrays with
          | true =>
              rw [acceptUsers_of_entries hr hv hi, readUsers_of_stray (List.any_eq_true.mp hany)]
              exact .escaped _
          | false =>
              rw [List.any_eq_false] at hany
              rw [acceptUsers_of_not_stray hr hv hi fun item hm =>
                Bool.eq_false_iff.mpr (hany item hm)]
              dsimp only
              split
              · exact .verdict rfl
              · exact .used trivial
        · have hstray : usersStray body = true := by rw [usersStray, hv, hi]; rfl
          rw [hstray, acceptUsers, hr]
          dsimp only
          split
          · next hnull => rw [hnull] at hv; cases hv
          · rw [hv, if_neg nofun, hi]
            exact .escaped cause

end Client

/-- What becomes of any answer of the panel.  Under the configuration it ends in a sound one, under
the users in a list of them, for a report in nothing, or else in a verdict; and an answer that gets
past it ends in a fault that nothing expects, and in no other way.  Of a list no entry of which has
an infinite number for a user's, only the malformed entries are passed over. -/
theorem answers_classified (c : Client) (a : Answer) :
    Classified NodeConfig.IsSound (a.strays NodeConfig.strays) (c.acceptConfig a).1
    ∧ Classified (fun _ => True) (a.strays Client.usersStray) (c.acceptUsers a).1.users
    ∧ Classified (fun _ => True) (a.strays fun _ => false) (c.acceptPush a)
    ∧ ∀ r body entries, a = .response r → r.shows = true → Json.read r.text = .ok body →
      Client.usersField body = .array entries → entries ≠ [] →
      (∀ item ∈ entries, Client.entryStrays item = false) →
      (c.acceptUsers a).1 = ⟨entries.filter fun item => (Client.readable item).isNone,
        if entries.filterMap Client.readable = [] then .error (.config .noUsableUsers)
        else .ok (entries.filterMap Client.readable)⟩ := by
  refine ⟨c.acceptConfig_classified a, c.acceptUsers_classified a, c.acceptPush_classified a, ?_⟩
  rintro r body entries rfl hs hread hu hne h
  obtain ⟨json, hjson, hr⟩ := c.receive_of_shows .users hs
  obtain rfl : json = body := Except.ok.inj (hjson.symm.trans hread)
  refine Client.acceptUsers_of_not_stray hr ?_ (by rw [hu]; rfl) h
  rw [hu]
  simpa [Json.isVoid] using hne

/-- A response with a list of two entries, one of them malformed. -/
def sampleMalformed : Response :=
  { text := "\x7b\"users\":[\x7b\"id\":null\x7d,\x7b\"id\":2,\"uuid\":\"b\"\x7d]\x7d" }

/-- What is listed in a body, if it lists something. -/
def listed (body : Json) : List Json :=
  match Client.usersField body with
  | .array entries => entries
  | _ => []

theorem usersField_eq_array_listed {body : Json} (h : listed body ≠ []) :
    Client.usersField body = .array (listed body) := by
  unfold listed at h ⊢
  split
  · next entries he => exact he
  · next hn =>
    split at h
    · next entries he => exact absurd he (hn entries)
    · exact absurd rfl h

theorem eq_ok_of_toOption {α : Type} {result : Except Json.ReadFault α} {a : α}
    (h : result.toOption = some a) : result = .ok a := by
  cases result with
  | error fault => cases h
  | ok b => exact congrArg Except.ok (Option.some.inj h)

/-- Of the two entries the malformed one is passed over. -/
theorem answers_classified_sample :
    (Node.sample.client.acceptUsers (.response sampleMalformed)).1.users = .ok [⟨2, "b", []⟩]
    ∧ ∃ body, Json.read sampleMalformed.text = .ok body ∧ (listed body).length = 2
      ∧ (Node.sample.client.acceptUsers (.response sampleMalformed)).1
        = ⟨(listed body).filter fun item => (Client.readable item).isNone,
          if (listed body).filterMap Client.readable = [] then .error (.config .noUsableUsers)
          else .ok ((listed body).filterMap Client.readable)⟩ := by
  have hcheck : (Json.read sampleMalformed.text).toOption.map (fun body =>
      ((listed body).length, (listed body).all fun item => !Client.entryStrays item))
      = some (2, true) := by decide +kernel
  obtain ⟨body, hbody, hlist⟩ := Option.map_eq_some_iff.mp hcheck
  obtain ⟨hlength, hentries⟩ := Prod.mk.inj hlist
  have hread := eq_ok_of_toOption hbody
  have hne : listed body ≠ [] := List.ne_nil_of_length_pos (hlength ▸ Nat.two_pos)
  have hstray : ∀ item ∈ listed body, Client.entryStrays item = false := fun item hm =>
    by simpa using List.all_eq_true.mp hentries item hm
  exact ⟨by decide +kernel, body, hread, hlength,
    (answers_classified Node.sample.client (.response sampleMalformed)).2.2.2 sampleMalformed
      body (listed body) rfl (by decide +kernel) hread (usersField_eq_array_listed hne) hne hstray⟩

/-- A list where an object is looked for, and no verdict follows. -/
theorem base_escapes :
    (Node.sample.client.acceptConfig (.response { text := "\x7b\"server_port\":8388,"
      ++ "\"cipher\":\"2022-blake3-aes-128-gcm\",\"server_key\":\"k\",\"base_config\":[1]\x7d" })).1
        = .error (.unexpected (.noFields "list" "get"))
    ∧ Fault.isVerdict (.unexpected (.noFields "list" "get")) = false := by
  decide +kernel

end Panel

end ProxyNode
