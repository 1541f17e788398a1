import ProxyNode.Config.Settings

/-!
# Config — Settings, by what the variables say

A variable says its stripped value, or nothing if that is blank or the variable is not set.  What
the variables say is all that the settings are read from: each default is taken just where nothing
is said, whichever way it is written in the reading.

* `integer?_eq`, `number_eq`, `boolean_eq`, `mode_eq`, `textOr_eq`: each reading, by what is said.
* `hostOf_eq_ok_iff`, `nodeIdOf_eq_ok_iff`, `nodeKeyOf_eq_ok_iff`: those that have no default.
* `Kind.Admits`, `vocabulary`: what each variable may say.
* `ofEnvironment_eq_ok_iff`: the settings that an environment is read as.
* `exists_ofEnvironment_iff`: which environments are not refused.
* `ofEnvironment_congr`: environments that say the same come to the same, be it settings or the
  cause of a refusal.
* `ofEnvironment_total`: all this of any environment, with what holds of the settings.
-/

namespace ProxyNode

namespace Text

theorem lowerChar_ne_nil (c : Char) : lowerChar c ≠ [] := by
  unfold lowerChar mapCase
  split
  · exact List.cons_ne_nil _ _
  · split
    · next several h =>
      -- only an expansion could be empty, and the one that there is has two characters
      simp only [lowerExpansions, List.lookup_cons, List.lookup_nil] at h
      split at h
      · cases h
        decide
      · cases h
    · exact List.cons_ne_nil _ _

/-- Of a text something is left in lower case. -/
theorem lower_ne_empty {s : String} (h : s ≠ "") : lower s ≠ "" := by
  obtain ⟨c, rest, hc⟩ := List.exists_cons_of_ne_nil (mt String.toList_eq_nil_iff.mp h)
  rw [lower, hc, lowerFrom, Ne, String.ofList_eq_empty_iff, List.append_eq_nil_iff]
  rintro ⟨hnil, -⟩
  split at hnil
  · cases hnil
  · exact lowerChar_ne_nil c hnil

end Text

/-- What a variable says: its stripped value, unless it is blank or the variable is not set. -/
def Environment.said (env : Environment) (name : String) : Option String :=
  (env name).bind fun s => Settings.given (Text.strip s)

namespace Settings

variable {env : Environment} {name : String}

theorem ne_of_said {raw : String} (h : env.said name = some raw) : raw ≠ "" := by
  obtain ⟨s, -, hs⟩ := Option.bind_eq_some_iff.mp h
  exact (given_eq_some_iff.mp hs).2

theorem getD_given (s : String) : (given s).getD "" = s := by
  unfold given
  split
  · next h => exact h.symm
  · rfl

theorem value_eq (env : Environment) (name : String) : env.value name = (env.said name).getD "" := by
  unfold Environment.value Environment.valueOr Environment.said
  cases env name with
  | none => rfl
  | some s => rw [Option.getD_some, Option.bind_some, getD_given]

theorem textOr_eq (env : Environment) (name : String) {default : String}
    (h : Text.strip default = default) : textOr env name default = (env.said name).getD default := by
  unfold textOr Environment.valueOr Environment.said
  cases env name with
  | some s => rw [Option.getD_some, Option.bind_some]
  | none =>
      rw [Option.getD_none, Option.bind_none, Option.getD_none, h, given]
      split <;> rfl

theorem integer?_eq (env : Environment) (name : String) :
    integer? env name = match env.said name with
      | none => .ok none
      | some raw =>
        match Numeral.read raw with
        | .ok i => .ok (some i)
        | .error _ => .error (.integer name (Text.quote raw)) := by
  unfold integer?
  rw [value_eq]
  cases h : env.said name with
  | none => rfl
  | some raw => exact if_neg (ne_of_said h)

theorem number_eq (env : Environment) (name : String) (default : Float) :
    number env name default = match env.said name with
      | none => .ok default
      | some raw =>
        match Decimal.readFloat raw with
        | some x => .ok x
        | none => .error (.number name (Text.quote raw)) := by
  unfold number
  rw [value_eq]
  cases h : env.said name with
  | none => rfl
  | some raw => exact if_neg (ne_of_said h)

theorem boolean_eq (env : Environment) (name : String) :
    boolean env name = match env.said name with
      | none => .ok false
      | some raw =>
        if Text.lower raw ∈ trueWords then .ok true
        else if Text.lower raw ∈ falseWords then .ok false
        else .error (.boolean name (Text.quote (Text.lower raw))) := by
  unfold boolean
  rw [value_eq]
  cases h : env.said name with
  | none => rfl
  | some raw => exact if_neg (Text.lower_ne_empty (ne_of_said h))

theorem mode_eq (env : Environment) (name : String) :
    mode env name = match env.said name with
      | none => .ok .tcpAndUdp
      | some raw =>
        match Mode.ofName? (Text.lower raw) with
        | some m => .ok m
        | none => .error (.choice name (Text.quote raw)) := by
  unfold mode
  rw [value_eq]
  cases h : env.said name with
  | none => rfl
  | some raw => exact if_neg (ne_of_said h)

/-! ### One reading after the other -/

section Reading

variable {α β : Type} {x : Reading α} {f : α → Reading β}

theorem bind_eq_ok_iff {b : β} : (x >>= f) = .ok b ↔ ∃ a, x = .ok a ∧ f a = .ok b := by
  cases x with
  | error cause => exact ⟨nofun, nofun⟩
  | ok a =>
      constructor
      · exact fun h => ⟨a, rfl, h⟩
      · rintro ⟨_, ⟨⟩, h⟩
        exact h

theorem exists_bind_iff :
    (∃ b, (x >>= f) = .ok b) ↔ ∃ a, x = .ok a ∧ ∃ b, f a = .ok b := by
  simp only [bind_eq_ok_iff]
  exact ⟨fun ⟨b, a, ha, hb⟩ => ⟨a, ha, b, hb⟩, fun ⟨a, ha, b, hb⟩ => ⟨b, a, ha, hb⟩⟩

theorem exists_pure {a : α} : ∃ b, (pure a : Reading α) = .ok b := ⟨a, rfl⟩

end Reading

/-! ### The variables without a default -/

theorem hostOf_eq_ok_iff {t : String} :
    hostOf env = .ok t ↔ env.value "API_HOST" = t ∧ isWebAddress t = true := by
  unfold hostOf
  dsimp only
  split
  · next h => exact ⟨fun | rfl => ⟨rfl, h⟩, fun | ⟨rfl, _⟩ => rfl⟩
  · next h => exact ⟨nofun, fun ⟨ht, hw⟩ => absurd (ht ▸ hw) h⟩

theorem nodeIdOf_eq_ok_iff {i : Int} :
    nodeIdOf env = .ok i ↔ integer? env "NODE_ID" = .ok (some i) ∧ 0 < i := by
  rw [nodeIdOf, bind_eq_ok_iff]
  constructor
  · rintro ⟨_ | k, hread, hk⟩
    · cases hk
    · dsimp only at hk
      split at hk
      · cases hk
      · next hpos =>
        cases hk
        exact ⟨hread, Int.not_le.mp hpos⟩
  · rintro ⟨hread, hpos⟩
    exact ⟨some i, hread, if_neg (Int.not_le.mpr hpos)⟩

theorem nodeKeyOf_eq_ok_iff {t : String} :
    nodeKeyOf env = .ok t ↔ env.value "NODE_KEY" = t ∧ t ≠ "" := by
  unfold nodeKeyOf
  dsimp only
  split
  · next h => exact ⟨nofun, fun ⟨ht, hne⟩ => absurd (ht ▸ h) hne⟩
  · next h => exact ⟨fun | rfl => ⟨rfl, h⟩, fun | ⟨rfl, _⟩ => rfl⟩

/-! ### What the variables may say -/

/-- What a variable may say, if it says anything. -/
inductive Kind where
  | text
  | address
  | integer
  | positive
  | number
  | truth
  | mode
  | level
  deriving DecidableEq, Repr

/-- Whether a text is of a kind. -/
def Kind.Admits : Kind → String → Prop
  | .text, _ => True
  | .address, raw => isWebAddress raw = true
  | .integer, raw => ∃ i, Numeral.read raw = .ok i
  | .positive, raw => ∃ i, Numeral.read raw = .ok i ∧ 0 < i
  | .number, raw => ∃ x, Decimal.readFloat raw = some x
  | .truth, raw => Text.lower raw ∈ trueWords ∨ Text.lower raw ∈ falseWords
  | .mode, raw => ∃ m, Mode.ofName? (Text.lower raw) = some m
  | .level, raw => Text.upper raw ∈ logLevels

/-- The variables of a node and their kinds. -/
def nodeVariables : List (String × Kind) := [
  ("API_HOST", .address), ("NODE_ID", .positive), ("NODE_KEY", .text), ("API_TIMEOUT", .number),
  ("SYNC_INTERVAL", .positive), ("REPORT_INTERVAL", .positive), ("FINAL_REPORT_TIMEOUT", .number),
  ("RETRY_ATTEMPTS", .positive), ("RETRY_BACKOFF", .number), ("RETRY_MAX_BACKOFF", .number),
  ("STATUS_HOST", .text), ("STATUS_PORT", .integer), ("SPOOL_PATH", .text), ("ENGINE", .text),
  ("LOG_LEVEL", .level)]

/-- The variables of its transport options and their kinds. -/
def transportVariables : List (String × Kind) := [
  ("SS_MODE", .mode), ("SS_TIMEOUT", .integer), ("SS_UDP_TIMEOUT", .integer),
  ("SS_NO_DELAY", .truth), ("SS_FAST_OPEN", .truth), ("SS_KEEP_ALIVE", .integer),
  ("SS_MPTCP", .truth), ("SS_DNS", .text), ("SS_IPV6_FIRST", .truth),
  ("SS_UDP_MAX_ASSOCIATIONS", .integer), ("SS_UDP_MTU", .integer),
  ("SS_TIMESTAMP_LIMIT", .integer), ("SS_COMPLY_WITH_INCOMING", .truth), ("SS_RELAY", .text)]

/-- All variables that are read. -/
def vocabulary : List (String × Kind) := nodeVariables ++ transportVariables

/-- The variables without a default. -/
def required : List String := ["API_HOST", "NODE_ID", "NODE_KEY"]

/-- Whether a variable says something of a kind, if it says anything. -/
def Fits (env : Environment) (name : String) (kind : Kind) : Prop :=
  ∀ raw, env.said name = some raw → kind.Admits raw

theorem fits_text : Fits env name .text := fun _ _ => trivial

theorem exists_integer?_iff : (∃ i, integer? env name = .ok i) ↔ Fits env name .integer := by
  unfold Fits Kind.Admits
  rw [integer?_eq]
  cases env.said name with
  | none => simp
  | some raw => cases hr : Numeral.read raw <;> simp [hr]

theorem exists_integer_iff {default : Int} :
    (∃ i, integer env name default = .ok i) ↔ Fits env name .integer := by
  rw [← exists_integer?_iff]
  unfold integer
  cases integer? env name with
  | error cause => exact ⟨nofun, nofun⟩
  | ok i => exact ⟨fun _ => ⟨i, rfl⟩, fun _ => ⟨i.getD default, rfl⟩⟩

theorem exists_number_iff {default : Float} :
    (∃ x, number env name default = .ok x) ↔ Fits env name .number := by
  unfold Fits Kind.Admits
  rw [number_eq]
  cases env.said name with
  | none => simp
  | some raw => cases hr : Decimal.readFloat raw <;> simp [hr]

theorem exists_boolean_iff : (∃ b, boolean env name = .ok b) ↔ Fits env name .truth := by
  unfold Fits Kind.Admits
  rw [boolean_eq]
  cases env.said name with
  | none => simp
  | some raw =>
      by_cases ht : Text.lower raw ∈ trueWords
      · simp [ht]
      · by_cases hf : Text.lower raw ∈ falseWords <;> simp [ht, hf]

theorem exists_mode_iff : (∃ m, mode env name = .ok m) ↔ Fits env name .mode := by
  unfold Fits Kind.Admits
  rw [mode_eq]
  cases env.said name with
  | none => simp
  | some raw => cases hr : Mode.ofName? (Text.lower raw) <;> simp [hr]

theorem exists_interval_iff :
    (∃ i, integer? env name = .ok i ∧ isInterval i = true) ↔ Fits env name .positive := by
  unfold Fits Kind.Admits
  rw [integer?_eq]
  cases env.said name with
  | none => simp [isInterval]
  | some raw => cases hr : Numeral.read raw <;> simp [hr, isInterval]

theorem exists_count_iff {default : Int} (h : 0 < default) :
    (∃ i, integer env name default = .ok i ∧ 0 < i) ↔ Fits env name .positive := by
  unfold Fits Kind.Admits integer
  rw [integer?_eq]
  cases env.said name with
  | none => simpa [Except.map] using h
  | some raw => cases hr : Numeral.read raw <;> simp [hr, Except.map]

theorem exists_host_iff :
    (∃ s, hostOf env = .ok s) ↔ env.said "API_HOST" ≠ none ∧ Fits env "API_HOST" .address := by
  unfold Fits Kind.Admits
  simp only [hostOf_eq_ok_iff, exists_eq_left', value_eq]
  cases env.said "API_HOST" with
  | none => simp [isWebAddress]
  | some raw => simp

theorem exists_nodeId_iff :
    (∃ i, nodeIdOf env = .ok i) ↔ env.said "NODE_ID" ≠ none ∧ Fits env "NODE_ID" .positive := by
  unfold Fits Kind.Admits
  simp only [nodeIdOf_eq_ok_iff, integer?_eq]
  cases env.said "NODE_ID" with
  | none => simp
  | some raw => cases hr : Numeral.read raw <;> simp [hr]

theorem exists_nodeKey_iff : (∃ s, nodeKeyOf env = .ok s) ↔ env.said "NODE_KEY" ≠ none := by
  simp only [nodeKeyOf_eq_ok_iff, exists_eq_left', value_eq]
  cases h : env.said "NODE_KEY" with
  | none => simp
  | some raw => simp [ne_of_said h]

theorem level_iff :
    Text.upper (textOr env "LOG_LEVEL" "INFO") ∈ logLevels ↔ Fits env "LOG_LEVEL" .level := by
  unfold Fits Kind.Admits
  rw [textOr_eq env "LOG_LEVEL" (by decide)]
  cases env.said "LOG_LEVEL" with
  | none => simpa using (by decide : Text.upper "INFO" ∈ logLevels)
  | some raw => simp

/-- Transport options are read just if every variable fits. -/
theorem exists_transport_iff :
    (∃ t, transportOfEnvironment env = .ok t) ↔ ∀ v ∈ transportVariables, Fits env v.1 v.2 := by
  unfold transportOfEnvironment transportVariables
  simp only [exists_bind_iff, exists_pure, and_true, exists_and_right, exists_mode_iff,
    exists_integer_iff, exists_boolean_iff, exists_integer?_iff, List.forall_mem_cons,
    List.not_mem_nil, fits_text, true_and, false_implies, implies_true]

/-- Settings whose values are the readings of their variables. -/
structure ReadFrom (env : Environment) (s : Settings) : Prop where
  host : hostOf env = .ok s.host
  nodeId : nodeIdOf env = .ok s.nodeId
  nodeKey : nodeKeyOf env = .ok s.nodeKey
  timeout : number env "API_TIMEOUT" 5.0 = .ok s.timeout
  syncInterval : integer? env "SYNC_INTERVAL" = .ok s.syncInterval
  reportInterval : integer? env "REPORT_INTERVAL" = .ok s.reportInterval
  finalReportTimeout : number env "FINAL_REPORT_TIMEOUT" 5.0 = .ok s.finalReportTimeout
  retryAttempts : integer env "RETRY_ATTEMPTS" 3 = .ok s.retryAttempts
  retryBackoff : number env "RETRY_BACKOFF" 1.0 = .ok s.retryBackoff
  retryMaxBackoff : number env "RETRY_MAX_BACKOFF" 30.0 = .ok s.retryMaxBackoff
  statusHost : s.statusHost = textOr env "STATUS_HOST" "127.0.0.1"
  statusPort : integer env "STATUS_PORT" 0 = .ok s.statusPort
  spoolPath : s.spoolPath = env.value "SPOOL_PATH"
  engine : s.engine = textOr env "ENGINE" "simulate"
  logLevel : s.logLevel = Text.upper (textOr env "LOG_LEVEL" "INFO")
  transport : transportOfEnvironment env = .ok s.transport

variable {s : Settings}

theorem unchecked_eq_ok_iff : unchecked env = .ok s ↔ ReadFrom env s := by
  unfold unchecked
  simp only [bind_eq_ok_iff]
  constructor
  · rintro ⟨_, host, _, nodeId, _, nodeKey, _, timeout, _, sync, _, report, _, final, _, attempts,
      _, backoff, _, maxBackoff, _, port, _, transport, ⟨⟩⟩
    refine ⟨host, nodeId, nodeKey, timeout, sync, report, final, attempts, backoff, maxBackoff, ?_,
      port, ?_, ?_, ?_, transport⟩ <;> dsimp only
  · intro h
    refine ⟨_, h.host, _, h.nodeId, _, h.nodeKey, _, h.timeout, _, h.syncInterval, _,
      h.reportInterval, _, h.finalReportTimeout, _, h.retryAttempts, _, h.retryBackoff, _,
      h.retryMaxBackoff, _, h.statusPort, _, h.transport, ?_⟩
    rw [← h.statusHost, ← h.spoolPath, ← h.engine, ← h.logLevel]
    rfl

/-- What is checked last. -/
structure InRange (s : Settings) : Prop where
  syncInterval : isInterval s.syncInterval = true
  reportInterval : isInterval s.reportInterval = true
  logLevel : s.logLevel ∈ logLevels
  retryAttempts : 0 < s.retryAttempts

theorem checked_eq_ok_iff {t : Settings} : checked s = .ok t ↔ t = s ∧ InRange s := by
  unfold checked
  split
  · next h => exact ⟨nofun, fun ⟨_, hr⟩ => by simp [hr.syncInterval] at h⟩
  · next hsync =>
    split
    · next h => exact ⟨nofun, fun ⟨_, hr⟩ => by simp [hr.reportInterval] at h⟩
    · next hreport =>
      split
      · next h => exact ⟨nofun, fun ⟨_, hr⟩ => absurd hr.logLevel h⟩
      · next hlevel =>
        split
        · next h => exact ⟨nofun, fun ⟨_, hr⟩ => absurd h (Int.not_lt.mpr hr.retryAttempts)⟩
        · next hattempts =>
          rw [Except.ok.injEq, eq_comm, iff_self_and]
          exact fun _ => ⟨by simpa using hsync, by simpa using hreport, Decidable.not_not.mp hlevel,
            Int.not_lt.mp hattempts⟩

/-- Settings are read just as the variables say and if all is in range. -/
theorem ofEnvironment_eq_ok_iff : ofEnvironment env = .ok s ↔ ReadFrom env s ∧ InRange s := by
  unfold ofEnvironment
  simp only [bind_eq_ok_iff, unchecked_eq_ok_iff, checked_eq_ok_iff]
  constructor
  · rintro ⟨t, hread, rfl, hrange⟩
    exact ⟨hread, hrange⟩
  · exact fun ⟨hread, hrange⟩ => ⟨s, hread, rfl, hrange⟩

/-! ### All of an environment -/

/-- The settings that a node can work with. -/
structure Usable (s : Settings) : Prop where
  host : "http://".toList <+: s.host.toList ∨ "https://".toList <+: s.host.toList
  nodeId : 0 < s.nodeId
  nodeKey : s.nodeKey ≠ ""
  syncInterval : s.syncInterval = none ∨ ∃ i, s.syncInterval = some i ∧ 0 < i
  reportInterval : s.reportInterval = none ∨ ∃ i, s.reportInterval = some i ∧ 0 < i
  retryAttempts : 1 ≤ s.retryAttempts
  logLevel : s.logLevel ∈ ["DEBUG", "INFO", "WARNING", "ERROR", "CRITICAL"]
  mode : s.transport.mode.name ∈ ["tcp_only", "udp_only", "tcp_and_udp"]

theorem isWebAddress_iff {t : String} :
    isWebAddress t = true ↔ "http://".toList <+: t.toList ∨ "https://".toList <+: t.toList := by
  rw [isWebAddress, Bool.or_eq_true, List.isPrefixOf_iff_prefix, List.isPrefixOf_iff_prefix]

theorem isInterval_iff {i : Option Int} :
    isInterval i = true ↔ i = none ∨ ∃ k, i = some k ∧ 0 < k := by
  cases i <;> simp [isInterval]

theorem usable_of_ofEnvironment (h : ofEnvironment env = .ok s) : s.Usable := by
  obtain ⟨hread, hrange⟩ := ofEnvironment_eq_ok_iff.mp h
  exact {
    host := isWebAddress_iff.mp (hostOf_eq_ok_iff.mp hread.host).2
    nodeId := (nodeIdOf_eq_ok_iff.mp hread.nodeId).2
    nodeKey := (nodeKeyOf_eq_ok_iff.mp hread.nodeKey).2
    syncInterval := isInterval_iff.mp hrange.syncInterval
    reportInterval := isInterval_iff.mp hrange.reportInterval
    retryAttempts := hrange.retryAttempts
    logLevel := hrange.logLevel
    mode := by cases s.transport.mode <;> decide }

/-- Where settings were read, every variable fits and those without a default say something. -/
theorem fits_of_ofEnvironment (h : ofEnvironment env = .ok s) :
    (∀ name ∈ required, env.said name ≠ none) ∧ ∀ v ∈ vocabulary, Fits env v.1 v.2 := by
  obtain ⟨hread, hrange⟩ := ofEnvironment_eq_ok_iff.mp h
  obtain ⟨hhost, hhost'⟩ := exists_host_iff.mp ⟨_, hread.host⟩
  obtain ⟨hid, hid'⟩ := exists_nodeId_iff.mp ⟨_, hread.nodeId⟩
  have hkey := exists_nodeKey_iff.mp ⟨_, hread.nodeKey⟩
  refine ⟨by simp [required, hhost, hid, hkey], ?_⟩
  rw [vocabulary, List.forall_mem_append]
  refine ⟨?_, exists_transport_iff.mp ⟨_, hread.transport⟩⟩
  simp only [nodeVariables, List.forall_mem_cons, List.not_mem_nil, fits_text, true_and,
    false_implies, implies_true, and_true]
  exact ⟨hhost', hid', exists_number_iff.mp ⟨_, hread.timeout⟩,
    exists_interval_iff.mp ⟨_, hread.syncInterval, hrange.syncInterval⟩,
    exists_interval_iff.mp ⟨_, hread.reportInterval, hrange.reportInterval⟩,
    exists_number_iff.mp ⟨_, hread.finalReportTimeout⟩,
    (exists_count_iff (by decide)).mp ⟨_, hread.retryAttempts, hrange.retryAttempts⟩,
    exists_number_iff.mp ⟨_, hread.retryBackoff⟩,
    exists_number_iff.mp ⟨_, hread.retryMaxBackoff⟩,
    exists_integer_iff.mp ⟨_, hread.statusPort⟩,
    level_iff.mp (hread.logLevel ▸ hrange.logLevel)⟩

/-- Where all this is so, settings are read. -/
theorem ofEnvironment_of_fits (hrequired : ∀ name ∈ required, env.said name ≠ none)
    (hfits : ∀ v ∈ vocabulary, Fits env v.1 v.2) : ∃ s, ofEnvironment env = .ok s := by
  -- Each variable that fits has a reading, and the settings are put together from these.
  have hfit (name : String) (kind : Kind) (h : (name, kind) ∈ vocabulary) : Fits env name kind :=
    hfits (name, kind) h
  obtain ⟨host, hhost⟩ := exists_host_iff.mpr
    ⟨hrequired "API_HOST" (by decide), hfit "API_HOST" .address (by decide)⟩
  obtain ⟨nodeId, hnodeId⟩ := exists_nodeId_iff.mpr
    ⟨hrequired "NODE_ID" (by decide), hfit "NODE_ID" .positive (by decide)⟩
  obtain ⟨nodeKey, hnodeKey⟩ := exists_nodeKey_iff.mpr (hrequired "NODE_KEY" (by decide))
  obtain ⟨timeout, htimeout⟩ := exists_number_iff.mpr (hfit "API_TIMEOUT" .number (by decide))
  obtain ⟨sync, hsync, hsync'⟩ :=
    exists_interval_iff.mpr (hfit "SYNC_INTERVAL" .positive (by decide))
  obtain ⟨report, hreport, hreport'⟩ :=
    exists_interval_iff.mpr (hfit "REPORT_INTERVAL" .positive (by decide))
  obtain ⟨final, hfinal⟩ :=
    exists_number_iff.mpr (hfit "FINAL_REPORT_TIMEOUT" .number (by decide))
  have hthree : (0 : Int) < 3 := by decide
  obtain ⟨attempts, hattempts, hattempts'⟩ :=
    (exists_count_iff hthree).mpr (hfit "RETRY_ATTEMPTS" .positive (by decide))
  obtain ⟨backoff, hbackoff⟩ :=
    exists_number_iff.mpr (hfit "RETRY_BACKOFF" .number (by decide))
  obtain ⟨maxBackoff, hmaxBackoff⟩ :=
    exists_number_iff.mpr (hfit "RETRY_MAX_BACKOFF" .number (by decide))
  obtain ⟨port, hport⟩ := exists_integer_iff.mpr (hfit "STATUS_PORT" .integer (by decide))
  obtain ⟨transport, htransport⟩ := exists_transport_iff.mpr fun v hv =>
    hfits v (List.mem_append_right nodeVariables hv)
  refine ⟨⟨host, nodeId, nodeKey, timeout, sync, report, final, attempts, backoff, maxBackoff,
      textOr env "STATUS_HOST" "127.0.0.1", port, env.value "SPOOL_PATH",
      textOr env "ENGINE" "simulate", Text.upper (textOr env "LOG_LEVEL" "INFO"), transport⟩,
    ofEnvironment_eq_ok_iff.mpr ⟨⟨hhost, hnodeId, hnodeKey, htimeout, hsync, hreport, hfinal,
      hattempts, hbackoff, hmaxBackoff, ?_, hport, ?_, ?_, ?_, htransport⟩,
      ⟨hsync', hreport', level_iff.mpr (hfit "LOG_LEVEL" .level (by decide)), hattempts'⟩⟩⟩
      <;> dsimp only

/-- Settings are read just if every variable fits and those without a default say something. -/
theorem exists_ofEnvironment_iff :
    (∃ s, ofEnvironment env = .ok s)
      ↔ (∀ name ∈ required, env.said name ≠ none) ∧ ∀ v ∈ vocabulary, Fits env v.1 v.2 :=
  ⟨fun ⟨_, h⟩ => fits_of_ofEnvironment h,
    fun ⟨hrequired, hfits⟩ => ofEnvironment_of_fits hrequired hfits⟩

theorem transportOfEnvironment_congr {env' : Environment}
    (h : ∀ v ∈ transportVariables, env'.said v.1 = env.said v.1) :
    transportOfEnvironment env' = transportOfEnvironment env := by
  simp only [transportVariables, List.forall_mem_cons, List.not_mem_nil, false_implies,
    implies_true, and_true] at h
  simp only [transportOfEnvironment, mode_eq, integer, integer?_eq, boolean_eq, value_eq, h]

/-- Environments in which every variable says the same are read alike. -/
theorem ofEnvironment_congr {env' : Environment}
    (h : ∀ v ∈ vocabulary, env'.said v.1 = env.said v.1) : ofEnvironment env' = ofEnvironment env := by
  rw [vocabulary, List.forall_mem_append] at h
  obtain ⟨hnode, htransport⟩ := h
  have hhost : Text.strip "127.0.0.1" = "127.0.0.1" := by decide
  have hengine : Text.strip "simulate" = "simulate" := by decide
  have hlevel : Text.strip "INFO" = "INFO" := by decide
  simp only [nodeVariables, List.forall_mem_cons, List.not_mem_nil, false_implies, implies_true,
    and_true] at hnode
  simp only [ofEnvironment, unchecked, hostOf, nodeIdOf, nodeKeyOf, integer, integer?_eq, number_eq,
    value_eq, textOr_eq _ _ hhost, textOr_eq _ _ hengine, textOr_eq _ _ hlevel, hnode,
    transportOfEnvironment_congr htransport]

/-- How an environment is read, whatever is in it. -/
structure Total (env : Environment) : Prop where
  /-- What is returned are settings that a node can work with; there is nothing else but the causes
  for which an environment is not usable. -/
  usable : ∀ s, ofEnvironment env = .ok s → s.Usable
  /-- Settings are returned just if the variables without a default say something, and every
  variable that says something says what it may. -/
  accepts : (∃ s, ofEnvironment env = .ok s)
    ↔ (∀ name ∈ required, env.said name ≠ none)
      ∧ ∀ v ∈ vocabulary, ∀ raw, env.said v.1 = some raw → v.2.Admits raw
  /-- Another environment in which these variables are the same once stripped, a blank value being
  as good as none, is read as the same settings or refused for the same cause. -/
  stripped : ∀ env' : Environment, (∀ v ∈ vocabulary, env'.said v.1 = env.said v.1) →
    ofEnvironment env' = ofEnvironment env

/-- Whatever is in an environment, it is read as settings that a node can work with or refused for a
cause that can be told, and only what the variables say matters. -/
theorem ofEnvironment_total (env : Environment) : Total env where
  usable _ := usable_of_ofEnvironment
  accepts := exists_ofEnvironment_iff
  stripped _ := ofEnvironment_congr

end Settings

end ProxyNode
