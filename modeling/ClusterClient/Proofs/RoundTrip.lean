import ClusterClient.Config.Json
import ClusterClient.Proofs.Encoding
import ClusterClient.Proofs.Spelling
import ClusterClient.Topology.Wire
import Mathlib.Data.List.Forall2

namespace ClusterClient

open Json (Doc Value Fields)

namespace Json

/-- Whether a reader makes `x` of whatever a value is spelled as. -/
def Value.IsReadAs (v : Value) (read : Doc → Option α) (x : α) : Prop :=
  ∃ doc, v.Spells doc ∧ read doc = some x

theorem integer?_ofInt {i : Int} (low : -(2 ^ 63) ≤ i) (high : i < 2 ^ 64) :
    (Numeral.ofInt i).integer? = some i := by
  have value := digitsValue_digitsOf i.natAbs
  have bound : wordBound = 2 ^ 64 := rfl
  rw [Numeral.integer?, if_pos ⟨rfl, rfl⟩]
  simp only [Numeral.ofInt, value, bound, decide_eq_true_eq]
  split
  · rw [if_pos (by omega)]
    exact congrArg some (by omega)
  · rw [if_pos (by omega)]
    exact congrArg some (by omega)

theorem intBetween?_ofInt {low high i : Int} (least : -(2 ^ 63) ≤ low) (most : high < 2 ^ 64)
    (within : low ≤ i ∧ i ≤ high) :
    (Doc.number (.ofInt i)).intBetween? low high = some i := by
  have exact := integer?_ofInt (i := i) (by omega) (by omega)
  simp only [Doc.intBetween?, exact, Option.bind_eq_bind, Option.bind_some, if_pos within]

theorem isReadAs_int64 (i : Int64) : (Value.int i.toInt).IsReadAs Doc.int64? i := by
  have low := i.minValue_le_toInt
  have high := i.toInt_le
  refine ⟨_, spells_int _, ?_⟩
  have within : Int64.minValue.toInt ≤ i.toInt ∧ i.toInt ≤ Int64.maxValue.toInt :=
    ⟨by simpa using low, by simpa using high⟩
  rw [Doc.int64?, intBetween?_ofInt (by decide) (by decide) within]
  simp

theorem isReadAs_uint64 (n : UInt64) : (Value.nat n.toNat).IsReadAs Doc.uint64? n := by
  have high := n.toNat_lt
  have within : (0 : Int) ≤ n.toNat ∧ (n.toNat : Int) ≤ UInt64.size - 1 := by
    simp only [UInt64.size]
    omega
  refine ⟨_, spells_int _, ?_⟩
  rw [Doc.uint64?, intBetween?_ofInt (by decide) (by decide) within]
  simp

theorem isReadAs_uint16 (n : UInt16) : (Value.nat n.toNat).IsReadAs Doc.uint16? n := by
  have high := n.toNat_lt
  have within : (0 : Int) ≤ n.toNat ∧ (n.toNat : Int) ≤ UInt16.size - 1 := by
    simp only [UInt16.size]
    omega
  refine ⟨_, spells_int _, ?_⟩
  rw [Doc.uint16?, intBetween?_ofInt (by decide) (by decide) within]
  simp

theorem isReadAs_text (s : String) : (Value.string s).IsReadAs Doc.text? s :=
  ⟨_, spells_string s, text?_literal s⟩

theorem isReadAs_bool (b : Bool) : (Value.bool b).IsReadAs Doc.bool? b :=
  ⟨_, spells_bool b, rfl⟩

theorem isReadAs_option (o : Option String) :
    (Value.optional o).IsReadAs (Doc.option? Doc.text?) o := by
  cases o with
  | none => exact ⟨_, spells_null, rfl⟩
  | some s =>
      refine ⟨_, spells_string s, ?_⟩
      simp [Doc.option?, Doc.text?, text?_literal]

theorem isReadAs_case {ofName? : String → Option α} {name : α → String} {x : α}
    (named : ofName? (name x) = some x) :
    (Value.string (name x)).IsReadAs (fun doc => doc.caseName?.bind ofName?) x := by
  refine ⟨_, spells_string _, ?_⟩
  simp [Doc.caseName?, text?_literal, named]

theorem isReadAs_list {write : α → Value} {read : Doc → Option α} {xs : List α}
    (each : ∀ x ∈ xs, (write x).IsReadAs read x) :
    (Value.array (xs.map write)).IsReadAs (Doc.list? read) xs := by
  suffices ∃ docs, List.Forall₂ Value.Spells (xs.map write) docs ∧ docs.mapM read = some xs by
    obtain ⟨docs, spelled, all⟩ := this
    exact ⟨_, spells_array spelled, all⟩
  induction xs with
  | nil => exact ⟨[], .nil, rfl⟩
  | cons x xs ih =>
      obtain ⟨doc, spelled, first⟩ := each x List.mem_cons_self
      obtain ⟨docs, others, rest⟩ := ih fun y member => each y (List.mem_cons_of_mem _ member)
      exact ⟨doc :: docs, .cons spelled others, by simp [first, rest]⟩

@[simp] theorem Fields.required_cons (field : String × Doc) (fields : Fields) (name : String)
    (read : Doc → Option α) : Fields.required (field :: fields) name read =
      if field.1 = name then read field.2 else fields.required name read := by
  by_cases same : field.1 = name <;> simp [Fields.required, Fields.find?, same]

@[simp] theorem Fields.optional_nil (name : String) (default : α) (read : Doc → Option α) :
    Fields.optional [] name default read = some default := rfl

@[simp] theorem Fields.optional_cons (field : String × Doc) (fields : Fields) (name : String)
    (default : α) (read : Doc → Option α) : Fields.optional (field :: fields) name default read =
      if field.1 = name then read field.2 else fields.optional name default read := by
  by_cases same : field.1 = name <;> simp [Fields.optional, Fields.find?, same]

theorem mapM_map_eq_some {write : α → β} {read : β → Option α}
    (each : ∀ x, read (write x) = some x) (xs : List α) : (xs.map write).mapM read = some xs := by
  induction xs with
  | nil => rfl
  | cons x xs ih => simp [each x, ih]

theorem ofMembers?_spelledMembers {names : List String} {members : List (String × Doc)}
    (known : ∀ m ∈ members, m.1 ∈ names) (distinct : (members.map (·.1)).Nodup) :
    Fields.ofMembers? names (spelledMembers members) = some members := by
  induction members with
  | nil => rfl
  | cons member members ih =>
      obtain ⟨name, doc⟩ := member
      have knownName : name ∈ names := known (name, doc) List.mem_cons_self
      rw [List.map_cons, List.nodup_cons] at distinct
      have others := ih (fun m member => known m (List.mem_cons_of_mem _ member)) distinct.2
      have fresh : members.find? (·.1 = name) = none := by
        rw [List.find?_eq_none]
        intro m member
        have apart : m.1 ≠ name := fun eq => distinct.1 (List.mem_map.2 ⟨m, member, eq⟩)
        simpa using apart
      rw [spelledMembers] at others
      simp [spelledMembers, Fields.ofMembers?, text?_literal, others, knownName, fresh]

theorem spells_optional (name : String) (o : Option String) :
    ∃ docs, List.Forall₂ SpellsMember (o.toList.map fun s => (name, .string s)) docs ∧
      (docs = [] ∧ o = none ∨ ∃ doc, docs = [(name, doc)] ∧ doc.option? Doc.text? = some o) := by
  cases o with
  | none => exact ⟨[], .nil, .inl ⟨rfl, rfl⟩⟩
  | some s =>
      obtain ⟨doc, spelled, read⟩ := isReadAs_option (some s)
      exact ⟨[(name, doc)], .cons (spellsMember name spelled) .nil, .inr ⟨doc, rfl, read⟩⟩

theorem isReadAs_record {names : List String} {members : List (String × Value)}
    {docs : List (String × Doc)} {read : Fields → Option α} {x : α}
    (spelled : List.Forall₂ SpellsMember members docs) (known : ∀ m ∈ docs, m.1 ∈ names)
    (distinct : (docs.map (·.1)).Nodup) (made : read docs = some x) :
    (Value.object members).IsReadAs (fun doc => (Fields.ofDoc? names doc).bind read) x := by
  -- A record is read from its members, if it knows them all and none is repeated.
  refine ⟨_, spells_object spelled, ?_⟩
  show (Fields.ofMembers? names (spelledMembers docs)).bind read = some x
  rw [ofMembers?_spelledMembers known distinct, Option.bind_some, made]

end Json

theorem Role.isReadAs (r : Role) : (Value.string r.wireName).IsReadAs Role.ofDoc? r :=
  Json.isReadAs_case (Role.ofWireName?_wireName r)

theorem Node.isReadAs (n : Node) : n.toValue.IsReadAs Node.ofDoc? n := by
  obtain ⟨url, urlSpelled, urlRead⟩ := Json.isReadAs_text n.url
  obtain ⟨tag, tagSpelled, tagRead⟩ := Json.isReadAs_text n.tag
  obtain ⟨database, databaseSpelled, databaseRead⟩ := Json.isReadAs_option n.database
  obtain ⟨role, roleSpelled, roleRead⟩ := Role.isReadAs n.role
  have spelled : List.Forall₂ Json.SpellsMember _ _ :=
    .cons (Json.spellsMember "Url" urlSpelled) <|
    .cons (Json.spellsMember "ClusterTag" tagSpelled) <|
    .cons (Json.spellsMember "Database" databaseSpelled) <|
    .cons (Json.spellsMember "ServerRole" roleSpelled) .nil
  refine Json.isReadAs_record spelled (by simp [fieldNames]) (by simp) ?_
  simp [urlRead, tagRead, databaseRead, roleRead]

theorem Topology.isReadAs (t : Topology) : t.toValue.IsReadAs Topology.ofDoc? t := by
  obtain ⟨nodes, nodesSpelled, nodesRead⟩ := Json.isReadAs_list fun n (_ : n ∈ t.nodes) =>
    n.isReadAs
  obtain ⟨etag, etagSpelled, etagRead⟩ := Json.isReadAs_int64 t.etag
  obtain ⟨leader, leaderSpelled, present⟩ := Json.spells_optional "leader" t.leader
  have spelled : List.Forall₂ Json.SpellsMember _ _ :=
    .cons (Json.spellsMember "nodes" nodesSpelled) <|
    .cons (Json.spellsMember "etag" etagSpelled) leaderSpelled
  rcases present with ⟨rfl, absent⟩ | ⟨doc, rfl, leaderRead⟩
  · refine Json.isReadAs_record spelled (by simp [fieldNames]) (by simp) ?_
    simp [nodesRead, etagRead, ← absent]
  · refine Json.isReadAs_record spelled (by simp [fieldNames]) (by simp) ?_
    simp [nodesRead, etagRead, leaderRead]

theorem DatabaseReport.isReadAs (r : DatabaseReport) :
    r.toValue.IsReadAs DatabaseReport.ofDoc? r := by
  obtain ⟨nodes, nodesSpelled, nodesRead⟩ := Json.isReadAs_list fun n (_ : n ∈ r.nodes) =>
    n.isReadAs
  obtain ⟨etag, etagSpelled, etagRead⟩ := Json.isReadAs_int64 r.etag
  have spelled : List.Forall₂ Json.SpellsMember _ _ :=
    .cons (Json.spellsMember "Nodes" nodesSpelled) <|
    .cons (Json.spellsMember "Etag" etagSpelled) .nil
  refine Json.isReadAs_record spelled (by simp [fieldNames]) (by simp) ?_
  simp [nodesRead, etagRead]

theorem Roster.isReadAs (r : Roster) : r.toValue.IsReadAs Roster.ofDoc? r := by
  -- The reader puts the members of an object in order, in which those of a roster are.
  have member (entry : String × String) :
      Json.SpellsMember (entry.1, .string entry.2) (entry.1, .string (Json.literal entry.2)) :=
    Json.spellsMember entry.1 (Json.spells_string entry.2)
  let docs := r.entries.map fun entry => (entry.1, Doc.string (Json.literal entry.2))
  have spelled : List.Forall₂ Json.SpellsMember
      (r.entries.map fun entry => (entry.1, .string entry.2)) docs := by
    rw [List.forall₂_map_left_iff, List.forall₂_map_right_iff, List.forall₂_same]
    exact fun entry _ => member entry
  have read : (Doc.object (Json.spelledMembers docs)).texts? = some r.entries := by
    rw [Json.spelledMembers, List.map_map, Doc.texts?, Json.mapM_map_eq_some]
    · exact congrArg some (Rising.ofList_eq_self r.rising)
    · intro entry
      simp [Doc.text?, Json.text?_literal]
  refine ⟨_, Json.spells_object spelled, ?_⟩
  rw [Roster.ofDoc?, read]
  exact congrArg some r.ofList_entries

theorem Membership.isReadAs (m : Membership) : m.toValue.IsReadAs Membership.ofDoc? m := by
  obtain ⟨members, membersSpelled, membersRead⟩ := m.members.isReadAs
  obtain ⟨promotables, promotablesSpelled, promotablesRead⟩ := m.promotables.isReadAs
  obtain ⟨watchers, watchersSpelled, watchersRead⟩ := m.watchers.isReadAs
  have spelled : List.Forall₂ Json.SpellsMember _ _ :=
    .cons (Json.spellsMember "Members" membersSpelled) <|
    .cons (Json.spellsMember "Promotables" promotablesSpelled) <|
    .cons (Json.spellsMember "Watchers" watchersSpelled) .nil
  refine Json.isReadAs_record spelled (by simp [fieldNames]) (by simp) ?_
  simp [membersRead, promotablesRead, watchersRead]

theorem ClusterReport.isReadAs (r : ClusterReport) :
    r.toValue.IsReadAs ClusterReport.ofDoc? r := by
  obtain ⟨leader, leaderSpelled, leaderRead⟩ := Json.isReadAs_option r.leader
  obtain ⟨etag, etagSpelled, etagRead⟩ := Json.isReadAs_int64 r.etag
  obtain ⟨membership, membershipSpelled, membershipRead⟩ := r.membership.isReadAs
  have spelled : List.Forall₂ Json.SpellsMember _ _ :=
    .cons (Json.spellsMember "Leader" leaderSpelled) <|
    .cons (Json.spellsMember "Etag" etagSpelled) <|
    .cons (Json.spellsMember "Topology" membershipSpelled) .nil
  refine Json.isReadAs_record spelled (by simp [fieldNames]) (by simp) ?_
  simp [leaderRead, etagRead, membershipRead]

theorem StatusPolicy.isReadAs (p : StatusPolicy) : p.toValue.IsReadAs StatusPolicy.ofDoc? p := by
  obtain ⟨retryable, retryableSpelled, retryableRead⟩ :=
    Json.isReadAs_list fun status (_ : status ∈ p.retryable) => Json.isReadAs_uint16 status
  obtain ⟨refreshing, refreshingSpelled, refreshingRead⟩ :=
    Json.isReadAs_list fun status (_ : status ∈ p.refreshing) => Json.isReadAs_uint16 status
  have spelled : List.Forall₂ Json.SpellsMember _ _ :=
    .cons (Json.spellsMember "retryable_statuses" retryableSpelled) <|
    .cons (Json.spellsMember "refresh_statuses" refreshingSpelled) .nil
  refine Json.isReadAs_record spelled (by simp [fieldNames]) (by simp) ?_
  simp [retryableRead, refreshingRead]

theorem Config.isReadAs (c : Config) : c.toValue.IsReadAs Config.ofDoc? c := by
  obtain ⟨urls, urlsSpelled, urlsRead⟩ :=
    Json.isReadAs_list fun url (_ : url ∈ c.urls) => Json.isReadAs_text url
  obtain ⟨database, databaseSpelled, databaseRead⟩ := Json.isReadAs_option c.database
  obtain ⟨balance, balanceSpelled, balanceRead⟩ :=
    Json.isReadAs_case (ReadBalance.ofName?_name c.readBalance)
  obtain ⟨mode, modeSpelled, modeRead⟩ :=
    Json.isReadAs_case (ClusterMode.ofName?_name c.clusterMode)
  obtain ⟨timeout, timeoutSpelled, timeoutRead⟩ := Json.isReadAs_uint64 c.requestTimeout
  obtain ⟨interval, intervalSpelled, intervalRead⟩ := Json.isReadAs_uint64 c.refreshInterval
  obtain ⟨updates, updatesSpelled, updatesRead⟩ := Json.isReadAs_bool c.topologyUpdates
  obtain ⟨cache, cacheSpelled, cacheRead⟩ := Json.isReadAs_bool c.cacheEnabled
  obtain ⟨age, ageSpelled, ageRead⟩ := Json.isReadAs_uint64 c.cacheMaxAge
  obtain ⟨statuses, statusesSpelled, statusesRead⟩ := c.statuses.isReadAs
  obtain ⟨key, keySpelled, present⟩ := Json.spells_optional "api_key" c.apiKey
  have spelled : List.Forall₂ Json.SpellsMember _ _ :=
    .cons (Json.spellsMember "urls" urlsSpelled) <|
    .cons (Json.spellsMember "database" databaseSpelled) <|
    .cons (Json.spellsMember "read_balance" balanceSpelled) <|
    .cons (Json.spellsMember "cluster_mode" modeSpelled) <|
    .cons (Json.spellsMember "request_timeout_ms" timeoutSpelled) <|
    .cons (Json.spellsMember "topology_refresh_interval_ms" intervalSpelled) <|
    .cons (Json.spellsMember "topology_updates" updatesSpelled) <|
    .cons (Json.spellsMember "cache_enabled" cacheSpelled) <|
    .cons (Json.spellsMember "cache_max_age_ms" ageSpelled) <|
    .cons (Json.spellsMember "failover" statusesSpelled) keySpelled
  have balanceRead : ReadBalance.ofDoc? balance = some c.readBalance := balanceRead
  have modeRead : ClusterMode.ofDoc? mode = some c.clusterMode := modeRead
  rcases present with ⟨rfl, absent⟩ | ⟨doc, rfl, keyRead⟩
  · refine Json.isReadAs_record spelled (by simp [fieldNames]) (by simp) ?_
    simp [urlsRead, databaseRead, balanceRead, modeRead,
      timeoutRead, intervalRead, updatesRead, cacheRead, ageRead, statusesRead, ← absent]
  · refine Json.isReadAs_record spelled (by simp [fieldNames]) (by simp) ?_
    simp [urlsRead, databaseRead, balanceRead, modeRead,
      timeoutRead, intervalRead, updatesRead, cacheRead, ageRead, statusesRead, keyRead]

/-- The text of a value is read as the value, from its characters and from its bytes, and the
value that is read has that text again. -/
structure RoundTrips (write : α → Value) (read : Doc → Option α) (x : α) : Prop where
  parsed : (Doc.ofText? (write x).compact).bind read = some x
  received : (Doc.ofBytes? (Text.Utf8.encode (write x).compact)).bind read = some x
  rewritten {y : α} : (Doc.ofText? (write x).compact).bind read = some y →
    (write y).compact = (write x).compact

theorem Json.Value.IsReadAs.roundTrips {write : α → Value} {read : Doc → Option α} {x : α}
    (isRead : (write x).IsReadAs read x) : RoundTrips write read x := by
  obtain ⟨doc, spelled, made⟩ := isRead
  have parsed : (Doc.ofText? (write x).compact).bind read = some x := by
    rw [spelled.ofText?, Option.bind_some, made]
  refine ⟨parsed, ?_, ?_⟩
  · rwa [Doc.ofBytes?, Text.Utf8.decode_encode]
  · intro y again
    rw [parsed, Option.some.injEq] at again
    rw [again]

theorem wire_shapes_roundTrip :
    (∀ n : Node, RoundTrips Node.toValue Node.ofDoc? n) ∧
      (∀ t : Topology, RoundTrips Topology.toValue Topology.ofDoc? t) ∧
      (∀ r : DatabaseReport, RoundTrips DatabaseReport.toValue DatabaseReport.ofDoc? r) ∧
      (∀ r : ClusterReport, RoundTrips ClusterReport.toValue ClusterReport.ofDoc? r) ∧
      (∀ c : Config, RoundTrips Config.toValue Config.ofDoc? c) ∧
      ∀ c : Config, Config.ofJson c.toValue.compact = c.validate := by
  refine ⟨fun n => n.isReadAs.roundTrips, fun t => t.isReadAs.roundTrips,
    fun r => r.isReadAs.roundTrips, fun r => r.isReadAs.roundTrips,
    fun c => c.isReadAs.roundTrips, fun c => ?_⟩
  have parsed := c.isReadAs.roundTrips.parsed
  rw [Config.ofJson, parsed]

end ClusterClient
