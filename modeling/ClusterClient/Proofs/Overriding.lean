import ClusterClient.CommandLine.Run
import ClusterClient.Proofs.Validation

namespace ClusterClient

namespace CommandLine.Connection

def written? (c : Connection) (read : String → Option Config) (configText : Option String) :
    Option Config :=
  match c.config, configText with
  | none, _ => some {}
  | some _, none => none
  | some _, some text => read text

/-- Whether a configuration is another one with each given flag in place of its field. -/
structure Merges (c : Connection) (base merged : Config) : Prop where
  urls : merged.urls = if c.urls = [] then base.urls else c.urls
  database : merged.database = if c.database = none then base.database else c.database
  readBalance : merged.readBalance = c.readBalance.getD base.readBalance
  apiKey : merged.apiKey = if c.apiKey = none then base.apiKey else c.apiKey
  rest : merged = { base with
    urls := merged.urls
    database := merged.database
    readBalance := merged.readBalance
    apiKey := merged.apiKey }

theorem merges_iff {c : Connection} {base merged : Config} :
    c.Merges base merged ↔ merged = c.override base := by
  have given (flag written : Option String) :
      (if flag = none then written else flag) = flag.or written := by
    cases flag <;> rfl
  constructor
  · rintro ⟨urls, database, readBalance, apiKey, rest⟩
    rw [given] at database apiKey
    refine rest.trans ?_
    rw [urls, database, readBalance, apiKey]
    simp only [override, List.isEmpty_iff]
  · rintro rfl
    constructor
    case urls => simp only [override, List.isEmpty_iff]
    case database => exact (given _ _).symm
    case readBalance => rfl
    case apiKey => exact (given _ _).symm
    case rest => rfl

/-- Whether a flag is given for the field that a fault of a configuration is about. -/
def Supplies (c : Connection) : Fault → Prop
  | .config .noUrls | .invalidUrl _ => c.urls ≠ []
  | .config .blankDatabase => c.database.isSome
  | _ => False

theorem supplies_of_override {c : Connection} {base : Config} {fault : Fault}
    (merged : (c.override base).fault? = none) (alone : base.fault? = some fault) :
    c.Supplies fault := by
  -- A field that no flag is given for is the same in the merge, which has no fault there.
  obtain ⟨urls, schemes, database, timeout, interval, statuses⟩ :=
    (Config.fault?_eq_none_iff _).1 merged
  have kept (unnamed : c.urls = []) : (c.override base).urls = base.urls := by
    simp [override, unnamed]
  rw [Config.fault?] at alone
  split at alone
  · rename_i empty
    cases alone
    intro unnamed
    rw [kept unnamed] at urls
    exact urls (List.isEmpty_iff.1 empty)
  split at alone
  · rename_i url found
    cases alone
    intro unnamed
    rw [kept unnamed] at schemes
    have bad := List.find?_some found
    simp [schemes url (List.mem_of_find?_eq_some found)] at bad
  split at alone
  · rename_i blank
    cases alone
    show c.database.isSome
    cases named : c.database with
    | some name => rfl
    | none => simp [override, named, blank] at database
  have timeout : base.requestTimeout ≠ 0 := timeout
  have interval : (base.topologyUpdates && base.refreshInterval == 0) = false := interval
  have statuses : base.statuses.firstReserved? = none := statuses
  simp [timeout, interval, statuses] at alone

def merge (c : Connection) (base : Config) : Except Complaint Config :=
  if (c.override base).urls.isEmpty then .error .noUrls
  else (c.override base).validate.mapError .fault

theorem merge_eq_ok_iff {c : Connection} {base config : Config} :
    c.merge base = .ok config ↔ (c.override base).fault? = none ∧ config = c.override base := by
  rw [merge]
  split
  · rename_i empty
    have faulty : (c.override base).fault? ≠ none := fun faultless =>
      ((Config.fault?_eq_none_iff _).1 faultless).1 (List.isEmpty_iff.1 empty)
    simp [faulty]
  · rw [← Config.validate_eq_ok_iff]
    cases (c.override base).validate <;> simp [Except.mapError]

section
variable {c : Connection} {read : String → Option Config} {path text : String}

theorem toConfig_unnamed (unnamed : c.config = none) (read : String → Option Config)
    (configText : Option String) :
    c.toConfig read configText = c.merge {} := by
  rw [toConfig, unnamed]
  rfl

theorem toConfig_unreadable (named : c.config = some path) (read : String → Option Config) :
    c.toConfig read none = .error (.unreadableConfig path) := by
  rw [toConfig, named]
  rfl

theorem toConfig_malformed (named : c.config = some path)
    (malformed : read text = none) :
    c.toConfig read (some text) = .error (.invalidConfig path (.config .malformedYaml)) := by
  have refused : Config.ofText read text = .error (.config .malformedYaml) := by
    simp [Config.ofText, malformed]
  simp [toConfig, named, refused, Except.mapError, bind, Except.bind]

theorem toConfig_written (named : c.config = some path) {base : Config}
    (written : read text = some base) :
    c.toConfig read (some text) =
      match base.fault? with
      | some fault => .error (.invalidConfig path fault)
      | none => c.merge base := by
  have judged : Config.ofText read text = base.validate := by
    simp [Config.ofText, written]
  rw [toConfig, named]
  simp only [judged, Config.validate]
  cases base.fault? <;> rfl

end

theorem toConfig_eq_ok_iff {c : Connection} {read : String → Option Config}
    {configText : Option String} {config : Config} :
    c.toConfig read configText = .ok config ↔
      ∃ base, c.written? read configText = some base ∧ (c.config = none ∨ base.fault? = none) ∧
        (c.override base).fault? = none ∧ config = c.override base := by
  cases named : c.config with
  | none =>
      rw [toConfig_unnamed named, merge_eq_ok_iff]
      simp [written?, named]
  | some path =>
      cases configText with
      | none => simp [toConfig_unreadable named, written?, named]
      | some text =>
          cases written : read text with
          | none => simp [toConfig_malformed named written, written?, named, written]
          | some base =>
              rw [toConfig_written named written]
              cases alone : base.fault? with
              | none => simp [merge_eq_ok_iff, written?, named, written, alone]
              | some fault => simp [written?, named, written, alone]

theorem unnamed_of_noUrls {c : Connection} {read : String → Option Config}
    {configText : Option String}
    (outcome : c.toConfig read configText = .error .noUrls) : c.config = none := by
  cases named : c.config with
  | none => rfl
  | some path =>
      exfalso
      cases configText with
      | none => simp [toConfig_unreadable named] at outcome
      | some text =>
          cases written : read text with
          | none => simp [toConfig_malformed named written] at outcome
          | some base =>
              rw [toConfig_written named written] at outcome
              cases alone : base.fault? with
              | some fault => simp [alone] at outcome
              | none =>
                  have urls := ((Config.fault?_eq_none_iff base).1 alone).1
                  have merged : (c.override base).urls.isEmpty = false := by
                    cases given : c.urls <;> simp [override, given, urls]
                  simp only [alone, merge, merged, Bool.false_eq_true, if_false] at outcome
                  cases judged : (c.override base).validate with
                  | ok config => simp [judged, Except.mapError] at outcome
                  | error fault => simp [judged, Except.mapError] at outcome

theorem toConfig_judges_file_alone (c : Connection) (read : String → Option Config)
    (configText : Option String) :
    (∀ config, c.toConfig read configText = .ok config ↔
      ∃ base, c.written? read configText = some base ∧
        (c.config = none ∨ base.validate = .ok base) ∧
        c.Merges base config ∧ config.validate = .ok config) ∧
      ((∃ base merged, c.written? read configText = some base ∧
          c.Merges base merged ∧ merged.validate = .ok merged ∧
          ∀ config, c.toConfig read configText ≠ .ok config) ↔
        ∃ path base merged fault, c.config = some path ∧
          c.written? read configText = some base ∧
          c.Merges base merged ∧ merged.validate = .ok merged ∧
          base.fault? = some fault ∧ c.Supplies fault ∧
          c.toConfig read configText = .error (.invalidConfig path fault)) := by
  -- A file that is faulty by itself is refused, also if the flags supply what is wrong in it and
  -- nothing else is. Nothing is asked of the reader of files.
  have valid (config : Config) : config.validate = .ok config ↔ config.fault? = none := by
    rw [Config.validate_eq_ok_iff, and_iff_left rfl]
  simp only [valid, merges_iff]
  refine ⟨fun config => ?_, ⟨?_, ?_⟩⟩
  · rw [toConfig_eq_ok_iff]
    constructor
    · rintro ⟨base, written, alone, merged, rfl⟩
      exact ⟨base, written, alone, rfl, merged⟩
    · rintro ⟨base, written, alone, rfl, merged⟩
      exact ⟨base, written, alone, merged, rfl⟩
  · rintro ⟨base, _, written, rfl, merged, refused⟩
    cases named : c.config with
    | none => exact (refused _ (toConfig_eq_ok_iff.2 ⟨base, written, .inl named, merged, rfl⟩)).elim
    | some path =>
        cases alone : base.fault? with
        | none =>
            exact (refused _ (toConfig_eq_ok_iff.2 ⟨base, written, .inr alone, merged, rfl⟩)).elim
        | some fault =>
            refine ⟨path, base, _, fault, rfl, written, rfl, merged, alone,
              supplies_of_override merged alone, ?_⟩
            cases configText with
            | none => simp [written?, named] at written
            | some text =>
                have parsed : read text = some base := by
                  simpa [written?, named] using written
                rw [toConfig_written named parsed, alone]
  · rintro ⟨path, base, _, fault, named, written, rfl, merged, alone, supplied, outcome⟩
    exact ⟨base, _, written, rfl, merged, fun config ok => by simp [outcome] at ok⟩

theorem url_flag_does_not_complete_file :
    let c : Connection := { urls := ["http://127.0.0.1:1"], config := some "client.yaml" }
    let text := "read_balance: round_robin\n"
    let read := Config.parseYaml?
    read text = some { readBalance := .roundRobin } ∧
      ∃ base merged, c.written? read (some text) = some base ∧
        c.Merges base merged ∧ merged.validate = .ok merged ∧
        c.toConfig read (some text) = .error (.invalidConfig "client.yaml" (.config .noUrls)) := by
  have spelled : Config.parseYaml? "read_balance: round_robin\n" =
      some { readBalance := .roundRobin } := by
    decide +kernel
  exact ⟨spelled, _, _, spelled, merges_iff.2 rfl, rfl, toConfig_written rfl spelled⟩

end CommandLine.Connection

end ClusterClient
