import ClusterClient.Proofs.Classification

namespace ClusterClient

namespace Json

theorem Doc.option?_of_isSome {doc : Doc} (readable : (doc.option? Doc.text?).isSome = true) :
    doc.option? Doc.text? = some doc.text? := by
  cases doc with
  | null => rfl
  | string s =>
      have read : (Doc.string s).option? Doc.text? = (Doc.string s).text?.map some := rfl
      rw [read, Option.isSome_map, Option.isSome_iff_exists] at readable
      obtain ⟨text, readable⟩ := readable
      rw [read, readable, Option.map_some]
  | _ => cases readable

namespace Fields

theorem keys_ofMembers? {names : List String} {members : List (Literal × Doc)} {fields : Fields}
    (read : ofMembers? names members = some fields) :
    (fields.map (·.1)).Nodup ∧ ∀ field ∈ fields, field.1 ∈ names := by
  induction members generalizing fields with
  | nil =>
      cases read
      exact ⟨List.nodup_nil, fun _ member => nomatch member⟩
  | cons first rest ih =>
      obtain ⟨key, item⟩ := first
      obtain ⟨name, -, read⟩ := Option.bind_eq_some_iff.1 read
      obtain ⟨later, readLater, read⟩ := Option.bind_eq_some_iff.1 read
      obtain ⟨distinct, known⟩ := ih readLater
      split at read
      · rename_i knows
        split at read
        · cases read
        · rename_i new
          cases read
          refine ⟨List.nodup_cons.2 ⟨fun member => new ?_, distinct⟩,
            List.forall_mem_cons.2 ⟨knows, known⟩⟩
          obtain ⟨field, there, same⟩ := List.mem_map.1 member
          exact List.find?_isSome.2 ⟨field, there, decide_eq_true same⟩
      · cases read
        exact ⟨distinct, known⟩

theorem keys_ofDoc? {names : List String} (apart : names.Nodup) {doc : Doc} {fields : Fields}
    (read : ofDoc? names doc = some fields) :
    (fields.map (·.1)).Nodup ∧ ∀ field ∈ fields, field.1 ∈ names := by
  cases doc with
  | object members => exact keys_ofMembers? read
  | array items =>
      rw [ofDoc?] at read
      split at read
      · cases read
        constructor
        · rw [List.zip_eq_zip_take_min, List.map_fst_zip (by simp)]
          exact apart.sublist (List.take_sublist _ _)
        · exact fun field member => (List.of_mem_zip member).1
      · cases read
  | _ => cases read

theorem find?_of_mem {fields : Fields} (distinct : (fields.map (·.1)).Nodup)
    {field : String × Doc} (member : field ∈ fields) : fields.find? field.1 = some field.2 := by
  induction fields with
  | nil => cases member
  | cons first rest ih =>
      obtain ⟨fresh, distinct⟩ := List.nodup_cons.1 distinct
      rcases List.mem_cons.1 member with rfl | later
      · simp [find?]
      · have other : first.1 ≠ field.1 := fun same =>
          fresh (List.mem_map.2 ⟨field, later, same.symm⟩)
        have found := ih distinct later
        rw [find?] at found ⊢
        rwa [List.find?_cons_of_neg (by simpa using other)]

def text? (fields : Fields) (name : String) : Option String := (fields.find? name).bind Doc.text?

def isTextual (fields : Fields) : Bool :=
  fields.all fun field => (field.2.option? Doc.text?).isSome

theorem optional_of_isTextual {fields : Fields} (textual : fields.isTextual = true)
    (name : String) :
    fields.optional name none (Doc.option? Doc.text?) = some (fields.text? name) := by
  unfold optional text?
  cases found : fields.find? name with
  | none => rfl
  | some doc =>
      obtain ⟨field, located, rfl⟩ := Option.map_eq_some_iff.1 found
      have readable := List.all_eq_true.1 textual field (List.mem_of_find?_eq_some located)
      exact Doc.option?_of_isSome readable

theorem optional_of_not_isTextual {fields : Fields} (distinct : (fields.map (·.1)).Nodup)
    (other : ¬fields.isTextual = true) :
    ∃ field ∈ fields, fields.optional field.1 none (Doc.option? Doc.text?) = none := by
  simp only [isTextual, List.all_eq_true, Classical.not_forall] at other
  obtain ⟨field, member, unreadable⟩ := other
  refine ⟨field, member, ?_⟩
  rw [optional, find?_of_mem distinct member]
  simpa using unreadable

end Fields

end Json

namespace ErrorBody

open Json (Doc Fields)

def ofFields (fields : Fields) : ErrorBody where
  kind := fields.text? "Type"
  message := fields.text? "Message"
  error := fields.text? "Error"
  expected := fields.text? "Expected"
  expectedChangeVector := fields.text? "ExpectedChangeVector"
  actual := fields.text? "Actual"
  actualChangeVector := fields.text? "ActualChangeVector"

theorem ofDoc?_eq (doc : Doc) :
    ofDoc? doc = ((Fields.ofDoc? fieldNames doc).filter Fields.isTextual).map ofFields := by
  -- One field of another type spoils the whole body.
  unfold ofDoc?
  cases read : Fields.ofDoc? fieldNames doc with
  | none => rfl
  | some fields =>
      by_cases textual : fields.isTextual = true
      · rw [Option.filter_some, if_pos textual]
        simp only [Option.bind_eq_bind, Option.bind_some, Fields.optional_of_isTextual textual]
        rfl
      · obtain ⟨distinct, known⟩ := Fields.keys_ofDoc? (by decide) read
        obtain ⟨field, member, unreadable⟩ := Fields.optional_of_not_isTextual distinct textual
        have name := known field member
        simp only [Option.bind_eq_bind, Option.bind_some, Option.filter_some, textual,
          Bool.false_eq_true, if_false, Option.map_none]
        simp only [fieldNames, List.mem_cons, List.not_mem_nil, or_false] at name
        rcases name with name | name | name | name | name | name | name
        all_goals simp [name ▸ unreadable]

end ErrorBody

namespace Http.Response

variable {r : Http.Response}

def errorFields? (r : Response) : Option Json.Fields :=
  ((Json.Doc.ofBytes? r.body).bind (Json.Fields.ofDoc? ErrorBody.fieldNames)).filter
    Json.Fields.isTextual

def says? (r : Response) (name : String) : Option String := r.errorFields?.bind (·.text? name)

theorem ofBytes_body (r : Response) :
    ErrorBody.ofBytes r.body = (r.errorFields?.map ErrorBody.ofFields).getD {} := by
  unfold ErrorBody.ofBytes errorFields?
  cases Json.Doc.ofBytes? r.body with
  | none => rfl
  | some doc =>
      rw [Option.bind_some, Option.bind_some, ErrorBody.ofDoc?_eq]

def plainText (r : Response) : String :=
  if Text.isBlank r.bodyText then "HTTP " ++ toString r.status.toNat else r.bodyText

theorem errorText_of_shapeless (shapeless : r.errorFields? = none) : r.errorText = r.plainText := by
  rw [errorText, ofBytes_body, shapeless]
  rfl

example : (⟨409, [], "\x7b\"Message\":\"moved\",\"Expected\":7\x7d".toUTF8.toList⟩ :
    Response).errorText = "\x7b\"Message\":\"moved\",\"Expected\":7\x7d" := by decide +kernel

theorem conflict_eq (r : Response) (d : Descriptor) :
    r.conflict d = .conflict
      ((r.says? "Expected").or ((r.says? "ExpectedChangeVector").or d.expectedVersion))
      ((r.says? "Actual").or ((r.says? "ActualChangeVector").or r.etag?)) r.errorText := by
  unfold conflict errorText says?
  rw [ofBytes_body]
  cases r.errorFields? <;> rfl

end Http.Response

inductive Disposition.Alike : Disposition → Disposition → Prop
  | success : Alike .success .success
  | notFound : Alike .notFound .notFound
  | retry {fault fault' : Fault} {refresh : Bool} (variant : fault.ctorIdx = fault'.ctorIdx) :
      Alike (.failed (.retry fault refresh)) (.failed (.retry fault' refresh))
  | terminal {fault fault' : Fault} (variant : fault.ctorIdx = fault'.ctorIdx) :
      Alike (.failed (.terminal fault)) (.failed (.terminal fault'))

variable {p : StatusPolicy} {d : Descriptor} {r r' : Http.Response}

theorem classify_alike (same : r'.status = r.status) :
    (p.classify d r).Alike (p.classify d r') := by
  have good : (r'.isSuccess || r'.isNotModified) = (r.isSuccess || r.isNotModified) := by
    simp only [Http.Response.isSuccess, Http.Response.isNotModified, same]
  unfold StatusPolicy.classify
  rw [good, same]
  repeat' split
  all_goals constructor
  all_goals rfl

theorem classify_status {setback : Setback} (failed : p.classify d r = .failed setback) :
    setback.fault.status? = some r.status := by
  have judged := p.classify_judges d r
  rw [failed] at judged
  cases judged with
  | conflicting status => exact congrArg some status.symm
  | retried => rfl
  | rejected => rfl
  | broken => rfl

theorem classify_shapeless {setback : Setback} (failed : p.classify d r = .failed setback)
    (shapeless : r.errorFields? = none) :
    setback.fault = .conflict d.expectedVersion r.etag? r.plainText ∨
      setback.fault = .rejected r.status r.plainText ∨
      setback.fault = .unclassified r.status r.plainText r.bodyText := by
  have silent (name : String) : r.says? name = none := by rw [Http.Response.says?, shapeless]; rfl
  have text := Http.Response.errorText_of_shapeless shapeless
  have broken : r.unclassified = .unclassified r.status r.plainText r.bodyText := by
    rw [Http.Response.unclassified, text]
  have judged := p.classify_judges d r
  rw [failed] at judged
  cases judged with
  | conflicting =>
      left
      simp only [Setback.fault, Http.Response.conflict_eq, silent, text, Option.none_or]
  | retried => exact .inr (.inr broken)
  | rejected =>
      right
      left
      rw [Setback.fault, text]
  | broken => exact .inr (.inr broken)

/-- What becomes of a response, whatever its header fields and its bytes. -/
structure StatusPolicy.GoesByStatus (p : StatusPolicy) (d : Descriptor) : Prop where
  alike : ∀ r r' : Http.Response, r'.status = r.status →
    (p.classify d r).Alike (p.classify d r')
  status : ∀ r setback, p.classify d r = .failed setback →
    setback.fault.status? = some r.status
  shapeless : ∀ r setback, p.classify d r = .failed setback → r.errorFields? = none →
    setback.fault = .conflict d.expectedVersion r.etag? r.plainText ∨
      setback.fault = .rejected r.status r.plainText ∨
      setback.fault = .unclassified r.status r.plainText r.bodyText
  conflict : ∀ r, r.status = 409 → ∃ text, p.classify d r = .failed (.terminal (.conflict
    ((r.says? "Expected").or ((r.says? "ExpectedChangeVector").or d.expectedVersion))
    ((r.says? "Actual").or ((r.says? "ActualChangeVector").or r.etag?)) text))
  expects : ∀ r version, r.status = 409 → d.expectedVersion = some version →
    ∃ expected actual text,
      p.classify d r = .failed (.terminal (.conflict (some expected) actual text))

theorem bodies_never_mask_status (p : StatusPolicy) (d : Descriptor) : p.GoesByStatus d := by
  have conflict (r : Http.Response) (status : r.status = 409) := classify_of_conflict p d status
  simp only [Http.Response.conflict_eq] at conflict
  constructor
  case alike =>
    intro r r' same
    exact classify_alike same
  case status =>
    intro r setback failed
    exact classify_status failed
  case shapeless =>
    intro r setback failed shapeless
    exact classify_shapeless failed shapeless
  case conflict =>
    intro r status
    exact ⟨_, conflict r status⟩
  case expects =>
    intro r version status expected
    rw [conflict r status, expected]
    cases r.says? "Expected" with
    | some text => exact ⟨text, _, _, rfl⟩
    | none =>
        cases r.says? "ExpectedChangeVector" with
        | some text => exact ⟨text, _, _, rfl⟩
        | none => exact ⟨version, _, _, rfl⟩

end ClusterClient
