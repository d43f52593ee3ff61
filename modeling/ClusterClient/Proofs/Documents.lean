import ClusterClient.Json.Doc

namespace ClusterClient.Json

mutual

def Doc.tokens : Doc → List Token
  | .null => [.null]
  | .bool b => [.bool b]
  | .number n => [.number n]
  | .string s => [.string s]
  | .array [] => [.openArray, .closeArray]
  | .array (item :: rest) => .openArray :: item.tokens ++ itemTokens rest ++ [.closeArray]
  | .object [] => [.openObject, .closeObject]
  | .object ((key, item) :: rest) =>
      .openObject :: .string key :: .colon :: item.tokens ++ memberTokens rest ++ [.closeObject]

def itemTokens : List Doc → List Token
  | [] => []
  | item :: rest => .comma :: item.tokens ++ itemTokens rest

def memberTokens : List (Literal × Doc) → List Token
  | [] => []
  | (key, item) :: rest =>
      .comma :: .string key :: .colon :: item.tokens ++ memberTokens rest

end

theorem parseFrom_cons (state : Parsing) (token : Token) (rest : List Token) :
    parseFrom state (token :: rest) = (state.step token).bind (parseFrom · rest) := rfl

theorem parseFrom_firstItem (doc : Doc) (stack : List Frame) (rest : List Token) :
    parseFrom (.firstItem stack) (doc.tokens ++ rest) =
      parseFrom (.value (.items [] :: stack)) (doc.tokens ++ rest) := by
  -- No document begins with the end of an array, so one that follows its opening is an item.
  cases doc with
  | array items => cases items <;> rw [Doc.tokens] <;> rfl
  | object members => cases members <;> rw [Doc.tokens] <;> rfl
  | _ => rfl

mutual

theorem parseFrom_tokens (doc : Doc) (stack : List Frame) (rest : List Token) :
    parseFrom (.value stack) (doc.tokens ++ rest) = parseFrom (.after doc stack) rest := by
  match doc with
  | .null | .bool _ | .number _ | .string _ | .array [] | .object [] =>
      rw [Doc.tokens]
      rfl
  | .array (item :: items) =>
      have first := parseFrom_tokens item (.items [] :: stack)
      have others := parseFrom_itemTokens items [] item stack rest
      simp only [Doc.tokens, List.cons_append, List.append_assoc, List.nil_append, parseFrom_cons]
      show parseFrom (.firstItem stack) _ = _
      rw [parseFrom_firstItem, first, others]
      rfl
  | .object ((key, item) :: members) =>
      have first := parseFrom_tokens item (.members [] key :: stack)
      have others := parseFrom_memberTokens members [] key item stack rest
      simp only [Doc.tokens, List.cons_append, List.append_assoc, List.nil_append, parseFrom_cons]
      show parseFrom (.value (.members [] key :: stack)) _ = _
      rw [first, others]
      rfl

theorem parseFrom_itemTokens (items done : List Doc) (doc : Doc) (stack : List Frame)
    (rest : List Token) :
    parseFrom (.after doc (.items done :: stack)) (itemTokens items ++ .closeArray :: rest) =
      parseFrom (.after (.array (done.reverse ++ doc :: items)) stack) rest := by
  match items with
  | [] =>
      simp only [itemTokens, List.nil_append, parseFrom_cons, Parsing.step, Parsing.proceed,
        Option.bind_some, List.reverse_cons]
  | item :: items =>
      have next := parseFrom_tokens item (.items (doc :: done) :: stack)
      have others := parseFrom_itemTokens items (doc :: done) item stack rest
      simp only [itemTokens, List.cons_append, List.append_assoc, parseFrom_cons]
      show parseFrom (.value (.items (doc :: done) :: stack)) _ = _
      rw [next, others, List.reverse_cons, List.append_assoc]
      rfl

theorem parseFrom_memberTokens (members done : List (Literal × Doc)) (key : Literal) (doc : Doc)
    (stack : List Frame) (rest : List Token) :
    parseFrom (.after doc (.members done key :: stack))
        (memberTokens members ++ .closeObject :: rest) =
      parseFrom (.after (.object (done.reverse ++ (key, doc) :: members)) stack) rest := by
  match members with
  | [] =>
      simp only [memberTokens, List.nil_append, parseFrom_cons, Parsing.step, Parsing.proceed,
        Option.bind_some, List.reverse_cons]
  | (name, item) :: members =>
      have next := parseFrom_tokens item (.members ((key, doc) :: done) name :: stack)
      have others := parseFrom_memberTokens members ((key, doc) :: done) name item stack rest
      simp only [memberTokens, List.cons_append, List.append_assoc, parseFrom_cons]
      show parseFrom (.value (.members ((key, doc) :: done) name :: stack)) _ = _
      rw [next, others, List.reverse_cons, List.append_assoc]
      rfl

end

theorem Doc.ofTokens?_tokens (doc : Doc) : Doc.ofTokens? doc.tokens = some doc := by
  have parsed := parseFrom_tokens doc [] []
  rw [List.append_nil] at parsed
  rw [ofTokens?, parsed]
  rfl

end ClusterClient.Json
