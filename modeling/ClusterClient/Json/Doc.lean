import ClusterClient.Json.Token
import ClusterClient.Text.Utf8

namespace ClusterClient.Json

abbrev Literal := List Piece

inductive Doc
  | null
  | bool (b : Bool)
  | number (n : Numeral)
  | string (s : Literal)
  | array (items : List Doc)
  | object (members : List (Literal × Doc))
deriving Repr, Inhabited

inductive Frame
  | items (done : List Doc)
  | members (done : List (Literal × Doc)) (key : Literal)
deriving Repr, Inhabited

inductive Parsing
  | value (stack : List Frame)
  | firstItem (stack : List Frame)
  | firstKey (stack : List Frame)
  | key (done : List (Literal × Doc)) (stack : List Frame)
  | colon (done : List (Literal × Doc)) (key : Literal) (stack : List Frame)
  | after (doc : Doc) (stack : List Frame)
deriving Repr, Inhabited

namespace Parsing

def start (stack : List Frame) : Token → Option Parsing
  | .null => some (after .null stack)
  | .bool b => some (after (.bool b) stack)
  | .number n => some (after (.number n) stack)
  | .string s => some (after (.string s) stack)
  | .openArray => some (firstItem stack)
  | .openObject => some (firstKey stack)
  | _ => none

def proceed (doc : Doc) : List Frame → Token → Option Parsing
  | .items done :: stack, .comma => some (value (.items (doc :: done) :: stack))
  | .items done :: stack, .closeArray => some (after (.array (doc :: done).reverse) stack)
  | .members done name :: stack, .comma => some (key ((name, doc) :: done) stack)
  | .members done name :: stack, .closeObject =>
    some (after (.object ((name, doc) :: done).reverse) stack)
  | _, _ => none

def step : Parsing → Token → Option Parsing
  | value stack, token => start stack token
  | firstItem stack, .closeArray => some (after (.array []) stack)
  | firstItem stack, token => start (.items [] :: stack) token
  | firstKey stack, .closeObject => some (after (.object []) stack)
  | firstKey stack, .string name => some (colon [] name stack)
  | key done stack, .string name => some (colon done name stack)
  | colon done name stack, .colon => some (value (.members done name :: stack))
  | after doc stack, token => proceed doc stack token
  | _, _ => none

end Parsing

def parseFrom (state : Parsing) (tokens : List Token) : Option Parsing :=
  tokens.foldlM Parsing.step state

namespace Doc

def ofTokens? (tokens : List Token) : Option Doc :=
  match parseFrom (.value []) tokens with
  | some (.after doc []) => some doc
  | _ => none

def ofChars? (input : List (Option Char)) : Option Doc := (tokens? input).bind ofTokens?

def ofBytes? (bytes : List UInt8) : Option Doc := ofChars? (Text.Utf8.decode bytes)

def ofText? (text : String) : Option Doc := ofChars? (text.toList.map some)

end Doc

end ClusterClient.Json
