import TypedStyle.Json.Token
/-!
# Reading JSON documents

The tokens of a document are read one by one, with the containers that are still open on a stack;
so nesting has no limit.  After each token the state says what may come next.

* `run_append` — reading goes on where it stopped.
-/

namespace TypedStyle.Json

/-- An open container, with what has been read of it so far, the newest part first. -/
inductive Frame where
  | array (items : List Json)
  | object (members : List (JsonString × Json)) (name : JsonString)

/-- What has been read, by what may come next. -/
inductive ReaderState where
  /-- A value. -/
  | value (stack : List Frame)
  /-- The first item of an array, or its end. -/
  | firstItem (stack : List Frame)
  /-- The first name of an object, or its end. -/
  | firstName (stack : List Frame)
  /-- A further name of an object. -/
  | nextName (members : List (JsonString × Json)) (stack : List Frame)
  /-- The colon behind a name. -/
  | colon (members : List (JsonString × Json)) (name : JsonString) (stack : List Frame)
  /-- The end of the document, or what may stand behind a value in its container. -/
  | complete (value : Json) (stack : List Frame)

namespace ReaderState

/-- The state behind the first token of a value. -/
def beginValue (stack : List Frame) : Token → Option ReaderState
  | .beginArray => some (.firstItem stack)
  | .beginObject => some (.firstName stack)
  | .null => some (.complete .null stack)
  | .bool b => some (.complete (.bool b) stack)
  | .number numeral => some (.complete (.number numeral) stack)
  | .string content => some (.complete (.string content) stack)
  | _ => none

/-- The state behind one more token. -/
def step : ReaderState → Token → Option ReaderState
  | .value stack, token => beginValue stack token
  | .firstItem stack, .endArray => some (.complete (.array []) stack)
  | .firstItem stack, token => beginValue (.array [] :: stack) token
  | .firstName stack, .endObject => some (.complete (.object []) stack)
  | .firstName stack, .string name => some (.colon [] name stack)
  | .nextName members stack, .string name => some (.colon members name stack)
  | .colon members name stack, .colon => some (.value (.object members name :: stack))
  | .complete v (.array items :: stack), .comma => some (.value (.array (v :: items) :: stack))
  | .complete v (.array items :: stack), .endArray =>
    some (.complete (.array (v :: items).reverse) stack)
  | .complete v (.object members name :: stack), .comma =>
    some (.nextName ((name, v) :: members) stack)
  | .complete v (.object members name :: stack), .endObject =>
    some (.complete (.object ((name, v) :: members).reverse) stack)
  | _, _ => none

/-- The state behind some more tokens. -/
def run (state : ReaderState) (tokens : List Token) : Option ReaderState :=
  tokens.foldlM step state

/-- Tokens can be read in two parts, one after the other. -/
theorem run_append (state : ReaderState) (a b : List Token) :
    run state (a ++ b) = (run state a).bind (run · b) := by
  simp [run, List.foldlM_append, Option.bind_eq_bind]

end ReaderState

/-- The value that a document denotes. -/
def parse? (document : Text) : Option Json := do
  let tokens ← Token.tokens? document
  match ← ReaderState.run (.value []) tokens with
  | .complete value [] => some value
  | _ => none

end TypedStyle.Json
