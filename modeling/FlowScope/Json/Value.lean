import FlowScope.Json.Token

/-!
# JSON values

The value of a token list is built by a machine that reads one token after the other and keeps the
arrays and objects that are still open on a stack. So the depth of nesting is bounded by nothing but
the text. Members of an object are kept in order, also those whose keys are repeated.
-/

namespace FlowScope.Json

/-- A JSON value; strings and keys are as they are written. -/
inductive Value
  | null
  | bool (b : Bool)
  | number (n : Number)
  | string (raw : Bytes)
  | array (items : List Value)
  | object (members : List (Bytes × Value))

/-- An array or object that is still open, and what it has so far, in reverse. An object waits for the
value of a key. -/
inductive Frame
  | array (items : List Value)
  | object (members : List (Bytes × Value)) (key : Bytes)

/-- What the machine has read, and so what may come next. -/
inductive State
  /-- A value must come. -/
  | value (stack : List Frame)
  /-- An array was just opened. -/
  | opened (stack : List Frame)
  /-- A key must come, or the object was just opened. -/
  | key (members : List (Bytes × Value)) (stack : List Frame)
  /-- A key was read, and its colon must come. -/
  | colon (members : List (Bytes × Value)) (key : Bytes) (stack : List Frame)
  /-- A value is complete. -/
  | complete (v : Value) (stack : List Frame)

namespace State

/-- The token that starts a value. -/
def begin? (stack : List Frame) : Token → Option State
  | .null => some (.complete .null stack)
  | .bool b => some (.complete (.bool b) stack)
  | .number n => some (.complete (.number n) stack)
  | .string raw => some (.complete (.string raw) stack)
  | .openArray => some (.opened stack)
  | .openObject => some (.key [] stack)
  | _ => none

/-- One token. -/
def step : State → Token → Option State
  | .value stack, token => begin? stack token
  | .opened stack, .closeArray => some (.complete (.array []) stack)
  | .opened stack, token => begin? (.array [] :: stack) token
  | .key [] stack, .closeObject => some (.complete (.object []) stack)
  | .key members stack, .string raw => some (.colon members raw stack)
  | .colon members name stack, .colon => some (.value (.object members name :: stack))
  | .complete v (.array items :: stack), .comma => some (.value (.array (v :: items) :: stack))
  | .complete v (.array items :: stack), .closeArray =>
    some (.complete (.array (v :: items).reverse) stack)
  | .complete v (.object members name :: stack), .comma => some (.key ((name, v) :: members) stack)
  | .complete v (.object members name :: stack), .closeObject =>
    some (.complete (.object ((name, v) :: members).reverse) stack)
  | _, _ => none

/-- The value, when nothing is open. -/
def result? : State → Option Value
  | .complete v [] => some v
  | _ => none

end State

/-- The value of a text that is one JSON value, with blanks around it. -/
def Value.read? (bytes : Bytes) : Option Value := do
  let tokens ← tokens? bytes
  let state ← tokens.foldlM State.step (.value [])
  state.result?

end FlowScope.Json
