import ContractAtlas.Json.Token

/-!
# Reading JSON

The reader is a stack machine over tokens. The stack holds the containers that are still open,
innermost first, and the expectation says what may come next. A token that may not come next ends
the reading, so there is no separate list of syntax errors: a text either is a JSON text or is not.
-/

namespace ContractAtlas.Json

namespace Reader

/-- A container that is still open, its parts latest first. An object also holds the name that
waits for its value. -/
inductive Frame where
  | array (items : List Written)
  | object (fields : List (Option String × Written))
  | member (fields : List (Option String × Written)) (name : Option String)

/-- What may come next. -/
inductive Expectation where
  | value
  | valueOrClose
  | name
  | nameOrClose
  | colon
  | separator
  | nothing (document : Written)

/-- A state of the reader. -/
structure State where
  expectation : Expectation
  frames : List Frame

/-- The state before the first token. -/
def State.start : State := ⟨.value, []⟩

/-- The state after a complete value. -/
def State.complete? (frames : List Frame) (value : Written) : Option State :=
  match frames with
  | [] => some ⟨.nothing value, []⟩
  | .array items :: outer => some ⟨.separator, .array (value :: items) :: outer⟩
  | .member fields name :: outer =>
      some ⟨.separator, .object ((name, value) :: fields) :: outer⟩
  | .object _ :: _ => none

/-- The state after a token that starts a value. -/
def State.startValue? (frames : List Frame) : Token -> Option State
  | .openArray => some ⟨.valueOrClose, .array [] :: frames⟩
  | .openObject => some ⟨.nameOrClose, .object [] :: frames⟩
  | .null => complete? frames .null
  | .bool value => complete? frames (.bool value)
  | .number value => complete? frames (.number value)
  | .string text => complete? frames (.string text)
  | _ => none

/-- The state after the end of the innermost container. -/
def State.close? (frames : List Frame) : Token -> Option State
  | .closeArray =>
      match frames with
      | .array items :: outer => complete? outer (.array items.reverse)
      | _ => none
  | .closeObject =>
      match frames with
      | .object fields :: outer => complete? outer (.object fields.reverse)
      | _ => none
  | _ => none

/-- The state after the name of a field. -/
def State.startMember? (frames : List Frame) (name : Option String) : Option State :=
  match frames with
  | .object fields :: outer => some ⟨.colon, .member fields name :: outer⟩
  | _ => none

/-- The state after one token. -/
def State.step? (state : State) (token : Token) : Option State :=
  match state.expectation, token with
  | .value, token => startValue? state.frames token
  | .valueOrClose, .closeArray => close? state.frames .closeArray
  | .valueOrClose, token => startValue? state.frames token
  | .name, .string name => startMember? state.frames name
  | .nameOrClose, .string name => startMember? state.frames name
  | .nameOrClose, .closeObject => close? state.frames .closeObject
  | .colon, .colon => some ⟨.value, state.frames⟩
  | .separator, .comma =>
      match state.frames with
      | .array _ :: _ => some ⟨.value, state.frames⟩
      | .object _ :: _ => some ⟨.name, state.frames⟩
      | _ => none
  | .separator, token => close? state.frames token
  | _, _ => none

/-- The state after a list of tokens. -/
def State.run? (state : State) : List Token -> Option State
  | [] => some state
  | token :: later =>
      match state.step? token with
      | none => none
      | some next => next.run? later

/-- The document that has been read, if it is complete. -/
def State.document? (state : State) : Option Written :=
  match state.expectation with
  | .nothing document => some document
  | _ => none

end Reader

/-- The written JSON of a text, if the text is a JSON text. -/
def Written.read? (text : String) : Option Written := do
  let tokens <- Token.scan? text.toList
  let state <- Reader.State.start.run? tokens
  state.document?

/-- The JSON value that a text denotes. -/
def read? (text : String) : Option Json := do
  (<- Written.read? text).value? Written.nestingLimit

end ContractAtlas.Json
