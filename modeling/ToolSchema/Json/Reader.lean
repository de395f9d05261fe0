import ToolSchema.Json.Token

/-! Reading JSON text. The words of the text drive a machine whose state is what may come next
together with the containers that are open around it; the text is read when the words end with one
complete value and no open container. A repeated member name keeps the place of its first value and
takes the last. A machine with room for so many open containers and no more stops where one too many
is opened. -/

namespace ToolSchema.Json

inductive ReadError where
  /-- The text is not JSON. -/
  | invalid
  /-- A whole number has more digits than are read. -/
  | oversized (digits : Nat)
  /-- A container is opened inside too many others. -/
  | overdeep (kind : Kind)
  deriving DecidableEq, Repr

/-- A container around the place being read, with what has been read of it: the items of an array,
last first, or the members of an object and the name of the member whose value comes next. -/
inductive Frame where
  | items (done : List Json)
  | members (done : Table Json) (key : String)

/-- What may come next. -/
inductive Expected where
  | value
  /-- A value, or the end of an array just opened. -/
  | firstItem
  /-- A member name, or the end of an object just opened. -/
  | firstKey
  | key (done : Table Json)
  | colon (done : Table Json) (key : String)
  /-- What may stand after a complete value in the innermost open container. -/
  | follower (complete : Json)

structure ReadState where
  expected : Expected
  frames : List Frame

namespace ReadState

def start : ReadState := ⟨.value, []⟩

def completed (frames : List Frame) (value : Json) : ReadState := ⟨.follower value, frames⟩

/-- A word where a value is expected. -/
def beginValue (frames : List Frame) : Token → Except ReadError ReadState
  | .openBracket => .ok ⟨.firstItem, frames⟩
  | .openBrace => .ok ⟨.firstKey, frames⟩
  | .str s => .ok (completed frames (.str s))
  | .scalar v => .ok (completed frames v)
  | .oversized digits => .error (.oversized digits)
  | _ => .error .invalid

def step (state : ReadState) (token : Token) : Except ReadError ReadState :=
  match state.expected with
  | .value =>
    beginValue state.frames token
  | .firstItem =>
    match token with
    | .closeBracket => .ok (completed state.frames (.arr []))
    | _ => beginValue (.items [] :: state.frames) token
  | .firstKey =>
    match token with
    | .closeBrace => .ok (completed state.frames (.obj []))
    | .str key => .ok ⟨.colon [] key, state.frames⟩
    | _ => .error .invalid
  | .key done =>
    match token with
    | .str key => .ok ⟨.colon done key, state.frames⟩
    | _ => .error .invalid
  | .colon done key =>
    match token with
    | .colon => .ok ⟨.value, .members done key :: state.frames⟩
    | _ => .error .invalid
  | .follower complete =>
    match state.frames, token with
    | .items done :: outer, .comma => .ok ⟨.value, .items (complete :: done) :: outer⟩
    | .items done :: outer, .closeBracket => .ok (completed outer (.arr (complete :: done).reverse))
    | .members done key :: outer, .comma => .ok ⟨.key (done.put key complete), outer⟩
    | .members done key :: outer, .closeBrace =>
      .ok (completed outer (.obj (done.put key complete)))
    | _, _ => .error .invalid

/-- The value read when the words end. -/
def finish (state : ReadState) : Except ReadError Json :=
  match state.expected, state.frames with
  | .follower complete, [] => .ok complete
  | _, _ => .error .invalid

def run : ReadState → List Token → Except ReadError Json
  | state, [] => state.finish
  | state, token :: rest =>
    match state.step token with
    | .ok next => run next rest
    | .error e => .error e

/-- The container that has just been opened. -/
def opened? (state : ReadState) : Option Kind :=
  match state.expected with
  | .firstItem => some .arr
  | .firstKey => some .obj
  | _ => none

/-- The container that has just been opened inside too many others. -/
def overdeep? (nesting : Nat) (state : ReadState) : Option Kind :=
  state.opened?.filter fun _ => nesting ≤ state.frames.length

/-- The run of a machine with room for so many open containers. -/
def runWithin (nesting : Nat) : ReadState → List Token → Except ReadError Json
  | state, [] => state.finish
  | state, token :: rest =>
    match state.step token with
    | .error e => .error e
    | .ok next =>
      match next.overdeep? nesting with
      | some kind => .error (.overdeep kind)
      | none => runWithin nesting next rest

end ReadState

/-- The value that a text writes, however deep its containers nest. -/
def read (text : String) : Except ReadError Json :=
  ReadState.start.run (Token.scan text.toList)

/-- The value that a text writes, read with room for so many open containers. -/
def readWithin (nesting : Nat) (text : String) : Except ReadError Json :=
  ReadState.start.runWithin nesting (Token.scan text.toList)

end ToolSchema.Json
