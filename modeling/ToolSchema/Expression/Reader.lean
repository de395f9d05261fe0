import ToolSchema.Expression.Template
import ToolSchema.Expression.Token
import ToolSchema.Expression.Tree

/-! Readers of tokens. A reader reads from a position on and may fail, and then another one is tried
from there; when it stops with an error nothing else is tried. What a rule has read from a position
is kept, which also lets a rule begin with itself. A strict reading looks for known mistakes, of
which a complaint tells the first. -/

namespace ToolSchema.Expression

/-- The rules whose results are kept. -/
inductive Rule where
  | expression
  | starExpression
  | mistakenName
  | disjunction
  | conjunction
  | inversion
  | bitOr
  | bitXor
  | bitAnd
  | shift
  | sum
  | term
  | factor
  | awaited
  | primary
  | strings
  | arguments
  | starTarget
  | plainTarget
  | targetPrimary
  deriving DecidableEq, Repr

/-- A result of a rule and where it ends. -/
structure Entry where
  rule : Rule
  result : Option Tree
  stop : Nat

structure State where
  position : Nat := 0
  /-- How many tokens have been looked at. -/
  reached : Nat := 0
  /-- What rules have read, by the position where they began. -/
  results : Array (List Entry) := #[]

structure Setting where
  tokens : Array Token
  fault : Option Fault
  /-- Checks an expression within a template. -/
  check : Template.Check
  /-- Whether this is such an expression. -/
  isInner : Bool
  isStrict : Bool

/-- Why the reading stops: at a fault of the text, or with an error about tokens that have been
looked at. -/
inductive Stop where
  | fault (fault : Fault)
  | error (error : SyntaxError) (reached : Nat)

abbrev Reader := ReaderT Setting (OptionT (StateT State (Except Stop)))

namespace Reader

variable {α β : Type}

def stop (reason : Stop) : Reader α := throwThe Stop reason

/-- An error as it is told. -/
def told (isInner : Bool) (error : SyntaxError) : SyntaxError :=
  if isInner then .inTemplate error else error

/-- Stops with an error that is told as it is. -/
def stopWith (error : SyntaxError) : Reader α := do
  stop (.error error (← get).reached)

def refuse (error : SyntaxError) : Reader α := do
  stopWith (told (← read).isInner error)

/-! ### Tokens -/

def peek : Reader Token := do
  let setting ← read
  let state ← get
  match setting.tokens[state.position]?, setting.fault with
  | some token, _ =>
    set { state with reached := max state.reached (state.position + 1) }
    return token
  | none, some fault => stop (.fault fault)
  | none, none => failure

/-- Reads a token that a function has a value for. -/
def accept (value? : Kind → Option α) : Reader α := do
  let token ← peek
  match value? token.kind with
  | some value =>
    modify fun state => { state with position := state.position + 1 }
    return value
  | none => failure

def kind (expected : Kind) : Reader Unit := accept fun found => guard (found = expected)

def sign (text : String) : Reader Unit := kind (.sign text)

def keyword (text : String) : Reader Unit := kind (.keyword text)

def name : Reader String := accept fun
  | .name text => some text
  | _ => none

def quotation : Reader Quotation := accept fun
  | .quotation value => some value
  | _ => none

/-- How many brackets are open after the token read last. -/
def depth : Reader Nat := do
  let position := (← get).position
  return (((← read).tokens[position - 1]?).map Token.depth).getD 0

/-! ### Choice and repetition -/

def seek (position : Nat) : Reader Unit := modify fun state => { state with position }

/-- The result of a reader, which reads nothing if it fails. -/
def attempt (p : Reader α) : Reader (Option α) := do
  let start := (← get).position
  let setting ← read
  match ← (p.run setting).run with
  | some value => return some value
  | none =>
    seek start
    return none

/-- The first of some readers that does not fail. -/
def choose : List (Reader α) → Reader α
  | [] => failure
  | p :: rest => do
    match ← attempt p with
    | some value => return value
    | none => choose rest

/-- Whether a reader would not fail. -/
def follows (p : Reader α) : Reader Bool := do
  let start := (← get).position
  let found ← attempt p
  seek start
  return found.isSome

def ahead (p : Reader α) : Reader Unit := do guard (← follows p)

def absent (p : Reader α) : Reader Unit := do guard !(← follows p)

def manyUpTo (p : Reader α) : Nat → Reader (List α)
  | 0 => return []
  | fuel + 1 => do
    match ← attempt p with
    | some value => return value :: (← manyUpTo p fuel)
    | none => return []

def many (p : Reader α) : Reader (List α) := do manyUpTo p (← read).tokens.size

/-- At least one. -/
def several (p : Reader α) : Reader (List α) := do return (← p) :: (← many p)

def separated (p : Reader α) : Reader (List α) := do
  return (← p) :: (← many do
    sign ","
    p)

/-- As `separated`, where a comma may come last. -/
def listed (p : Reader α) : Reader (List α) := do
  let values ← separated p
  _ ← attempt (sign ",")
  return values

/-! ### Mistakes -/

def strictly (p : Reader α) : Reader α := do
  guard (← read).isStrict
  p

def leniently (p : Reader α) : Reader α :=
  withReader (fun setting => { setting with isStrict := false }) p

/-- Refuses what the first of some readers that does not fail complains of. If it has nothing to
complain of the others are not tried. -/
def complain (mistakes : List (Reader (Option SyntaxError))) : Reader α := do
  match ← choose mistakes with
  | some error => refuse error
  | none => failure

/-! ### Rules -/

def entry? (start : Nat) (rule : Rule) : Reader (Option Entry) := do
  return ((← get).results.getD start []).find? fun entry => entry.rule = rule

def keep (start : Nat) (entry : Entry) : Reader Unit :=
  modify fun state =>
    { state with results := state.results.modify start fun entries =>
        entry :: entries.filter fun other => other.rule ≠ entry.rule }

def ofResult (result : Option α) : Reader α :=
  match result with
  | some value => return value
  | none => failure

/-- Reads with a rule what has not been read with it before. -/
def once (rule : Rule) (p : Reader Tree) : Reader Tree := do
  let start := (← get).position
  match ← entry? start rule with
  | some entry =>
    seek entry.stop
    ofResult entry.result
  | none =>
    let result ← attempt p
    keep start ⟨rule, result, (← get).position⟩
    ofResult result

/-- Reads more and more with a rule that begins with itself. -/
def grow (rule : Rule) (p : Reader Tree) (start : Nat) : Nat → Entry → Reader (Option Tree)
  | 0, longest => return longest.result
  | fuel + 1, longest => do
    keep start longest
    seek start
    let result ← attempt p
    let reached := (← get).position
    if result.isSome && longest.stop < reached then
      grow rule p start fuel ⟨rule, result, reached⟩
    else
      seek longest.stop
      return longest.result

/-- Reads as much as possible with a rule that may begin with itself. -/
def growing (rule : Rule) (p : Reader Tree) : Reader Tree := do
  let start := (← get).position
  match ← entry? start rule with
  | some entry =>
    seek entry.stop
    ofResult entry.result
  | none =>
    ofResult (← grow rule p start ((← read).tokens.size + 2) ⟨rule, none, start⟩)

end Reader

end ToolSchema.Expression
