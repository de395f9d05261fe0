/-! The log. An entry says which part of the program speaks, how serious it is, and what happened. A
logged computation gives a result or an error together with the entries written on the way to it; an
error keeps the entries before it. -/

namespace ToolSchema

inductive Log.Source where
  | loader
  | generator
  | dialects
  | config
  deriving DecidableEq, Repr

def Log.Source.name : Log.Source → String
  | .loader => "schema_forge.loader"
  | .generator => "schema_forge.generator"
  | .dialects => "schema_forge.dialects"
  | .config => "schema_forge.config"

inductive Log.Level where
  | info
  | warning
  | error
  deriving DecidableEq, Repr

def Log.Level.name : Log.Level → String
  | .info => "INFO"
  | .warning => "WARNING"
  | .error => "ERROR"

/-- Whether an entry of this level is written when nothing but trouble is asked for. -/
def Log.Level.isTrouble : Log.Level → Bool
  | .info => false
  | .warning | .error => true

structure Log.Entry where
  source : Log.Source
  level : Log.Level
  message : String
  deriving DecidableEq, Repr

/-- The text of an entry, without the time at which it was written. -/
def Log.Entry.text (entry : Log.Entry) : String :=
  s!"{entry.source.name} - {entry.level.name} - {entry.message}"

structure Logged (ε α : Type) where
  result : Except ε α
  log : List Log.Entry

namespace Logged

variable {ε δ α β : Type}

def ok (value : α) : Logged ε α := ⟨.ok value, []⟩

def fail (error : ε) : Logged ε α := ⟨.error error, []⟩

def ofExcept (result : Except ε α) : Logged ε α := ⟨result, []⟩

def andThen (first : Logged ε α) (next : α → Logged ε β) : Logged ε β :=
  match first.result with
  | .error error => ⟨.error error, first.log⟩
  | .ok value =>
    let after := next value
    ⟨after.result, first.log ++ after.log⟩

instance : Monad (Logged ε) where
  pure := ok
  bind := andThen

def note (source : Log.Source) (level : Log.Level) (message : String) : Logged ε Unit :=
  ⟨.ok (), [⟨source, level, message⟩]⟩

def mapError (f : ε → δ) (computation : Logged ε α) : Logged δ α :=
  ⟨computation.result.mapError f, computation.log⟩

end Logged

end ToolSchema
