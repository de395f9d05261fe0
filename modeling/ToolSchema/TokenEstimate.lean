import ToolSchema.Json.Writer

/-! Token estimates. What a document costs in a prompt is the number of tokens of its compact text.
Which tokens those are is up to an encoder found by the name of a model; for a model that is not
known a general encoder is taken. -/

namespace ToolSchema

/-- What an encoder makes of a text is known here by the number of its tokens alone, or by what is said
of a text that it does not take. -/
structure TokenEncoder where
  name : String
  count : String → Except String Nat

/-- Where encoders come from. -/
structure Tokenizer where
  /-- The encoder for a model, if the model is known, or what is said instead. -/
  ofModel : String → Except String (Option TokenEncoder)
  /-- The encoder of a name, or what is said instead. -/
  ofName : String → Except String TokenEncoder

def TokenEncoder.general : String := "cl100k_base"

structure TokenEstimate where
  count : Nat
  encoder : String
  text : String
  deriving DecidableEq, Repr

def estimateTokens (tokenizer : Tokenizer) (document : Json) (model : String) :
    Except String TokenEstimate := do
  let encoder ← match ← tokenizer.ofModel model with
    | some encoder => .ok encoder
    | none => tokenizer.ofName TokenEncoder.general
  let text := document.compactText
  return ⟨← encoder.count text, encoder.name, text⟩

/-- An encoder for which every character is a token. -/
def TokenEncoder.characters (name : String) : TokenEncoder := ⟨name, fun text => .ok text.length⟩

end ToolSchema
