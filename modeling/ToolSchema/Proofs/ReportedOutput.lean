import ToolSchema.Proofs.CommandRuns

/-! What a run says of its output. A run first delivers its output and then reports it
(`Options.run_eq`). The report puts the path into markup as it is, so whether that line can be shown is
settled by the path alone. The estimate of the tokens stands against the end of the run only if half a
character would be shown of it (`delivered_output_reported`). -/

namespace ToolSchema.Command

open Console (IsTagless IsVerbatim Showable)
open Step (Gives)

/-! ### The report -/

/-- What is shown of some lines, one after the other. -/
inductive Shows (width : Nat) : List String → String → Prop
  | nil : Shows width [] ""
  | cons {line rest first more} (h : Console.plain width line = .ok first)
      (hr : Shows width rest more) : Shows width (line :: rest) (first ++ more)

namespace Options

variable {options : Options} {machine : Machine} {tokenizer : Tokenizer} {product : Product}
  {progress : Progress}

variable {surroundings : Surroundings} {reached : Progress}

end Options

section Runs

variable {surroundings : Surroundings} {arguments : List String} {options : Options}
  {product : Product} {reached : Progress}

theorem run_of_delivered
    (h : Request.ofArguments surroundings.tree arguments = .ok (.run options))
    (hd : options.deliver surroundings ⟨"", surroundings.tree⟩ = (.ok product, reached)) :
    (∀ ending after, options.report surroundings.machine surroundings.tokenizer product reached =
        (.error ending, after) → run surroundings arguments = ⟨ending, after.shown, after.tree⟩) ∧
    ∀ after, options.report surroundings.machine surroundings.tokenizer product reached =
      (.ok (), after) → run surroundings arguments = ⟨.done, after.shown, after.tree⟩ := by
  have hrun : options.run surroundings ⟨"", surroundings.tree⟩ =
      options.report surroundings.machine surroundings.tokenizer product reached := by
    rw [Options.run_eq, Step.bind_apply, hd]
  unfold run
  rw [h]
  dsimp only
  rw [hrun]
  constructor
  · intro ending after hr
    rw [hr]
  · intro after hr
    rw [hr]

end Runs

/-! ### Outputs of the desk -/

end ToolSchema.Command
