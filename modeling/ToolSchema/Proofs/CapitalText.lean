import Mathlib.Data.List.Basic
import Mathlib.Data.Nat.Bitwise
import ToolSchema.Text.Case

/-! Capitals stay capitals. The tables of the capital case map a character to characters that no table
maps any further, so a text in capitals is its own text in capitals. That what the tables map and what
they map it to have no character in common is one fact about two sets of numbers, and the kernel checks
it with the sets as the bits of two numbers. -/

namespace ToolSchema.Text

namespace CaseRun

variable {run : CaseRun} {n : Nat}

/-- The characters of a run, one by one. -/
def codes (run : CaseRun) : List Nat :=
  List.range' run.first ((run.last - run.first) / run.stride + 1) run.stride

/-- The place to which a run maps the character at `code`. -/
def target (run : CaseRun) (code : Nat) : Nat := (Int.ofNat code + run.shift).toNat

theorem mem_codes (h : run.contains n = true) : n ∈ run.codes := by
  simp only [contains, Bool.and_eq_true, decide_eq_true_eq] at h
  obtain ⟨⟨hfirst, hlast⟩, hstep⟩ := h
  have hplace : (n - run.first) / run.stride < (run.last - run.first) / run.stride + 1 :=
    Nat.lt_succ_of_le (Nat.div_le_div_right (Nat.sub_le_sub_right hlast _))
  have hn : n = run.first + run.stride * ((n - run.first) / run.stride) := by
    rw [Nat.mul_div_cancel' (Nat.dvd_of_mod_eq_zero hstep)]
    omega
  exact List.mem_range'.mpr ⟨_, hplace, hn⟩

end CaseRun

/-! ### Two sets of characters -/

/-- What the tables of the capital case map to something else. -/
def smallCodes : List Nat := upperRuns.flatMap CaseRun.codes ++ upperExpansions.map Prod.fst

/-- What they map it to. -/
def capitalCodes : List Nat :=
  upperRuns.flatMap (fun run => run.codes.map run.target) ++ upperExpansions.flatMap Prod.snd

/-- Numbers as the bits of one number. -/
def bits (codes : List Nat) : Nat := codes.foldr (fun code rest => 2 ^ code ||| rest) 0

theorem testBit_bits {codes : List Nat} {code : Nat} (h : code ∈ codes) :
    (bits codes).testBit code = true := by
  induction codes with
  | nil => cases h
  | cons first rest ih =>
      rw [bits, List.foldr_cons, Nat.testBit_or, Bool.or_eq_true]
      rcases List.mem_cons.mp h with rfl | hr
      · exact .inl Nat.testBit_two_pow_self
      · exact .inr (ih hr)

theorem bits_small_and_capital : bits smallCodes &&& bits capitalCodes = 0 := by decide +kernel

theorem not_small_of_capital {code : Nat} (h : code ∈ capitalCodes) : code ∉ smallCodes := by
  intro hs
  have hboth : (bits smallCodes &&& bits capitalCodes).testBit code = true := by
    rw [Nat.testBit_and, testBit_bits hs, testBit_bits h, Bool.and_true]
  rw [bits_small_and_capital, Nat.zero_testBit] at hboth
  cases hboth

/-! ### Characters and texts -/

variable {c d : Char}

theorem upperChars_of_not_small (h : c.toNat ∉ smallCodes) : upperChars c = [c] := by
  rw [smallCodes, List.mem_append, not_or] at h
  have hexpansion : upperExpansions.lookup c.toNat = none :=
    List.lookup_eq_none_iff.mpr fun entry he => bne_iff_ne.mpr fun hc =>
      h.2 (hc ▸ List.mem_map_of_mem he)
  have hrun : (upperRuns.find? fun run => run.contains c.toNat) = none :=
    List.find?_eq_none.mpr fun run hr hc =>
      h.1 (List.mem_flatMap.mpr ⟨run, hr, CaseRun.mem_codes hc⟩)
  rw [upperChars, mappedBy, hexpansion, hrun]

/-- Where a number is no character the null character stands, which is mapped to itself as well. -/
theorem upperChars_of_capital {code : Nat} (h : code ∈ capitalCodes) :
    upperChars (Char.ofNat code) = [Char.ofNat code] := by
  refine upperChars_of_not_small ?_
  by_cases hv : code.isValidChar
  · rw [Char.ofNat, dif_pos hv]
    exact not_small_of_capital h
  · rw [Char.ofNat, dif_neg hv]
    decide +kernel

/-- A character is mapped to itself or to what the tables map to. -/
theorem upperChars_cases (c : Char) :
    upperChars c = [c] ∨ ∀ d ∈ upperChars c, ∃ code ∈ capitalCodes, Char.ofNat code = d := by
  rw [upperChars, mappedBy]
  cases hexpansion : upperExpansions.lookup c.toNat with
  | some codes =>
      obtain ⟨before, after, hentries, -⟩ := List.lookup_eq_some_iff.mp hexpansion
      have hmem : (c.toNat, codes) ∈ upperExpansions :=
        hentries ▸ List.mem_append_right _ List.mem_cons_self
      refine .inr (List.forall_mem_map.mpr fun code hcode => ⟨code, ?_, rfl⟩)
      exact List.mem_append_right _ (List.mem_flatMap.mpr ⟨_, hmem, hcode⟩)
  | none =>
      cases hrun : upperRuns.find? fun run => run.contains c.toNat with
      | some run =>
          have hmem : c.toNat ∈ run.codes := CaseRun.mem_codes (by simpa using List.find?_some hrun)
          refine .inr (List.forall_mem_singleton.mpr ⟨run.target c.toNat, ?_, rfl⟩)
          exact List.mem_append_left _ (List.mem_flatMap.mpr
            ⟨run, List.mem_of_find?_eq_some hrun, List.mem_map_of_mem hmem⟩)
      | none => exact .inl rfl

/-- A character to which another one is mapped is mapped to itself. -/
theorem upperChars_of_mem (h : d ∈ upperChars c) : upperChars d = [d] := by
  rcases upperChars_cases c with hc | hcapital
  · rw [hc, List.mem_singleton] at h
    rw [h, hc]
  · obtain ⟨code, hcode, rfl⟩ := hcapital d h
    exact upperChars_of_capital hcode

theorem upper_upper (text : String) : upper (upper text) = upper text := by
  have hall : ∀ d ∈ text.toList.flatMap upperChars, upperChars d = [d] := fun d hd => by
    obtain ⟨c, -, hc⟩ := List.mem_flatMap.mp hd
    exact upperChars_of_mem hc
  rw [upper, upper, String.toList_ofList, List.flatMap_congr hall, List.flatMap_singleton']

end ToolSchema.Text
