/-! Blank characters and trimming. A trimmed text neither begins nor ends with a blank. -/

namespace ToolSchema.Text

/-- The characters removed at the ends of a text. -/
def isBlank (c : Char) : Bool :=
  let n := c.toNat
  (0x09 ≤ n && n ≤ 0x0D) || (0x1C ≤ n && n ≤ 0x20) || n = 0x85 || n = 0xA0 || n = 0x1680 ||
    (0x2000 ≤ n && n ≤ 0x200A) || n = 0x2028 || n = 0x2029 || n = 0x202F || n = 0x205F || n = 0x3000

def trimStart (text : List Char) : List Char := text.dropWhile isBlank

def trimEnd (text : List Char) : List Char := (text.reverse.dropWhile isBlank).reverse

def trim (text : List Char) : List Char := trimEnd (trimStart text)

theorem length_dropWhile_le (p : Char → Bool) (text : List Char) :
    (text.dropWhile p).length ≤ text.length :=
  (List.dropWhile_sublist p).length_le

theorem length_trimEnd_le (text : List Char) : (trimEnd text).length ≤ text.length := by
  have := length_dropWhile_le isBlank text.reverse
  simpa [trimEnd] using this

theorem length_trim_le (text : List Char) : (trim text).length ≤ text.length :=
  Nat.le_trans (length_trimEnd_le _) (length_dropWhile_le _ _)

/-! ### What trimming leaves

Trimming takes the blanks around a body away and nothing else. -/

def Blank (text : List Char) : Prop := ∀ c ∈ text, isBlank c = true

instance (text : List Char) : Decidable (Blank text) := List.decidableBAll _ text

/-- A text that neither begins nor ends with a blank. -/
def Trimmed (text : List Char) : Prop :=
  (∀ c ∈ text.head?, isBlank c = false) ∧ ∀ c ∈ text.getLast?, isBlank c = false

instance (text : List Char) : Decidable (Trimmed text) :=
  @instDecidableAnd _ _ (Option.decidableForallMem text.head?)
    (Option.decidableForallMem text.getLast?)

/-- A body with blanks around it. -/
def Padded (body text : List Char) : Prop :=
  ∃ before after, Blank before ∧ Blank after ∧ text = before ++ body ++ after

theorem blank_nil : Blank [] := fun _ h => absurd h List.not_mem_nil

theorem Blank.append {first second : List Char} (hf : Blank first) (hs : Blank second) :
    Blank (first ++ second) :=
  fun c hc => (List.mem_append.mp hc).elim (hf c) (hs c)

theorem padded_self (body : List Char) : Padded body body :=
  ⟨[], [], blank_nil, blank_nil, (List.append_nil body).symm⟩

theorem Padded.trans {body middle text : List Char} (h : Padded body middle)
    (h' : Padded middle text) : Padded body text := by
  obtain ⟨before, after, hb, ha, rfl⟩ := h
  obtain ⟨before', after', hb', ha', rfl⟩ := h'
  exact ⟨before' ++ before, after ++ after', hb'.append hb, ha.append ha', by
    simp only [List.append_assoc]⟩

theorem trimStart_append {before : List Char} (h : Blank before) (rest : List Char) :
    trimStart (before ++ rest) = trimStart rest :=
  List.dropWhile_append_of_pos h

theorem trimEnd_append {after : List Char} (h : Blank after) (text : List Char) :
    trimEnd (text ++ after) = trimEnd text := by
  have hr : ∀ c ∈ after.reverse, isBlank c = true := fun c hc => h c (List.mem_reverse.mp hc)
  rw [trimEnd, List.reverse_append, List.dropWhile_append_of_pos hr, trimEnd]

theorem trimStart_eq_self {text : List Char} (h : ∀ c ∈ text.head?, isBlank c = false) :
    trimStart text = text := by
  cases text with
  | nil => rfl
  | cons c rest => exact List.dropWhile_cons_of_neg (by simp [h c rfl])

theorem trimEnd_eq_self {text : List Char} (h : ∀ c ∈ text.getLast?, isBlank c = false) :
    trimEnd text = text := by
  have hr : trimStart text.reverse = text.reverse :=
    trimStart_eq_self fun c hc => h c (by rwa [List.head?_reverse] at hc)
  rw [trimEnd, show text.reverse.dropWhile isBlank = text.reverse from hr, List.reverse_reverse]

theorem trim_of_padded {body text : List Char} (ht : Trimmed body) (h : Padded body text) :
    trim text = body := by
  obtain ⟨before, after, hb, ha, rfl⟩ := h
  rw [trim, List.append_assoc, trimStart_append hb]
  cases body with
  | nil =>
    rw [List.nil_append, ← List.append_nil after, trimStart_append ha]
    rfl
  | cons c rest =>
    have hc : trimStart (c :: rest ++ after) = c :: rest ++ after :=
      trimStart_eq_self fun d hd => ht.1 d hd
    rw [hc, trimEnd_append ha, trimEnd_eq_self ht.2]

theorem blank_takeWhile (text : List Char) : Blank (text.takeWhile isBlank) :=
  List.all_eq_true.mp List.all_takeWhile

theorem trimEnd_append_blank (text : List Char) :
    ∃ after, Blank after ∧ text = trimEnd text ++ after := by
  refine ⟨(text.reverse.takeWhile isBlank).reverse, fun c hc => ?_, ?_⟩
  · exact blank_takeWhile _ c (List.mem_reverse.mp hc)
  · rw [trimEnd, ← List.reverse_append, List.takeWhile_append_dropWhile, List.reverse_reverse]

theorem padded_trim (text : List Char) : Padded (trim text) text := by
  obtain ⟨after, ha, he⟩ := trimEnd_append_blank (trimStart text)
  refine ⟨text.takeWhile isBlank, after, blank_takeWhile text, ha, ?_⟩
  rw [List.append_assoc, trim, ← he]
  exact List.takeWhile_append_dropWhile.symm

theorem head?_trimStart (text : List Char) : ∀ c ∈ (trimStart text).head?, isBlank c = false := by
  intro c hc
  have h := List.head?_dropWhile_not isBlank text
  rw [show (text.dropWhile isBlank).head? = some c from hc] at h
  exact h

theorem trimmed_trim (text : List Char) : Trimmed (trim text) := by
  constructor
  · intro c hc
    obtain ⟨after, -, he⟩ := trimEnd_append_blank (trimStart text)
    refine head?_trimStart text c ?_
    rw [he, List.head?_append, show (trimEnd (trimStart text)).head? = some c from hc]
    rfl
  · intro c hc
    rw [trim, trimEnd, List.getLast?_reverse] at hc
    exact head?_trimStart _ c hc

theorem trim_trim (text : List Char) : trim (trim text) = trim text :=
  trim_of_padded (trimmed_trim text) (padded_self _)

end ToolSchema.Text
