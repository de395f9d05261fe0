import ToolSchema.Proofs.WrittenText

/-! What is read. A word that stands for a value of its own is no container, and a whole number in it has
no more digits than the limit, for one with more is refused (`Token.IsSound`). The machine puts such words
into arrays and objects, and a member of a name that is there already takes its place. So in a value that
is read every whole number has a text, and no two members of an object have one name
(`Json.readable_of_read`). -/

namespace ToolSchema.Json

open Token (first? scan scanUnsigned scanWhole isDigit digitsValue)

/-- Values with whole numbers of no more digits than the limit, and with members that stand once each. -/
inductive Readable : Json → Prop
  | null : Readable .null
  | bool (flag : Bool) : Readable (.bool flag)
  | int {n : Int} (h : n.natAbs < Nat.pow 10 Decimal.maxDigits) : Readable (.int n)
  | float (x : Float) : Readable (.float x)
  | str (text : String) : Readable (.str text)
  | arr {items} (h : ∀ item ∈ items, Readable item) : Readable (.arr items)
  | obj {members} (hd : (Table.keys members).Nodup) (h : ∀ entry ∈ members, Readable entry.2) :
      Readable (.obj members)

/-! ### Digits -/

theorem Token.isDigit_of_scanWhole {text digits rest : List Char}
    (h : scanWhole text = some (digits, rest)) : ∀ c ∈ digits, isDigit c = true := by
  cases text with
  | nil => cases h
  | cons c text =>
      rw [scanWhole] at h
      split at h
      · cases h
        exact List.forall_mem_singleton.mpr rfl
      · split at h
        · rename_i hc
          cases h
          exact List.forall_mem_cons.mpr ⟨hc, List.all_eq_true.mp List.all_takeWhile⟩
        · cases h

theorem Token.digitsValue_lt {digits : List Char} (h : ∀ c ∈ digits, isDigit c = true) :
    digitsValue digits < Nat.pow 10 digits.length := by
  have hfold : ∀ start, digits.foldl (fun n c => n * 10 + (c.toNat - '0'.toNat)) start <
      (start + 1) * Nat.pow 10 digits.length := by
    induction digits with
    | nil =>
        intro start
        simp
    | cons c rest ih =>
        intro start
        obtain ⟨hc, hrest⟩ := List.forall_mem_cons.mp h
        have hdigit : c.toNat - '0'.toNat < 10 := by
          have hle : c ≤ '9' := by simpa using (Bool.and_eq_true_iff.mp hc).2
          have hnat : c.toNat ≤ '9'.toNat := hle
          have hnine : '9'.toNat = '0'.toNat + 9 := rfl
          omega
        have hpow : Nat.pow 10 (rest.length + 1) = 10 * Nat.pow 10 rest.length := Nat.pow_succ'
        rw [List.foldl_cons, List.length_cons, hpow, ← Nat.mul_assoc]
        refine Nat.lt_of_lt_of_le (ih hrest _) (Nat.mul_le_mul_right _ ?_)
        omega
  simpa [digitsValue] using hfold 0

/-! ### Words -/

/-- What a word that is read says of its value: one without parts can be read, and a number that is
refused has too many digits. -/
def Token.IsSound : Token → Prop
  | .scalar value => value.Readable
  | .oversized digits => Decimal.maxDigits < digits
  | _ => True

theorem Token.isSound_of_scanUnsigned {negative : Bool} {text rest : List Char} {token : Token}
    (h : scanUnsigned negative text = some (token, rest)) : token.IsSound := by
  unfold scanUnsigned at h
  split at h
  · cases h
  · rename_i whole _ hwhole
    dsimp only at h
    split at h
    · split at h
      · cases h
        assumption
      · rename_i hfew
        cases h
        have hvalue := digitsValue_lt (isDigit_of_scanWhole hwhole)
        have hpow {limit : Nat} (hl : whole.length ≤ limit) :
            Nat.pow 10 whole.length ≤ Nat.pow 10 limit := Nat.pow_le_pow_right (by decide) hl
        have hsize : (if negative then -(digitsValue whole : Int) else digitsValue whole).natAbs =
            digitsValue whole := by
          split <;> omega
        exact .int (lt_of_eq_of_lt hsize (Nat.lt_of_lt_of_le hvalue (hpow (Nat.le_of_not_lt hfew))))
    · cases h
      exact .float _

theorem Token.isSound_of_first? {text rest : List Char} {token : Token}
    (h : first? text = some (token, rest)) : token.IsSound := by
  unfold first? at h
  split at h
  case h_7 =>
    obtain ⟨_, _, he⟩ := Option.map_eq_some_iff.mp h
    cases he
    trivial
  case h_8 | h_9 =>
    cases h
    exact .bool _
  case h_10 =>
    cases h
    exact .null
  case h_11 | h_12 | h_13 =>
    cases h
    exact .float _
  case h_14 | h_15 => exact isSound_of_scanUnsigned h
  all_goals
    cases h
    try trivial

theorem Token.isSound_of_mem_scan {text : List Char} {token : Token} (h : token ∈ scan text) :
    token.IsSound := by
  fun_induction scan text with
  | case1 => cases h
  | case2 c rest _ ih => exact ih h
  | case3 =>
      cases List.mem_singleton.mp h
      trivial
  | case4 c rest _ first tail hfirst _ ih =>
      rcases List.mem_cons.mp h with rfl | h
      · exact isSound_of_first? hfirst
      · exact ih h

/-! ### Numbers of too many digits -/

theorem ReadState.oversized_of_step {state : ReadState} {token : Token} {digits : Nat}
    (h : state.step token = .error (.oversized digits)) : token = .oversized digits := by
  have hbegin : ∀ frames, beginValue frames token = .error (.oversized digits) →
      token = .oversized digits := by
    intro frames hb
    cases token <;> cases hb
    rfl
  unfold step at h
  split at h
  · exact hbegin _ h
  · split at h
    · cases h
    · exact hbegin _ h
  all_goals
    split at h <;> cases h

theorem ReadState.mem_of_run {state : ReadState} {tokens : List Token} {digits : Nat}
    (h : state.run tokens = .error (.oversized digits)) : Token.oversized digits ∈ tokens := by
  induction tokens generalizing state with
  | nil =>
      rw [run, finish] at h
      split at h <;> cases h
  | cons token rest ih =>
      rw [run] at h
      split at h
      · exact List.mem_cons_of_mem _ (ih h)
      · rename_i error hstep
        cases h
        exact oversized_of_step hstep ▸ List.mem_cons_self

theorem digits_of_readWithin {nesting : Nat} {text : String} {digits : Nat}
    (h : readWithin nesting text = .error (.oversized digits)) : Decimal.maxDigits < digits := by
  rcases ReadState.runWithin_cases nesting .start (Token.scan text.toList) with he | ⟨kind, he⟩
  · exact Token.isSound_of_mem_scan (ReadState.mem_of_run (he.symm.trans h))
  · cases he.symm.trans h

/-! ### Values -/

/-- Members that stand once each, with values that can be read. -/
def AreReadable (members : List (String × Json)) : Prop :=
  (Table.keys members).Nodup ∧ ∀ entry ∈ members, entry.2.Readable

theorem AreReadable.put {members : Table Json} {value : Json} (h : AreReadable members) (key : String)
    (hv : value.Readable) : AreReadable (members.put key value) := by
  refine ⟨Table.nodup_keys_put h.1 _ _, fun entry he => ?_⟩
  rcases Table.mem_put he with hm | hm
  · exact h.2 _ hm
  · exact hm ▸ hv

def Frame.Readable : Frame → Prop
  | .items done => ∀ item ∈ done, item.Readable
  | .members done _ => AreReadable done

def Expected.Readable : Expected → Prop
  | .key done | .colon done _ => AreReadable done
  | .follower complete => complete.Readable
  | _ => True

namespace ReadState

/-- What is in the open containers can be read, and so can the value just completed. -/
structure Readable (state : ReadState) : Prop where
  expected : state.expected.Readable
  frames : ∀ frame ∈ state.frames, frame.Readable

theorem readable_of_beginValue {frames : List Frame} {token : Token} {next : ReadState}
    (hf : ∀ frame ∈ frames, frame.Readable) (ht : token.IsSound)
    (h : beginValue frames token = .ok next) : next.Readable := by
  cases token with
  | scalar value =>
      cases h
      exact ⟨ht, hf⟩
  | str text =>
      cases h
      exact ⟨.str text, hf⟩
  | openBracket | openBrace =>
      cases h
      exact ⟨trivial, hf⟩
  | _ => cases h

theorem readable_of_step {state next : ReadState} {token : Token} (hs : state.Readable)
    (ht : token.IsSound) (h : state.step token = .ok next) : next.Readable := by
  have hnone : AreReadable [] := ⟨List.nodup_nil, List.forall_mem_nil _⟩
  obtain ⟨expected, frames⟩ := state
  obtain ⟨he, hf⟩ := hs
  cases expected with
  | value => exact readable_of_beginValue hf ht h
  | firstItem =>
      unfold step at h
      dsimp only at h
      split at h
      · cases h
        exact ⟨.arr (List.forall_mem_nil _), hf⟩
      · have hitems : (Frame.items []).Readable := List.forall_mem_nil _
        exact readable_of_beginValue (List.forall_mem_cons.mpr ⟨hitems, hf⟩) ht h
  | firstKey =>
      unfold step at h
      dsimp only at h
      split at h <;> cases h
      · exact ⟨.obj hnone.1 hnone.2, hf⟩
      · exact ⟨hnone, hf⟩
  | key done =>
      unfold step at h
      dsimp only at h
      split at h <;> cases h
      exact ⟨he, hf⟩
  | colon done key =>
      unfold step at h
      dsimp only at h
      split at h <;> cases h
      exact ⟨trivial, List.forall_mem_cons.mpr ⟨he, hf⟩⟩
  | follower complete =>
      unfold step at h
      dsimp only at h
      split at h <;> cases h
      · obtain ⟨hdone, houter⟩ := List.forall_mem_cons.mp hf
        have hitems : ∀ item ∈ complete :: _, Json.Readable item :=
          List.forall_mem_cons.mpr ⟨he, hdone⟩
        exact ⟨trivial, List.forall_mem_cons.mpr ⟨hitems, houter⟩⟩
      · obtain ⟨hdone, houter⟩ := List.forall_mem_cons.mp hf
        have hitems : ∀ item ∈ complete :: _, Json.Readable item :=
          List.forall_mem_cons.mpr ⟨he, hdone⟩
        exact ⟨.arr fun item hi => hitems item (List.mem_reverse.mp hi), houter⟩
      · obtain ⟨hdone, houter⟩ := List.forall_mem_cons.mp hf
        exact ⟨hdone.put _ he, houter⟩
      · obtain ⟨hdone, houter⟩ := List.forall_mem_cons.mp hf
        obtain ⟨hd, hv⟩ := hdone.put _ he
        exact ⟨.obj hd hv, houter⟩

theorem readable_of_run {state : ReadState} {tokens : List Token} {value : Json}
    (hs : state.Readable) (ht : ∀ token ∈ tokens, token.IsSound)
    (h : state.run tokens = .ok value) : value.Readable := by
  induction tokens generalizing state with
  | nil =>
      rw [run, finish] at h
      split at h
      · rename_i complete he _
        cases h
        have hcomplete := hs.expected
        rw [he] at hcomplete
        exact hcomplete
      · cases h
  | cons token rest ih =>
      obtain ⟨htoken, hrest⟩ := List.forall_mem_cons.mp ht
      rw [run] at h
      split at h
      · rename_i next hstep
        exact ih (readable_of_step hs htoken hstep) hrest h
      · cases h

end ReadState

theorem readable_of_read {text : String} {value : Json} (h : read text = .ok value) :
    value.Readable := by
  have hstart : ReadState.start.Readable := ⟨trivial, List.forall_mem_nil _⟩
  exact ReadState.readable_of_run hstart (fun _ => Token.isSound_of_mem_scan) h

end ToolSchema.Json
