import ToolSchema.Proofs.EncodedDocuments

/-! One text for all orders of members. Members with distinct keys can be put in order in one way only,
so values that are alike up to the order of members, at any depth and at each depth in its own way, are
the same value once their members are in order. What is written in order is therefore the same text in
every layout, and in it each key comes before the next one by code points. -/

namespace ToolSchema

/-! ### Tables of the same keys -/

namespace Table

variable {α : Type} {t other : Table α}

theorem subset_of_keys (hk : t.keys ⊆ other.keys)
    (h : ∀ key value found, (key, value) ∈ t → (key, found) ∈ other → value = found) :
    t ⊆ other := by
  rintro ⟨key, value⟩ hv
  obtain ⟨⟨_, found⟩, hf, rfl⟩ := List.mem_map.mp (hk (List.mem_map_of_mem hv))
  rw [h _ value found hv hf]
  exact hf

/-- What is under the same keys, none of them twice, is the same but for its order. -/
theorem perm_of_keys (hn : t.keys.Nodup) (hk : t.keys.Perm other.keys)
    (h : ∀ key value found, (key, value) ∈ t → (key, found) ∈ other → value = found) :
    t.Perm other := by
  have ht : t.Nodup := List.Nodup.of_map Prod.fst hn
  have ho : other.Nodup := List.Nodup.of_map Prod.fst (hk.nodup_iff.mp hn)
  refine (List.perm_ext_iff_of_nodup ht ho).mpr fun entry => ⟨fun hm => ?_, fun hm => ?_⟩
  · exact subset_of_keys hk.subset h hm
  · exact subset_of_keys hk.symm.subset (fun key value found hv hf => (h key found value hf hv).symm) hm

end Table

namespace Json

/-! ### Members in order -/

def codePoints (text : String) : List Nat := text.toList.map Char.toNat

/-- Keys from the least to the greatest, none twice, by the code points of their characters. -/
def Ascending (keys : List String) : Prop :=
  keys.Pairwise fun key next => codePoints key < codePoints next

instance (keys : List String) : Decidable (Ascending keys) :=
  inferInstanceAs (Decidable (keys.Pairwise fun key next => codePoints key < codePoints next))

/-- The members of every object are in ascending order, at any depth. -/
inductive InKeyOrder : Json → Prop
  | null : InKeyOrder .null
  | bool (flag : Bool) : InKeyOrder (.bool flag)
  | int (n : Int) : InKeyOrder (.int n)
  | float (x : Float) : InKeyOrder (.float x)
  | str (text : String) : InKeyOrder (.str text)
  | arr {items} (h : ∀ item ∈ items, InKeyOrder item) : InKeyOrder (.arr items)
  | obj {members} (hk : Ascending (Table.keys members)) (h : ∀ entry ∈ members, InKeyOrder entry.2) :
      InKeyOrder (.obj members)

variable {document other : Json} {members others : List (String × Json)}

theorem codePoints_lt {key next : String} (h : key < next) : codePoints key < codePoints next :=
  List.map_lt (fun _ _ hc => hc) (String.lt_iff.mp h)

theorem le_of_codePoints_lt {key next : String} (h : codePoints key < codePoints next) :
    key ≤ next :=
  fun hlt => List.lt_asymm h (codePoints_lt hlt)

/-- Members in the order of their keys, as `sorted` puts them. -/
def ordered (members : List (String × Json)) : List (String × Json) :=
  members.mergeSort fun a b => decide (a.1 ≤ b.1)

theorem pairwise_ordered (members : List (String × Json)) :
    (ordered members).Pairwise fun a b => a.1 ≤ b.1 := by
  have hsorted : (ordered members).Pairwise fun a b => decide (a.1 ≤ b.1) = true :=
    List.pairwise_mergeSort
      (fun a b c hab hbc => by
        simp only [decide_eq_true_eq] at hab hbc ⊢
        exact String.le_trans hab hbc)
      (fun a b => by simpa using String.le_total a.1 b.1) members
  exact hsorted.imp fun hle => of_decide_eq_true hle

/-- With distinct keys there is one order only. -/
theorem ordered_eq (hn : (Table.keys members).Nodup) (hp : members.Perm others) :
    ordered members = ordered others := by
  have hmembers : (ordered members).Perm members := List.mergeSort_perm _ _
  have hothers : (ordered others).Perm members := (List.mergeSort_perm _ _).trans hp.symm
  refine (hmembers.trans hothers.symm).eq_of_pairwise (fun a b ha hb hab hba => ?_)
    (pairwise_ordered members) (pairwise_ordered others)
  have hkey : a.1 = b.1 := String.le_antisymm hab hba
  exact List.inj_on_of_nodup_map hn (hmembers.mem_iff.mp ha) (hothers.mem_iff.mp hb) hkey

theorem ascending_ordered (hn : (Table.keys members).Nodup) :
    Ascending (Table.keys (ordered members)) := by
  have hkeys : (Table.keys (ordered members)).Nodup :=
    ((List.mergeSort_perm members _).map Prod.fst).nodup_iff.mpr hn
  refine (hkeys.and (List.pairwise_map.mpr (pairwise_ordered members))).imp ?_
  rintro key next ⟨hne, hle⟩
  have hlt : key < next := String.not_le.mp fun hge => hne (String.le_antisymm hle hge)
  exact codePoints_lt hlt

/-! ### Values in order -/

theorem sorted_obj (members : List (String × Json)) :
    (Json.obj members).sorted =
      .obj (ordered (members.map fun entry => (entry.1, entry.2.sorted))) := by
  rw [Json.sorted, sortedMembers_eq]
  rfl

theorem Alike.kind_eq (h : document.Alike other) : document.kind = other.kind := by
  cases h <;> rfl

/-- Values that are alike are one value when their members are in order. -/
theorem Textual.sorted_eq (h : document.Textual) (ha : document.Alike other) :
    document.sorted = other.sorted := by
  induction h generalizing other with
  | null =>
      cases ha
      rfl
  | bool flag =>
      cases ha
      rfl
  | str text =>
      cases ha
      rfl
  | @arr items _ ih =>
      cases ha with
      | @arr _ others hl ha =>
          rw [Json.sorted, Json.sorted, sortedItems_eq, sortedItems_eq]
          refine congrArg Json.arr (List.ext_getElem (by simpa using hl) fun i hi ho => ?_)
          rw [List.getElem_map, List.getElem_map]
          rw [List.length_map] at hi ho
          have hz : i < (items.zip others).length := by
            rw [List.length_zip]
            omega
          have hpair : (items[i], others[i]) ∈ items.zip others := by
            rw [← List.getElem_zip (h := hz)]
            exact List.getElem_mem hz
          exact ih _ (List.getElem_mem hi) (ha _ _ hpair)
  | @obj members hn _ ih =>
      cases ha with
      | @obj _ others hk ha =>
          rw [sorted_obj, sorted_obj]
          refine congrArg Json.obj (ordered_eq (by rwa [Table.keys_map]) (Table.perm_of_keys ?_ ?_ ?_))
          · rwa [Table.keys_map]
          · rwa [Table.keys_map, Table.keys_map]
          · intro key value found hv hf
            obtain ⟨⟨_, first⟩, hfirst, he⟩ := List.mem_map.mp hv
            obtain ⟨⟨_, second⟩, hsecond, he'⟩ := List.mem_map.mp hf
            cases he
            cases he'
            exact ih _ hfirst (ha _ _ _ hfirst hsecond)

theorem Textual.inKeyOrder_sorted (h : document.Textual) : document.sorted.InKeyOrder := by
  induction h with
  | null => exact .null
  | bool flag => exact .bool flag
  | str text => exact .str text
  | arr _ ih =>
      rw [Json.sorted, sortedItems_eq]
      exact .arr (List.forall_mem_map.mpr ih)
  | @obj members hn _ ih =>
      rw [sorted_obj]
      refine .obj (ascending_ordered (by rwa [Table.keys_map])) fun entry he => ?_
      have hm := (List.mergeSort_perm _ _).mem_iff.mp he
      obtain ⟨found, hf, rfl⟩ := List.mem_map.mp hm
      exact ih found hf

/-- A value whose members are in order stays as it is. -/
theorem InKeyOrder.sorted_eq (h : document.InKeyOrder) : document.sorted = document := by
  induction h with
  | arr _ ih =>
      rw [Json.sorted, sortedItems_eq]
      exact congrArg Json.arr ((List.map_congr_left ih).trans (List.map_id _))
  | @obj members hk _ ih =>
      have hmap : (members.map fun entry => (entry.1, entry.2.sorted)) = members := by
        refine Eq.trans (List.map_congr_left fun entry he => ?_) (List.map_id members)
        rw [ih entry he, id]
      rw [sorted_obj, hmap]
      refine congrArg Json.obj (List.mergeSort_of_pairwise ?_)
      exact (List.pairwise_map.mp hk).imp fun hlt => decide_eq_true (le_of_codePoints_lt hlt)
  | _ => rfl

namespace Encoding

variable {encoding : Encoding} {memory : Nat} {text : String}

/-- Alike values end alike when they are encoded with their members in order. -/
theorem encode_eq_of_alike (hs : encoding.sortKeys = true) (h : document.Textual)
    (ha : document.Alike other) : encoding.encode memory document = encoding.encode memory other := by
  have herror : encoding.error? memory document = encoding.error? memory other := by
    rw [error?, error?, ha.kind_eq]
  have hvalue : encoding.arrange document = encoding.arrange other := by
    rw [arrange, arrange, if_pos hs, if_pos hs, h.sorted_eq ha]
  rw [encode, encode, herror, hvalue]

theorem eq_write_of_encode (he : encoding.encode memory document = .ok text) :
    text = (encoding.arrange document).write encoding.layout ++ "\n" := by
  rw [encode] at he
  split at he
  · cases he
  · exact (Except.ok.inj he).symm

end Encoding

end Json

/-- Documents that are alike up to the order of members have the same text when their members are put in
order, in every layout that exists: on one line whatever the width is, and else as long as it fits; where
it does not, both are refused alike. The text is that of a value with its keys in ascending order at any
depth, which is what it is read as. -/
theorem ordered_text_is_canonical (memory : Nat) (pretty : Bool) (width : Int) {document other : Json}
    (h : document.Textual) (ha : document.Alike other) :
    let encoding : Json.Encoding := ⟨pretty, .blanks width, true⟩
    encoding.encode memory document = encoding.encode memory other ∧
    ((∃ text, encoding.encode memory document = .ok text) ↔
      (pretty = true → document.kind ≠ .str → Json.Indent.Fits memory width)) ∧
    ∀ text, encoding.encode memory document = .ok text →
      ∃ value : Json, value.InKeyOrder ∧ document.Alike value ∧
        text = value.write encoding.layout ++ "\n" ∧ Json.read text = .ok value := by
  intro encoding
  refine ⟨Json.Encoding.encode_eq_of_alike rfl h ha, ?_, fun text he => ?_⟩
  · have herror : encoding.error? memory document = none ↔
        (pretty = true → document.kind ≠ .str → ∀ n ∈ some width, Json.Indent.Fits memory n) :=
      @Json.Encoding.error?_of_width memory document pretty true (some width)
    rw [Json.Encoding.exists_encode_iff_error?]
    simpa using herror
  · refine ⟨document.sorted, h.inKeyOrder_sorted, h.alike_sorted, ?_, ?_⟩
    · exact Json.Encoding.eq_write_of_encode he
    · exact Json.Encoding.read_encode rfl h he

/-- Of its two keys the first is the greater one by code points, though not in units of 16 bits. -/
def score : Json :=
  .arr [.obj [("𝄞", .obj [("b", .null), ("a", .str "x")]), ("～", .bool true)]]

/-- The score in the order of its keys. -/
def orderedScore : Json :=
  .arr [.obj [("～", .bool true), ("𝄞", .obj [("a", .str "x"), ("b", .null)])]]

theorem inKeyOrder_orderedScore : orderedScore.InKeyOrder := by
  refine .arr (List.forall_mem_singleton.mpr (.obj (by decide) ?_))
  refine List.forall_mem_cons.mpr ⟨.bool true, List.forall_mem_singleton.mpr (.obj (by decide) ?_)⟩
  exact List.forall_mem_cons.mpr ⟨.str "x", List.forall_mem_singleton.mpr .null⟩

theorem score_alike : score.Alike orderedScore := by
  have hinner : (Json.obj [("b", .null), ("a", .str "x")]).Alike
      (.obj [("a", .str "x"), ("b", .null)]) := by
    refine .obj (List.Perm.swap _ _ _) fun key value other hv ho => ?_
    simp only [List.mem_cons, Prod.mk.injEq, List.not_mem_nil, or_false] at hv ho
    rcases hv with ⟨rfl, rfl⟩ | ⟨rfl, rfl⟩ <;> rcases ho with ⟨hn, rfl⟩ | ⟨hn, rfl⟩
    · exact absurd hn (by decide)
    · exact .null
    · exact .str "x"
    · exact absurd hn (by decide)
  refine .arr rfl fun item other hm => ?_
  cases List.mem_singleton.mp hm
  refine .obj (List.Perm.swap _ _ _) fun key value other hv ho => ?_
  simp only [List.mem_cons, Prod.mk.injEq, List.not_mem_nil, or_false] at hv ho
  rcases hv with ⟨rfl, rfl⟩ | ⟨rfl, rfl⟩ <;> rcases ho with ⟨hn, rfl⟩ | ⟨hn, rfl⟩
  · exact absurd hn (by decide)
  · exact hinner
  · exact .bool true
  · exact absurd hn (by decide)

theorem score_text :
    score.Textual ∧ score.Alike orderedScore ∧
      (Json.Encoding.mk false (.blanks 2) true).encode Machine.usual.memory score =
        .ok "[\x7b\"～\":true,\"𝄞\":\x7b\"a\":\"x\",\"b\":null\x7d\x7d]\n" := by
  have htextual : score.Textual := Json.textual_of_isTextual (by decide)
  obtain ⟨hsame, -, -⟩ := ordered_text_is_canonical Machine.usual.memory false 2 htextual score_alike
  refine ⟨htextual, score_alike, hsame.trans ?_⟩
  change Except.ok (orderedScore.sorted.write .compact ++ "\n") = _
  rw [inKeyOrder_orderedScore.sorted_eq]
  with_unfolding_all rfl

/-- Without a text there is none in common: the indentation is no number of 64 bits. -/
theorem score_unwritten :
    score.Textual ∧ score.Alike orderedScore ∧
      ¬∃ text,
        (Json.Encoding.mk true (.blanks (-9223372036854775809)) true).encode Machine.usual.memory score =
          .ok text ∧
        (Json.Encoding.mk true (.blanks (-9223372036854775809)) true).encode Machine.usual.memory
          orderedScore = .ok text := by
  refine ⟨Json.textual_of_isTextual (by decide), score_alike, ?_⟩
  rintro ⟨text, htext, -⟩
  cases htext

end ToolSchema
