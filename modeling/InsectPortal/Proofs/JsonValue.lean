import InsectPortal.Json.Record
import InsectPortal.Proofs.JsonGrammar

/-!
# Reading values back

A value is read back from the text it is written as, as long as its literals have texts. A record is
read back field by field.
-/
namespace InsectPortal.Json

/-- Every literal of the value is a text. -/
def HasTexts (v : Json) : Prop := ∀ t ∈ v.write, t ≠ .text none

/-- A value whose literals are texts is read back from its own text. -/
theorem parse?_compact {v : Json} (h : v.HasTexts) : parse? v.compact = some v := by
  apply parse?_of_spells
  rw [compact, String.toList_ofList]
  exact spells_spell h

@[simp]
theorem hasTexts_null : Json.null.HasTexts := by
  simp [HasTexts, write]

@[simp]
theorem hasTexts_bool (b : Bool) : (Json.bool b).HasTexts := by
  simp [HasTexts, write]

@[simp]
theorem hasTexts_str (s : String) : (Json.str s).HasTexts := by
  simp [HasTexts, write, str]

@[simp]
theorem hasTexts_count (n : UInt64) : (Json.count n).HasTexts := by
  simp [HasTexts, write, count]

@[simp]
theorem hasTexts_ofOption (s : Option String) : (ofOption s).HasTexts := by
  cases s <;> simp [ofOption]

theorem mem_writeItems {items : List Json} {t : Token} (h : t ∈ writeItems items) :
    t = .comma ∨ ∃ v ∈ items, t ∈ v.write := by
  induction items with
  | nil => cases h
  | cons v rest ih =>
    cases rest with
    | nil => exact Or.inr ⟨v, List.mem_cons_self, h⟩
    | cons w rest =>
      rw [writeItems, List.mem_append, List.mem_cons] at h
      rcases h with h | h | h
      · exact Or.inr ⟨v, List.mem_cons_self, h⟩
      · exact Or.inl h
      · refine (ih h).imp_right ?_
        rintro ⟨x, hx, hmem⟩
        exact ⟨x, List.mem_cons_of_mem v hx, hmem⟩

theorem mem_writeMembers {members : List (Literal × Json)} {t : Token}
    (h : t ∈ writeMembers members) :
    t = .comma ∨ t = .colon ∨ ∃ m ∈ members, t = .text m.1 ∨ t ∈ m.2.write := by
  induction members with
  | nil => cases h
  | cons m rest ih =>
    have hfirst : t = .text m.1 ∨ t = .colon ∨ t ∈ m.2.write → t = .comma ∨ t = .colon ∨
        ∃ x ∈ m :: rest, t = .text x.1 ∨ t ∈ x.2.write := by
      rintro (h | h | h)
      · exact Or.inr (Or.inr ⟨m, List.mem_cons_self, Or.inl h⟩)
      · exact Or.inr (Or.inl h)
      · exact Or.inr (Or.inr ⟨m, List.mem_cons_self, Or.inr h⟩)
    cases rest with
    | nil =>
      rw [writeMembers, List.mem_cons, List.mem_cons] at h
      exact hfirst h
    | cons n rest =>
      rw [writeMembers, List.mem_cons, List.mem_cons, List.mem_append, List.mem_cons] at h
      rcases h with h | h | h | h | h
      · exact hfirst (Or.inl h)
      · exact hfirst (Or.inr (Or.inl h))
      · exact hfirst (Or.inr (Or.inr h))
      · exact Or.inl h
      · refine (ih h).imp_right (Or.imp_right ?_)
        rintro ⟨x, hx, hmem⟩
        exact ⟨x, List.mem_cons_of_mem m hx, hmem⟩

theorem hasTexts_array {items : List Json} (h : ∀ v ∈ items, v.HasTexts) :
    (Json.array items).HasTexts := by
  intro t ht
  rw [write, List.mem_cons, List.mem_append, List.mem_singleton] at ht
  rcases ht with rfl | ht | rfl
  · simp
  · rcases mem_writeItems ht with rfl | ⟨v, hv, ht⟩
    · simp
    · exact h v hv t ht
  · simp

theorem hasTexts_list {α : Type} {toJson : α → Json} (h : ∀ x, (toJson x).HasTexts) (xs : List α) :
    (Json.array (xs.map toJson)).HasTexts := by
  apply hasTexts_array
  intro v hv
  obtain ⟨x, _, rfl⟩ := List.mem_map.mp hv
  exact h x

theorem hasTexts_record {members : List (String × Json)} (h : ∀ m ∈ members, m.2.HasTexts) :
    (Json.record members).HasTexts := by
  intro t ht
  rw [record, write, List.mem_cons, List.mem_append, List.mem_singleton] at ht
  rcases ht with rfl | ht | rfl
  · simp
  · rcases mem_writeMembers ht with rfl | rfl | ⟨x, hx, ht⟩
    · simp
    · simp
    · obtain ⟨m, hm, rfl⟩ := List.mem_map.mp hx
      rcases ht with rfl | ht
      · simp
      · exact h m hm t ht
  · simp

theorem hasTexts_ofFields {names : List String} {values : List Json}
    (h : ∀ v ∈ values, v.HasTexts) : (ofFields names values).HasTexts := by
  apply hasTexts_record
  intro m hm
  exact h m.2 (List.of_mem_zip hm).2

theorem mapM_eq_map {α β : Type} {read : α → Option β} {f : α → β} {xs : List α}
    (h : ∀ x ∈ xs, read x = some (f x)) : xs.mapM read = some (xs.map f) := by
  induction xs with
  | nil => rfl
  | cons x xs ih =>
    obtain ⟨hx, hxs⟩ := List.forall_mem_cons.mp h
    rw [List.mapM_cons, hx, ih hxs]
    rfl

theorem list?_array {α : Type} {read : Json → Option α} {toJson : α → Json}
    (h : ∀ x, read (toJson x) = some x) (xs : List α) :
    (Json.array (xs.map toJson)).list? read = some xs := by
  have hread : xs.mapM (read ∘ toJson) = some (xs.map id) := mapM_eq_map fun x _ => h x
  rw [list?, List.mapM_map, hread, List.map_id]

theorem slotOf_record {members : List (String × Json)} (hn : (members.map (·.1)).Nodup)
    {m : String × Json} (hm : m ∈ members) :
    slotOf (members.map fun m => (some m.1, m.2)) m.1 = some (.given m.2) := by
  have hfilter : (members.map fun m => ((some m.1 : Literal), m.2)).filter
      (fun x => x.1 == some m.1) = [(some m.1, m.2)] := by
    induction members with
    | nil => cases hm
    | cons a rest ih =>
      rw [List.map_cons, List.nodup_cons] at hn
      by_cases ha : a.1 = m.1
      · have hrest : m ∉ rest := fun hm => hn.1 (ha ▸ List.mem_map_of_mem hm)
        obtain rfl : m = a := (List.mem_cons.mp hm).resolve_right hrest
        rw [List.map_cons, List.filter_cons_of_pos (by simp), List.filter_eq_nil_iff.mpr]
        intro x hx
        obtain ⟨y, hy, rfl⟩ := List.mem_map.mp hx
        intro heq
        have : y.1 = m.1 := by simpa using heq
        exact hn.1 (this ▸ List.mem_map_of_mem hy)
      · have hrest : m ∈ rest := (List.mem_cons.mp hm).resolve_left fun h => ha (h ▸ rfl)
        rw [List.map_cons, List.filter_cons_of_neg (by simpa using ha)]
        exact ih hn.2 hrest
  rw [slotOf, hfilter]

theorem slots?_record {members : List (String × Json)} (hn : (members.map (·.1)).Nodup) :
    (record members).slots? (members.map (·.1)) = some (members.map fun m => .given m.2) := by
  have hslots : members.mapM (slotOf (members.map fun m => (some m.1, m.2)) ∘ (·.1)) =
      some (members.map fun m => .given m.2) := mapM_eq_map fun m hm => slotOf_record hn hm
  rw [record, slots?, if_pos (by simp), List.mapM_map, hslots]

/-- Each field of a record is read from the value it is written with. -/
theorem slots?_ofFields {names : List String} {values : List Json} (hn : names.Nodup)
    (hl : names.length = values.length) :
    (ofFields names values).slots? names = some (values.map .given) := by
  have hnames : (names.zip values).map (·.1) = names := List.map_fst_zip (Nat.le_of_eq hl)
  have hvalues : (names.zip values).map (·.2) = values := List.map_snd_zip (Nat.le_of_eq hl.symm)
  have hslots := slots?_record (hnames.symm ▸ hn)
  rw [hnames] at hslots
  rw [ofFields, hslots, ← hvalues, List.map_map, hvalues]
  rfl

theorem count?_count (n : UInt64) : (Json.count n).count? = some n := by
  have hlt : n.toNat < UInt64.size := n.toNat_lt
  simp [count, count?, Numeral.toNat?_ofNat, hlt]

end InsectPortal.Json
