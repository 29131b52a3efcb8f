import InsectPortal.Json.Text

/-!
# Stored items

The keys and values of a session storage, kept in the order of the keys, and the writes that change
them. `get?_apply` says what each write does to each key.
-/
namespace InsectPortal

structure Items where
  entries : List (String × String)
  sorted : entries.Pairwise (fun a b => a.1 < b.1)
  deriving DecidableEq

inductive Write where
  | set (key value : String)
  | remove (key : String)
  | clear
  deriving DecidableEq, Repr

namespace Items

def empty : Items := ⟨[], .nil⟩

instance : Inhabited Items := ⟨empty⟩

def get? (items : Items) (key : String) : Option String :=
  (items.entries.find? (·.1 = key)).map (·.2)

def insertEntry (key value : String) : List (String × String) → List (String × String)
  | [] => [(key, value)]
  | e :: rest =>
    if key < e.1 then (key, value) :: e :: rest
    else if key = e.1 then (key, value) :: rest
    else e :: insertEntry key value rest

theorem mem_insertEntry {key value : String} {e : String × String}
    {entries : List (String × String)} (h : e ∈ insertEntry key value entries) :
    e = (key, value) ∨ e ∈ entries := by
  induction entries with
  | nil => simpa [insertEntry] using h
  | cons d rest ih =>
    unfold insertEntry at h
    split at h
    · simpa using h
    · split at h
      · rcases List.mem_cons.1 h with h | h
        · exact .inl h
        · exact .inr (List.mem_cons_of_mem _ h)
      · rcases List.mem_cons.1 h with h | h
        · exact .inr (h ▸ List.mem_cons_self)
        · exact (ih h).imp_right (List.mem_cons_of_mem _)

theorem sorted_insertEntry (key value : String) {entries : List (String × String)}
    (h : entries.Pairwise (fun a b => a.1 < b.1)) :
    (insertEntry key value entries).Pairwise (fun a b => a.1 < b.1) := by
  induction entries with
  | nil => simp [insertEntry]
  | cons e rest ih =>
    obtain ⟨he, hrest⟩ := List.pairwise_cons.1 h
    unfold insertEntry
    split
    · next hlt =>
      refine List.pairwise_cons.2 ⟨fun d hd => ?_, h⟩
      rcases List.mem_cons.1 hd with rfl | hd
      · exact hlt
      · exact String.lt_trans hlt (he d hd)
    · split
      · next heq =>
        exact List.pairwise_cons.2 ⟨fun d hd => by simpa [heq] using he d hd, hrest⟩
      · next hnlt hne =>
        refine List.pairwise_cons.2 ⟨fun d hd => ?_, ih hrest⟩
        rcases mem_insertEntry hd with rfl | hd
        · exact Std.lt_of_le_of_ne (String.not_lt.1 hnlt) (Ne.symm hne)
        · exact he d hd

def insert (items : Items) (key value : String) : Items :=
  ⟨insertEntry key value items.entries, sorted_insertEntry key value items.sorted⟩

def erase (items : Items) (key : String) : Items :=
  ⟨items.entries.filter (·.1 ≠ key), items.sorted.filter _⟩

def contains (items : Items) (key : String) : Bool := (items.get? key).isSome

theorem find?_insertEntry (key value key' : String) (entries : List (String × String)) :
    ((insertEntry key value entries).find? (·.1 = key')).map (·.2) =
      if key' = key then some value else (entries.find? (·.1 = key')).map (·.2) := by
  induction entries with
  | nil =>
    by_cases h : key' = key
    · simp [insertEntry, h]
    · simp [insertEntry, h, Ne.symm h]
  | cons e rest ih =>
    unfold insertEntry
    by_cases h : key' = key
    · subst h
      split
      · simp
      · split
        · simp
        · next hne => simpa [Ne.symm hne] using ih
    · split
      · simp [Ne.symm h]
      · split
        · next heq => simp [Ne.symm h, ← heq]
        · by_cases he : e.1 = key'
          · simp [he]
          · simpa [h, he] using ih

theorem get?_insert (items : Items) (key value key' : String) :
    (items.insert key value).get? key' = if key' = key then some value else items.get? key' :=
  find?_insertEntry key value key' items.entries

theorem get?_erase (items : Items) (key key' : String) :
    (items.erase key).get? key' = if key' = key then none else items.get? key' := by
  obtain ⟨entries, _⟩ := items
  induction entries with
  | nil => simp [get?, erase]
  | cons e rest ih =>
    have ih := ih (List.pairwise_cons.1 ‹_›).2
    simp only [get?, erase] at ih ⊢
    by_cases he : e.1 = key
    · by_cases h : key' = key
      · simp [h]
      · simpa [he, h, Ne.symm h] using ih
    · by_cases h : e.1 = key'
      · have : key' ≠ key := h ▸ he
        simp [h, this]
      · simpa [he, h] using ih

def apply (items : Items) : Write → Items
  | .set key value => items.insert key value
  | .remove key => items.erase key
  | .clear => empty

def applyAll (items : Items) (writes : List Write) : Items := writes.foldl apply items

theorem get?_apply (items : Items) (w : Write) (key : String) :
    (items.apply w).get? key =
      match w with
      | .set k v => if key = k then some v else items.get? key
      | .remove k => if key = k then none else items.get? key
      | .clear => none := by
  cases w with
  | set k v => exact get?_insert items k v key
  | remove k => exact get?_erase items k key
  | clear => rfl

/-- The items of a list of pairs; of a repeated key the last one counts. -/
def ofList (pairs : List (String × String)) : Items :=
  pairs.foldl (fun items p => items.insert p.1 p.2) empty

def render (items : Items) : String :=
  match items.entries with
  | [] => "\x7b\x7d"
  | entries =>
    let member (e : String × String) : String :=
      "  " ++ String.ofList (Json.quote e.1.toList) ++ ": " ++
        String.ofList (Json.quote e.2.toList)
    "\x7b\n" ++ ",\n".intercalate (entries.map member) ++ "\n\x7d"

def ofJson? : Json → Option Items
  | .object members =>
    (members.mapM fun (m : Literal × Json) => do some (← m.1, ← m.2.str?)).map ofList
  | _ => none

end Items

end InsectPortal
