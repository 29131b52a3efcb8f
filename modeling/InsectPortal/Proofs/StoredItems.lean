import InsectPortal.Proofs.Bytes
import InsectPortal.Proofs.JsonText
import InsectPortal.Storage.SessionFile

/-!
# Items and the file that holds them

The text of the items is read back as the same items, whatever their keys and values are.
-/
namespace InsectPortal

namespace Items

theorem insertEntry_last {key value : String} {before : List (String × String)}
    (h : ∀ e ∈ before, e.1 < key) : insertEntry key value before = before ++ [(key, value)] := by
  induction before with
  | nil => rfl
  | cons e before ih =>
    obtain ⟨he, hbefore⟩ := List.forall_mem_cons.mp h
    have hne : key ≠ e.1 := (Std.ne_of_lt he).symm
    rw [insertEntry, if_neg (String.lt_asymm he), if_neg hne, ih hbefore]
    rfl

theorem entries_foldl_insert (items : Items) (later : List (String × String))
    (h : (items.entries ++ later).Pairwise (fun a b => a.1 < b.1)) :
    (later.foldl (fun items p => items.insert p.1 p.2) items).entries = items.entries ++ later := by
  induction later generalizing items with
  | nil => exact (List.append_nil _).symm
  | cons p later ih =>
    have hp : (items.insert p.1 p.2).entries = items.entries ++ [p] :=
      insertEntry_last fun e he =>
        (List.pairwise_append.mp h).2.2 e he p List.mem_cons_self
    have hsplit : items.entries ++ p :: later = (items.insert p.1 p.2).entries ++ later := by
      rw [hp, List.append_assoc]
      rfl
    rw [hsplit] at h ⊢
    exact ih _ h

theorem ext {a b : Items} (h : a.entries = b.entries) : a = b := by
  cases a
  cases b
  cases h
  rfl

theorem ofList_entries (items : Items) : ofList items.entries = items :=
  ext (entries_foldl_insert empty items.entries items.sorted)

def toJson (items : Items) : Json :=
  .record (items.entries.map fun e => (e.1, .str e.2))

theorem ofJson?_toJson (items : Items) : ofJson? items.toJson = some items := by
  have hmembers : ∀ entries : List (String × String),
      ((entries.map fun e => (e.1, Json.str e.2)).map fun m => ((some m.1 : Literal), m.2)).mapM
        (fun (m : Literal × Json) => do some ((← m.1), (← m.2.str?))) = some entries := by
    intro entries
    induction entries with
    | nil => rfl
    | cons e entries ih =>
      rw [List.map_cons, List.map_cons, List.mapM_cons, ih]
      rfl
  rw [toJson, Json.record, ofJson?, hmembers, Option.map_some, ofList_entries]

def line (e : String × String) : List Char :=
  ' ' :: ' ' :: (Json.quote e.1.toList ++ ':' :: ' ' :: Json.quote e.2.toList)

theorem toList_render {items : Items} (h : items.entries ≠ []) :
    items.render.toList = '\x7b' :: '\n' ::
      ([',', '\n'].intercalate (items.entries.map line) ++ ['\n', '\x7d']) := by
  unfold render
  split
  case h_1 hn => exact absurd hn h
  case h_2 =>
    have hmember : (String.toList ∘ fun e : String × String => "  " ++
        String.ofList (Json.quote e.1.toList) ++ ": " ++ String.ofList (Json.quote e.2.toList)) =
        line := by
      funext e
      simp [line]
    simp only [String.toList_append, String.toList_intercalate, List.map_map, hmember]
    rfl

open Json in
theorem tokens?_line (e : String × String) (rest : List Char) :
    tokens? (line e ++ rest) =
      (tokens? rest).map ([.text (some e.1), .colon, .text (some e.2)] ++ ·) := by
  have hline : line e ++ rest = [' ', ' '] ++ ((Token.text (some e.1)).spell ++
      (Token.colon.spell ++ ([' '] ++ ((Token.text (some e.2)).spell ++ rest)))) := by
    simp [line, Token.spell]
  rw [hline, tokens?_gap rfl, tokens?_spell (t := .text (some e.1)) trivial,
    tokens?_spell (t := .colon) trivial, tokens?_gap rfl,
    tokens?_spell (t := .text (some e.2)) trivial, Option.map_map, Option.map_map]
  rfl

open Json in
theorem tokens?_lines (entries : List (String × String)) (rest : List Char) :
    tokens? ([',', '\n'].intercalate (entries.map line) ++ rest) = (tokens? rest).map
      (writeMembers (entries.map fun e => (some e.1, .str e.2)) ++ ·) := by
  induction entries with
  | nil => simp [List.intercalate, writeMembers]
  | cons e entries ih =>
    cases entries with
    | nil =>
      have hone : [',', '\n'].intercalate ([e].map line) = line e := by
        simp [List.intercalate]
      rw [hone, tokens?_line]
      rfl
    | cons e' entries =>
      have hcons : [',', '\n'].intercalate ((e :: e' :: entries).map line) ++ rest =
          line e ++ (Token.comma.spell ++ (['\n'] ++
            ([',', '\n'].intercalate ((e' :: entries).map line) ++ rest))) := by
        simp [List.intercalate, Token.spell]
      rw [hcons, tokens?_line, tokens?_spell (t := .comma) trivial, tokens?_gap rfl, ih,
        Option.map_map, Option.map_map]
      rfl

open Json in
theorem tokens?_render (items : Items) :
    tokens? items.render.toList = some items.toJson.write := by
  by_cases h : items.entries = []
  · have hnone : items = empty := ext h
    rw [hnone]
    decide +kernel
  · have htext : items.render.toList = Token.openObject.spell ++ (['\n'] ++
        ([',', '\n'].intercalate (items.entries.map line) ++ (['\n'] ++
          (Token.closeObject.spell ++ [])))) := by
      rw [toList_render h]
      simp [Token.spell]
    rw [htext, tokens?_spell (t := .openObject) trivial, tokens?_gap rfl, tokens?_lines,
      tokens?_gap rfl, tokens?_spell (t := .closeObject) trivial, tokens?]
    simp [toJson, record, write, Function.comp_def]

theorem parse?_render (items : Items) : Json.parse? items.render = some items.toJson :=
  Json.parse?_of_tokens items.tokens?_render

theorem render_starts (items : Items) : ∃ rest, items.render.toList = '\x7b' :: rest := by
  by_cases h : items.entries = []
  · have hnone : items = empty := ext h
    rw [hnone]
    exact ⟨['\x7d'], rfl⟩
  · exact ⟨_, toList_render h⟩

end Items

theorem SessionFile.not_blank_render (items : Items) :
    items.render.toUTF8.toList.all isBlankByte = false := by
  obtain ⟨rest, hrest⟩ := items.render_starts
  have hbytes : items.render.toUTF8.toList =
      "\x7b".toUTF8.data.toList ++ (String.ofList rest).toUTF8.data.toList := by
    have htext : items.render = "\x7b" ++ String.ofList rest := by
      apply String.toList_inj.mp
      rw [hrest, String.toList_append]
      simp
    rw [htext, toList_eq_data]
    exact (congrArg (fun b : ByteArray => b.data.toList) String.toByteArray_append).trans
      ByteArray.toList_data_append
  rw [hbytes, List.all_append]
  have hfirst : ("\x7b".toUTF8.data.toList).all isBlankByte = false := by decide +kernel
  rw [hfirst, Bool.false_and]

/-- A file that holds the text of some items holds these items. -/
theorem SessionFile.itemsOf_render (items : Items) : itemsOf items.render.toUTF8 = items := by
  rw [itemsOf, not_blank_render, if_neg Bool.false_ne_true, Json.ofBytes?, fromUTF8?_toUTF8,
    Option.bind_some, items.parse?_render, Option.bind_some, items.ofJson?_toJson, Option.getD_some]

end InsectPortal
