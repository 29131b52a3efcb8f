import Mathlib.Data.List.Perm.Basic
import InsectPortal.Http.Response
import InsectPortal.Proofs.Bytes
import InsectPortal.Proofs.JsonValue

/-!
# Records of the service as they arrive

The service may leave out fields, give the others in any order and put members of other names among
them, and it may spell all that as it likes. What is read is the record with the missing fields at
their defaults, as long as every name is a text: a name that escapes an unpaired surrogate is none,
and no object with such a name is read.
-/
namespace InsectPortal

namespace Json

theorem slotOf_perm {members members' : List (Literal × Json)} (h : members.Perm members')
    (name : String) : slotOf members name = slotOf members' name := by
  have hp := h.filter fun m => m.1 == some name
  unfold slotOf
  cases hf : members.filter fun m => m.1 == some name with
  | nil =>
    rw [hf] at hp
    rw [List.nil_perm.mp hp]
  | cons m rest =>
    rw [hf] at hp
    cases rest with
    | nil => rw [List.singleton_perm.mp hp]
    | cons m' rest =>
      have hlength := hp.length_eq
      cases hf' : members'.filter fun m => m.1 == some name with
      | nil => simp [hf'] at hlength
      | cons n more =>
        cases more with
        | nil => simp [hf'] at hlength
        | cons n' more => rfl

theorem slotOf_append {members extras : List (Literal × Json)} {name : String}
    (h : ∀ m ∈ extras, m.1 ≠ some name) :
    slotOf (members ++ extras) name = slotOf members name := by
  have hnone : extras.filter (fun m => m.1 == some name) = [] :=
    List.filter_eq_nil_iff.mpr fun m hm => by simpa using h m hm
  rw [slotOf, slotOf, List.filter_append, hnone, List.append_nil]

theorem slotOf_absent {members : List (Literal × Json)} {name : String}
    (h : ∀ m ∈ members, m.1 ≠ some name) : slotOf members name = some .absent := by
  rw [← List.nil_append members, slotOf_append h]
  rfl

def kept (names : List String) (values : List Json) (left : List String) :
    List (String × Json) :=
  (names.zip values).filter fun m => m.1 ∉ left

/-- An object that gives these fields their values, but for those left out: its members in any
order, with members of other names among them. -/
structure Supply (names : List String) (values : List Json) where
  left : List String
  extras : List (Literal × Json)
  members : List (Literal × Json)
  others : ∀ m ∈ extras, ∀ name ∈ names, m.1 ≠ some name
  perm : members.Perm ((kept names values left).map (fun m => (some m.1, m.2)) ++ extras)

/-- The names beside those of the fields are texts. -/
def Supply.IsNamed {names : List String} {values : List Json} (s : Supply names values) : Prop :=
  ∀ m ∈ s.extras, m.1.isSome = true

instance {names : List String} {values : List Json} (s : Supply names values) :
    Decidable s.IsNamed :=
  inferInstanceAs (Decidable (∀ m ∈ s.extras, m.1.isSome = true))

def Slot.ofKept (left : List String) (name : String) (v : Json) : Slot :=
  if name ∈ left then .absent else .given v

section

variable {names left : List String} {values : List Json}

theorem slotOf_kept (hn : names.Nodup) (hl : names.length = values.length) {m : String × Json}
    (hm : m ∈ names.zip values) :
    slotOf ((kept names values left).map fun m => (some m.1, m.2)) m.1 =
      some (.ofKept left m.1 m.2) := by
  have hnames : (names.zip values).map (·.1) = names := List.map_fst_zip (Nat.le_of_eq hl)
  unfold Slot.ofKept
  by_cases hleft : m.1 ∈ left
  · rw [if_pos hleft]
    apply slotOf_absent
    intro x hx heq
    obtain ⟨y, hy, rfl⟩ := List.mem_map.mp hx
    have hy' : y.1 ∉ left := by simpa using (List.mem_filter.mp hy).2
    exact hy' (Option.some.inj heq ▸ hleft)
  · rw [if_neg hleft]
    have hnodup : ((kept names values left).map (·.1)).Nodup := by
      have hall : ((names.zip values).map (·.1)).Nodup := hnames.symm ▸ hn
      exact hall.sublist (List.filter_sublist.map _)
    exact slotOf_record hnodup (List.mem_filter.mpr ⟨hm, by simpa using hleft⟩)

theorem Supply.isNamed_iff (s : Supply names values) :
    s.IsNamed ↔ s.members.all (·.1.isSome) = true := by
  rw [List.all_eq_true]
  constructor
  · intro h m hm
    rcases List.mem_append.mp (s.perm.mem_iff.mp hm) with hkept | hextra
    · obtain ⟨x, _, rfl⟩ := List.mem_map.mp hkept
      rfl
    · exact h m hextra
  · intro h m hm
    exact h m (s.perm.mem_iff.mpr (List.mem_append_right _ hm))

/-- Each field is read from its value, or is missing. A name that is no text spoils the whole
object. -/
theorem Supply.slots?_members (s : Supply names values) (hn : names.Nodup)
    (hl : names.length = values.length) :
    (object s.members).slots? names =
      if s.IsNamed then some ((names.zip values).map fun m => .ofKept s.left m.1 m.2)
      else none := by
  have hnames : (names.zip values).map (·.1) = names := List.map_fst_zip (Nat.le_of_eq hl)
  have hslot : ∀ m ∈ names.zip values,
      (slotOf s.members ∘ (·.1)) m = some (Slot.ofKept s.left m.1 m.2) := by
    intro m hm
    have hname : m.1 ∈ names := (List.of_mem_zip hm).1
    rw [Function.comp_apply, slotOf_perm s.perm,
      slotOf_append fun x hx => s.others x hx m.1 hname]
    exact slotOf_kept hn hl hm
  have hall : names.mapM (slotOf s.members) =
      some ((names.zip values).map fun m => .ofKept s.left m.1 m.2) := by
    rw [← mapM_eq_map hslot, ← List.mapM_map, hnames]
  rw [slots?, hall]
  exact if_congr s.isNamed_iff.symm rfl rfl

end

namespace Slot

variable {left : List String} {name : String}

theorem orElse_ofKept {α : Type} {read : Json → Option α} {v : Json} {x : α} (h : read v = some x)
    (default : α) :
    (ofKept left name v).orElse read default = some (if name ∈ left then default else x) := by
  unfold ofKept
  split
  · rfl
  · exact h

@[simp]
theorem orElse_str (s default : String) :
    (ofKept left name (.str s)).orElse str? default =
      some (if name ∈ left then default else s) := by
  have hread : (Json.str s).str? = some s := rfl
  exact orElse_ofKept hread default

@[simp]
theorem orElse_count (n default : UInt64) :
    (ofKept left name (.count n)).orElse count? default =
      some (if name ∈ left then default else n) :=
  orElse_ofKept (count?_count n) default

@[simp]
theorem orElse_bool (b default : Bool) :
    (ofKept left name (.bool b)).orElse bool? default =
      some (if name ∈ left then default else b) := by
  have hread : (Json.bool b).bool? = some b := rfl
  exact orElse_ofKept hread default

end Slot

end Json

open Json (Supply Spells)

/-- The records of which every field may be left out. -/
inductive ServerRecord where
  | userProfile
  | managedUser
  | feedbackEntry
  | labelTask
  deriving DecidableEq, Repr

namespace ServerRecord

abbrev Value : ServerRecord → Type
  | userProfile => UserProfile
  | managedUser => ManagedUser
  | feedbackEntry => FeedbackEntry
  | labelTask => LabelTask

def fields : ServerRecord → List String
  | userProfile => UserProfile.fields
  | managedUser => ManagedUser.fields
  | feedbackEntry => FeedbackEntry.fields
  | labelTask => LabelTask.fields

def values : (w : ServerRecord) → w.Value → List Json
  | userProfile => fun p => [.str p.nickName, .str p.email, .count p.contribution, .str p.role]
  | managedUser => fun u =>
    [.str u.username, .str u.useremail, .str u.userIdentity, .count u.userContribution,
      .bool u.available]
  | feedbackEntry => fun e =>
    [.str e.datetime, .str e.fromUserEmail, .str e.picLink, .str e.realLabel,
      .count e.submitCount, .str e.timeOut, .bool e.acceptable]
  | labelTask => fun t => [.str t.picLink]

def ofJson? : (w : ServerRecord) → Json → Option w.Value
  | userProfile => UserProfile.ofJson?
  | managedUser => ManagedUser.ofJson?
  | feedbackEntry => FeedbackEntry.ofJson?
  | labelTask => LabelTask.ofJson?

/-- The record with the fields of these names at their defaults: no text, no count, not acceptable,
but available. -/
def without (left : List String) : (w : ServerRecord) → w.Value → w.Value
  | userProfile => fun p =>
    { nickName := if "nick_name" ∈ left then "" else p.nickName
      email := if "email" ∈ left then "" else p.email
      contribution := if "contribution" ∈ left then 0 else p.contribution
      role := if "role" ∈ left then "" else p.role }
  | managedUser => fun u =>
    { username := if "username" ∈ left then "" else u.username
      useremail := if "useremail" ∈ left then "" else u.useremail
      userIdentity := if "user_identity" ∈ left then "" else u.userIdentity
      userContribution := if "user_contribution" ∈ left then 0 else u.userContribution
      available := if "available" ∈ left then true else u.available }
  | feedbackEntry => fun e =>
    { datetime := if "datetime" ∈ left then "" else e.datetime
      fromUserEmail := if "from_user_email" ∈ left then "" else e.fromUserEmail
      picLink := if "pic_link" ∈ left then "" else e.picLink
      realLabel := if "real_label" ∈ left then "" else e.realLabel
      submitCount := if "submit_count" ∈ left then 0 else e.submitCount
      timeOut := if "time_out" ∈ left then "" else e.timeOut
      acceptable := if "acceptable" ∈ left then false else e.acceptable }
  | labelTask => fun t => { picLink := if "pic_link" ∈ left then "" else t.picLink }

theorem nodup_fields (w : ServerRecord) : w.fields.Nodup := by
  cases w <;> decide

theorem length_values (w : ServerRecord) (x : w.Value) :
    w.fields.length = (w.values x).length := by
  cases w <;> rfl

theorem ofJson?_members (w : ServerRecord) (x : w.Value) (s : Supply w.fields (w.values x)) :
    w.ofJson? (.object s.members) = if s.IsNamed then some (w.without s.left x) else none := by
  have hslots := s.slots?_members w.nodup_fields (w.length_values x)
  by_cases hs : s.IsNamed
  · rw [if_pos hs] at hslots ⊢
    cases w with
    | userProfile =>
      simp only [fields, UserProfile.fields, values, List.zip, List.zipWith, List.map] at hslots
      simp [ofJson?, UserProfile.ofJson?, UserProfile.fields, hslots, without]
    | managedUser =>
      simp only [fields, ManagedUser.fields, values, List.zip, List.zipWith, List.map] at hslots
      simp [ofJson?, ManagedUser.ofJson?, ManagedUser.fields, hslots, without]
    | feedbackEntry =>
      simp only [fields, FeedbackEntry.fields, values, List.zip, List.zipWith, List.map] at hslots
      simp [ofJson?, FeedbackEntry.ofJson?, FeedbackEntry.fields, hslots, without]
    | labelTask =>
      simp only [fields, LabelTask.fields, values, List.zip, List.zipWith, List.map] at hslots
      simp [ofJson?, LabelTask.ofJson?, LabelTask.fields, hslots, without]
  · rw [if_neg hs] at hslots ⊢
    cases w with
    | userProfile => exact congrArg (Option.bind · _) hslots
    | managedUser => exact congrArg (Option.bind · _) hslots
    | feedbackEntry => exact congrArg (Option.bind · _) hslots
    | labelTask => exact congrArg (Option.bind · _) hslots

/-- A record of this type with an object that gives it. -/
abbrev Sent (w : ServerRecord) : Type := Σ x : w.Value, Supply w.fields (w.values x)

theorem list?_members (w : ServerRecord) (xs : List w.Sent) :
    (Json.array (xs.map fun x => .object x.2.members)).list? w.ofJson? =
      if ∀ x ∈ xs, x.2.IsNamed then some (xs.map fun x => w.without x.2.left x.1) else none := by
  rw [Json.list?, List.mapM_map]
  induction xs with
  | nil => rfl
  | cons x xs ih =>
    have hall : (∀ y ∈ x :: xs, y.2.IsNamed) ↔ x.2.IsNamed ∧ ∀ y ∈ xs, y.2.IsNamed :=
      List.forall_mem_cons
    rw [List.mapM_cons, Function.comp_apply, ofJson?_members, ih, if_congr hall rfl rfl]
    by_cases hx : x.2.IsNamed
    · by_cases hxs : ∀ y ∈ xs, y.2.IsNamed
      · rw [if_pos hx, if_pos hxs, if_pos ⟨hx, hxs⟩]
        rfl
      · rw [if_pos hx, if_neg hxs, if_neg (not_and_of_not_right _ hxs)]
        rfl
    · rw [if_neg hx, if_neg (not_and_of_not_left _ hx)]
      rfl

end ServerRecord

theorem SignInGrant.ofJson?_members (g : SignInGrant) (s : Supply fields [.str g.token]) :
    ofJson? (.object s.members) =
      if s.IsNamed ∧ "token" ∉ s.left then some g else none := by
  have hslots := s.slots?_members (by decide) rfl
  by_cases hs : s.IsNamed
  · rw [if_pos hs] at hslots
    have hread : ofJson? (.object s.members) =
        ((Json.Slot.ofKept s.left "token" (.str g.token)).required Json.str?).bind (some ⟨·⟩) :=
      congrArg (Option.bind · _) hslots
    rw [hread, Json.Slot.ofKept]
    by_cases ht : "token" ∈ s.left
    · rw [if_pos ht, if_neg fun h => h.2 ht]
      rfl
    · rw [if_neg ht, if_pos ⟨hs, ht⟩]
      rfl
  · rw [if_neg hs] at hslots
    rw [if_neg fun h => hs h.1]
    exact congrArg (Option.bind · _) hslots

namespace Response

variable {r : Response} {text : String}

theorem value_of_spells {α : Type} (hc : r.complete = true) (hb : r.body = text.toUTF8) {v : Json}
    (ht : Spells text.toList v.write) (read : Json → Option α) :
    r.value read = (read v).elim (.error .undecodable) .ok := by
  have hbytes : Json.ofBytes? r.body = some v := by
    rw [hb, Json.ofBytes?, fromUTF8?_toUTF8, Option.bind_some, Json.parse?_of_spells ht]
  rw [value, if_pos hc, hbytes, Option.bind_some]
  cases read v <;> rfl

/-- However a record is sent, alone or in a list, it is read with the fields it is given and the
others at their defaults, unless a name beside those of the fields is no text. A grant is read the
same way, but not without its token. -/
theorem records_read_by_name (hc : r.complete = true) (hb : r.body = text.toUTF8) :
    (∀ (w : ServerRecord) (x : w.Sent), Spells text.toList (Json.object x.2.members).write →
      r.value w.ofJson? =
        if x.2.IsNamed then .ok (w.without x.2.left x.1) else .error .undecodable) ∧
    (∀ (w : ServerRecord) (xs : List w.Sent),
      Spells text.toList (Json.array (xs.map fun x => .object x.2.members)).write →
      r.value (Json.list? w.ofJson?) =
        if ∀ x ∈ xs, x.2.IsNamed then .ok (xs.map fun x => w.without x.2.left x.1)
        else .error .undecodable) ∧
    (∀ (g : SignInGrant) (s : Supply SignInGrant.fields [.str g.token]),
      Spells text.toList (Json.object s.members).write →
      r.value SignInGrant.ofJson? =
        if s.IsNamed ∧ "token" ∉ s.left then .ok g else .error .undecodable) := by
  refine ⟨fun w x ht => ?alone, fun w xs ht => ?list, fun g s ht => ?grant⟩
  case alone =>
    rw [value_of_spells hc hb ht, w.ofJson?_members]
    split <;> rfl
  case list =>
    rw [value_of_spells hc hb ht, w.list?_members]
    split <;> rfl
  case grant =>
    rw [value_of_spells hc hb ht, g.ofJson?_members]
    split <;> rfl

/-- A suspended account of which only the name is sent, behind a member that nobody knows, is read
as one that is available. -/
theorem account_read_by_name :
    let text := "\n[\x7b\"x\":[null],\"username\":\"ant\"\x7d]"
    let r : Response := ⟨200, none, text.toUTF8, true⟩
    r.value (Json.list? ManagedUser.ofJson?) = .ok [⟨"ant", "", "", 0, true⟩] := by
  intro text r
  let x : ServerRecord.managedUser.Sent :=
    ⟨⟨"ant", "ant@example.com", "Common User", 2, false⟩,
      { left := ["useremail", "user_identity", "user_contribution", "available"]
        extras := [(some "x", .array [.null])]
        members := [(some "x", .array [.null]), (some "username", .str "ant")]
        others := by decide
        perm := List.Perm.swap _ _ [] }⟩
  have hspelled : Spells text.toList (Json.array [.object x.2.members]).write := by
    have hwritten : text.toList =
        ['\n'] ++ (Json.array [.object x.2.members]).write.flatMap Json.Token.spell := by
      decide +kernel
    rw [hwritten]
    exact Json.spells_gap (by decide) (Json.spells_spell (by decide))
  exact (@records_read_by_name r text rfl rfl).2.1 .managedUser [x] hspelled

/-- The text of a label task behind its last field is a member whose name is a lone surrogate. The
task is not read, though none of its fields is missing. -/
theorem task_beside_lone_surrogate :
    let text := "[\x7b\"pic_link\":\"p\",\"\\ud800\":1\x7d]"
    let r : Response := ⟨200, none, text.toUTF8, true⟩
    ∃ x : ServerRecord.labelTask.Sent,
      x.1 = ⟨"p"⟩ ∧ x.2.left = [] ∧
        Spells text.toList (Json.array [.object x.2.members]).write ∧
        r.value (Json.list? LabelTask.ofJson?) = .error .undecodable := by
  intro text r
  let x : ServerRecord.labelTask.Sent :=
    ⟨⟨"p"⟩,
      { left := []
        extras := [(none, .number (.ofNat 1))]
        members := [(some "pic_link", .str "p"), (none, .number (.ofNat 1))]
        others := by decide
        perm := .refl _ }⟩
  let body : List Char := ['\\', 'u', 'd', '8', '0', '0']
  have hname : Json.SpellsToken ('"' :: (body ++ ['"'])) (.text none) := by
    obtain ⟨body', hbody, heq⟩ :=
      Json.exists_parts (show Json.glyphs? (body ++ ['"']) = some ([.unit 0xD800], []) by decide)
    rw [← List.append_cancel_right heq] at hbody
    refine .unpaired hbody fun s hs => ?_
    obtain ⟨gs, hgs, hjoin⟩ := Json.exists_joinGlyphs hs
    have hread := (Json.glyphs?_parts hgs []).symm.trans (Json.glyphs?_parts hbody [])
    rw [(Prod.mk.inj (Option.some.inj hread)).1] at hjoin
    cases hjoin
  have hspelled : Spells text.toList (Json.array [.object x.2.members]).write := by
    let before : List Json.Token :=
      [.openArray, .openObject, .text "pic_link", .colon, .text "p", .comma]
    let after : List Json.Token := [.colon, .number (.ofNat 1), .closeObject, .closeArray]
    have hwritten : text.toList = before.flatMap Json.Token.spell ++
        ([] ++ ('"' :: (body ++ ['"']) ++ after.flatMap Json.Token.spell)) := by
      decide +kernel
    rw [hwritten]
    exact (Json.spells_spell (by decide)).append
      (.cons rfl hname (Json.spells_spell (by decide)))
  refine ⟨x, rfl, rfl, hspelled, ?_⟩
  rw [value_of_spells rfl rfl hspelled]
  rfl

end Response

end InsectPortal
