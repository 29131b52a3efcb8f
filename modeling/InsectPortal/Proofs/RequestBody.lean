import InsectPortal.Proofs.ActorName
import InsectPortal.Proofs.InputRule
import InsectPortal.Proofs.WireFormat

/-!
# Bodies of requests

The body of a request is an object with one member for each field of its call, and each field is
read back from it as it was given: lists by way of the string that holds their JSON text, a role by
the name the service uses. So a body determines the call it belongs to.
-/
namespace InsectPortal

namespace Json

theorem record_injective : Function.Injective record := by
  intro members members' h
  refine (List.map_inj_right ?_).mp (Json.object.inj h)
  rintro ⟨name, v⟩ ⟨name', v'⟩ heq
  obtain ⟨hname, hvalue⟩ := Prod.mk.inj heq
  exact Prod.ext (Option.some.inj hname) hvalue

def embedded? {α : Type} (read : Json → Option α) (v : Json) : Option (List α) :=
  (v.str?.bind parse?).bind (list? read)

theorem embedded?_embedded {α : Type} {read : Json → Option α} {toJson : α → Json}
    (hread : ∀ x, read (toJson x) = some x) (htexts : ∀ x, (toJson x).HasTexts) (xs : List α) :
    (embedded toJson xs).embedded? read = some xs := by
  have hparse := parse?_compact (hasTexts_list htexts xs)
  rw [embedded, embedded?, str, str?, Option.bind_some, hparse, Option.bind_some,
    list?_array hread]

end Json

theorem Role.decode_wire {r : Role} {name : String} (h : r.wire? = some name) : decode name = r := by
  cases r with
  | unknown => cases h
  | commonUser | userAdmin | modelAdmin | superRoot =>
    cases h
    decide +kernel

/-- What a field of a body holds. -/
inductive FieldKind where
  | text
  /-- A role; null where the service has no name for it. -/
  | role
  | emails
  | decisions
  | files
  deriving DecidableEq, Repr

namespace FieldKind

abbrev Value : FieldKind → Type
  | text => String
  | role => Role
  | emails => List String
  | decisions => List FeedbackDecision
  | files => List LabeledFile

def toJson : (k : FieldKind) → k.Value → Json
  | text => .str
  | role => fun r => .ofOption r.wire?
  | emails => .embedded .str
  | decisions => .embedded FeedbackDecision.toJson
  | files => .embedded LabeledFile.toJson

def read? : (k : FieldKind) → Json → Option k.Value
  | text => Json.str?
  | role => fun
    | .null => some .unknown
    | v => v.str?.map Role.decode
  | emails => Json.embedded? Json.str?
  | decisions => Json.embedded? FeedbackDecision.ofJson?
  | files => Json.embedded? LabeledFile.ofJson?

theorem read?_toJson (k : FieldKind) (x : k.Value) : k.read? (k.toJson x) = some x := by
  cases k with
  | text => rfl
  | role =>
    cases hr : Role.wire? x with
    | none =>
      have hx : x = .unknown := by
        cases x <;> first | rfl | cases hr
      rw [hx]
      rfl
    | some name =>
      simp only [toJson, hr]
      exact congrArg some (Role.decode_wire hr)
  | emails =>
    have hread : ∀ s, (Json.str s).str? = some s := fun _ => rfl
    exact Json.embedded?_embedded hread Json.hasTexts_str x
  | decisions =>
    exact Json.embedded?_embedded FeedbackDecision.ofJson?_toJson
      (fun _ => Json.hasTexts_ofFields (by simp)) x
  | files =>
    exact Json.embedded?_embedded LabeledFile.ofJson?_toJson
      (fun _ => Json.hasTexts_ofFields (by simp)) x

theorem toJson_inj {k : FieldKind} {x y : k.Value} : k.toJson x = k.toJson y ↔ x = y := by
  constructor
  · intro h
    have hread := k.read?_toJson x
    rw [h, k.read?_toJson y] at hread
    exact (Option.some.inj hread).symm
  · intro h
    rw [h]

theorem hasTexts_toJson (k : FieldKind) (x : k.Value) : (k.toJson x).HasTexts := by
  cases k with
  | role => exact Json.hasTexts_ofOption _
  | _ => exact Json.hasTexts_str _

end FieldKind

/-- A field of a body, with what is given for it. -/
structure Field where
  name : String
  kind : FieldKind
  value : kind.Value

namespace Field

def text (name value : String) : Field := ⟨name, .text, value⟩

def member (f : Field) : String × Json := (f.name, f.kind.toJson f.value)

/-- A member of an object is this field. -/
def IsIn (f : Field) (m : Literal × Json) : Prop :=
  m.1 = some f.name ∧ f.kind.read? m.2 = some f.value

end Field

/-- The fields of the calls that send their arguments in the body. -/
def Call.fields? : Call → Option (List Field)
  | .signIn form => some [.text "password" form.password, .text "useremail" form.useremail]
  | .signUp form =>
    some [.text "email" form.email, .text "password" form.password,
      .text "repassword" form.repassword, .text "username" form.username]
  | .toggleUsers admin emails => some [.text "admin_email" admin, ⟨"user_emails", .emails, emails⟩]
  | .addAdmin admin form =>
    some [.text "admin_email" admin, .text "password" form.password,
      .text "repassword" form.repassword, ⟨"role", .role, form.role⟩,
      .text "useremail" form.email, .text "username" form.username]
  | .reviewFeedback admin decisions =>
    some [⟨"files_to_operate", .decisions, decisions⟩, .text "useremail" admin]
  | .submitFeedback user files =>
    some [⟨"file_with_label_list", .files, files⟩, .text "useremail" user]
  | .submitLabel user image label =>
    some [.text "image_label" label, .text "image_name" image, .text "useremail" user]
  | _ => none

namespace Call

variable {c c' : Call} {fs fs' : List Field}

theorem payload_of_fields (h : c.fields? = some fs) :
    c.endpoint.payload = some (.record (fs.map Field.member)) := by
  cases c <;> cases h <;> rfl

theorem nodup_fields (h : c.fields? = some fs) : (fs.map Field.name).Nodup := by
  cases c <;> cases h <;> simp [Field.text]

/-- The members of a body tell its call. -/
theorem eq_of_members (h : c.fields? = some fs) (h' : c'.fields? = some fs')
    (heq : fs.map Field.member = fs'.map Field.member) : c' = c := by
  cases c <;> cases h <;> cases c' <;> cases h' <;>
    simp [Field.member, Field.text, FieldKind.toJson_inj] at heq
  case signIn.refl.signIn.refl f f' =>
    cases f
    cases f'
    simp_all
  case signUp.refl.signUp.refl f f' =>
    cases f
    cases f'
    simp_all
  case addAdmin.refl.addAdmin.refl f _ f' =>
    cases f
    cases f'
    simp_all
  all_goals simp_all

end Call

namespace Request

variable {base : Url} {a : Authorizer} {items : Items} {c : Call} {q : Request} {fs : List Field}

theorem parse?_members (fs : List Field) :
    Json.parse? (Json.record (fs.map Field.member)).compact =
      some (.record (fs.map Field.member)) := by
  apply Json.parse?_compact
  apply Json.hasTexts_record
  intro m hm
  obtain ⟨f, _, rfl⟩ := List.mem_map.mp hm
  exact f.kind.hasTexts_toJson f.value

theorem body_of_fields (h : ofCall base a items c = .ok q) (hf : c.fields? = some fs) :
    q.body = some (Json.record (fs.map Field.member)).compact := by
  rw [ofCall_body h, Call.payload_of_fields hf, Option.map_some]

/-- The body of a request is one object. Its members are the fields of the call, each read back as
it was given, and no others; the role of an administrator who passes the rules is read back from its
service name. No other call has this body, whoever sends it and wherever it is sent to. -/
theorem body_carries_fields (h : ofCall base a items c = .ok q) (hf : c.fields? = some fs) :
    ∃ text members, q.body = some text ∧ Json.parse? text = some (.object members) ∧
      List.Forall₂ Field.IsIn fs members ∧ (members.map (·.1)).Nodup ∧
      (∀ admin form, c = .addAdmin admin form → form.check = .ok () →
        ∃ name, (some "role", Json.str name) ∈ members ∧ Role.decode name = form.role) ∧
      ∀ base' a' items' c' q' fs', ofCall base' a' items' c' = .ok q' → c'.fields? = some fs' →
        q'.body = q.body → c' = c := by
  have hbody := body_of_fields h hf
  refine ⟨_, _, hbody, parse?_members fs, ?given, ?apart, ?role, ?unique⟩
  case given =>
    rw [List.map_map, List.forall₂_map_right_iff, List.forall₂_same]
    intro f _
    exact ⟨rfl, f.kind.read?_toJson f.value⟩
  case apart =>
    have hnames : ((fs.map Field.name).map (some : String → Literal)).Nodup :=
      List.Pairwise.map _ (fun _ _ hne heq => hne (Option.some.inj heq)) (Call.nodup_fields hf)
    rw [List.map_map] at hnames
    rw [List.map_map, List.map_map]
    exact hnames
  case role =>
    rintro admin form rfl hc
    cases hf
    have hrole := form.check_decides.ok_iff.mp hc _ (List.mem_append_right _ List.mem_cons_self)
    have hname : ∃ name, form.role.wire? = some name := by
      rcases hrole with hr | hr <;> rw [hr] <;> exact ⟨_, rfl⟩
    obtain ⟨name, hname⟩ := hname
    refine ⟨name, ?_, Role.decode_wire hname⟩
    simp [Field.member, Field.text, FieldKind.toJson, hname, Json.ofOption]
  case unique =>
    intro base' a' items' c' q' fs' h' hf' heq
    rw [hbody, body_of_fields h' hf'] at heq
    have hparse := parse?_members fs'
    rw [Option.some.inj heq, parse?_members fs] at hparse
    exact Call.eq_of_members hf hf' (Json.record_injective (Option.some.inj hparse))

/-- Two pictures whose names and labels are escaped once in their list and once more in the body. -/
theorem labelled_pictures_read_back :
    let files : List LabeledFile := [⟨"a\"\\.png", some "moth\n"⟩, ⟨"🦋.png", none⟩]
    let base : Url := ⟨.http, "", "", .domain "server", none, [""], none⟩
    ∃ q text v, ofCall base ⟨"auth-token"⟩ .empty (.submitFeedback "user" files) = .ok q ∧
      q.body = some text ∧
      Json.parse? text = some (.object [(some "file_with_label_list", v),
        (some "useremail", .str "user")]) ∧
      v.embedded? LabeledFile.ofJson? = some files := by
  intro files base
  obtain ⟨q, hq⟩ : ∃ q, ofCall base ⟨"auth-token"⟩ .empty (.submitFeedback "user" files) = .ok q :=
    ⟨_, rfl⟩
  obtain ⟨text, members, hbody, hparse, hgiven, _⟩ := body_carries_fields hq rfl
  cases hgiven with
  | @cons _ m _ _ hfiles hrest =>
    cases hrest with
    | @cons _ m' _ _ huser hnil =>
      cases hnil
      obtain ⟨name, v⟩ := m
      obtain ⟨name', v'⟩ := m'
      obtain ⟨rfl, hread⟩ := hfiles
      obtain ⟨rfl, hread'⟩ := huser
      have hv' : v' = .str "user" := by
        cases v' <;> cases hread'
        rfl
      exact ⟨q, text, v, hq, hbody, hv' ▸ hparse, hread⟩

end Request

end InsectPortal
