import InsectPortal.Account
import InsectPortal.Inbox
import InsectPortal.Keyring
import InsectPortal.Proofs.JsonValue
import InsectPortal.Record
import InsectPortal.Section

/-!
# Wire formats

What the portal writes as JSON text it reads back as the same value, for every type that is
written: nothing is lost, and reading a text and writing it anew comes to rest after one step.
-/
namespace InsectPortal

open Json (slots?_ofFields hasTexts_ofFields)

theorem Credential.ofJson?_toJson (c : Credential) : ofJson? c.toJson = some c := by
  obtain ⟨token, user⟩ := c
  rw [ofJson?, toJson, slots?_ofFields (by decide) rfl]
  cases token <;> cases user <;> rfl

theorem Failure.ofJson?_toJson (e : Failure) : ofJson? e.toJson = some e := by
  have hplain : e.toJson.isPlain = true := rfl
  have hdepth : e.toJson.depth ≤ maxDepth := by
    change 1 ≤ 127
    decide
  rw [ofJson?, if_pos ⟨hdepth, hplain⟩, toJson, slots?_ofFields (by decide) rfl]
  simp [Json.Slot.required, Json.str, Json.str?, FailureKind.ofId?_id]

theorem Notification.ofJson?_toJson (n : Notification) : ofJson? n.toJson = some n := by
  rw [ofJson?, toJson, slots?_ofFields (by decide) rfl]
  simp [Json.Slot.required, Json.str, Json.str?, Json.choice?, NotificationLevel.ofId?_id]

theorem SignInForm.ofJson?_toJson (f : SignInForm) : ofJson? f.toJson = some f := by
  rw [ofJson?, toJson, slots?_ofFields (by decide) rfl]
  rfl

theorem SignUpForm.ofJson?_toJson (f : SignUpForm) : ofJson? f.toJson = some f := by
  rw [ofJson?, toJson, slots?_ofFields (by decide) rfl]
  rfl

theorem AdminForm.ofJson?_toJson (f : AdminForm) : ofJson? f.toJson = some f := by
  rw [ofJson?, toJson, slots?_ofFields (by decide) rfl]
  cases f with
  | mk username email password repassword role => cases role <;> rfl

theorem SignInGrant.ofJson?_toJson (g : SignInGrant) : ofJson? g.toJson = some g := by
  rw [ofJson?, toJson, slots?_ofFields (by decide) rfl]
  rfl

theorem UserProfile.ofJson?_toJson (p : UserProfile) : ofJson? p.toJson = some p := by
  rw [ofJson?, toJson, slots?_ofFields (by decide) rfl]
  simp [Json.Slot.orElse, Json.count?_count, Json.str, Json.str?]

theorem ManagedUser.ofJson?_toJson (u : ManagedUser) : ofJson? u.toJson = some u := by
  rw [ofJson?, toJson, slots?_ofFields (by decide) rfl]
  simp [Json.Slot.orElse, Json.count?_count, Json.str, Json.str?, Json.bool?]

theorem FeedbackEntry.ofJson?_toJson (e : FeedbackEntry) : ofJson? e.toJson = some e := by
  rw [ofJson?, toJson, slots?_ofFields (by decide) rfl]
  simp [Json.Slot.orElse, Json.count?_count, Json.str, Json.str?, Json.bool?]

theorem FeedbackDecision.ofJson?_toJson (d : FeedbackDecision) : ofJson? d.toJson = some d := by
  rw [ofJson?, toJson, slots?_ofFields (by decide) rfl]
  rfl

theorem LabeledFile.ofJson?_toJson (f : LabeledFile) : ofJson? f.toJson = some f := by
  obtain ⟨filename, label⟩ := f
  rw [ofJson?, toJson, slots?_ofFields (by decide) rfl]
  cases label <;> rfl

theorem LabelTask.ofJson?_toJson (t : LabelTask) : ofJson? t.toJson = some t := by
  rw [ofJson?, toJson, slots?_ofFields (by decide) rfl]
  rfl

/-- The types whose values are written as texts. -/
inductive WireType where
  | role
  | sectionId
  | credential
  | failure
  | notification
  | signInForm
  | signUpForm
  | adminForm
  | signInGrant
  | userProfile
  | managedUsers
  | feedbackEntries
  | feedbackDecision
  | labeledFile
  | labelTasks
  deriving DecidableEq, Repr

namespace WireType

abbrev Value : WireType → Type
  | role => Role
  | sectionId => Section
  | credential => Credential
  | failure => Failure
  | notification => Notification
  | signInForm => SignInForm
  | signUpForm => SignUpForm
  | adminForm => AdminForm
  | signInGrant => SignInGrant
  | userProfile => UserProfile
  | managedUsers => List ManagedUser
  | feedbackEntries => List FeedbackEntry
  | feedbackDecision => FeedbackDecision
  | labeledFile => LabeledFile
  | labelTasks => List LabelTask

def toJson : (w : WireType) → w.Value → Json
  | role => Role.toJson
  | sectionId => Section.toJson
  | credential => Credential.toJson
  | failure => Failure.toJson
  | notification => Notification.toJson
  | signInForm => SignInForm.toJson
  | signUpForm => SignUpForm.toJson
  | adminForm => AdminForm.toJson
  | signInGrant => SignInGrant.toJson
  | userProfile => UserProfile.toJson
  | managedUsers => fun us => .array (us.map ManagedUser.toJson)
  | feedbackEntries => fun es => .array (es.map FeedbackEntry.toJson)
  | feedbackDecision => FeedbackDecision.toJson
  | labeledFile => LabeledFile.toJson
  | labelTasks => fun ts => .array (ts.map LabelTask.toJson)

def ofJson? : (w : WireType) → Json → Option w.Value
  | role => Role.ofJson?
  | sectionId => Section.ofJson?
  | credential => Credential.ofJson?
  | failure => Failure.ofJson?
  | notification => Notification.ofJson?
  | signInForm => SignInForm.ofJson?
  | signUpForm => SignUpForm.ofJson?
  | adminForm => AdminForm.ofJson?
  | signInGrant => SignInGrant.ofJson?
  | userProfile => UserProfile.ofJson?
  | managedUsers => Json.list? ManagedUser.ofJson?
  | feedbackEntries => Json.list? FeedbackEntry.ofJson?
  | feedbackDecision => FeedbackDecision.ofJson?
  | labeledFile => LabeledFile.ofJson?
  | labelTasks => Json.list? LabelTask.ofJson?

def text (w : WireType) (v : w.Value) : String := (w.toJson v).compact

def read? (w : WireType) (t : String) : Option w.Value := (Json.parse? t).bind w.ofJson?

/-- What a text is written as once it has been read. -/
def rewrite? (w : WireType) (t : String) : Option String := (w.read? t).map w.text

theorem ofJson?_toJson (w : WireType) (v : w.Value) : w.ofJson? (w.toJson v) = some v := by
  cases w with
  | role => exact Role.ofJson?_toJson v
  | sectionId => exact Section.ofId?_id v
  | credential => exact Credential.ofJson?_toJson v
  | failure => exact Failure.ofJson?_toJson v
  | notification => exact Notification.ofJson?_toJson v
  | signInForm => exact SignInForm.ofJson?_toJson v
  | signUpForm => exact SignUpForm.ofJson?_toJson v
  | adminForm => exact AdminForm.ofJson?_toJson v
  | signInGrant => exact SignInGrant.ofJson?_toJson v
  | userProfile => exact UserProfile.ofJson?_toJson v
  | managedUsers => exact Json.list?_array ManagedUser.ofJson?_toJson v
  | feedbackEntries => exact Json.list?_array FeedbackEntry.ofJson?_toJson v
  | feedbackDecision => exact FeedbackDecision.ofJson?_toJson v
  | labeledFile => exact LabeledFile.ofJson?_toJson v
  | labelTasks => exact Json.list?_array LabelTask.ofJson?_toJson v

theorem hasTexts_toJson (w : WireType) (v : w.Value) : (w.toJson v).HasTexts := by
  cases w with
  | role | sectionId => exact Json.hasTexts_str _
  | managedUsers | feedbackEntries | labelTasks =>
    exact Json.hasTexts_list (fun _ => hasTexts_ofFields (by simp)) v
  | adminForm => exact hasTexts_ofFields (by simp [Role.toJson])
  | _ => exact hasTexts_ofFields (by simp)

theorem read?_text (w : WireType) (v : w.Value) : w.read? (w.text v) = some v := by
  rw [read?, text, Json.parse?_compact (w.hasTexts_toJson v), Option.bind_some, ofJson?_toJson]

/-- What is written is read back, so a text that was read and written anew stays as it is when that is
done once more. -/
theorem round_trip (w : WireType) :
    (∀ v : w.Value, w.read? (w.text v) = some v) ∧
    ∀ t t', w.rewrite? t = some t' → w.read? t' = w.read? t ∧ w.rewrite? t' = some t' := by
  constructor
  · exact w.read?_text
  · intro t t' h
    obtain ⟨v, hv, rfl⟩ := Option.map_eq_some_iff.mp h
    have hread := w.read?_text v
    constructor
    · rw [hread, hv]
    · rw [rewrite?, hread, Option.map_some]

/-- A failure with its members in another order, gaps, a member that is no field and every kind of
escape. -/
theorem untidy_failure_rewritten :
    let t := " \x7b\"message\": \"a\\u0062\\ud83d\\udc1b\", \"type\": \"network\",\n\"at\": [-1.5e3], \"code\": \"\\\"\"\x7d "
    let t' := "\x7b\"type\":\"network\",\"code\":\"\\\"\",\"message\":\"ab🐛\"\x7d"
    failure.rewrite? t = some t' ∧ failure.read? t' = failure.read? t ∧
      failure.rewrite? t' = some t' := by
  intro t t'
  have h : failure.rewrite? t = some t' := by decide +kernel
  exact ⟨h, (round_trip failure).2 t t' h⟩

end WireType

end InsectPortal
