import InsectPortal.Proofs.Admission
import InsectPortal.Proofs.InputRule
import InsectPortal.Proofs.LookupFlag

/-!
# Checked calls

Every call that leaves the portal obeys the rules for its arguments, and whatever obeys them leaves:
nothing but the guards stands between an operation with sound arguments and its call. An operation
that breaks a rule ends at once, with the first rule it breaks, and never makes a call.
-/
namespace InsectPortal

/-- The arguments are such as the service is given. -/
def Call.Checked : Call → Prop
  | .signIn form => Text.IsFilled form.useremail ∧ Text.IsFilled form.password
  | .signUp form => Account.IsSound form.username form.email form.password form.repassword
  | .addAdmin _ form =>
    Account.IsSound form.username form.email form.password form.repassword ∧
      (form.role = .userAdmin ∨ form.role = .modelAdmin)
  | .toggleUsers _ emails => emails ≠ []
  | .reviewFeedback _ decisions => decisions ≠ []
  | .submitFeedback _ files => files ≠ []
  | .submitLabel _ image label =>
    Text.IsFilled image ∧ Text.IsFilled label ∧ Text.IsTrimmed label
  | .checkRole _ | .userInfo _ | .signOut .. | .listUsers _ | .listFeedback _ | .labelTasks _
  | .authenticateSsh _ => True

theorem SignInForm.checked_call {f : SignInForm} (h : ∀ x ∈ f.rules, x.holds) :
    (Call.signIn f).Checked := by
  constructor
  · exact h _ List.mem_cons_self
  · exact h _ (List.mem_cons_of_mem _ List.mem_cons_self)

theorem SectionTask.checked_call {task : SectionTask} (h : ∀ x ∈ task.rules, x.holds)
    (user : String) : (task.call user).Checked := by
  cases task with
  | addAdmin form =>
    obtain ⟨haccount, hrole⟩ := List.forall_mem_append.mp h
    exact ⟨Account.rules_hold_iff.mp haccount, hrole _ List.mem_cons_self⟩
  | toggleUsers | reviewFeedback | submitFeedback => exact h _ List.mem_cons_self
  | submitLabel image label =>
    obtain ⟨hi, hl⟩ := h _ List.mem_cons_self
    exact ⟨hi, Text.isFilled_trim.mpr hl, Text.isTrimmed_trim label⟩
  | userInfo | listUsers | listFeedback | labelTasks | authenticateSsh => trivial

namespace Run

/-- What is started at event `k` breaks one of the rules: it ends at once with the first one that is
broken, and no call is ever made for it. -/
def Refutes (r : Run) (k : Nat) (rules : List Rule) : Prop :=
  ∃ x, Rule.FirstBroken rules x ∧ r.Ends k (r.world k).started (.error x.failure) ∧
    ∀ i c, ¬ r.Calls i (r.world k).started c

theorem calls_checked {r : Run} {i n : Nat} {c : Call} (h : r.Calls i n c) : c.Checked := by
  obtain ⟨pd, hm, rfl⟩ := h
  rcases opens_or_lookup hm with ⟨op, _, _, ho⟩ | ⟨t, s, rfl, _⟩
  · cases pd with
    | grant form =>
      obtain ⟨_, hc, _⟩ := ho
      exact SignInForm.checked_call (form.check_decides.ok_iff.mp hc)
    | account form =>
      obtain ⟨_, hc, _⟩ := ho
      exact Account.rules_hold_iff.mp (form.check_decides.ok_iff.mp hc)
    | gated epoch user task =>
      obtain ⟨_, _, hc, _⟩ := ho
      exact SectionTask.checked_call (task.check_decides.ok_iff.mp hc) user
    | lookup | farewell => trivial
  · trivial

theorem not_calls_of_ends_at_start {r : Run} {k : Nat} {op : Operation} {outcome : Outcome}
    (he : r.event k = .start op) (hend : r.Ends k (r.world k).started outcome) (i : Nat) (c : Call) :
    ¬ r.Calls i (r.world k).started c := by
  -- A call of the operation is made at its start, or in the answer to an earlier call of its own.
  induction i using Nat.strong_induction_on generalizing c with
  | _ i ih =>
    rintro ⟨pd, hm, rfl⟩
    obtain ⟨t, ht, _⟩ := id hm
    rcases World.turn_cases ht with ⟨op', he', hn, _⟩ | ⟨_, pd', _, hp, _⟩
    · obtain rfl := start_unique he he' hn
      exact hm.not_ends outcome hend
    · obtain ⟨j, hw⟩ := exists_waits hp
      exact ih j hw.before pd'.call ⟨pd', hw.makes, rfl⟩

theorem refutes_of_begin {r : Run} {k : Nat} {op : Operation} {rules : List Rule}
    {check : Except Failure Unit} (he : r.event k = .start op) (hd : Rule.Decides rules check)
    (hends : ∀ e, check = .error e → r.Ends k (r.world k).started (.error e))
    (hbroken : ¬ ∀ x ∈ rules, x.holds) : r.Refutes k rules := by
  obtain ⟨x, hx⟩ := Rule.exists_firstBroken hbroken
  have hend := hends x.failure (hd.tells x hx)
  exact ⟨x, hx, hend, not_calls_of_ends_at_start he hend⟩

theorem calls_of_sign_up {r : Run} {k : Nat} {form : SignUpForm}
    (he : r.event k = .start (.signUp form)) (hc : form.check = .ok ()) :
    r.Calls k (r.world k).started (.signUp form) := by
  refine ⟨.account form, ⟨_, takes_start he, ?_⟩, rfl⟩
  rw [Portal.begin, Portal.beginSignUp, hc]
  rfl

theorem ends_of_refused_sign_up {r : Run} {k : Nat} {form : SignUpForm} {e : Failure}
    (he : r.event k = .start (.signUp form)) (hc : form.check = .error e) :
    r.Ends k (r.world k).started (.error e) := by
  refine ⟨_, takes_start he, ?_⟩
  rw [Portal.begin, Portal.beginSignUp, hc]
  rfl

/-- The rules for arguments are kept by every call. They decide about a sign-up; about a sign-in
before it is asked whether somebody is signed in already; and about an operation of a section once
it is admitted. -/
theorem checked_calls (r : Run) :
    (∀ i n c, r.Calls i n c → c.Checked) ∧
    (∀ k form, r.event k = .start (.signUp form) →
      ((∀ x ∈ form.rules, x.holds) → r.Calls k (r.world k).started (.signUp form)) ∧
      ((¬ ∀ x ∈ form.rules, x.holds) → r.Refutes k form.rules)) ∧
    (∀ k form, r.event k = .start (.signIn form) →
      ((∀ x ∈ form.rules, x.holds) → ¬ r.Live k →
        r.Calls k (r.world k).started (.signIn form)) ∧
      ((¬ ∀ x ∈ form.rules, x.holds) → r.Refutes k form.rules)) ∧
    (∀ k task, r.event k = .start (.task task) → r.MayOpen k task.section →
      ((∀ x ∈ task.rules, x.holds) → ∃ user, (r.credential k).userIdentifier = some user ∧
        r.Calls k (r.world k).started (task.call user)) ∧
      ((¬ ∀ x ∈ task.rules, x.holds) → r.Refutes k task.rules)) := by
  refine ⟨fun i n c => calls_checked, ?signUp, ?signIn, ?gated⟩
  case signUp =>
    intro k form he
    constructor
    · intro h
      exact calls_of_sign_up he (form.check_decides.passes h)
    · exact refutes_of_begin he form.check_decides fun e => ends_of_refused_sign_up he
  case signIn =>
    intro k form he
    constructor
    · intro h hl
      exact ⟨_, makes_grant_of_start he (form.check_decides.passes h) hl, rfl⟩
    · exact refutes_of_begin he form.check_decides fun e => ends_of_refused_sign_in he
  case gated =>
    intro k task he ha
    constructor
    · intro h
      exact calls_of_admitted he ha (task.check_decides.passes h)
    · exact refutes_of_begin he task.check_decides fun e => ends_of_unchecked he ha

def labelling : Run where
  items := (Items.empty.insert Items.tokenKey "token").insert Items.userKey "user"
  remoteSignOut := false
  event
    | 0 => .start (.task (.submitLabel "moth.png" "\u00a0moth "))
    | 1 => .start (.signIn ⟨"user", " "⟩)
    | _ => .start (.signUp ⟨"other", "secret", "secrets", "other@example.com"⟩)

/-- Of the rules of the sign-up two are broken; the one about the password comes first. -/
theorem labelling_checked :
    labelling.Calls 0 0 (.submitLabel "user" "moth.png" "moth") ∧
    labelling.Ends 1 1 (.error (.validation "password" "Please input your password!")) ∧
    labelling.Ends 2 2 (.error (.validation "password"
      "Need 8-16 characters containing letters and numbers")) := by
  obtain ⟨_, signUp, signIn, gated⟩ := checked_calls labelling
  have told : ∀ {k : Nat} {rules : List Rule} {check : Except Failure Unit} {e : Failure},
      Rule.Decides rules check → check = .error e →
      ((¬ ∀ x ∈ rules, x.holds) → labelling.Refutes k rules) →
      labelling.Ends k (labelling.world k).started (.error e) := by
    intro k rules check e hd hc hrefutes
    have hbroken : ¬ ∀ x ∈ rules, x.holds := by
      intro h
      cases hc.symm.trans (hd.passes h)
    obtain ⟨x, hx, hend, _⟩ := hrefutes hbroken
    cases hc.symm.trans (hd.tells x hx)
    exact hend
  refine ⟨?label, ?signIn, ?signUp⟩
  case label =>
    let task : SectionTask := .submitLabel "moth.png" "\u00a0moth "
    have hopen : labelling.MayOpen 0 task.section := by
      unfold MayOpen Live
      decide +kernel
    have hcheck : task.check = .ok () := by decide +kernel
    obtain ⟨user, hu, hc⟩ := (gated 0 task rfl hopen).1 (task.check_decides.ok_iff.mp hcheck)
    obtain rfl : user = "user" := by
      have hstored : (labelling.credential 0).userIdentifier = some "user" := by decide +kernel
      exact Option.some.inj (hu.symm.trans hstored)
    have hcall : task.call "user" = .submitLabel "user" "moth.png" "moth" := by decide +kernel
    exact hcall ▸ hc
  case signIn =>
    exact told (SignInForm.check_decides _) (by decide +kernel) (signIn 1 _ rfl).2
  case signUp =>
    exact told (SignUpForm.check_decides _) (by decide +kernel) (signUp 2 _ rfl).2

end Run

end InsectPortal
