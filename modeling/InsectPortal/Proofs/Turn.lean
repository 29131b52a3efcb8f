import InsectPortal.Portal
import InsectPortal.Proofs.InputRule
import InsectPortal.Proofs.Navigation
import InsectPortal.Proofs.SessionInvariant

/-!
# What a turn does

One statement for each way an operation begins or goes on: what becomes of the session, which call
is made, and how the operation ends. Later modules look at turns only through these.
-/
namespace InsectPortal

namespace Portal

/-- A portal whose session agrees with its keyring and whose navigation remembers rightly. -/
structure Sound (p : Portal) : Prop where
  session : p.session.Consistent
  navigation : p.navigation.Faithful

theorem sound_ofItems (items : Items) (remoteSignOut : Bool) :
    (ofItems items remoteSignOut).Sound :=
  ⟨Session.consistent_ofItems items, Navigation.faithful_initial⟩

theorem Sound.sections {p : Portal} (h : p.Sound) : p.sections.1 = p.state.sections :=
  h.navigation.visible p.state

@[simp] theorem observe_session (p : Portal) : p.observe.2.session = p.session := rfl

@[simp] theorem observe_wanted (p : Portal) :
    p.observe.1.roleLookupWanted = p.state.wantsRole :=
  Navigation.roleLookupWanted_observe p.navigation p.state

@[simp] theorem moveTo_session (p : Portal) (s : Session) : (p.moveTo s).session = s := rfl

def Rejects (p : Portal) (epoch : Nat) (e : Failure) : Prop :=
  e.isAuthorization = true ∧ epoch = p.session.epoch ∧ p.state.signedIn = true

instance (p : Portal) (epoch : Nat) (e : Failure) : Decidable (p.Rejects epoch e) :=
  inferInstanceAs (Decidable (_ ∧ _ ∧ _))

theorem report_of_rejects {p : Portal} {epoch : Nat} {e : Failure} (h : p.Rejects epoch e) :
    p.report epoch e = (p.moveTo p.session.drop, [.ofFailure e]) := by
  obtain ⟨ha, he, hs⟩ := h
  simp [report, ha, he, hs]

theorem report_of_not_rejects {p : Portal} {epoch : Nat} {e : Failure} (h : ¬ p.Rejects epoch e) :
    p.report epoch e = (p, if e.isAuthorization then [] else [.ofFailure e]) := by
  unfold report
  by_cases ha : e.isAuthorization = true
  · have hn : ¬ (p.session.epoch = epoch ∧ p.state.signedIn = true) :=
      fun hc => h ⟨ha, hc.1.symm, hc.2⟩
    simp [ha, hn]
  · simp [ha]

theorem beginLookup_of_some {p : Portal} {t : Ticket} {s : Session}
    (h : p.session.beginLookup = some (t, s)) (notes : List Notification)
    (origin : LookupOrigin) :
    p.beginLookup notes origin = .wait { p with session := s } notes (.lookup t origin) := by
  simp [beginLookup, h]

theorem beginLookup_of_none {p : Portal} (h : p.session.beginLookup = none)
    (notes : List Notification) (origin : LookupOrigin) :
    p.beginLookup notes origin = .finish p notes (p.afterLookup origin none) := by
  simp [beginLookup, h]

/-- The look at the session decides nothing that the lookup itself does not. -/
theorem settle_eq (p : Portal) (notes : List Notification) (origin : LookupOrigin) :
    p.settle notes origin = p.observe.2.beginLookup notes origin := by
  change (if p.observe.1.roleLookupWanted = true then p.observe.2.beginLookup notes origin
    else .finish p.observe.2 notes (p.observe.2.afterLookup origin none)) = _
  rw [observe_wanted]
  by_cases hw : p.state.wantsRole = true
  · rw [if_pos hw]
  · have hn : p.observe.2.session.beginLookup = none := by
      have hw' : p.session.state.wantsRole = false := Bool.eq_false_iff.mpr hw
      simp [Session.beginLookup, hw']
    rw [if_neg hw, beginLookup_of_none hn]

theorem beginLookup_session (p : Portal) (notes : List Notification) (origin : LookupOrigin) :
    (p.beginLookup notes origin).portal.session = p.session.next .beginLookup := by
  cases h : p.session.beginLookup with
  | none => simp [beginLookup_of_none h, Turn.finish, Session.next, h]
  | some r => simp [beginLookup_of_some h, Turn.wait, Session.next, h]

/-- Signed in, and the section is on the menu. -/
def Admits (p : Portal) (x : Section) : Prop :=
  p.state.signedIn = true ∧ x ∈ p.state.sections

theorem admission_of_admits {p : Portal} (h : p.Sound) {x : Section} (ha : p.Admits x) :
    ∃ user, p.session.keyring.user? = some user ∧
      p.admission x = (.ok (p.session.epoch, user), p.sections.2) := by
  obtain ⟨user, hu⟩ := h.session.user_of_signedIn ha.1
  refine ⟨user, hu, ?_⟩
  have hx : p.sections.1.contains x = true := by
    rw [h.sections]
    exact List.contains_iff_mem.mpr ha.2
  unfold admission
  rw [ha.1, hu]
  change (if p.sections.1.contains x = true then _ else _) = _
  rw [if_pos hx]
  rfl

theorem admission_of_not_admits {p : Portal} (h : p.Sound) {x : Section} (ha : ¬ p.Admits x) :
    ∃ e p', e.kind = .guard ∧ p'.session = p.session ∧ p'.navigation.Faithful ∧
      p.admission x = (.error e, p') := by
  cases hs : p.state.signedIn with
  | false => exact ⟨_, p, rfl, rfl, h.navigation, by simp [admission, hs]; rfl⟩
  | true =>
    obtain ⟨user, hu⟩ := h.session.user_of_signedIn hs
    have hx : ¬ p.sections.1.contains x = true := by
      rw [h.sections]
      exact fun hc => ha ⟨hs, List.contains_iff_mem.mp hc⟩
    refine ⟨.sectionForbidden x.label, p.sections.2, rfl, rfl,
      h.navigation.after_visible p.state, ?_⟩
    unfold admission
    rw [hs, hu]
    change (if p.sections.1.contains x = true then _ else _) = _
    rw [if_neg hx]
    rfl

theorem begin_signIn (p : Portal) (form : SignInForm) :
    p.begin (.signIn form) =
      match form.check with
      | .error e => .refuse p e
      | .ok () =>
        if p.state.signedIn then .refuse p .alreadySignedIn else .wait p [] (.grant form) := by
  change p.beginSignIn form = _
  unfold beginSignIn
  cases form.check with
  | error e => rfl
  | ok =>
    change (match (if p.state.signedIn = true then _ else _ : Except Failure Unit) with
      | .error e => Turn.refuse p e
      | .ok () => .wait p [] (.grant form)) = _
    cases p.state.signedIn <;> rfl

theorem begin_signOut_of_signedOut {p : Portal} (h : p.state.signedIn = false) :
    p.begin .signOut = .refuse p .notSignedIn := by
  simp [begin, beginSignOut, h]

/-- The service hears of it where it is told at all, for there always is a pair to name. -/
theorem begin_signOut_of_signedIn {p : Portal} (h : p.Sound) (hs : p.state.signedIn = true) :
    ∃ token user, p.session.credential = ⟨some token, some user⟩ ∧
      p.begin .signOut =
        if p.remoteSignOut then
          .wait (p.moveTo p.session.drop) [.signedOut] (.farewell .signedOut user token)
        else .finish (p.moveTo p.session.drop) [.signedOut] (.ok (.state .signedOut)) := by
  have hc : p.session.credential.isComplete = true := h.session.stored ▸ hs
  obtain ⟨token, user, hc⟩ := Credential.isComplete_iff.mp hc
  refine ⟨token, user, hc, ?_⟩
  change p.beginSignOut = _
  have hr : (p.moveTo p.session.drop).remoteSignOut = p.remoteSignOut := rfl
  have hd : (p.moveTo p.session.drop).state = .signedOut := rfl
  unfold beginSignOut
  cases ho : p.remoteSignOut <;> simp [hs, hc, hr, hd, ho]

theorem begin_task_of_not_admits {p : Portal} (h : p.Sound) {task : SectionTask}
    (ha : ¬ p.Admits task.section) :
    ∃ e p', e.kind = .guard ∧ p'.session = p.session ∧ p'.navigation.Faithful ∧
      p.begin (.task task) = .refuse p' e := by
  obtain ⟨e, p', he, hp, hn, heq⟩ := admission_of_not_admits h ha
  refine ⟨e, p', he, hp, hn, ?_⟩
  change p.beginTask task = _
  unfold beginTask
  rw [heq]

theorem begin_task_of_admits {p : Portal} (h : p.Sound) {task : SectionTask}
    (ha : p.Admits task.section) :
    ∃ user, p.session.keyring.user? = some user ∧
      p.begin (.task task) =
        match task.check with
        | .error e => .refuse p.sections.2 e
        | .ok () => .wait p.sections.2 [] (.gated p.session.epoch user task) := by
  obtain ⟨user, hu, heq⟩ := admission_of_admits h ha
  refine ⟨user, hu, ?_⟩
  change p.beginTask task = _
  unfold beginTask
  rw [heq]
  cases hc : task.check with
  | ok => rfl
  | error e =>
    have hn := SectionTask.not_authorization hc
    have hr : ¬ p.sections.2.Rejects p.session.epoch e := fun hr => by
      rw [hr.1] at hn
      cases hn
    simp [failTask, report_of_not_rejects hr, hn, Turn.refuse]

theorem resume_grant_ok (p : Portal) (form : SignInForm) (grant : SignInGrant) :
    p.resume (.grant form) (.ok grant) =
      match p.session.signIn grant.token form.useremail with
      | .error e => .refuse p e
      | .ok s => ({ p with session := s }).observe.2.beginLookup [.signedIn] .signIn := by
  change (match p.session.signIn grant.token form.useremail with
    | .error e => Turn.refuse p e
    | .ok s => ({ p with session := s }).settle [.signedIn] .signIn) = _
  cases p.session.signIn grant.token form.useremail with
  | error e => rfl
  | ok s => exact settle_eq _ _ _

theorem resume_grant_of_signedOut {p : Portal} (hs : p.state.signedIn = false)
    {form : SignInForm} {grant : SignInGrant} (ht : grant.token ≠ "") (hu : form.useremail ≠ "") :
    ∃ p', p'.session = p.session.granted grant.token form.useremail ∧
      (p.navigation.Faithful → p'.navigation.Faithful) ∧
      p.resume (.grant form) (.ok grant) =
        .wait p' [.signedIn] (.lookup ⟨p.session.epoch + 1, form.useremail⟩ .signIn) := by
  have hin := Session.signIn_ok_iff.mpr ⟨hs, ht, hu, rfl⟩
  rw [resume_grant_ok, hin]
  refine ⟨_, ?_, ?_, beginLookup_of_some (Session.beginLookup_of_signIn hin) _ _⟩
  · rfl
  · exact fun hn => hn.observe _

theorem resume_grant_refused {p : Portal} {form : SignInForm} {grant : SignInGrant}
    (h : p.state.signedIn = true ∨ grant.token = "") :
    ∃ e, p.resume (.grant form) (.ok grant) = .refuse p e := by
  obtain ⟨e, hin⟩ := Session.signIn_refused h form.useremail
  refine ⟨e, ?_⟩
  rw [resume_grant_ok, hin]

theorem resume_lookup_ok (p : Portal) (t : Ticket) (origin : LookupOrigin) (body : String) :
    ∃ p' outcome, p'.session = p.session.next (.completeLookup t (.decode body)) ∧
      (p.navigation.Faithful → p'.navigation.Faithful) ∧
      p.resume (.lookup t origin) (.ok body) = .finish p' [] (.ok outcome) := by
  have hok : ∀ (q : Portal) applied, ∃ outcome, q.afterLookup origin applied = .ok outcome := by
    intro q applied
    cases origin <;> exact ⟨_, rfl⟩
  change ∃ p' outcome, _ ∧ _ ∧ p.resumeLookup t origin (.ok body) = _
  unfold resumeLookup
  rcases hc : p.session.completeLookup t (Role.decode body) with ⟨applied, s⟩
  have hs : s = p.session.next (.completeLookup t (.decode body)) := by
    simp [Session.next, hc]
  cases applied with
  | true =>
    obtain ⟨outcome, ho⟩ := hok (p.moveTo s) (some (.decode body))
    refine ⟨p.moveTo s, outcome, hs, fun hn => hn.observe _, ?_⟩
    simp [hc, ho]
  | false =>
    obtain ⟨outcome, ho⟩ := hok { p with session := s } none
    refine ⟨{ p with session := s }, outcome, hs, id, ?_⟩
    simp [hc, ho]

def lookupOutcome (p : Portal) (origin : LookupOrigin) (e : Failure) : Outcome :=
  if origin = .refresh then .error e else p.afterLookup origin none

theorem resume_lookup_error {p : Portal} {t : Ticket} (origin : LookupOrigin) (e : Failure)
    {current : Bool} {s : Session} (h : p.session.failLookup t = (current, s)) :
    p.resume (.lookup t origin) (.error e) =
      let q : Portal := { p with session := s }
      let told := if current then q.report t.epoch e else (q, [])
      .finish told.1 told.2 (told.1.lookupOutcome origin e) := by
  change p.resumeLookup t origin (.error e) = _
  unfold resumeLookup
  simp only [h]
  rfl

theorem resume_lookup_of_current {p : Portal} {t : Ticket} (h : p.session.isCurrent t = true)
    (origin : LookupOrigin) (e : Failure) :
    p.resume (.lookup t origin) (.error e) =
      let told := report { p with session := { p.session with lookupPending := false } } t.epoch e
      .finish told.1 told.2 (told.1.lookupOutcome origin e) :=
  resume_lookup_error origin e (Session.failLookup_of_current h)

theorem resume_lookup_of_not_current {p : Portal} {t : Ticket}
    (h : p.session.isCurrent t = false) (origin : LookupOrigin) (e : Failure) :
    p.resume (.lookup t origin) (.error e) = .finish p [] (p.lookupOutcome origin e) :=
  resume_lookup_error origin e (Session.failLookup_of_not_current h)

theorem resume_lookup_rejected {p : Portal} {t : Ticket} (hc : p.session.isCurrent t = true)
    (origin : LookupOrigin) {e : Failure} (ha : e.isAuthorization = true) :
    ∃ p', p'.session = p.session.drop ∧ (p.navigation.Faithful → p'.navigation.Faithful) ∧
      p.resume (.lookup t origin) (.error e) =
        .finish p' [.ofFailure e] (p'.lookupOutcome origin e) := by
  obtain ⟨hs, he, _⟩ := Session.isCurrent_iff.mp hc
  let q : Portal := { p with session := { p.session with lookupPending := false } }
  have hr : q.report t.epoch e = (q.moveTo q.session.drop, [.ofFailure e]) :=
    report_of_rejects ⟨ha, he, hs⟩
  refine ⟨q.moveTo q.session.drop, ?_, fun hn => hn.observe _, ?_⟩
  · rw [moveTo_session, Session.drop_eq, Session.drop_eq]
  · rw [resume_lookup_of_current hc, hr]

theorem resume_lookup_failed {p : Portal} {t : Ticket} (origin : LookupOrigin) {e : Failure}
    (h : ¬ (p.session.isCurrent t = true ∧ e.isAuthorization = true)) :
    ∃ p' notes, p'.session = p.session.next (.failLookup t) ∧
      (p.navigation.Faithful → p'.navigation.Faithful) ∧
      p.resume (.lookup t origin) (.error e) =
        .finish p' notes (p'.lookupOutcome origin e) := by
  cases hc : p.session.isCurrent t with
  | false =>
    have hs := Session.next_failLookup_of_not_current hc
    exact ⟨p, [], hs.symm, id, resume_lookup_of_not_current hc origin e⟩
  | true =>
    let q : Portal := { p with session := { p.session with lookupPending := false } }
    have hs : q.session = p.session.next (.failLookup t) :=
      (congrArg (·.2) (Session.failLookup_of_current hc)).symm
    have ha : ¬ e.isAuthorization = true := fun ha => h ⟨hc, ha⟩
    have hr : q.report t.epoch e = (q, [.ofFailure e]) := by
      rw [report_of_not_rejects (fun hr => ha hr.1), if_neg ha]
    refine ⟨q, [.ofFailure e], hs, id, ?_⟩
    rw [resume_lookup_of_current hc, hr]

theorem resume_gated_rejected {p : Portal} {epoch : Nat} {e : Failure} (h : p.Rejects epoch e)
    (user : String) (task : SectionTask) :
    p.resumeTask epoch user task (.error e) =
      .finish (p.moveTo p.session.drop) [.ofFailure e] (.error e) := by
  unfold resumeTask failTask
  simp [report_of_rejects h]

theorem resume_gated_failed {p : Portal} {epoch : Nat} {e : Failure} (h : ¬ p.Rejects epoch e)
    (user : String) (task : SectionTask) :
    p.resumeTask epoch user task (.error e) =
      .finish p (if e.isAuthorization then [] else [.ofFailure e]) (.error e) := by
  unfold resumeTask failTask
  simp [report_of_not_rejects h]

end Portal

end InsectPortal
