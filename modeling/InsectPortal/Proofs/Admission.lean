import InsectPortal.Proofs.SessionBoundary

/-!
# Admission

An operation of a section reaches the service only for a session that may open the section, and on
behalf of the user of that session. Whoever may open it is let in. Everybody else is refused before
the arguments are looked at, is told so once, and leaves no other trace.
-/
namespace InsectPortal

namespace Call

/-- The section whose sessions may make the call. -/
def section? : Call → Option Section
  | .userInfo _ => some .userInfo
  | .listUsers _ | .toggleUsers .. | .addAdmin .. => some .userManage
  | .listFeedback _ | .reviewFeedback .. => some .feedbackManage
  | .submitFeedback .. => some .mainPage
  | .labelTasks _ | .submitLabel .. => some .labelImage
  | .authenticateSsh _ => some .webSsh
  | .signIn _ | .signUp _ | .checkRole _ | .signOut .. => none

/-- The user on whose behalf the call is made. -/
def actor? : Call → Option String
  | .signIn _ | .signUp _ => none
  | .checkRole user | .userInfo user | .signOut user _ | .listUsers user | .toggleUsers user _
  | .addAdmin user _ | .listFeedback user | .reviewFeedback user _ | .submitFeedback user _
  | .labelTasks user | .submitLabel user .. | .authenticateSsh user => some user

end Call

namespace SectionTask

theorem section?_call (task : SectionTask) (user : String) :
    (task.call user).section? = some task.section := by
  cases task <;> rfl

theorem actor?_call (task : SectionTask) (user : String) :
    (task.call user).actor? = some user := by
  cases task <;> rfl

end SectionTask

theorem Pending.gated_of_section {pd : Pending} {x : Section} (h : pd.call.section? = some x) :
    ∃ epoch user task, pd = .gated epoch user task ∧ task.section = x := by
  cases pd with
  | grant | account | lookup | farewell => cases h
  | gated epoch user task =>
    rw [task.section?_call user] at h
    exact ⟨epoch, user, task, rfl, Option.some.inj h⟩

theorem Notification.ofFailure_of_guard {e : Failure} (h : e.kind = .guard) :
    ofFailure e = ⟨.error, "Forbidden Operation!", e.message⟩ := by
  simp [ofFailure, h]

namespace Run

/-- The session live at a moment may open the section. -/
def MayOpen (r : Run) (k : Nat) (x : Section) : Prop := r.Live k ∧ x ∈ (r.state k).sections

/-- Event `k` starts an operation that ends at once with a failure. It is told in one notification,
and session and calls in flight are as before. -/
structure Refuses (r : Run) (k : Nat) (op : Operation) (e : Failure) : Prop where
  history : (r.world (k + 1)).history = (r.world k).history ++
    [.started (r.world k).started op, .noted (r.world k).started (.ofFailure e),
      .ended (r.world k).started (.error e)]
  session : r.session (k + 1) = r.session k
  inFlight : (r.world (k + 1)).inFlight = (r.world k).inFlight

theorem refuses_of_begin {r : Run} {k : Nat} {op : Operation} (he : r.event k = .start op)
    {p : Portal} {e : Failure} (hb : (r.world k).portal.begin op = .refuse p e)
    (hs : p.session = r.session k) : r.Refuses k op e := by
  have hw := world_start he
  unfold World.start at hw
  rw [hb] at hw
  refine ⟨?_, ?_, ?_⟩
  · rw [hw, World.take_history]
    simp [Turn.happenings, Turn.refuse, Turn.finish]
  · exact (congrArg (·.portal.session) hw).trans hs
  · rw [hw, World.take_inFlight]
    simp [Turn.pending?, Turn.refuse, Turn.finish]

theorem calls_of_admitted {r : Run} {k : Nat} {task : SectionTask}
    (he : r.event k = .start (.task task)) (ha : r.MayOpen k task.section)
    (hc : task.check = .ok ()) :
    ∃ user, (r.credential k).userIdentifier = some user ∧
      r.Calls k (r.world k).started (task.call user) := by
  obtain ⟨user, hu, hb⟩ := Portal.begin_task_of_admits (r.sound k) ha
  rw [hc] at hb
  exact ⟨user, hu, _, ⟨_, takes_start he, congrArg Turn.next hb⟩, rfl⟩

theorem ends_of_unchecked {r : Run} {k : Nat} {task : SectionTask}
    (he : r.event k = .start (.task task)) (ha : r.MayOpen k task.section) {e : Failure}
    (hc : task.check = .error e) : r.Ends k (r.world k).started (.error e) := by
  obtain ⟨user, _, hb⟩ := Portal.begin_task_of_admits (r.sound k) ha
  rw [hc] at hb
  exact ⟨_, takes_start he, congrArg Turn.next hb⟩

/-- The gate of a section is passed by those who may open the section and by nobody else. What
passes calls the service for the user on record, unless its own arguments break a rule; what does
not pass is refused, whatever its arguments are. -/
theorem section_admission (r : Run) :
    (∀ i n c x, r.Calls i n c → c.section? = some x → r.MayOpen i x ∧
      (∃ user, c.actor? = some user ∧ (r.credential i).userIdentifier = some user) ∧
      r.session (i + 1) = r.session i) ∧
    (∀ k task, r.event k = .start (.task task) → r.MayOpen k task.section →
      (task.check = .ok () → ∃ user, (r.credential k).userIdentifier = some user ∧
        r.Calls k (r.world k).started (task.call user)) ∧
      (∀ e, task.check = .error e →
        e.kind = .validation ∧ r.Ends k (r.world k).started (.error e))) ∧
    (∀ k task, r.event k = .start (.task task) → ¬ r.MayOpen k task.section →
      ∃ e, r.Refuses k (.task task) e ∧ e.kind = .guard ∧
        Notification.ofFailure e = ⟨.error, "Forbidden Operation!", e.message⟩) := by
  refine ⟨?called, ?admitted, ?refused⟩
  case called =>
    rintro i n c x ⟨pd, hm, rfl⟩ hx
    obtain ⟨epoch, user, task, rfl, rfl⟩ := Pending.gated_of_section hx
    obtain ⟨_, ha, _, hu, hs⟩ := opens_of_makes_gated hm
    exact ⟨ha, ⟨user, task.actor?_call user, hu⟩, hs⟩
  case admitted =>
    intro k task he ha
    refine ⟨calls_of_admitted he ha, fun e hc => ⟨?_, ends_of_unchecked he ha hc⟩⟩
    exact task.check_isValidation e hc
  case refused =>
    intro k task he ha
    obtain ⟨e, p, hk, hs, _, hb⟩ := Portal.begin_task_of_not_admits (r.sound k) ha
    exact ⟨e, refuses_of_begin he hb hs, hk, Notification.ofFailure_of_guard hk⟩

def curious : Run where
  items := (Items.empty.insert Items.tokenKey "token").insert Items.userKey "user"
  remoteSignOut := false
  event
    | 0 => .start (.task (.toggleUsers []))
    | _ => .start (.task .userInfo)

/-- It is refused the accounts before it is told that it has chosen none of them. -/
theorem curious_refused_then_admitted :
    (∃ e, curious.Refuses 0 (.task (.toggleUsers [])) e ∧ e.kind = .guard) ∧
      curious.Calls 1 1 (.userInfo "user") := by
  obtain ⟨_, admitted, refused⟩ := section_admission curious
  have hclosed : ¬ curious.MayOpen 0 (SectionTask.toggleUsers []).section := by
    rintro ⟨_, hx⟩
    revert hx
    decide +kernel
  have hopen : curious.MayOpen 1 SectionTask.userInfo.section := by
    unfold MayOpen Live
    decide +kernel
  obtain ⟨e, hr, hk, _⟩ := refused 0 _ rfl hclosed
  obtain ⟨user, hu, hc⟩ := (admitted 1 _ rfl hopen).1 rfl
  obtain rfl : user = "user" := by
    have hstored : (curious.credential 1).userIdentifier = some "user" := by decide +kernel
    exact Option.some.inj (hu.symm.trans hstored)
  exact ⟨⟨e, hr, hk⟩, hc⟩

end Run

end InsectPortal
