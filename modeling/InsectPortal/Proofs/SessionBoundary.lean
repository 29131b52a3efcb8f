import InsectPortal.Proofs.Answer

/-!
# What an event does to the session

An event begins a session, ends one, tells the live one its role, or leaves everything but the
pending lookup as it is. A session begins with a grant to a sign-in that finds nobody signed in. It
ends with a sign-out, or with an answer that rejects the token to a call of that same session.
-/
namespace InsectPortal

/-- Made with the token of a session, and no farewell to it. -/
def Call.IsOfSession : Call → Prop
  | .signIn _ | .signUp _ | .signOut .. => False
  | _ => True

theorem SectionTask.call_isOfSession (task : SectionTask) (user : String) :
    (task.call user).IsOfSession := by
  cases task <;> trivial

namespace Run

/-- The answer is a failure that rejects the token of the live session, to a call made in it. -/
structure Rejects (r : Run) (n : Nat) (c : Call) (i k : Nat) (e : Failure) : Prop where
  answered : r.Answered n c i k (.error e)
  ofSession : c.IsOfSession
  authorization : e.isAuthorization = true
  current : r.OneSession (i + 1) k

def Rejected (r : Run) (k : Nat) : Prop := ∃ n c i e, r.Rejects n c i k e

structure Enters (r : Run) (n : Nat) (form : SignInForm) (i k : Nat) (grant : SignInGrant) :
    Prop where
  answered : r.Answered n (.signIn form) i k (.ok grant)
  token : grant.token ≠ ""
  signedOut : ¬ r.Live k
  session : r.session (k + 1) = (r.session k).granted grant.token form.useremail

structure Leaves (r : Run) (k : Nat) : Prop where
  live : r.Live k
  cause : r.event k = .start .signOut ∨ r.Rejected k
  session : r.session (k + 1) = (r.session k).drop

structure Learns (r : Run) (n : Nat) (user : String) (i k : Nat) (body : String) : Prop where
  answered : r.Answered n (.checkRole user) i k (.ok body)
  current : r.OneSession (i + 1) k
  unresolved : (r.role k).isResolved = false
  session : r.session (k + 1) = (r.session k).resolved (.decode body)

def Keeps (r : Run) (k : Nat) : Prop := (r.session k).Keeps (r.session (k + 1))

inductive Step (r : Run) (k : Nat) : Prop where
  | enters {n form i grant} : r.Enters n form i k grant → Step r k
  | leaves : r.Leaves k → Step r k
  | learns {n user i body} : r.Learns n user i k body → Step r k
  | keeps : r.Keeps k → Step r k

/-- What anyone can see of the session is as before. -/
structure Unchanged (r : Run) (k : Nat) : Prop where
  state : r.state (k + 1) = r.state k
  epoch : r.epoch (k + 1) = r.epoch k
  credential : r.credential (k + 1) = r.credential k
  sections : r.sections (k + 1) = r.sections k

theorem role_decode_resolved (body : String) : (Role.decode body).isResolved = true := by
  simpa [Role.isResolved] using Role.decode_ne_unknown body

theorem keeps_of_session {r : Run} {k : Nat} {s : Session} (h : r.session (k + 1) = s)
    (hk : (r.session k).Keeps s) : r.Keeps k := by
  subst h
  exact hk

theorem Keeps.unchanged {r : Run} {k : Nat} (h : r.Keeps k) : r.Unchanged k where
  state := h.state
  epoch := h.epoch
  credential := congrArg Keyring.credential h.keyring
  sections := by
    have hs : r.state (k + 1) = r.state k := h.state
    rw [sections_eq, sections_eq, hs]

theorem unchanged_of_session_eq {r : Run} {k : Nat} (h : r.session (k + 1) = r.session k) :
    r.Unchanged k := Keeps.unchanged (Session.Keeps.of_eq h)

theorem Keeps.live_iff {r : Run} {k : Nat} (h : r.Keeps k) : r.Live (k + 1) ↔ r.Live k :=
  live_iff_of_state_eq h.state

theorem state_of_drop {r : Run} {k : Nat} {s : Session} (h : r.session (k + 1) = s.drop) :
    r.state (k + 1) = .signedOut := congrArg Session.state (h.trans s.drop_eq)

theorem Leaves.not_live {r : Run} {k : Nat} (h : r.Leaves k) : ¬ r.Live (k + 1) := by
  intro hl
  have ho := congrArg SessionState.signedIn (state_of_drop h.session)
  exact absurd (ho.symm.trans hl) (by decide)

theorem Learns.live {r : Run} {n i k : Nat} {user body : String}
    (h : r.Learns n user i k body) : r.Live k := h.current.last

theorem Learns.credential_eq {r : Run} {n i k : Nat} {user body : String}
    (h : r.Learns n user i k body) : r.credential (k + 1) = r.credential k :=
  (congrArg Session.credential h.session).trans (Session.resolved_credential _ _)

theorem leaves_of_signOut {r : Run} {k : Nat} (hl : r.Live k)
    (he : r.event k = .start .signOut) : r.Leaves k :=
  ⟨hl, Or.inl he, (session_start he).trans (if_pos hl)⟩

theorem step_of_start {r : Run} {k : Nat} {op : Operation} (he : r.event k = .start op) :
    r.Step k := by
  have hs := session_start he
  cases op with
  | start | refreshRole => exact .keeps (keeps_of_session hs (Session.keeps_beginLookup _))
  | signIn | signUp | task => exact .keeps (.of_eq hs)
  | signOut =>
    by_cases hl : r.Live k
    · exact .leaves (leaves_of_signOut hl he)
    · exact .keeps (.of_eq (hs.trans (if_neg hl)))

theorem drop_of_rejects {r : Run} {n i k : Nat} {c : Call} {e : Failure}
    (h : r.Rejects n c i k e) : r.session (k + 1) = (r.session k).drop := by
  obtain ⟨⟨pd, answer, hw, rfl, he, ha⟩, hc, hx, hone⟩ := h
  have hs := hw.session_reply he
  rw [ha] at hs
  cases pd with
  | grant | account | farewell => cases hc
  | lookup t origin => exact hs.trans (if_pos ⟨(isCurrent_iff_oneSession hw).mpr hone, hx⟩)
  | gated epoch user task => exact hs.trans (if_pos ((rejects_iff_oneSession hw e).mpr ⟨hx, hone⟩))

theorem leaves_of_rejected {r : Run} {k : Nat} (h : r.Rejected k) : r.Leaves k := by
  obtain ⟨n, c, i, e, hr⟩ := h
  exact ⟨hr.current.last, Or.inr ⟨n, c, i, e, hr⟩, drop_of_rejects hr⟩

/-- A failure that does not reject the token of the live session leaves it alone. -/
theorem keeps_of_error {r : Run} {n i k : Nat} {c : Call} {e : Failure}
    (h : r.Answered n c i k (.error e)) (hn : ¬ r.Rejects n c i k e) : r.Keeps k := by
  obtain ⟨pd, answer, hw, rfl, he, ha⟩ := id h
  have hs := hw.session_reply he
  rw [ha] at hs
  cases pd with
  | grant | account | farewell => exact .of_eq hs
  | lookup t origin =>
    have hr : ¬ ((r.session k).isCurrent t = true ∧ e.isAuthorization = true) :=
      fun hr => hn ⟨h, trivial, hr.2, (isCurrent_iff_oneSession hw).mp hr.1⟩
    exact keeps_of_session (hs.trans (if_neg hr)) (Session.keeps_failLookup _ t)
  | gated epoch user task =>
    have hr : ¬ (r.world k).portal.Rejects epoch e := fun hr => by
      obtain ⟨hx, hone⟩ := (rejects_iff_oneSession hw e).mp hr
      exact hn ⟨h, task.call_isOfSession user, hx, hone⟩
    exact .of_eq (hs.trans (if_neg hr))

theorem step_of_error {r : Run} {n i k : Nat} {c : Call} {e : Failure}
    (h : r.Answered n c i k (.error e)) : r.Step k := by
  by_cases hr : r.Rejects n c i k e
  · exact .leaves (leaves_of_rejected ⟨n, c, i, e, hr⟩)
  · exact .keeps (keeps_of_error h hr)

theorem enters_of_grant {r : Run} {n i k : Nat} {form : SignInForm} {grant : SignInGrant}
    (h : r.Answered n (.signIn form) i k (.ok grant)) (ht : grant.token ≠ "") (hl : ¬ r.Live k) :
    r.Enters n form i k grant := by
  obtain ⟨_, _, hs⟩ := h.of_sign_in
  have hout : (r.world k).portal.state.signedIn = false := Bool.eq_false_iff.mpr hl
  rw [Portal.sessionAfterReply_of_signedOut hout ht h.useremail_ne_empty] at hs
  exact ⟨h, ht, hl, hs⟩

theorem session_of_refused_grant {r : Run} {n i k : Nat} {form : SignInForm}
    {grant : SignInGrant} (h : r.Answered n (.signIn form) i k (.ok grant))
    (hn : r.Live k ∨ grant.token = "") : r.session (k + 1) = r.session k := by
  obtain ⟨_, _, hs⟩ := h.of_sign_in
  exact hs.trans (Portal.sessionAfterReply_of_refused hn)

theorem step_of_grant {r : Run} {n i k : Nat} {form : SignInForm} {grant : SignInGrant}
    (h : r.Answered n (.signIn form) i k (.ok grant)) : r.Step k := by
  by_cases hn : r.Live k ∨ grant.token = ""
  · exact .keeps (.of_eq (session_of_refused_grant h hn))
  · obtain ⟨hl, ht⟩ := not_or.mp hn
    exact .enters (enters_of_grant h ht hl)

theorem session_of_resolved_lookup {r : Run} {n i k : Nat} {user body : String}
    (h : r.Answered n (.checkRole user) i k (.ok body)) (hone : r.OneSession (i + 1) k) :
    r.session (k + 1) =
      if (r.role k).isResolved then { r.session k with lookupPending := false }
      else (r.session k).resolved (.decode body) := by
  obtain ⟨t, origin, hw, hs⟩ := h.of_lookup
  have hcur := (isCurrent_iff_oneSession hw).mpr hone
  exact hs.trans (Session.next_completeLookup_of_current hcur (role_decode_resolved body))

/-- Answers to lookups of sessions that are gone change nothing. -/
theorem session_of_stale_lookup {r : Run} {n i k : Nat} {user : String}
    {reply : (Call.checkRole user).Reply} (h : r.Answered n (.checkRole user) i k reply)
    (hn : ¬ r.OneSession (i + 1) k) : r.session (k + 1) = r.session k := by
  obtain ⟨t, origin, hw, hs⟩ := h.of_lookup
  have hcur : (r.session k).isCurrent t = false :=
    Bool.eq_false_iff.mpr fun hcur => hn ((isCurrent_iff_oneSession hw).mp hcur)
  cases reply with
  | ok body => exact hs.trans (Session.next_completeLookup_of_not_current hcur _)
  | error e =>
    have hr : ¬ ((r.session k).isCurrent t = true ∧ e.isAuthorization = true) := by
      simp [hcur]
    exact (hs.trans (if_neg hr)).trans (Session.next_failLookup_of_not_current hcur)

theorem step_of_lookup {r : Run} {n i k : Nat} {user body : String}
    (h : r.Answered n (.checkRole user) i k (.ok body)) : r.Step k := by
  by_cases hone : r.OneSession (i + 1) k
  · have hs := session_of_resolved_lookup h hone
    by_cases hr : (r.role k).isResolved = true
    · rw [if_pos hr] at hs
      exact .keeps (keeps_of_session hs ⟨rfl, rfl, rfl⟩)
    · rw [if_neg hr] at hs
      exact .learns ⟨h, hone, Bool.eq_false_iff.mpr hr, hs⟩
  · exact .keeps (.of_eq (session_of_stale_lookup h hone))

theorem step (r : Run) (k : Nat) : r.Step k := by
  rcases r.session_step k with ⟨op, he, _⟩ | ⟨n, i, pd, answer, he, hw, hs⟩ | hs
  · exact step_of_start he
  · cases ha : answer pd.call with
    | error e => exact step_of_error ⟨pd, answer, hw, rfl, he, ha⟩
    | ok value =>
      cases pd with
      | grant form => exact step_of_grant ⟨_, answer, hw, rfl, he, ha⟩
      | lookup t origin => exact step_of_lookup ⟨_, answer, hw, rfl, he, ha⟩
      | account | farewell => exact .keeps (.of_eq hs)
      | gated =>
        rw [ha] at hs
        exact .keeps (.of_eq hs)
  · exact .keeps (.of_eq hs)

def restored (reply : Except Failure String) : Run where
  items := (Items.empty.insert Items.tokenKey "token").insert Items.userKey "user"
  remoteSignOut := false
  event
    | 0 => .start .refreshRole
    | _ => .reply 0 fun
      | .checkRole _ => reply
      | _ => .error .notSignedIn

theorem restored_answered (reply : Except Failure String) :
    (restored reply).Answered 0 (.checkRole "user") 0 1 reply := by
  refine ⟨.lookup ⟨0, "user"⟩ .refresh, _, ⟨⟨_, rfl, rfl⟩, by omega, fun m h h' => ?_⟩,
    rfl, rfl, rfl⟩
  obtain rfl : m = 1 := by omega
  rfl

theorem restored_oneSession (reply : Except Failure String) : (restored reply).OneSession 1 1 :=
  .refl rfl

end Run

end InsectPortal
