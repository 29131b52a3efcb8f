import InsectPortal.Proofs.Credential
import InsectPortal.Session

/-!
# What a session keeps

Everything an event can do to a session is one of six moves. The agreement of the session with its
keyring is read off them, and so is what ties the epoch to the session it counts: as long as the
epoch stays, so do the credential and the fact that somebody is signed in, or not.
-/
namespace InsectPortal.Session

/-- State, credential and pending lookup agree with each other. -/
structure Consistent (s : Session) : Prop where
  whole : s.credential.isComplete = true ∨ s.credential.isEmpty = true
  stored : s.state.signedIn = s.credential.isComplete
  roleless : s.state.signedIn = false → s.state.role = .unknown
  wanted : s.lookupPending = true → s.state.wantsRole = true

/-- The session that a grant begins, with its role lookup on the way. -/
def granted (s : Session) (token user : String) : Session :=
  ⟨s.keyring.establish token user, ⟨true, .unknown⟩, s.epoch + 1, true⟩

def resolved (s : Session) (role : Role) : Session :=
  { s with lookupPending := false, state := { s.state with role } }

@[simp] theorem resolved_credential (s : Session) (role : Role) :
    (s.resolved role).credential = s.credential := rfl

@[simp] theorem resolved_epoch (s : Session) (role : Role) :
    (s.resolved role).epoch = s.epoch := rfl

@[simp] theorem resolved_lookupPending (s : Session) (role : Role) :
    (s.resolved role).lookupPending = false := rfl

@[simp] theorem resolved_signedIn (s : Session) (role : Role) :
    (s.resolved role).state.signedIn = s.state.signedIn := rfl

@[simp] theorem resolved_role (s : Session) (role : Role) :
    (s.resolved role).state.role = role := rfl

/-- What one event can make of a session. -/
inductive Move (s : Session) : Session → Prop where
  | stay : Move s s
  | enter (token user) : s.state.signedIn = false → token ≠ "" → user ≠ "" →
      Move s ⟨s.keyring.establish token user, ⟨true, .unknown⟩, s.epoch + 1, false⟩
  | drop : Move s s.drop
  | ask : s.state.wantsRole = true → Move s { s with lookupPending := true }
  | settle : Move s { s with lookupPending := false }
  | resolve (role) : s.state.signedIn = true → s.state.role.isResolved = false →
      Move s (s.resolved role)

theorem drop_eq (s : Session) : s.drop =
    ⟨s.keyring.clear, .signedOut, if s.state.signedIn then s.epoch + 1 else s.epoch, false⟩ := by
  cases h : s.state.signedIn <;> simp [drop, enter, h, SessionState.signedOut]

theorem signIn_ok_iff {s s' : Session} {token user : String} :
    s.signIn token user = .ok s' ↔ s.state.signedIn = false ∧ token ≠ "" ∧ user ≠ "" ∧
      s' = ⟨s.keyring.establish token user, ⟨true, .unknown⟩, s.epoch + 1, false⟩ := by
  unfold signIn
  cases hs : s.state.signedIn with
  | true => simp
  | false =>
    by_cases ht : token = ""
    · simp [ht]
    · by_cases hu : user = ""
      · simp [hu]
      · simp [ht, hu, enter, hs, eq_comm]

theorem beginLookup_eq_some_iff {s s' : Session} {t : Ticket} :
    s.beginLookup = some (t, s') ↔
      s.state.wantsRole = true ∧ s.lookupPending = false ∧ s.keyring.user? = some t.user ∧
        t.epoch = s.epoch ∧ s' = { s with lookupPending := true } := by
  obtain ⟨epoch, user⟩ := t
  unfold beginLookup
  by_cases hw : s.state.wantsRole = true
  · cases hp : s.lookupPending with
    | true => simp
    | false =>
      cases hu : s.keyring.user? with
      | none => simp
      | some u =>
        simp only [hw, Bool.not_false, Bool.and_self, if_true, Option.map_some,
          Option.some.injEq, Prod.mk.injEq, Ticket.mk.injEq, true_and]
        constructor
        · rintro ⟨⟨rfl, rfl⟩, rfl⟩
          exact ⟨rfl, rfl, rfl⟩
        · rintro ⟨rfl, rfl, rfl⟩
          exact ⟨⟨rfl, rfl⟩, rfl⟩
  · simp [hw]

theorem signIn_refused {s : Session} {token : String}
    (h : s.state.signedIn = true ∨ token = "") (user : String) :
    ∃ e, s.signIn token user = .error e := by
  cases hin : s.signIn token user with
  | error e => exact ⟨e, rfl⟩
  | ok s' =>
    obtain ⟨hs, ht, _⟩ := signIn_ok_iff.mp hin
    rcases h with hl | he
    · exact absurd (hl.symm.trans hs) (by decide)
    · exact absurd he ht

theorem beginLookup_of_signIn {s s' : Session} {token user : String}
    (h : s.signIn token user = .ok s') :
    s'.beginLookup = some (⟨s.epoch + 1, user⟩, s.granted token user) := by
  obtain ⟨_, ht, hu, rfl⟩ := signIn_ok_iff.mp h
  have hc := Keyring.credential_establish s.keyring ht hu
  exact beginLookup_eq_some_iff.mpr
    ⟨rfl, rfl, congrArg Credential.userIdentifier hc, rfl, rfl⟩

theorem isCurrent_iff {s : Session} {t : Ticket} :
    s.isCurrent t = true ↔
      s.state.signedIn = true ∧ t.epoch = s.epoch ∧ s.keyring.user? = some t.user := by
  simp [isCurrent, and_assoc]

theorem current_of_beginLookup {s s' : Session} {t : Ticket}
    (h : s.beginLookup = some (t, s')) : s'.isCurrent t = true ∧ s'.lookupPending = true := by
  obtain ⟨hw, _, hu, he, rfl⟩ := beginLookup_eq_some_iff.mp h
  have hs : s.state.signedIn = true := by
    simp only [SessionState.wantsRole, Bool.and_eq_true] at hw
    exact hw.1
  exact ⟨isCurrent_iff.mpr ⟨hs, he, hu⟩, rfl⟩

theorem completeLookup_of_not_current {s : Session} {t : Ticket} (h : s.isCurrent t = false)
    (role : Role) : s.completeLookup t role = (false, s) := by
  simp [completeLookup, h]

theorem failLookup_of_current {s : Session} {t : Ticket} (h : s.isCurrent t = true) :
    s.failLookup t = (true, { s with lookupPending := false }) :=
  if_pos h

theorem failLookup_of_not_current {s : Session} {t : Ticket} (h : s.isCurrent t = false) :
    s.failLookup t = (false, s) := by
  simp [failLookup, h]

theorem next_completeLookup_of_not_current {s : Session} {t : Ticket}
    (h : s.isCurrent t = false) (role : Role) : s.next (.completeLookup t role) = s :=
  congrArg (·.2) (completeLookup_of_not_current h role)

theorem next_failLookup_of_not_current {s : Session} {t : Ticket} (h : s.isCurrent t = false) :
    s.next (.failLookup t) = s :=
  congrArg (·.2) (failLookup_of_not_current h)

/-- The first good answer decides the role, and no later one changes it. -/
theorem next_completeLookup_of_current {s : Session} {t : Ticket} (h : s.isCurrent t = true)
    {role : Role} (hr : role.isResolved = true) :
    s.next (.completeLookup t role) =
      if s.state.role.isResolved then { s with lookupPending := false } else s.resolved role := by
  cases hs : s.state.role.isResolved <;> simp [next, completeLookup, h, hr, hs, resolved]

theorem next_beginLookup (s : Session) : s.next .beginLookup = s ∨
    (s.state.wantsRole = true ∧ s.next .beginLookup = { s with lookupPending := true }) := by
  unfold next
  cases hb : s.beginLookup with
  | none => exact Or.inl rfl
  | some p =>
    obtain ⟨hw, _, _, _, hs⟩ := beginLookup_eq_some_iff.mp hb
    exact Or.inr ⟨hw, hs⟩

/-- At most the pending lookup is another. -/
structure Keeps (s s' : Session) : Prop where
  keyring : s'.keyring = s.keyring
  epoch : s'.epoch = s.epoch
  state : s'.state = s.state

theorem Keeps.of_eq {s s' : Session} (h : s' = s) : Keeps s s' := by
  subst h
  exact ⟨rfl, rfl, rfl⟩

theorem keeps_beginLookup (s : Session) : Keeps s (s.next .beginLookup) := by
  rcases next_beginLookup s with h | ⟨_, h⟩
  · exact .of_eq h
  · rw [h]
    exact ⟨rfl, rfl, rfl⟩

theorem keeps_failLookup (s : Session) (t : Ticket) : Keeps s (s.next (.failLookup t)) := by
  by_cases hc : s.isCurrent t = true
  · constructor <;> simp [next, failLookup, hc]
  · exact .of_eq (next_failLookup_of_not_current (Bool.eq_false_iff.mpr hc))

theorem move_next (s : Session) (e : SessionEvent) : Move s (s.next e) := by
  cases e with
  | signIn token user =>
    cases h : s.signIn token user with
    | error e => simpa [next, h, Except.toOption] using Move.stay
    | ok s' =>
      obtain ⟨hs, ht, hu, rfl⟩ := signIn_ok_iff.mp h
      simpa [next, h, Except.toOption] using Move.enter token user hs ht hu
  | signUp => exact .stay
  | signOut => exact .drop
  | reject => exact .drop
  | beginLookup =>
    rcases next_beginLookup s with h | ⟨hw, h⟩
    · rw [h]; exact .stay
    · rw [h]; exact .ask hw
  | completeLookup t role =>
    by_cases hc : s.isCurrent t = true
    · have hs := (isCurrent_iff.mp hc).1
      by_cases hr : role.isResolved = true ∧ s.state.role.isResolved = false
      · simpa [next, completeLookup, hc, hr, resolved] using Move.resolve role hs hr.2
      · have hn : (role.isResolved && !s.state.role.isResolved) = false := by
          simpa using hr
        simpa [next, completeLookup, hc, hn] using Move.settle
    · simpa [next, completeLookup, hc] using Move.stay
  | failLookup t =>
    by_cases hc : s.isCurrent t = true
    · simpa [next, failLookup, hc] using Move.settle
    · simpa [next, failLookup, hc] using Move.stay

theorem consistent_ofItems (items : Items) : (ofItems items).Consistent where
  whole := Keyring.ofItems_complete_or_empty items
  stored := rfl
  roleless := fun _ => rfl
  wanted := by simp [ofItems, ofKeyring]

theorem consistent_drop (s : Session) : s.drop.Consistent := by
  rw [drop_eq]
  constructor <;> simp [credential, Credential.isEmpty, Credential.isComplete,
    SessionState.signedOut]

theorem Consistent.user_of_signedIn {s : Session} (h : s.Consistent)
    (hs : s.state.signedIn = true) : ∃ user, s.keyring.user? = some user := by
  obtain ⟨token, user, hc⟩ := Credential.isComplete_iff.mp (h.stored ▸ hs)
  exact ⟨user, congrArg Credential.userIdentifier hc⟩

theorem Consistent.signedIn_of_resolved {s : Session} (h : s.Consistent)
    (hr : s.state.role.isResolved = true) : s.state.signedIn = true := by
  cases hs : s.state.signedIn with
  | true => rfl
  | false =>
    rw [h.roleless hs] at hr
    exact absurd hr (by decide)

theorem Consistent.empty_of_signedOut {s : Session} (h : s.Consistent)
    (hs : s.state.signedIn = false) : s.credential = ⟨none, none⟩ := by
  rcases h.whole with hc | he
  · rw [h.stored, hc] at hs
    cases hs
  · exact Credential.isEmpty_iff.mp he

theorem Consistent.move {s s' : Session} (h : s.Consistent) (m : Move s s') : s'.Consistent := by
  cases m with
  | stay => exact h
  | drop => exact consistent_drop s
  | enter token user _ ht hu =>
    have hc := s.keyring.credential_establish ht hu
    constructor <;> simp [credential, hc, Credential.isComplete]
  | ask hw => exact ⟨h.whole, h.stored, h.roleless, fun _ => hw⟩
  | settle => exact ⟨h.whole, h.stored, h.roleless, by simp⟩
  | resolve role hs hr =>
    exact ⟨h.whole, h.stored, fun ho => absurd (hs.symm.trans ho) (by decide), by simp⟩

/-- How an epoch counts: one more exactly when somebody is signed in who was not, or the other way
round. Within an epoch the credential stays, and so does a role once it is known. -/
structure Follows (s s' : Session) : Prop where
  epoch : s'.epoch = if s'.state.signedIn = s.state.signedIn then s.epoch else s.epoch + 1
  credential : s'.state.signedIn = s.state.signedIn → s'.credential = s.credential
  role : s.state.role.isResolved = true → s'.state.signedIn = true →
    s'.state.role = s.state.role

theorem Follows.refl (s : Session) : Follows s s :=
  ⟨by simp, fun _ => rfl, fun _ _ => rfl⟩

theorem Consistent.follows_move {s s' : Session} (h : s.Consistent) (m : Move s s') :
    Follows s s' := by
  cases m with
  | stay => exact .refl s
  | drop =>
    rw [drop_eq]
    refine ⟨?_, ?_, fun _ hs => absurd hs (by simp [SessionState.signedOut])⟩
    · cases hs : s.state.signedIn <;> simp [SessionState.signedOut]
    · intro hs
      have ho : s.state.signedIn = false := hs.symm
      exact (h.empty_of_signedOut ho).symm
  | enter token user hs ht hu =>
    refine ⟨by simp [hs], ?_, ?_⟩
    · intro ho
      exact absurd (ho.trans hs) (by simp)
    · intro hr _
      exact absurd ((h.signedIn_of_resolved hr).symm.trans hs) (by simp)
  | ask => exact ⟨by simp, fun _ => rfl, fun _ _ => rfl⟩
  | settle => exact ⟨by simp, fun _ => rfl, fun _ _ => rfl⟩
  | resolve role hs hr =>
    refine ⟨by simp, fun _ => rfl, fun ht _ => ?_⟩
    exact absurd (ht.symm.trans hr) (by simp)

theorem Follows.epoch_le {s s' : Session} (h : Follows s s') : s.epoch ≤ s'.epoch := by
  rw [h.epoch]
  split <;> omega

theorem Follows.signedIn_iff_epoch {s s' : Session} (h : Follows s s') :
    s'.state.signedIn = s.state.signedIn ↔ s'.epoch = s.epoch := by
  rw [h.epoch]
  by_cases hs : s'.state.signedIn = s.state.signedIn <;> simp [hs]

/-- Two moves in one turn, of which at most one crosses between signed in and signed out. -/
theorem Follows.trans {s t u : Session} (hc : s.Consistent) (h : Follows s t) (k : Follows t u)
    (hx : t.state.signedIn = s.state.signedIn ∨ u.state.signedIn = t.state.signedIn) :
    Follows s u := by
  rcases hx with hx | hx
  · have ht : t.epoch = s.epoch := h.signedIn_iff_epoch.mp hx
    refine ⟨by rw [k.epoch, hx, ht], fun hs => ?_, fun hr hu => ?_⟩
    · exact (k.credential (hs.trans hx.symm)).trans (h.credential hx)
    · have hrole := h.role hr (hx.trans (hc.signedIn_of_resolved hr))
      exact (k.role (hrole ▸ hr) hu).trans hrole
  · have hu : u.epoch = t.epoch := k.signedIn_iff_epoch.mp hx
    refine ⟨by rw [hu, h.epoch, hx], fun hs => ?_, fun hr hl => ?_⟩
    · exact (k.credential hx).trans (h.credential (hx.symm.trans hs))
    · have hrole := h.role hr (hx.symm.trans hl)
      exact (k.role (hrole ▸ hr) hl).trans hrole

end InsectPortal.Session
