import InsectPortal.Proofs.LookupFlag

/-!
# What the user is told of sessions

Three notifications tell of a session: one that it begins, two that it ends. In every run each
beginning and each end is told once, in the turn it happens in, and nothing else tells of one. So the
notifications of this kind alternate, and their number is the epoch.
-/
namespace InsectPortal

namespace Notification

/-- It tells that a session has begun, or that one has ended. -/
def isBoundary (n : Notification) : Bool := [signedIn, signedOut, tokenExpired].contains n

theorem isBoundary_ofFailure (e : Failure) : (ofFailure e).isBoundary = e.isAuthorization := by
  unfold ofFailure Failure.isAuthorization
  cases e.kind <;> simp [isBoundary, signedIn, signedOut, tokenExpired, signInFailed, networkError]

theorem isBoundary_ofSignInFailure (e : Failure) : (ofSignInFailure e).isBoundary = false := by
  unfold ofSignInFailure
  cases hk : e.kind with
  | internal =>
    rw [isBoundary_ofFailure]
    simp [Failure.isAuthorization, hk]
  | network | validation | authentication | authorization | guard => rfl

theorem isBoundary_ofSignUpFailure (e : Failure) : (ofSignUpFailure e).isBoundary = false := by
  unfold ofSignUpFailure
  cases e.kind <;> decide

theorem isBoundary_announcement {task : SectionTask} {n : Notification}
    (h : task.announcement? = some n) : n.isBoundary = false := by
  cases task <;> cases h <;> decide

end Notification

/-- What is told of a step from a state to a state, of which only is known whether somebody is signed
in: nothing, unless exactly one of them is. -/
def crossing (ending : Notification) (before after : Bool) : List Notification :=
  if after = before then [] else if after then [.signedIn] else [ending]

/-- Of the session the turn tells whether it crosses a boundary, and nothing else. -/
def Turn.Tells (t : Turn) (p : Portal) (ending : Notification) : Prop :=
  t.notes.filter (·.isBoundary) = crossing ending p.state.signedIn t.portal.state.signedIn

section

variable {p p' : Portal} {t : Turn} {ending : Notification}

theorem Turn.tells_nothing (hs : t.portal.state.signedIn = p.state.signedIn)
    (hn : ∀ note ∈ t.notes, note.isBoundary = false) : t.Tells p ending := by
  unfold Tells
  rw [hs, crossing, if_pos rfl, List.filter_eq_nil_iff]
  intro note hm
  simp [hn note hm]

theorem Turn.tells_note {note : Notification} {outcome : Outcome}
    (hs : p'.state.signedIn = p.state.signedIn) (hn : note.isBoundary = false) :
    (Turn.finish p' [note] outcome).Tells p ending := by
  refine tells_nothing hs ?_
  intro note' hm
  rw [List.mem_singleton.mp hm]
  exact hn

theorem Turn.tells_refuse (hs : p'.state.signedIn = p.state.signedIn) {e : Failure}
    (ha : e.isAuthorization = false) : (Turn.refuse p' e).Tells p ending :=
  tells_note hs ((Notification.isBoundary_ofFailure e).trans ha)

end

namespace Portal

theorem beginLookup_notes (p : Portal) (notes : List Notification) (origin : LookupOrigin) :
    (p.beginLookup notes origin).notes = notes := by
  cases h : p.session.beginLookup with
  | none => rw [beginLookup_of_none h]; rfl
  | some r => rw [beginLookup_of_some h]; rfl

theorem beginLookup_state (p : Portal) (notes : List Notification) (origin : LookupOrigin) :
    (p.beginLookup notes origin).portal.state = p.state :=
  (congrArg Session.state (beginLookup_session p notes origin)).trans
    (Session.keeps_beginLookup p.session).state

theorem begin_tells {p : Portal} (h : p.Sound) (op : Operation) :
    (p.begin op).Tells p .signedOut := by
  cases op with
  | start =>
    change (p.settle [] .start).Tells p _
    rw [settle_eq]
    refine Turn.tells_nothing ?_ ?_
    · rw [beginLookup_state]
      rfl
    · simp [beginLookup_notes]
  | refreshRole =>
    refine Turn.tells_nothing ?_ ?_
    · exact congrArg SessionState.signedIn (beginLookup_state p [] .refresh)
    · simp [begin, beginLookup_notes]
  | signIn form =>
    rw [begin_signIn]
    cases hc : form.check with
    | error e => exact Turn.tells_refuse rfl (form.check_decides.isValidation.not_authorization hc)
    | ok =>
      cases hs : p.state.signedIn with
      | true => exact Turn.tells_refuse rfl rfl
      | false => exact Turn.tells_nothing rfl (by simp [Turn.wait])
  | signUp form =>
    change (p.beginSignUp form).Tells p _
    unfold beginSignUp
    cases hc : form.check with
    | error e =>
      exact Turn.tells_refuse rfl (form.check_decides.isValidation.not_authorization hc)
    | ok => exact Turn.tells_nothing rfl (by simp [Turn.wait])
  | signOut =>
    cases hs : p.state.signedIn with
    | false =>
      rw [begin_signOut_of_signedOut hs]
      exact Turn.tells_refuse rfl rfl
    | true =>
      obtain ⟨token, user, _, heq⟩ := begin_signOut_of_signedIn h hs
      rw [heq]
      have hdrop : (p.moveTo p.session.drop).state.signedIn = false := rfl
      unfold Turn.Tells
      rw [hs]
      cases p.remoteSignOut <;> simp [Turn.wait, Turn.finish, hdrop, crossing] <;> decide
  | task task =>
    by_cases ha : p.Admits task.section
    · obtain ⟨user, _, heq⟩ := begin_task_of_admits h ha
      rw [heq]
      cases hc : task.check with
      | error e => exact Turn.tells_refuse rfl (SectionTask.not_authorization hc)
      | ok => exact Turn.tells_nothing rfl (by simp [Turn.wait])
    · obtain ⟨e, p', he, hp, _, heq⟩ := begin_task_of_not_admits h ha
      rw [heq]
      refine Turn.tells_refuse ?_ ?_
      · exact congrArg (·.state.signedIn) hp
      · simp [Failure.isAuthorization, he]

/-- The end of a session is told where a failure ends it, and only there. -/
theorem report_tells (p : Portal) (epoch : Nat) (e : Failure) (outcome : Outcome) :
    (Turn.finish (p.report epoch e).1 (p.report epoch e).2 outcome).Tells p .tokenExpired := by
  by_cases hr : p.Rejects epoch e
  · rw [report_of_rejects hr]
    obtain ⟨ha, _, hs⟩ := hr
    have hdrop : (p.moveTo p.session.drop).state.signedIn = false := rfl
    have hnote : Notification.ofFailure e = .tokenExpired := by
      have hk : e.kind = .authorization := beq_iff_eq.mp ha
      simp [Notification.ofFailure, hk]
    unfold Turn.Tells
    rw [hs, hnote]
    simp [Turn.finish, hdrop, crossing]
    decide
  · rw [report_of_not_rejects hr]
    refine Turn.tells_nothing rfl ?_
    intro note hm
    by_cases ha : e.isAuthorization = true
    · simp [Turn.finish, ha] at hm
    · simp only [Turn.finish, ha, Bool.false_eq_true, if_false, List.mem_singleton] at hm
      rw [hm, Notification.isBoundary_ofFailure]
      exact Bool.eq_false_iff.mpr ha

theorem signIn_error {s : Session} {token user : String} {e : Failure}
    (h : s.signIn token user = .error e) : e.isAuthorization = false := by
  unfold Session.signIn at h
  split at h
  · rw [← Except.error.inj h]
    rfl
  · split at h
    · rw [← Except.error.inj h]
      rfl
    · cases h

theorem completeLookup_signedIn (s : Session) (t : Ticket) (body : String) :
    (s.next (.completeLookup t (.decode body))).state.signedIn = s.state.signedIn := by
  cases hc : s.isCurrent t with
  | false => rw [Session.next_completeLookup_of_not_current hc]
  | true =>
    rw [Session.next_completeLookup_of_current hc (Run.role_decode_resolved body)]
    split
    · rfl
    · exact Session.resolved_signedIn _ _

theorem resume_tells (p : Portal) (pd : Pending) (reply : pd.call.Reply) :
    (p.resume pd reply).Tells p .tokenExpired := by
  cases pd with
  | grant form =>
    cases reply with
    | error e => exact Turn.tells_note rfl (Notification.isBoundary_ofSignInFailure e)
    | ok grant =>
      rw [resume_grant_ok]
      cases hin : p.session.signIn grant.token form.useremail with
      | error e => exact Turn.tells_refuse rfl (signIn_error hin)
      | ok s =>
        obtain ⟨hs, _, _, rfl⟩ := Session.signIn_ok_iff.mp hin
        have hout : p.state.signedIn = false := hs
        unfold Turn.Tells
        rw [beginLookup_notes, beginLookup_state, hout]
        rfl
  | account form =>
    cases reply with
    | error e => exact Turn.tells_note rfl (Notification.isBoundary_ofSignUpFailure e)
    | ok _ => exact Turn.tells_note rfl rfl
  | farewell state user token => exact Turn.tells_nothing rfl (by simp [resume, Turn.finish])
  | lookup t origin =>
    cases reply with
    | ok body =>
      obtain ⟨p', outcome, hs, _, heq⟩ := resume_lookup_ok p t origin body
      rw [heq]
      refine Turn.tells_nothing ?_ (by simp [Turn.finish])
      exact (congrArg (·.state.signedIn) hs).trans (completeLookup_signedIn _ _ _)
    | error e =>
      cases hc : p.session.isCurrent t with
      | false =>
        rw [resume_lookup_of_not_current hc]
        exact Turn.tells_nothing rfl (by simp [Turn.finish])
      | true =>
        rw [resume_lookup_of_current hc]
        exact report_tells { p with session := { p.session with lookupPending := false } } t.epoch e _
  | gated epoch user task =>
    cases reply with
    | error e => exact report_tells p epoch e (.error e)
    | ok answer =>
      refine Turn.tells_nothing rfl ?_
      intro note hm
      exact Notification.isBoundary_announcement (Option.mem_toList.mp hm)

end Portal

namespace World

def notes (w : World) : List Notification :=
  w.history.filterMap fun
    | .noted _ note => some note
    | _ => none

theorem notes_next {w : World} {e : Event} {n : Nat} {t : Turn} (h : w.turn? e = some (n, t)) :
    (w.next e).notes = w.notes ++ t.notes := by
  rw [notes, filterMap_history_next ?_ h, List.filterMap_some]
  · rfl
  · intro x hx
    cases x with
    | noted m note => exact absurd rfl (hx m note)
    | _ => rfl

end World

/-- What tells of the end of a session at this kind of event: a sign-out starts, and a token is
rejected in a reply. -/
def Event.ending : Event → Notification
  | .start _ => .signedOut
  | .reply .. => .tokenExpired

namespace Run

/-- What the user has been told of sessions, oldest first. -/
def announced (r : Run) (k : Nat) : List Notification :=
  (r.world k).notes.filter (·.isBoundary)

def told (r : Run) (k : Nat) : List Notification :=
  crossing (r.event k).ending (r.state k).signedIn (r.state (k + 1)).signedIn

theorem announced_succ (r : Run) (k : Nat) : r.announced (k + 1) = r.announced k ++ r.told k := by
  cases ht : (r.world k).turn? (r.event k) with
  | none =>
    have hw : r.world (k + 1) = r.world k := World.next_of_no_turn ht
    unfold announced told state session crossing
    rw [hw, if_pos rfl, List.append_nil]
  | some q =>
    have hstate : r.state (k + 1) = q.2.portal.state :=
      congrArg (·.session.state) (takes_portal ht)
    have htells : q.2.Tells (r.world k).portal (r.event k).ending := by
      rcases World.turn_cases ht with ⟨op, he, _, hb⟩ | ⟨answer, pd, he, _, hb⟩
      · rw [hb, he]
        exact Portal.begin_tells (r.sound k) op
      · rw [hb, he]
        exact Portal.resume_tells _ pd _
    have hnotes : (r.world (k + 1)).notes = (r.world k).notes ++ q.2.notes := World.notes_next ht
    unfold announced told
    rw [hnotes, List.filter_append, htells, hstate]
    rfl

theorem announced_eq (r : Run) (k : Nat) : r.announced k = (List.range k).flatMap r.told := by
  induction k with
  | zero => rfl
  | succ k ih =>
    rw [announced_succ, ih, List.range_succ, List.flatMap_append]
    simp

theorem told_eq_nil {r : Run} {k : Nat} (h : r.Live (k + 1) ↔ r.Live k) : r.told k = [] :=
  if_pos (Bool.eq_iff_iff.mpr h)

theorem told_of_entry {r : Run} {k : Nat} (h : ¬ r.Live k) (h' : r.Live (k + 1)) :
    r.told k = [.signedIn] := by
  have hout : (r.state k).signedIn = false := Bool.eq_false_iff.mpr h
  have hin : (r.state (k + 1)).signedIn = true := h'
  rw [told, hout, hin]
  rfl

theorem told_of_exit {r : Run} {k : Nat} (h : r.Live k) (h' : ¬ r.Live (k + 1)) :
    r.told k = [(r.event k).ending] := by
  have hin : (r.state k).signedIn = true := h
  have hout : (r.state (k + 1)).signedIn = false := Bool.eq_false_iff.mpr h'
  rw [told, hin, hout]
  rfl

theorem ending_ne_signedIn (e : Event) : e.ending ≠ .signedIn := by
  cases e with
  | start op =>
    change Notification.signedOut ≠ _
    decide
  | reply n answer =>
    change Notification.tokenExpired ≠ _
    decide

theorem epoch_step (r : Run) (k : Nat) : r.epoch (k + 1) = r.epoch k + (r.told k).length := by
  have hepoch := (r.follows k).epoch
  unfold told crossing
  change r.epoch (k + 1) = if (r.state (k + 1)).signedIn = (r.state k).signedIn then r.epoch k
    else r.epoch k + 1 at hepoch
  rw [hepoch]
  split
  · rfl
  · split <;> rfl

/-- What the list of notifications so far says about the session. -/
structure Tally (r : Run) (k : Nat) : Prop where
  length : (r.announced k).length = r.epoch k
  live : r.Live k ↔ (r.Live 0 ↔ r.epoch k % 2 = 0)
  entry : ∀ j note, (r.announced k)[j]? = some note → (note = .signedIn ↔ (r.Live 0 ↔ j % 2 = 1))
  last : r.Live k ↔
    (r.announced k).getLast? = some .signedIn ∨ (r.announced k = [] ∧ r.Live 0)

theorem tally_at_start (r : Run) : r.Tally 0 where
  length := rfl
  live := by
    have hepoch : r.epoch 0 = 0 := rfl
    simp [hepoch]
  entry := by
    intro j note h
    cases h
  last := by
    have hnone : r.announced 0 = [] := rfl
    simp [hnone]

theorem Tally.of_same {r : Run} {k : Nat} (h : r.Tally k) (hl : r.Live (k + 1) ↔ r.Live k) :
    r.Tally (k + 1) := by
  have htold := told_eq_nil hl
  have hlist : r.announced (k + 1) = r.announced k := by
    rw [announced_succ, htold, List.append_nil]
  have hepoch : r.epoch (k + 1) = r.epoch k := by
    rw [epoch_step, htold]
    rfl
  refine ⟨?_, ?_, ?_, ?_⟩
  · rw [hlist, hepoch]
    exact h.length
  · rw [hl, hepoch]
    exact h.live
  · rw [hlist]
    exact h.entry
  · rw [hl, hlist]
    exact h.last

theorem Tally.of_told {r : Run} {k : Nat} {note : Notification} (h : r.Tally k)
    (hl : r.Live (k + 1) ↔ ¬ r.Live k) (htold : r.told k = [note])
    (hnote : note = .signedIn ↔ r.Live (k + 1)) : r.Tally (k + 1) := by
  have hlist : r.announced (k + 1) = r.announced k ++ [note] := by
    rw [announced_succ, htold]
  have hepoch : r.epoch (k + 1) = r.epoch k + 1 := by
    rw [epoch_step, htold]
    rfl
  have hflip : ¬ (r.Live 0 ↔ r.epoch k % 2 = 0) ↔ (r.Live 0 ↔ r.epoch k % 2 = 1) := by
    have hodd : r.epoch k % 2 = 1 ↔ ¬ r.epoch k % 2 = 0 := by omega
    rw [hodd]
    grind
  refine ⟨?_, ?_, ?_, ?_⟩
  · rw [hlist, hepoch, List.length_append, h.length]
    rfl
  · have heven : (r.epoch k + 1) % 2 = 0 ↔ r.epoch k % 2 = 1 := by omega
    rw [hl, h.live, hepoch, heven]
    exact hflip
  · intro j note' hj
    rw [hlist] at hj
    rcases Nat.lt_trichotomy j (r.announced k).length with hlt | heq | hgt
    · rw [List.getElem?_append_left hlt] at hj
      exact h.entry j note' hj
    · rw [heq, List.getElem?_concat_length] at hj
      rw [← Option.some.inj hj, hnote, hl, h.live, heq, h.length]
      exact hflip
    · rw [List.getElem?_eq_none (by simp; omega)] at hj
      cases hj
  · rw [hlist, List.getLast?_concat, Option.some_inj, hnote]
    simp

theorem tally (r : Run) (k : Nat) : r.Tally k := by
  induction k with
  | zero => exact r.tally_at_start
  | succ k ih =>
    by_cases hk : r.Live k
    · by_cases hk' : r.Live (k + 1)
      · exact ih.of_same (iff_of_true hk' hk)
      · refine ih.of_told (by simp [hk, hk']) (told_of_exit hk hk') ?_
        exact iff_of_false (ending_ne_signedIn _) hk'
    · by_cases hk' : r.Live (k + 1)
      · exact ih.of_told (by simp [hk, hk']) (told_of_entry hk hk') (iff_of_true rfl hk')
      · exact ih.of_same (iff_of_false hk' hk)

theorem announced_of_keeps {r : Run} {k : Nat} (h : r.Keeps k) :
    r.announced (k + 1) = r.announced k := by
  rw [announced_succ, told_eq_nil h.live_iff, List.append_nil]

theorem not_ends_error_of_signOut {r : Run} {k n : Nat} {e : Failure} (hl : r.Live k)
    (he : r.event k = .start .signOut) : ¬ r.Ends k n (.error e) := by
  rintro ⟨t, ht, hnext⟩
  obtain ⟨_, _, _, heq⟩ := Portal.begin_signOut_of_signedIn (r.sound k) hl
  obtain ⟨_, rfl⟩ := Prod.mk.inj (Option.some.inj ((takes_start he).symm.trans ht))
  rw [heq] at hnext
  split at hnext <;> cases hnext

/-- A sign-in that begins a session goes on with the role lookup. -/
theorem Enters.not_ends {r : Run} {k n i m : Nat} {form : SignInForm} {grant : SignInGrant}
    (h : r.Enters n form i k grant) (outcome : Outcome) : ¬ r.Ends k m outcome := by
  intro hends
  obtain ⟨pd, hmakes, _⟩ := h.calls_lookup
  obtain ⟨t, ht, _⟩ := id hmakes
  obtain ⟨t', ht', _⟩ := id hends
  obtain ⟨rfl, _⟩ := Prod.mk.inj (Option.some.inj (ht.symm.trans ht'))
  exact hmakes.not_ends outcome hends

theorem announced_of_ends_error {r : Run} {k n : Nat} {e : Failure} (h : r.Ends k n (.error e))
    (hn : ¬ r.Rejected k) : r.announced (k + 1) = r.announced k := by
  cases r.step k with
  | enters henters => exact absurd h (henters.not_ends _)
  | leaves hleaves =>
    have hstart := hleaves.cause.resolve_right hn
    exact absurd h (not_ends_error_of_signOut hleaves.live hstart)
  | learns hlearns =>
    have hlive : r.Live (k + 1) ↔ r.Live k := by
      unfold Live state
      rw [hlearns.session, Session.resolved_signedIn]
    rw [announced_succ, told_eq_nil hlive, List.append_nil]
  | keeps hkeeps => exact announced_of_keeps hkeeps

/-- Of sessions the user is told their beginnings and their ends, each once and in order. The
notifications alternate, from the one that the first state calls for; there are as many as the epoch
says; and somebody is signed in if the last one says so, or if there is none and the session was
restored. No failure adds to them but one that rejects the token of the live session, to a call of
that session. -/
theorem boundaries_told_once (r : Run) :
    (∀ k, r.announced k = (List.range k).flatMap r.told) ∧
    (∀ k, (r.announced k).length = r.epoch k) ∧
    (∀ k j note, (r.announced k)[j]? = some note →
      (note = .signedIn ↔ (r.Live 0 ↔ j % 2 = 1))) ∧
    (∀ k, r.Live k ↔
      (r.announced k).getLast? = some .signedIn ∨ (r.announced k = [] ∧ r.Live 0)) ∧
    (∀ n c i k e, r.Answered n c i k (.error e) →
      e.isAuthorization = false ∨ ¬ r.OneSession (i + 1) k ∨ ¬ c.IsOfSession →
      r.announced (k + 1) = r.announced k) ∧
    (∀ k n e, r.Ends k n (.error e) → ¬ r.Rejected k → r.announced (k + 1) = r.announced k) := by
  refine ⟨r.announced_eq, fun k => (r.tally k).length, fun k => (r.tally k).entry,
    fun k => (r.tally k).last, ?failed, ?ended⟩
  case failed =>
    intro n c i k e h hn
    refine announced_of_keeps (keeps_of_error h fun hr => ?_)
    rcases hn with ha | ho | hc
    · exact absurd (hr.authorization.symm.trans ha) (by decide)
    · exact ho hr.current
    · exact hc hr.ofSession
  case ended =>
    intro k n e h hn
    exact announced_of_ends_error h hn

/-- A restored session that is told to be over, and one whose role lookup is lost. -/
theorem lookup_failures_told :
    (restored (.error (.authorization "token" "expired"))).announced 2 = [.tokenExpired] ∧
    ¬ (restored (.error (.authorization "token" "expired"))).Live 2 ∧
    (restored (.error (.network "transport" "lost"))).announced 2 =
      (restored (.error (.network "transport" "lost"))).announced 1 := by
  obtain ⟨_, _, _, last, _⟩ :=
    boundaries_told_once (restored (.error (.authorization "token" "expired")))
  obtain ⟨_, _, _, _, failed, _⟩ :=
    boundaries_told_once (restored (.error (.network "transport" "lost")))
  have htold : (restored (.error (.authorization "token" "expired"))).announced 2 =
      [.tokenExpired] := by decide +kernel
  refine ⟨htold, ?gone, failed _ _ _ _ _ (restored_answered _) (Or.inl rfl)⟩
  case gone =>
    rw [last, htold]
    simp [Notification.tokenExpired, Notification.signedIn]

end Run

end InsectPortal
