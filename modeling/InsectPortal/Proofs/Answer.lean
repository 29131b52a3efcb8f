import InsectPortal.Proofs.Run

/-!
# Calls and their answers

A call that is answered was made at one earlier event, and its operation waited for it ever since.
What the call carries, an epoch and a user, is from that event. So to compare it with the session of
the answer is to ask whether one session has lasted from the one event to the other.
-/
namespace InsectPortal

namespace Pending

theorem grant_of_call {pd : Pending} {form : SignInForm} (h : pd.call = .signIn form) :
    pd = .grant form := by
  cases pd with
  | grant form' => exact congrArg Pending.grant (Call.signIn.inj h)
  | account | lookup | farewell => cases h
  | gated epoch user task => cases task <;> cases h

theorem lookup_of_call {pd : Pending} {user : String} (h : pd.call = .checkRole user) :
    ∃ t origin, pd = .lookup t origin ∧ t.user = user := by
  cases pd with
  | lookup t origin => exact ⟨t, origin, rfl, Call.checkRole.inj h⟩
  | grant | account | farewell => cases h
  | gated epoch user task => cases task <;> cases h

end Pending

namespace Run

theorem makes_or_kept {r : Run} {k n : Nat} {pd : Pending}
    (h : (r.world (k + 1)).pending? n = some pd) :
    r.Makes k n pd ∨ (r.world k).pending? n = some pd := by
  cases ht : (r.world k).turn? (r.event k) with
  | none =>
    have hw : r.world (k + 1) = r.world k := World.next_of_no_turn ht
    exact Or.inr (hw ▸ h)
  | some p =>
    rw [takes_pending? ht] at h
    by_cases hn : n = p.1
    · rw [if_pos hn] at h
      refine Or.inl ⟨p.2, hn ▸ ht, ?_⟩
      unfold Turn.pending? at h
      cases hx : p.2.next with
      | finished outcome =>
        rw [hx] at h
        cases h
      | waiting pd' =>
        rw [hx] at h
        cases h
        rfl
    · rw [if_neg hn] at h
      exact Or.inr h

theorem Waits.tail {r : Run} {n i k : Nat} {pd : Pending} (h : r.Waits n i k pd)
    (hp : (r.world (k + 1)).pending? n = some pd) : r.Waits n i (k + 1) pd := by
  refine ⟨h.makes, Nat.lt_succ_of_lt h.before, fun m hi hm => ?_⟩
  by_cases hlast : m = k + 1
  · rw [hlast]
    exact hp
  · exact h.unanswered m hi (by omega)

theorem exists_waits {r : Run} {k n : Nat} {pd : Pending}
    (h : (r.world k).pending? n = some pd) : ∃ i, r.Waits n i k pd := by
  induction k with
  | zero => cases h
  | succ k ih =>
    rcases makes_or_kept h with hm | hk
    · refine ⟨k, hm, Nat.lt_succ_self k, fun m hk hm => ?_⟩
      obtain rfl : m = k + 1 := by omega
      exact h
    · obtain ⟨i, hw⟩ := ih hk
      exact ⟨i, hw.tail h⟩

theorem Waits.pending {r : Run} {n i k : Nat} {pd : Pending} (h : r.Waits n i k pd) :
    (r.world k).pending? n = some pd := h.unanswered k h.before (Nat.le_refl k)

theorem Waits.takes {r : Run} {n i k : Nat} {pd : Pending} (h : r.Waits n i k pd)
    {answer : (c : Call) → c.Reply} (he : r.event k = .reply n answer) :
    r.Takes k n ((r.world k).portal.resume pd (answer pd.call)) := by
  unfold Takes
  rw [he]
  exact Option.map_eq_some_iff.mpr ⟨pd, h.pending, rfl⟩

theorem takes_start {r : Run} {k : Nat} {op : Operation} (he : r.event k = .start op) :
    r.Takes k (r.world k).started ((r.world k).portal.begin op) := by
  unfold Takes
  rw [he]
  rfl

theorem session_start {r : Run} {k : Nat} {op : Operation} (he : r.event k = .start op) :
    r.session (k + 1) = (r.world k).portal.sessionAfter op :=
  (congrArg Portal.session (takes_portal (takes_start he))).trans ((r.sound k).after_begin op).1

/-- What an event makes of the session: an operation starts, a call is answered, or nothing. -/
theorem session_step (r : Run) (k : Nat) :
    (∃ op, r.event k = .start op ∧
      r.session (k + 1) = (r.world k).portal.sessionAfter op) ∨
    (∃ n i pd answer, r.event k = .reply n answer ∧ r.Waits n i k pd ∧
      r.session (k + 1) = (r.world k).portal.sessionAfterReply pd (answer pd.call)) ∨
    r.session (k + 1) = r.session k := by
  cases ht : (r.world k).turn? (r.event k) with
  | none => exact Or.inr (Or.inr (congrArg (·.portal.session) (World.next_of_no_turn ht)))
  | some p =>
    have hp : r.session (k + 1) = p.2.portal.session := congrArg Portal.session (takes_portal ht)
    rcases World.turn_cases ht with ⟨op, he, _, hb⟩ | ⟨answer, pd, he, hw, hb⟩
    · rw [hb, ((r.sound k).after_begin op).1] at hp
      exact Or.inl ⟨op, he, hp⟩
    · rw [hb, ((r.sound k).after_resume pd _).1] at hp
      obtain ⟨i, hi⟩ := exists_waits hw
      exact Or.inr (Or.inl ⟨p.1, i, pd, answer, he, hi, hp⟩)

theorem Waits.session_reply {r : Run} {n i k : Nat} {pd : Pending} (h : r.Waits n i k pd)
    {answer : (c : Call) → c.Reply} (he : r.event k = .reply n answer) :
    r.session (k + 1) = (r.world k).portal.sessionAfterReply pd (answer pd.call) :=
  (congrArg Portal.session (takes_portal (h.takes he))).trans ((r.sound k).after_resume pd _).1

theorem opens_or_lookup {r : Run} {i n : Nat} {pd : Pending} (h : r.Makes i n pd) :
    (∃ op, r.event i = .start op ∧ n = (r.world i).started ∧
      (r.world i).portal.Opens op (r.session (i + 1)) pd) ∨
    ∃ t, ∃ s : Session, pd = .lookup t .signIn ∧ s.beginLookup = some (t, r.session (i + 1)) := by
  obtain ⟨t, ht, hw⟩ := h
  have hp : r.session (i + 1) = t.portal.session := congrArg Portal.session (takes_portal ht)
  rw [hp]
  rcases World.turn_cases ht with ⟨op, he, hn, rfl⟩ | ⟨answer, pd', he, _, rfl⟩
  · exact Or.inl ⟨op, he, hn, (r.sound i).opens_of_waiting hw⟩
  · obtain ⟨form, t, s, _, hl, hb⟩ := Portal.lookup_of_resume_waiting hw
    exact Or.inr ⟨t, s, hl, hb⟩

theorem current_of_makes_lookup {r : Run} {i n : Nat} {t : Ticket} {origin : LookupOrigin}
    (h : r.Makes i n (.lookup t origin)) : (r.session (i + 1)).isCurrent t = true := by
  rcases opens_or_lookup h with ⟨op, _, _, hb⟩ | ⟨t', s, heq, hb⟩
  · exact (Session.current_of_beginLookup hb).1
  · cases heq
    exact (Session.current_of_beginLookup hb).1

theorem opens_of_makes_gated {r : Run} {i n epoch : Nat} {user : String} {task : SectionTask}
    (h : r.Makes i n (.gated epoch user task)) :
    r.event i = .start (.task task) ∧ (r.world i).portal.Admits task.section ∧
      epoch = r.epoch i ∧ (r.session i).keyring.user? = some user ∧
      r.session (i + 1) = r.session i := by
  rcases opens_or_lookup h with ⟨op, he, _, rfl, ha, _, hep, hu, hs⟩ | ⟨t, s, heq, _⟩
  · exact ⟨he, ha, hep, hu, hs⟩
  · cases heq

theorem opens_of_makes_grant {r : Run} {i n : Nat} {form : SignInForm}
    (h : r.Makes i n (.grant form)) :
    r.event i = .start (.signIn form) ∧ n = (r.world i).started ∧ form.check = .ok () ∧
      ¬ r.Live i ∧ r.session (i + 1) = r.session i := by
  rcases opens_or_lookup h with ⟨op, he, hn, rfl, hc, hs, hk⟩ | ⟨t, s, heq, _⟩
  · refine ⟨he, hn, hc, fun hl => ?_, hk⟩
    exact absurd (hl.symm.trans hs) (by simp)
  · cases heq

theorem Answered.before {r : Run} {n i k : Nat} {c : Call} {reply : c.Reply}
    (h : r.Answered n c i k reply) : i < k := by
  obtain ⟨_, _, hw, _⟩ := h
  exact hw.before

theorem Answered.unique {r : Run} {n n' i i' k : Nat} {c c' : Call} {reply : c.Reply}
    {reply' : c'.Reply} (h : r.Answered n c i k reply) (h' : r.Answered n' c' i' k reply') :
    n = n' ∧ c = c' ∧ HEq reply reply' := by
  obtain ⟨pd, answer, hw, rfl, he, rfl⟩ := h
  obtain ⟨pd', answer', hw', rfl, he', rfl⟩ := h'
  obtain ⟨rfl, rfl⟩ := Event.reply.inj (he.symm.trans he')
  obtain rfl : pd = pd' := Option.some.inj (hw.pending.symm.trans hw'.pending)
  exact ⟨rfl, rfl, HEq.rfl⟩

theorem Answered.of_sign_in {r : Run} {n i k : Nat} {form : SignInForm}
    {reply : (Call.signIn form).Reply} (h : r.Answered n (.signIn form) i k reply) :
    r.Waits n i k (.grant form) ∧
      r.Takes k n ((r.world k).portal.resume (.grant form) reply) ∧
      r.session (k + 1) = (r.world k).portal.sessionAfterReply (.grant form) reply := by
  obtain ⟨pd, answer, hw, hc, he, rfl⟩ := h
  obtain rfl := Pending.grant_of_call hc
  exact ⟨hw, hw.takes he, hw.session_reply he⟩

theorem Answered.of_lookup {r : Run} {n i k : Nat} {user : String}
    {reply : (Call.checkRole user).Reply} (h : r.Answered n (.checkRole user) i k reply) :
    ∃ t origin, r.Waits n i k (.lookup t origin) ∧
      r.session (k + 1) = (r.world k).portal.sessionAfterReply (.lookup t origin) reply := by
  obtain ⟨pd, answer, hw, hc, he, rfl⟩ := h
  obtain ⟨t, origin, rfl, rfl⟩ := Pending.lookup_of_call hc
  exact ⟨t, origin, hw, hw.session_reply he⟩

theorem Answered.useremail_ne_empty {r : Run} {n i k : Nat} {form : SignInForm}
    {reply : (Call.signIn form).Reply} (h : r.Answered n (.signIn form) i k reply) :
    form.useremail ≠ "" := by
  obtain ⟨_, _, hcheck, _⟩ := opens_of_makes_grant h.of_sign_in.1.makes
  exact SignInForm.useremail_ne_empty hcheck

theorem isCurrent_iff_oneSession {r : Run} {n i k : Nat} {t : Ticket} {origin : LookupOrigin}
    (h : r.Waits n i k (.lookup t origin)) :
    (r.session k).isCurrent t = true ↔ r.OneSession (i + 1) k := by
  obtain ⟨hl, he, hu⟩ := Session.isCurrent_iff.mp (current_of_makes_lookup h.makes)
  constructor
  · intro hc
    obtain ⟨_, hk, _⟩ := Session.isCurrent_iff.mp hc
    exact (oneSession_iff_epoch h.before hl).mpr (hk.symm.trans he)
  · intro hs
    refine Session.isCurrent_iff.mpr ⟨hs.last, he.trans hs.epoch_eq.symm, ?_⟩
    exact (congrArg Credential.userIdentifier hs.credential_eq).trans hu

theorem rejects_iff_oneSession {r : Run} {n i k epoch : Nat} {user : String} {task : SectionTask}
    (h : r.Waits n i k (.gated epoch user task)) (e : Failure) :
    (r.world k).portal.Rejects epoch e ↔ e.isAuthorization = true ∧ r.OneSession (i + 1) k := by
  obtain ⟨_, ha, hep, _, hs⟩ := opens_of_makes_gated h.makes
  have hl : r.Live (i + 1) := (live_iff_of_state_eq (congrArg Session.state hs)).mpr ha.1
  have he : r.epoch (i + 1) = epoch := by
    rw [hep]
    exact congrArg Session.epoch hs
  constructor
  · rintro ⟨hx, hk, _⟩
    exact ⟨hx, (oneSession_iff_epoch h.before hl).mpr (hk.symm.trans he.symm)⟩
  · rintro ⟨hx, hone⟩
    exact ⟨hx, he.symm.trans hone.epoch_eq.symm, hone.last⟩

end Run

end InsectPortal
