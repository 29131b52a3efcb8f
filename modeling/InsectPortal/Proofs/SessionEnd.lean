import InsectPortal.Proofs.SessionBoundary

/-!
# How sessions end

A sign-out ends the live session, and so does the rejection of its token in an answer to one of its
own calls. Nothing else ends a session, however late an answer comes and whatever it says.
-/
namespace InsectPortal.Run

theorem leaves_iff {r : Run} {k : Nat} :
    r.Leaves k ↔ r.Live k ∧ (r.event k = .start .signOut ∨ r.Rejected k) := by
  constructor
  · intro h
    exact ⟨h.live, h.cause⟩
  · rintro ⟨hl, he | hr⟩
    · exact leaves_of_signOut hl he
    · exact leaves_of_rejected hr

theorem leaves_of_live {r : Run} {k : Nat} (hl : r.Live k) (hn : ¬ r.Live (k + 1)) :
    r.Leaves k := by
  cases r.step k with
  | enters h => exact absurd hl h.signedOut
  | leaves h => exact h
  | learns h =>
    have hs : (r.state (k + 1)).signedIn = (r.state k).signedIn :=
      (congrArg (·.state.signedIn) h.session).trans (Session.resolved_signedIn _ _)
    exact absurd (hs.trans hl) hn
  | keeps h => exact absurd (h.live_iff.mpr hl) hn

theorem Leaves.epoch_eq {r : Run} {k : Nat} (h : r.Leaves k) : r.epoch (k + 1) = r.epoch k + 1 := by
  have he : r.epoch (k + 1) = if (r.state k).signedIn then r.epoch k + 1 else r.epoch k :=
    congrArg Session.epoch (h.session.trans (Session.drop_eq _))
  rw [he]
  exact if_pos h.live

theorem Leaves.credential_eq {r : Run} {k : Nat} (h : r.Leaves k) :
    r.credential (k + 1) = ⟨none, none⟩ :=
  congrArg Session.credential (h.session.trans (Session.drop_eq _))

theorem Leaves.sections_eq_nil {r : Run} {k : Nat} (h : r.Leaves k) : r.sections (k + 1) = [] := by
  rw [sections_eq, state_of_drop h.session]
  decide

theorem keeps_of_notice {r : Run} {n i k : Nat} {c : Call} {reply : c.Reply}
    (h : r.Answered n c i k reply) (hc : ¬ c.IsOfSession) (hs : ∀ form, c ≠ .signIn form) :
    r.Keeps k := by
  obtain ⟨pd, answer, hw, rfl, he, ha⟩ := h
  have hr := hw.session_reply he
  cases pd with
  | grant form => exact absurd rfl (hs form)
  | account | farewell => exact .of_eq hr
  | lookup => exact absurd trivial hc
  | gated epoch user task => exact absurd (task.call_isOfSession user) hc

/-- A live session ends at a sign-out and at the rejection of its token in an answer to a call of its
own, and at nothing else. Where it ends, nothing of it is left. -/
theorem session_ends (r : Run) :
    (∀ k, r.Live k → (¬ r.Live (k + 1) ↔ r.event k = .start .signOut ∨ r.Rejected k)) ∧
    (∀ k, r.Live k → ¬ r.Live (k + 1) → r.state (k + 1) = .signedOut ∧
      r.credential (k + 1) = ⟨none, none⟩ ∧ r.epoch (k + 1) = r.epoch k + 1 ∧
      r.sections (k + 1) = []) ∧
    (∀ k, r.Live k → r.Live (k + 1) →
      r.epoch (k + 1) = r.epoch k ∧ r.credential (k + 1) = r.credential k) ∧
    (∀ n c i k e, r.Answered n c i k (.error e) →
      e.isAuthorization = false ∨ ¬ r.OneSession (i + 1) k ∨ ¬ c.IsOfSession → r.Unchanged k) ∧
    (∀ n form i k reply, r.Answered n (.signUp form) i k reply → r.Unchanged k) ∧
    (∀ n user token i k reply, r.Answered n (.signOut user token) i k reply →
      r.Unchanged k) := by
  refine ⟨?ends, ?left, ?lasts, ?failed, ?account, ?farewell⟩
  case ends =>
    intro k hl
    constructor
    · intro hn
      exact (leaves_of_live hl hn).cause
    · intro hc
      exact (leaves_iff.mpr ⟨hl, hc⟩).not_live
  case left =>
    intro k hl hn
    have h := leaves_of_live hl hn
    exact ⟨state_of_drop h.session, h.credential_eq, h.epoch_eq, h.sections_eq_nil⟩
  case lasts =>
    intro k hl hl'
    have hone := (OneSession.refl hl).tail hl'
    exact ⟨hone.epoch_eq, hone.credential_eq⟩
  case failed =>
    intro n c i k e h hn
    refine (keeps_of_error h fun hr => ?_).unchanged
    rcases hn with ha | ho | hc
    · exact absurd (hr.authorization.symm.trans ha) (by decide)
    · exact ho hr.current
    · exact hc hr.ofSession
  case account =>
    intro n form i k reply h
    exact (keeps_of_notice h id (by simp)).unchanged
  case farewell =>
    intro n user token i k reply h
    exact (keeps_of_notice h id (by simp)).unchanged

theorem restored_session_rejected :
    ¬ (restored (.error (.authorization "token" "expired"))).Live 2 := by
  have hone := restored_oneSession (.error (.authorization "token" "expired"))
  have hr : (restored (.error (.authorization "token" "expired"))).Rejected 1 :=
    ⟨0, _, 0, _, restored_answered _, trivial, rfl, hone⟩
  obtain ⟨ends, _⟩ := session_ends (restored (.error (.authorization "token" "expired")))
  exact (ends 1 hone.last).mpr (Or.inr hr)

end InsectPortal.Run
