import InsectPortal.Proofs.ClientReply
import InsectPortal.Proofs.SessionEnd
import InsectPortal.Proofs.TokenOnWire

/-!
# The status that ends a session

Over HTTP a live session ends with a sign-out, or when the service answers one of its own calls with
status 401. No other status, no body, no lost response and no request that cannot be sent ends it.
-/
namespace InsectPortal.Run

/-- A call of the live session is answered with status 401. -/
structure Unauthorized (r : Run) (cl : Client) (n : Nat) (c : Call) (i k : Nat) (x : Exchange) :
    Prop where
  answered : r.AnsweredOver cl n c i k x
  ofSession : c.IsOfSession
  current : r.OneSession (i + 1) k
  status : cl.AnsweredWith (r.session (i + 1)).keyring.items c x 401

variable {r : Run} {cl : Client} {n i k : Nat} {c : Call} {x : Exchange}

/-- What a 401 is to the client is a rejected token to the portal. -/
theorem unauthorized_iff (h : r.AnsweredOver cl n c i k x) :
    r.Unauthorized cl n c i k x ↔ ∃ e, r.Rejects n c i k e := by
  have hrejects : RejectsToken (cl.replyOver (r.session (i + 1)).keyring.items c x) ↔ _ :=
    Client.rejectsToken_replyOver
  constructor
  · intro hu
    have hform : ∀ form, c ≠ .signIn form := by
      rintro form rfl
      exact hu.ofSession
    obtain ⟨e, he, ha⟩ := hrejects.mpr ⟨hu.status, hform⟩
    unfold AnsweredOver at h
    rw [he] at h
    exact ⟨e, h, hu.ofSession, ha, hu.current⟩
  · rintro ⟨e, hr⟩
    have he : cl.replyOver (r.session (i + 1)).keyring.items c x = .error e :=
      eq_of_heq (Answered.unique h hr.answered).2.2
    exact ⟨h, hr.ofSession, hr.current, (hrejects.mp ⟨e, he, hr.authorization⟩).1⟩

theorem not_rejected_of_ok {a : c.Answer} (h : r.Answered n c i k (.ok a)) : ¬ r.Rejected k := by
  rintro ⟨n', c', i', e, hr⟩
  obtain ⟨_, rfl, hreply⟩ := h.unique hr.answered
  cases eq_of_heq hreply

theorem not_signOut_of_answered {reply : c.Reply} (h : r.Answered n c i k reply) :
    r.event k ≠ .start .signOut := by
  obtain ⟨_, _, _, _, he, _⟩ := h
  rw [he]
  intro hs
  cases hs

/-- An answer ends the live session exactly where it is a 401 to a call of that session. -/
theorem not_live_iff_unauthorized (h : r.AnsweredOver cl n c i k x) (hl : r.Live k) :
    ¬ r.Live (k + 1) ↔ r.Unauthorized cl n c i k x := by
  rw [unauthorized_iff h]
  constructor
  · intro hn
    unfold AnsweredOver at h
    cases hreply : cl.replyOver (r.session (i + 1)).keyring.items c x with
    | error e =>
      rw [hreply] at h
      refine ⟨e, ?_⟩
      by_contra hno
      exact hn ((keeps_of_error h hno).live_iff.mpr hl)
    | ok a =>
      rw [hreply] at h
      have hcause := (leaves_of_live hl hn).cause.resolve_left (not_signOut_of_answered h)
      exact absurd hcause (not_rejected_of_ok h)
  · rintro ⟨e, hr⟩
    exact (leaves_of_rejected ⟨n, c, i, e, hr⟩).not_live

theorem unchanged_of_failed {e : Failure} (h : r.AnsweredOver cl n c i k x)
    (he : cl.replyOver (r.session (i + 1)).keyring.items c x = .error e)
    (hn : ¬ r.Unauthorized cl n c i k x) : r.Unchanged k := by
  have hrejects := mt (unauthorized_iff h).mpr hn
  unfold AnsweredOver at h
  rw [he] at h
  exact (keeps_of_error h fun hr => hrejects ⟨e, hr⟩).unchanged

theorem unauthorized_of_rejected (hh : r.OverHttp cl) (h : r.Rejected k) :
    ∃ n c i x, r.Unauthorized cl n c i k x := by
  obtain ⟨n, c, i, e, hr⟩ := h
  obtain ⟨x, hx⟩ := hh n c i k _ hr.answered
  have hanswered : r.AnsweredOver cl n c i k x := by
    unfold AnsweredOver
    rw [← hx]
    exact hr.answered
  exact ⟨n, c, i, x, (unauthorized_iff hanswered).mpr ⟨e, hr⟩⟩

/-- An answer ends the live session if and only if it is a 401 to a call of that session. Else epoch
and credential are as before; and if the call fails, or is not sent, not answered, or answered
without success, nothing that can be seen changes. So over HTTP a live session ends with a sign-out
and with such a 401. A sign-in never fails with a rejected token. -/
theorem only_unauthorized_ends (r : Run) (cl : Client) :
    (∀ n c i k x, r.AnsweredOver cl n c i k x → r.Live k →
      (¬ r.Live (k + 1) ↔ r.Unauthorized cl n c i k x) ∧
      (¬ r.Unauthorized cl n c i k x →
        r.epoch (k + 1) = r.epoch k ∧ r.credential (k + 1) = r.credential k)) ∧
    (∀ n c i k x e, r.AnsweredOver cl n c i k x → ¬ r.Unauthorized cl n c i k x →
      cl.replyOver (r.session (i + 1)).keyring.items c x = .error e → r.Unchanged k) ∧
    (∀ n c i k x, r.AnsweredOver cl n c i k x → ¬ r.Unauthorized cl n c i k x →
      (cl.Reaches (r.session (i + 1)).keyring.items c →
        ∀ resp, x = .answered resp → resp.isSuccess = false) → r.Unchanged k) ∧
    (r.OverHttp cl → ∀ k, r.Live k → (¬ r.Live (k + 1) ↔
      r.event k = .start .signOut ∨ ∃ n c i x, r.Unauthorized cl n c i k x)) ∧
    (∀ items form x, ¬ RejectsToken (cl.replyOver items (.signIn form) x)) := by
  refine ⟨?answer, ?failed, ?fruitless, ?ends, ?signIn⟩
  case answer =>
    intro n c i k x h hl
    have hiff := not_live_iff_unauthorized h hl
    refine ⟨hiff, fun hn => ?_⟩
    have hone := (OneSession.refl hl).tail (not_not.mp (mt hiff.mp hn))
    exact ⟨hone.epoch_eq, hone.credential_eq⟩
  case failed =>
    intro n c i k x e h hn he
    exact unchanged_of_failed h he hn
  case fruitless =>
    intro n c i k x h hn hx
    obtain ⟨e, he⟩ := Client.replyOver_fails hx
    exact unchanged_of_failed h he hn
  case ends =>
    intro hh k hl
    constructor
    · intro hn
      exact (leaves_of_live hl hn).cause.imp_right (unauthorized_of_rejected hh)
    · rintro (he | ⟨n, c, i, x, hu⟩)
      · exact (leaves_of_signOut hl he).not_live
      · exact (not_live_iff_unauthorized hu.answered hl).mpr hu
  case signIn =>
    intro items form x h
    exact (Client.rejectsToken_replyOver.mp h).2 form rfl

def expired : Run :=
  restored (localClient.replyOver ((Items.empty.insert Items.tokenKey "token").insert Items.userKey
    "user") (.checkRole "user") (.answered ⟨401, none, .empty, true⟩))

theorem expired_session_ends : expired.Live 1 ∧ ¬ expired.Live 2 := by
  have hl : expired.Live 1 := (restored_oneSession _).last
  have hanswered : expired.AnsweredOver localClient 0 (.checkRole "user") 0 1
      (.answered ⟨401, none, .empty, true⟩) := restored_answered _
  have hreaches : localClient.Reaches (expired.session 1).keyring.items (.checkRole "user") :=
    ⟨_, rfl, by decide +kernel⟩
  have hunauthorized : expired.Unauthorized localClient 0 (.checkRole "user") 0 1
      (.answered ⟨401, none, .empty, true⟩) :=
    ⟨hanswered, trivial, restored_oneSession _, hreaches, _, rfl, rfl⟩
  obtain ⟨answer, _⟩ := only_unauthorized_ends expired localClient
  exact ⟨hl, (answer _ _ _ _ _ hanswered hl).1.mpr hunauthorized⟩

end InsectPortal.Run
