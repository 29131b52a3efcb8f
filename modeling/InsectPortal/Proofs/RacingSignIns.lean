import InsectPortal.Proofs.SessionBoundary

/-!
# Racing sign-ins

Of all the sign-ins that wait for an answer at once, the first grant that finds nobody signed in is
taken, whole, and every other one is refused and leaves no trace. So the stored pair never mixes two
sign-ins.
-/
namespace InsectPortal.Run

theorem makes_grant_of_start {r : Run} {k : Nat} {form : SignInForm}
    (he : r.event k = .start (.signIn form)) (hc : form.check = .ok ()) (hl : ¬ r.Live k) :
    r.Makes k (r.world k).started (.grant form) := by
  have hs : (r.world k).portal.state.signedIn = false := Bool.eq_false_iff.mpr hl
  refine ⟨_, takes_start he, ?_⟩
  rw [Portal.begin_signIn, hc, hs]
  rfl

theorem ends_of_refused_sign_in {r : Run} {k : Nat} {form : SignInForm} {e : Failure}
    (he : r.event k = .start (.signIn form)) (hc : form.check = .error e) :
    r.Ends k (r.world k).started (.error e) := by
  refine ⟨_, takes_start he, ?_⟩
  rw [Portal.begin_signIn, hc]
  rfl

theorem ends_of_refused_start {r : Run} {k : Nat} {form : SignInForm}
    (he : r.event k = .start (.signIn form)) (hn : form.check ≠ .ok () ∨ r.Live k) :
    ∃ e, r.Ends k (r.world k).started (.error e) := by
  cases hc : form.check with
  | error e => exact ⟨e, ends_of_refused_sign_in he hc⟩
  | ok =>
    have ht := takes_start he
    have hs : (r.world k).portal.state.signedIn = true := hn.resolve_left fun h => h hc
    rw [Portal.begin_signIn, hc, hs] at ht
    exact ⟨.alreadySignedIn, _, ht, rfl⟩

theorem session_of_sign_in_start {r : Run} {k : Nat} {form : SignInForm}
    (he : r.event k = .start (.signIn form)) : r.session (k + 1) = r.session k := session_start he

theorem ends_of_failed_sign_in {r : Run} {n i k : Nat} {form : SignInForm} {e : Failure}
    (h : r.Answered n (.signIn form) i k (.error e)) : r.Ends k n (.error e) :=
  ⟨_, h.of_sign_in.2.1, rfl⟩

theorem ends_of_refused_grant {r : Run} {n i k : Nat} {form : SignInForm} {grant : SignInGrant}
    (h : r.Answered n (.signIn form) i k (.ok grant)) (hn : r.Live k ∨ grant.token = "") :
    ∃ e, r.Ends k n (.error e) := by
  obtain ⟨_, ht, _⟩ := h.of_sign_in
  have hrefused : ∃ e, (r.world k).portal.resume (.grant form) (.ok grant) =
      .refuse (r.world k).portal e := Portal.resume_grant_refused hn
  obtain ⟨e, heq⟩ := hrefused
  rw [heq] at ht
  exact ⟨e, _, ht, rfl⟩

theorem Enters.calls_lookup {r : Run} {n i k : Nat} {form : SignInForm} {grant : SignInGrant}
    (h : r.Enters n form i k grant) : r.Calls k n (.checkRole form.useremail) := by
  have hs : (r.world k).portal.state.signedIn = false := Bool.eq_false_iff.mpr h.signedOut
  obtain ⟨p', _, _, heq⟩ :=
    Portal.resume_grant_of_signedOut hs h.token h.answered.useremail_ne_empty
  obtain ⟨_, ht, _⟩ := h.answered.of_sign_in
  rw [heq] at ht
  exact ⟨_, ⟨_, ht, rfl⟩, rfl⟩

theorem Enters.credential_eq {r : Run} {n i k : Nat} {form : SignInForm} {grant : SignInGrant}
    (h : r.Enters n form i k grant) :
    r.credential (k + 1) = ⟨some grant.token, some form.useremail⟩ :=
  (congrArg Session.credential h.session).trans
    (Keyring.credential_establish _ h.token h.answered.useremail_ne_empty)

/-- Nothing is stored, or what storage held at the start, or the pair of one grant. -/
def CredentialExplained (r : Run) (k : Nat) : Prop :=
  r.credential k = ⟨none, none⟩ ∨
  (r.credential k = r.items.credential ∧ r.items.credential.isComplete = true) ∨
  ∃ n form i j grant, j < k ∧ r.Answered n (.signIn form) i j (.ok grant) ∧ ¬ r.Live j ∧
    grant.token ≠ "" ∧ r.credential k = ⟨some grant.token, some form.useremail⟩

theorem credential_at_start (r : Run) : r.CredentialExplained 0 := by
  have h : r.credential 0 = (Keyring.ofItems r.items).credential := rfl
  rw [Keyring.credential_ofItems] at h
  by_cases hc : r.items.credential.isComplete = true
  · rw [if_pos hc] at h
    exact Or.inr (Or.inl ⟨h, hc⟩)
  · rw [if_neg hc] at h
    exact Or.inl h

theorem CredentialExplained.of_eq {r : Run} {k : Nat} (h : r.CredentialExplained k)
    (he : r.credential (k + 1) = r.credential k) : r.CredentialExplained (k + 1) := by
  unfold CredentialExplained
  rw [he]
  rcases h with hn | hr | ⟨n, form, i, j, grant, hj, hg⟩
  · exact Or.inl hn
  · exact Or.inr (Or.inl hr)
  · exact Or.inr (Or.inr ⟨n, form, i, j, grant, Nat.lt_succ_of_lt hj, hg⟩)

theorem credential_explained (r : Run) (k : Nat) : r.CredentialExplained k := by
  induction k with
  | zero => exact r.credential_at_start
  | succ k ih =>
    cases r.step k with
    | @enters n form i grant h =>
      exact Or.inr (Or.inr ⟨n, form, i, k, grant, Nat.lt_succ_self k, h.answered, h.signedOut,
        h.token, h.credential_eq⟩)
    | leaves h =>
      exact Or.inl (congrArg Session.credential (h.session.trans (Session.drop_eq _)))
    | learns h => exact ih.of_eq h.credential_eq
    | keeps h => exact ih.of_eq h.unchanged.credential

/-- A grant is taken, token and user together, exactly when it finds nobody signed in. Every other
end of a sign-in is a failure that changes nothing, so the stored pair is of one sign-in at most. -/
theorem racing_sign_ins (r : Run) :
    (∀ k form, r.event k = .start (.signIn form) → form.check = .ok () → ¬ r.Live k →
      r.Calls k (r.world k).started (.signIn form) ∧ r.Unchanged k) ∧
    (∀ k form, r.event k = .start (.signIn form) → form.check ≠ .ok () ∨ r.Live k →
      (∃ e, r.Ends k (r.world k).started (.error e)) ∧ r.Unchanged k) ∧
    (∀ i n form, r.Calls i n (.signIn form) →
      r.event i = .start (.signIn form) ∧ form.check = .ok () ∧ ¬ r.Live i) ∧
    (∀ n form i k grant, r.Answered n (.signIn form) i k (.ok grant) → grant.token ≠ "" →
      ¬ r.Live k → r.state (k + 1) = ⟨true, .unknown⟩ ∧ r.epoch (k + 1) = r.epoch k + 1 ∧
        r.credential (k + 1) = ⟨some grant.token, some form.useremail⟩ ∧
        r.Calls k n (.checkRole form.useremail)) ∧
    (∀ n form i k grant, r.Answered n (.signIn form) i k (.ok grant) →
      r.Live k ∨ grant.token = "" → (∃ e, r.Ends k n (.error e)) ∧ r.Unchanged k) ∧
    (∀ n form i k e, r.Answered n (.signIn form) i k (.error e) →
      r.Ends k n (.error e) ∧ r.Unchanged k) ∧
    (∀ k, r.CredentialExplained k) := by
  refine ⟨?starts, ?refused, ?called, ?taken, ?lost, ?failed, r.credential_explained⟩
  case starts =>
    intro k form he hc hl
    exact ⟨⟨_, makes_grant_of_start he hc hl, rfl⟩,
      unchanged_of_session_eq (session_of_sign_in_start he)⟩
  case refused =>
    intro k form he hn
    exact ⟨ends_of_refused_start he hn, unchanged_of_session_eq (session_of_sign_in_start he)⟩
  case called =>
    intro i n form h
    obtain ⟨pd, hm, hc⟩ := h
    obtain rfl := Pending.grant_of_call hc
    obtain ⟨he, _, hcheck, hl, _⟩ := opens_of_makes_grant hm
    exact ⟨he, hcheck, hl⟩
  case taken =>
    intro n form i k grant h ht hl
    have hin := enters_of_grant h ht hl
    have hstate : r.state (k + 1) = ⟨true, .unknown⟩ := congrArg Session.state hin.session
    have hepoch : r.epoch (k + 1) = r.epoch k + 1 := congrArg Session.epoch hin.session
    exact ⟨hstate, hepoch, hin.credential_eq, hin.calls_lookup⟩
  case lost =>
    intro n form i k grant h hn
    exact ⟨ends_of_refused_grant h hn, unchanged_of_session_eq (session_of_refused_grant h hn)⟩
  case failed =>
    intro n form i k e h
    have hk : r.Keeps k := keeps_of_error h fun hr => hr.ofSession
    exact ⟨ends_of_failed_sign_in h, hk.unchanged⟩

/-- Two sign-ins, of which the later one is answered first. -/
def overtaken : Run where
  items := .empty
  remoteSignOut := false
  event
    | 0 => .start (.signIn ⟨"slow", "password"⟩)
    | 1 => .start (.signIn ⟨"quick", "password"⟩)
    | 2 => .reply 1 fun
      | .signIn _ => .ok ⟨"first"⟩
      | _ => .error .notSignedIn
    | _ => .reply 0 fun
      | .signIn _ => .ok ⟨"second"⟩
      | _ => .error .notSignedIn

theorem quick_sign_in_wins :
    overtaken.credential 3 = ⟨some "first", some "quick"⟩ ∧ overtaken.Unchanged 3 := by
  have hquick : overtaken.Answered 1 (.signIn ⟨"quick", "password"⟩) 1 2 (.ok ⟨"first"⟩) := by
    refine ⟨.grant _, _, ⟨⟨_, rfl, rfl⟩, by omega, fun m h h' => ?_⟩, rfl, rfl, rfl⟩
    obtain rfl : m = 2 := by omega
    rfl
  have hslow : overtaken.Answered 0 (.signIn ⟨"slow", "password"⟩) 0 3 (.ok ⟨"second"⟩) := by
    refine ⟨.grant _, _, ⟨⟨_, rfl, rfl⟩, by omega, fun m h h' => ?_⟩, rfl, rfl, rfl⟩
    obtain rfl | rfl | rfl : m = 1 ∨ m = 2 ∨ m = 3 := by omega
    all_goals rfl
  obtain ⟨_, _, _, taken, lost, _⟩ := racing_sign_ins overtaken
  obtain ⟨hstate, _, hcredential, _⟩ := taken _ _ _ _ _ hquick (by decide) (by unfold Live; decide)
  have hlive : overtaken.Live 3 := congrArg SessionState.signedIn hstate
  exact ⟨hcredential, (lost _ _ _ _ _ hslow (Or.inl hlive)).2⟩

end InsectPortal.Run
