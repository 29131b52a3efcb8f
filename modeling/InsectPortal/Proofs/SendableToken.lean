import InsectPortal.Proofs.ClientReply
import InsectPortal.Proofs.RacingSignIns
import InsectPortal.Proofs.TokenOnWire

/-!
# Tokens that can be sent

The token of a session that begins with a sign-in is looked at before it is stored, and can be sent
as long as the session lasts. The token of a session that is restored from storage is not looked at.
Where it cannot be sent, the session is live and every call of it is refused before it is sent.
-/
namespace InsectPortal

/-- The token, if there is one, can be sent. -/
def Credential.Sendable (c : Credential) : Prop :=
  ∀ token, c.token = some token → Header.isValue token = true

theorem Credential.sendable_none (user : Option String) : Sendable ⟨none, user⟩ := by
  intro token ht
  cases ht

theorem Credential.sendable_some {token : String} {user : Option String} :
    Sendable ⟨some token, user⟩ ↔ Header.isValue token = true := by
  constructor
  · intro h
    exact h token rfl
  · intro hv token' ht
    cases ht
    exact hv

theorem Call.token?_of_isOfSession {c : Call} (hc : c.IsOfSession) (items : Items) :
    c.token? items = items.credential.token := by
  rw [token?, tokenUse_eq_stored_iff.mpr hc]

namespace Authorizer

def unsendable : Failure := .validation "auth_token" "stored token is not a valid header value"

variable {a : Authorizer} {items : Items} {token : String}

theorem stored_of_isValue (ht : items.credential.token = some token)
    (hv : Header.isValue token = true) : a.stored items = .ok (some ⟨a.header, token, true⟩) := by
  simp [stored, ht, field, hv, Except.map]

theorem stored_of_not_isValue (ht : items.credential.token = some token)
    (hv : Header.isValue token = false) : a.stored items = .error unsendable := by
  simp [stored, ht, field, hv, Except.map, unsendable]

end Authorizer

theorem Client.replyOver_of_refused {cl : Client} {items : Items} {c : Call} {x : Exchange}
    {e : Failure} (h : cl.authorizer.stored items = .error e) (hc : c.IsOfSession) :
    cl.replyOver items c x = .error e := by
  apply replyOver_of_unmade
  simp [Request.ofCall, Call.tokenUse_eq_stored_iff.mpr hc, Request.carry, Authorizer.authorize, h,
    Except.map]

namespace Run

/-- A live session was restored, or a sign-in began it. -/
theorem origin_of_live {r : Run} {k : Nat} (h : r.Live k) :
    r.OneSession 0 k ∨
      ∃ n form i j grant, r.Enters n form i j grant ∧ r.OneSession (j + 1) k := by
  induction k with
  | zero => exact Or.inl (.refl h)
  | succ k ih =>
    by_cases hk : r.Live k
    · rcases ih hk with hone | ⟨n, form, i, j, grant, henters, hone⟩
      · exact Or.inl (hone.tail h)
      · exact Or.inr ⟨n, form, i, j, grant, henters, hone.tail h⟩
    · cases r.step k with
      | enters henters => exact Or.inr ⟨_, _, _, k, _, henters, .refl h⟩
      | leaves hleaves => exact absurd hleaves.live hk
      | learns hlearns => exact absurd hlearns.live hk
      | keeps hkeeps => exact absurd (hkeeps.live_iff.mp h) hk

/-- The stored credential is that of storage at the start, as long as a restored session lasts. -/
theorem credential_of_restored {r : Run} {k : Nat} (h : r.OneSession 0 k) :
    r.credential k = r.items.credential := by
  obtain ⟨token, user, hcred⟩ := credential_of_live h.first
  rw [h.credential_eq]
  rcases r.credential_at_start with hn | ⟨hr, _⟩ | ⟨_, _, _, j, _, hj, _⟩
  · rw [hn] at hcred
    cases hcred
  · exact hr
  · exact absurd hj (Nat.not_lt_zero j)

/-- The authorizer makes one field of the stored token. -/
def Ready (r : Run) (a : Authorizer) (k : Nat) : Prop :=
  ∃ token, (r.credential k).token = some token ∧
    a.stored (r.session k).keyring.items = .ok (some ⟨a.header, token, true⟩)

theorem ready_iff_sendable {r : Run} {a : Authorizer} {k : Nat} (h : r.Live k) :
    r.Ready a k ↔ (r.credential k).Sendable := by
  obtain ⟨token, user, hcred⟩ := credential_of_live h
  have ht : (r.session k).keyring.items.credential.token = some token :=
    congrArg Credential.token hcred
  rw [hcred, Credential.sendable_some]
  constructor
  · rintro ⟨_, _, hstored⟩
    by_contra hv
    rw [Authorizer.stored_of_not_isValue ht (Bool.eq_false_iff.mpr hv)] at hstored
    cases hstored
  · intro hv
    exact ⟨token, congrArg Credential.token hcred, Authorizer.stored_of_isValue ht hv⟩

theorem Enters.sendable {r : Run} {cl : Client} {n i j : Nat} {form : SignInForm}
    {grant : SignInGrant} (h : r.Enters n form i j grant) (hh : r.OverHttp cl) :
    (r.credential (j + 1)).Sendable := by
  obtain ⟨x, hx⟩ := hh _ _ _ _ _ h.answered
  rw [h.credential_eq, Credential.sendable_some]
  exact Client.isValue_of_replyOver hx.symm

/-- Only a restored token can be one that cannot be sent. -/
theorem sendable_of_live {r : Run} {cl : Client} {k : Nat} (hh : r.OverHttp cl) (h : r.Live k) :
    (r.credential k).Sendable ↔ (r.OneSession 0 k → r.items.credential.Sendable) := by
  rcases origin_of_live h with hone | ⟨n, form, i, j, grant, henters, hone⟩
  · rw [credential_of_restored hone]
    constructor
    · intro hs _
      exact hs
    · intro hs
      exact hs hone
  · have hs : (r.credential k).Sendable := by
      rw [hone.credential_eq]
      exact henters.sendable hh
    constructor
    · intro _ hzero
      exact absurd (hzero.live j (Nat.zero_le j) (Nat.le_of_succ_le hone.le)) henters.signedOut
    · intro _
      exact hs

theorem sendable_of_not_live {r : Run} {k : Nat} (h : ¬ r.Live k) : (r.credential k).Sendable := by
  have hnone : r.credential k = ⟨none, none⟩ :=
    (r.sound k).session.empty_of_signedOut (Bool.eq_false_iff.mpr h)
  rw [hnone]
  exact Credential.sendable_none _

theorem stored_of_not_ready {r : Run} {a : Authorizer} {k : Nat} (h : r.Live k)
    (hn : ¬ r.Ready a k) : a.stored (r.session k).keyring.items = .error Authorizer.unsendable := by
  obtain ⟨token, user, hcred⟩ := credential_of_live h
  rw [ready_iff_sendable h, hcred, Credential.sendable_some, Bool.not_eq_true] at hn
  exact Authorizer.stored_of_not_isValue (congrArg Credential.token hcred) hn

/-- A call of a session is refused exactly where the stored token cannot be sent. -/
theorem sends_iff_ready {r : Run} {cl : Client} {i n : Nat} {c : Call} (h : r.Calls i n c)
    (hc : c.IsOfSession) : (∃ q, r.Sends cl i n c q) ↔ r.Ready cl.authorizer (i + 1) := by
  obtain ⟨token, user, hl, hcred, _⟩ := session_of_call h hc
  have hmade : (∃ q, r.Sends cl i n c q) ↔ ∃ q, Request.ofCall cl.base cl.authorizer
      (r.session (i + 1)).keyring.items c = .ok q := by
    constructor
    · rintro ⟨q, hs⟩
      exact ⟨q, hs.made⟩
    · rintro ⟨q, hq⟩
      exact ⟨q, h, hq⟩
  rw [hmade, Request.exists_ofCall, ready_iff_sendable hl, Call.token?_of_isOfSession hc]
  rfl

/-- Over HTTP the authorizer makes one field of the stored token of every live session, unless the
session was restored with a token that cannot be sent. Then every call of it is refused before it is
sent. If storage does not start with such a token, it never holds one. -/
theorem stored_tokens_sendable (r : Run) (cl : Client) (hh : r.OverHttp cl) :
    (∀ k, r.Live k →
      (r.Ready cl.authorizer k ↔ (r.OneSession 0 k → r.items.credential.Sendable))) ∧
    (∀ k, r.Live k → ¬ r.Ready cl.authorizer k →
      r.credential k = r.items.credential ∧
        cl.authorizer.stored (r.session k).keyring.items = .error Authorizer.unsendable) ∧
    (r.items.credential.Sendable → ∀ k, (r.credential k).Sendable) ∧
    (∀ i n c, r.Calls i n c → c.IsOfSession →
      ((∃ q, r.Sends cl i n c q) ↔ r.Ready cl.authorizer (i + 1))) ∧
    (∀ i n c, r.Calls i n c → c.IsOfSession → ¬ r.Ready cl.authorizer (i + 1) → ∀ x,
      cl.replyOver (r.session (i + 1)).keyring.items c x = .error Authorizer.unsendable) := by
  refine ⟨?ready, ?unready, ?kept, ?sent, ?refused⟩
  case ready =>
    intro k hl
    rw [ready_iff_sendable hl]
    exact sendable_of_live hh hl
  case unready =>
    intro k hl hn
    refine ⟨?_, stored_of_not_ready hl hn⟩
    rw [ready_iff_sendable hl, sendable_of_live hh hl, Classical.not_imp] at hn
    exact credential_of_restored hn.1
  case kept =>
    intro hs k
    by_cases hl : r.Live k
    · exact (sendable_of_live hh hl).mpr fun _ => hs
    · exact sendable_of_not_live hl
  case sent =>
    intro i n c h hc
    exact sends_iff_ready h hc
  case refused =>
    intro i n c h hc hn x
    obtain ⟨_, _, hl, _⟩ := session_of_call h hc
    exact Client.replyOver_of_refused (stored_of_not_ready hl hn) hc

def brought : Run where
  items := .empty
  remoteSignOut := false
  event
    | 0 => .start (.signIn ⟨"user", "password"⟩)
    | 1 => .reply 0 fun c => localClient.replyOver .empty c
      (.answered ⟨200, none, "\x7b\"token\":\"token\"\x7d".toUTF8, true⟩)
    | _ => .start .refreshRole

theorem brought_overHttp : brought.OverHttp localClient := by
  rintro n c i k reply ⟨pd, answer, hw, _, he, rfl⟩
  match k with
  | 0 => cases he
  | k + 2 => cases he
  | 1 =>
    cases he
    obtain rfl : i = 0 := Nat.lt_one_iff.mp hw.before
    exact ⟨_, rfl⟩

theorem granted_token_ready :
    brought.OverHttp localClient ∧ brought.Live 2 ∧ brought.Ready localClient.authorizer 2 := by
  have hl : brought.Live 2 := by
    unfold Live
    decide +kernel
  have hin : brought.items.credential.Sendable := Credential.sendable_none _
  obtain ⟨ready, _⟩ := stored_tokens_sendable brought localClient brought_overHttp
  exact ⟨brought_overHttp, hl, (ready 2 hl).mpr fun _ => hin⟩

def garbled : Run where
  items := (Items.empty.insert Items.tokenKey "to\nken").insert Items.userKey "user"
  remoteSignOut := false
  event _ := .start .refreshRole

theorem restored_token_refused :
    garbled.OverHttp localClient ∧ garbled.Live 0 ∧ ¬ garbled.Ready localClient.authorizer 0 ∧
      garbled.Calls 0 0 (.checkRole "user") ∧
      ∀ q, ¬ garbled.Sends localClient 0 0 (.checkRole "user") q := by
  refine ⟨?http, rfl, ?unready, ⟨_, ⟨_, rfl, rfl⟩, rfl⟩, ?refused⟩
  case http =>
    rintro n c i k reply ⟨pd, answer, _, _, he, _⟩
    cases he
  case unready =>
    rintro ⟨token, _, hstored⟩
    have hrefused : localClient.authorizer.stored (garbled.session 0).keyring.items =
        .error Authorizer.unsendable := by decide +kernel
    rw [hrefused] at hstored
    cases hstored
  case refused =>
    intro q hs
    have hmade := hs.made
    have hrefused : Request.ofCall localClient.base localClient.authorizer
        (garbled.session 1).keyring.items (.checkRole "user") = .error Authorizer.unsendable := by
      decide +kernel
    rw [hrefused] at hmade
    cases hmade

end Run

end InsectPortal
