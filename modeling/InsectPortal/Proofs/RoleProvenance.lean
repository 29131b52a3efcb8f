import InsectPortal.Proofs.SessionBoundary

/-!
# Where the role of a session comes from

The role of a live session is the one named by the first good answer to a role lookup made in that
very session. Answers to lookups of earlier sessions change nothing, whenever they come.
-/
namespace InsectPortal.Run

/-- Event `k` answers a role lookup with `body`, and the session that made the lookup is the one that
is live at moment `j`, after the answer. -/
def Resolves (r : Run) (k j : Nat) (body : String) : Prop :=
  k < j ∧ ∃ n i user, r.Answered n (.checkRole user) i k (.ok body) ∧ r.OneSession (i + 1) j

theorem Resolves.unique {r : Run} {k j l : Nat} {body body' : String} (h : r.Resolves k j body)
    (h' : r.Resolves k l body') : body = body' := by
  obtain ⟨_, n, i, user, ha, _⟩ := h
  obtain ⟨_, n', i', user', ha', _⟩ := h'
  obtain ⟨_, hcall, hreply⟩ := ha.unique ha'
  obtain rfl := Call.checkRole.inj hcall
  exact Except.ok.inj (eq_of_heq hreply)

theorem Resolves.within {r : Run} {k j l : Nat} {body : String} (h : r.Resolves k l body)
    (hj : k < j) (hl : j ≤ l) : r.Resolves k j body := by
  obtain ⟨_, n, i, user, ha, hs⟩ := h
  exact ⟨hj, n, i, user, ha, hs.within (Nat.le_refl _) (Nat.lt_trans ha.before hj) hl⟩

theorem Resolves.tail {r : Run} {k j : Nat} {body : String} (h : r.Resolves k j body)
    (hl : r.Live (j + 1)) : r.Resolves k (j + 1) body := by
  obtain ⟨hk, n, i, user, ha, hs⟩ := h
  exact ⟨Nat.lt_succ_of_lt hk, n, i, user, ha, hs.tail hl⟩

theorem Resolves.live {r : Run} {k j m : Nat} {body : String} (h : r.Resolves k j body)
    (hk : k ≤ m) (hm : m ≤ j) : r.Live m := by
  obtain ⟨_, n, i, user, ha, hs⟩ := h
  exact hs.live m (Nat.le_trans ha.before hk) hm

theorem role_of_resolves {r : Run} {k : Nat} {body : String} (h : r.Resolves k (k + 1) body) :
    r.role (k + 1) = if (r.role k).isResolved then r.role k else .decode body := by
  obtain ⟨_, n, i, user, ha, hs⟩ := h
  have hone : r.OneSession (i + 1) k := hs.within (Nat.le_refl _) ha.before (Nat.le_succ k)
  have hnext := session_of_resolved_lookup ha hone
  by_cases hr : (r.role k).isResolved = true
  · rw [if_pos hr] at hnext ⊢
    exact congrArg (·.state.role) hnext
  · rw [if_neg hr] at hnext ⊢
    exact (congrArg (·.state.role) hnext).trans (Session.resolved_role _ _)

/-- While a session goes on, nothing but a good answer to a role lookup of its own changes its
state. -/
theorem state_of_not_resolves {r : Run} {k : Nat} (hk : r.Live k) (hk' : r.Live (k + 1))
    (hn : ∀ body, ¬ r.Resolves k (k + 1) body) : r.state (k + 1) = r.state k := by
  cases r.step k with
  | enters h => exact absurd hk h.signedOut
  | leaves h => exact absurd hk' h.not_live
  | @learns n user i body h =>
    exact absurd ⟨Nat.lt_succ_self k, n, i, user, h.answered, h.current.tail hk'⟩ (hn body)
  | keeps h => exact h.state

/-- Event `k` is the first one that `Resolves` says this of. -/
def FirstResolves (r : Run) (k j : Nat) (body : String) : Prop :=
  r.Resolves k j body ∧ ∀ m, m < k → ∀ body', ¬ r.Resolves m j body'

theorem FirstResolves.tail {r : Run} {k j : Nat} {body : String} (h : r.FirstResolves k j body)
    (hl : r.Live (j + 1)) : r.FirstResolves k (j + 1) body := by
  refine ⟨h.1.tail hl, fun m hm body' hb => ?_⟩
  exact h.2 m hm body' (hb.within (Nat.lt_trans hm h.1.1) (Nat.le_succ j))

theorem FirstResolves.unique {r : Run} {k k' j : Nat} {body body' : String}
    (h : r.FirstResolves k j body) (h' : r.FirstResolves k' j body') : body = body' := by
  rcases Nat.lt_trichotomy k k' with hlt | heq | hgt
  · exact absurd h.1 (h'.2 k hlt body)
  · subst heq
    exact h.1.unique h'.1
  · exact absurd h'.1 (h.2 k' hgt body')

/-- No good answer has come yet and the role is unknown, or the role is what the first one said. -/
def RoleExplained (r : Run) (j : Nat) : Prop :=
  (r.role j = .unknown ∧ ∀ k body, ¬ r.Resolves k j body) ∨
  ∃ k body, r.FirstResolves k j body ∧ r.role j = .decode body

theorem explained_at_start (r : Run) : r.RoleExplained 0 := by
  refine Or.inl ⟨rfl, ?_⟩
  rintro k body ⟨hk, _⟩
  exact absurd hk (Nat.not_lt_zero k)

theorem explained_of_sign_in {r : Run} {j : Nat} (hj : ¬ r.Live j) (hl : r.Live (j + 1)) :
    r.RoleExplained (j + 1) := by
  have hnone : ∀ k body, ¬ r.Resolves k (j + 1) body := by
    intro k body h
    exact hj (h.live (Nat.le_of_lt_succ h.1) (Nat.le_succ j))
  refine Or.inl ⟨?_, hnone⟩
  cases r.step j with
  | enters h => exact congrArg (·.state.role) h.session
  | leaves h => exact absurd h.live hj
  | learns h => exact absurd h.live hj
  | keeps h => exact absurd (h.live_iff.mp hl) hj

theorem explained_of_resolves {r : Run} {j : Nat} {body : String} (h : r.Resolves j (j + 1) body)
    (hj : r.RoleExplained j) : r.RoleExplained (j + 1) := by
  have hl : r.Live (j + 1) := h.live (Nat.le_succ j) (Nat.le_refl _)
  have hrole := role_of_resolves h
  rcases hj with ⟨hu, hnone⟩ | ⟨k, first, hk, hf⟩
  · refine Or.inr ⟨j, body, ⟨h, fun m hm body' hb => ?_⟩, ?_⟩
    · exact hnone m body' (hb.within hm (Nat.le_succ j))
    · rw [hrole, hu]
      exact if_neg (by decide)
  · refine Or.inr ⟨k, first, hk.tail hl, ?_⟩
    rw [hrole, hf, if_pos (role_decode_resolved first)]

theorem explained_of_not_resolves {r : Run} {j : Nat} (hj : r.Live j) (hl : r.Live (j + 1))
    (hn : ∀ body, ¬ r.Resolves j (j + 1) body) (he : r.RoleExplained j) :
    r.RoleExplained (j + 1) := by
  have hrole : r.role (j + 1) = r.role j :=
    congrArg SessionState.role (state_of_not_resolves hj hl hn)
  rcases he with ⟨hu, hnone⟩ | ⟨k, body, hk, hr⟩
  · refine Or.inl ⟨hrole.trans hu, fun k body hb => ?_⟩
    rcases Nat.lt_or_eq_of_le (Nat.le_of_lt_succ hb.1) with hlt | heq
    · exact hnone k body (hb.within hlt (Nat.le_succ j))
    · exact hn body (heq ▸ hb)
  · exact Or.inr ⟨k, body, hk.tail hl, hrole.trans hr⟩

theorem role_explained (r : Run) {j : Nat} (hj : r.Live j) : r.RoleExplained j := by
  induction j with
  | zero => exact r.explained_at_start
  | succ j ih =>
    by_cases hl : r.Live j
    · by_cases hb : ∃ body, r.Resolves j (j + 1) body
      · obtain ⟨body, hb⟩ := hb
        exact explained_of_resolves hb (ih hl)
      · exact explained_of_not_resolves hl hj (fun body h => hb ⟨body, h⟩) (ih hl)
    · exact explained_of_sign_in hl hj

theorem user_of_lookup {r : Run} {i n : Nat} {user : String} (h : r.Calls i n (.checkRole user)) :
    r.Live (i + 1) ∧ (r.credential (i + 1)).userIdentifier = some user := by
  obtain ⟨pd, hm, hc⟩ := h
  obtain ⟨t, origin, rfl, rfl⟩ := Pending.lookup_of_call hc
  obtain ⟨hl, _, hu⟩ := Session.isCurrent_iff.mp (current_of_makes_lookup hm)
  exact ⟨hl, hu⟩

/-- The role of a live session comes from the first good answer to a lookup of that session, and
from nowhere else. -/
theorem role_of_live_session (r : Run) :
    (∀ i n user, r.Calls i n (.checkRole user) → r.Live (i + 1) ∧
      ∀ j, r.OneSession (i + 1) j → (r.credential j).userIdentifier = some user) ∧
    (∀ j, r.Live j → (∀ k body, ¬ r.Resolves k j body) → r.role j = .unknown) ∧
    (∀ j k body, r.FirstResolves k j body → r.role j = .decode body) ∧
    (∀ k, r.OneSession k (k + 1) → r.role (k + 1) ≠ r.role k →
      ∃ body, r.FirstResolves k (k + 1) body) ∧
    (∀ n i k user reply, r.Answered n (.checkRole user) i k reply → ¬ r.OneSession (i + 1) k →
      r.session (k + 1) = r.session k) := by
  refine ⟨?named, ?unresolved, ?resolved, ?changed, ?stale⟩
  case named =>
    intro i n user h
    obtain ⟨hl, hu⟩ := user_of_lookup h
    refine ⟨hl, fun j hj => ?_⟩
    rw [hj.credential_eq]
    exact hu
  case unresolved =>
    intro j hj hn
    rcases r.role_explained hj with ⟨hu, _⟩ | ⟨k, body, hk, _⟩
    · exact hu
    · exact absurd hk.1 (hn k body)
  case resolved =>
    intro j k body h
    have hj : r.Live j := h.1.live (Nat.le_of_lt h.1.1) (Nat.le_refl j)
    rcases r.role_explained hj with ⟨_, hn⟩ | ⟨k', body', hk', hr⟩
    · exact absurd h.1 (hn k body)
    · rw [hr, h.unique hk']
  case changed =>
    intro k hone hne
    have hk : r.Live k := hone.first
    have hk' : r.Live (k + 1) := hone.last
    by_cases hb : ∃ body, r.Resolves k (k + 1) body
    · obtain ⟨body, hb⟩ := hb
      refine ⟨body, hb, fun m hm body' h => ?_⟩
      have hold := h.within hm (Nat.le_succ k)
      rcases r.role_explained hk with ⟨_, hn⟩ | ⟨_, first, _, hr⟩
      · exact hn m body' hold
      · rw [role_of_resolves hb, hr, if_pos (role_decode_resolved first)] at hne
        exact hne rfl
    · refine absurd (congrArg SessionState.role ?_) hne
      exact state_of_not_resolves hk hk' fun body h => hb ⟨body, h⟩
  case stale =>
    intro n i k user reply h hs
    exact session_of_stale_lookup h hs

theorem role_of_restored_session : (restored (.ok "Super Root")).role 2 = .decode "Super Root" := by
  have hlive : (restored (.ok "Super Root")).Live 2 := by
    unfold Live
    decide +kernel
  have hone := (restored_oneSession (.ok "Super Root")).tail hlive
  have hfirst : (restored (.ok "Super Root")).FirstResolves 1 2 "Super Root" := by
    refine ⟨⟨by omega, 0, 0, "user", restored_answered _, hone⟩, ?_⟩
    rintro m hm body ⟨_, n, i, user, ha, _⟩
    have hi := ha.before
    omega
  exact (role_of_live_session (restored (.ok "Super Root"))).2.2.1 2 1 "Super Root" hfirst

end InsectPortal.Run
