import Mathlib.Data.Nat.Count
import InsectPortal.Proofs.LookupFlag
import InsectPortal.Proofs.RoleProvenance
import InsectPortal.Proofs.SessionEnd

/-!
# How often a role is looked up

A session asks for its role when it begins, and again only after it was answered with a failure. So
it never asks more than once more often than it failed, and not at all once it knows. Nor is it ever
stuck: whoever lacks the role and waits for nothing can ask.
-/
namespace InsectPortal.Run

open scoped Classical

/-- Event `m` asks for the role of the session of this epoch. -/
def Asks (r : Run) (epoch m : Nat) : Prop :=
  r.epoch (m + 1) = epoch ∧ ∃ n user, r.Calls m n (.checkRole user)

/-- Event `m` answers a lookup of the session of this epoch with a failure. -/
def Fails (r : Run) (epoch m : Nat) : Prop :=
  ∃ n user i e, r.Answered n (.checkRole user) i m (.error e) ∧ r.epoch (i + 1) = epoch

/-- The role is on its way or known. -/
def Served (r : Run) (k : Nat) : Prop :=
  (r.session k).lookupPending = true ∨ (r.role k).isResolved = true

/-- A session that does not lie ahead has asked at most once more often than it failed, and as long
as nothing serves it, not even that. -/
structure Budget (r : Run) (epoch k : Nat) : Prop where
  ahead : r.epoch k < epoch → Nat.count (r.Asks epoch) k = 0
  current : r.epoch k = epoch → Nat.count (r.Asks epoch) k ≤
    Nat.count (r.Fails epoch) k + if r.Served k then 1 else 0
  past : r.epoch k > epoch → Nat.count (r.Asks epoch) k ≤ Nat.count (r.Fails epoch) k + 1

theorem Budget.le {r : Run} {epoch k : Nat} (h : r.Budget epoch k) :
    Nat.count (r.Asks epoch) k ≤ Nat.count (r.Fails epoch) k + 1 := by
  rcases Nat.lt_trichotomy (r.epoch k) epoch with hlt | heq | hgt
  · rw [h.ahead hlt]
    exact Nat.zero_le _
  · have hcount := h.current heq
    split at hcount <;> omega
  · exact h.past hgt

theorem Asks.makes {r : Run} {epoch m : Nat} (h : r.Asks epoch m) :
    ∃ n t origin, r.Makes m n (.lookup t origin) := by
  obtain ⟨_, n, user, pd, hm, hc⟩ := h
  obtain ⟨t, origin, rfl, _⟩ := Pending.lookup_of_call hc
  exact ⟨n, t, origin, hm⟩

theorem Enters.epoch_eq {r : Run} {n i k : Nat} {form : SignInForm} {grant : SignInGrant}
    (h : r.Enters n form i k grant) : r.epoch (k + 1) = r.epoch k + 1 :=
  congrArg Session.epoch h.session

theorem served_of_asks {r : Run} {k n : Nat} {t : Ticket} {origin : LookupOrigin}
    (h : r.Makes k n (.lookup t origin)) : r.Served (k + 1) := Or.inl (awaitsRole_of_asks h).2

theorem not_served_of_beginLookup {r : Run} {k : Nat} {t : Ticket} {s : Session}
    (h : (r.session k).beginLookup = some (t, s)) : ¬ r.Served k ∧ s.epoch = r.epoch k := by
  obtain ⟨hw, hdown, _, _, rfl⟩ := Session.beginLookup_eq_some_iff.mp h
  have hrole : (r.role k).isResolved = false := by
    simp only [SessionState.wantsRole, Bool.and_eq_true, Bool.not_eq_true'] at hw
    exact hw.2
  refine ⟨?_, rfl⟩
  rintro (hup | hr)
  · exact absurd (hup.symm.trans hdown) (by decide)
  · exact absurd (hr.symm.trans hrole) (by decide)

/-- A session that goes on loses what serves it only by a failure. -/
theorem fails_or_served {r : Run} {k : Nat} (hn : ∀ n t origin, ¬ r.Makes k n (.lookup t origin))
    (he : r.epoch (k + 1) = r.epoch k) (hs : r.Served k) :
    r.Served (k + 1) ∨ r.Fails (r.epoch k) k := by
  cases r.lookup_step k with
  | asks hm => exact absurd hm (hn _ _ _)
  | leaves hl =>
    have hnext := hl.epoch_eq
    omega
  | same heq =>
    unfold Served role state
    rw [heq]
    exact Or.inl hs
  | @answers n user i reply ha hone =>
    cases reply with
    | error e => exact Or.inr ⟨n, user, i, e, ha, hone.epoch_eq.symm⟩
    | ok body =>
      have hr := session_of_resolved_lookup ha hone
      refine Or.inl (Or.inr ?_)
      unfold role state
      rw [hr]
      by_cases hres : (r.role k).isResolved = true
      · rw [if_pos hres]
        exact hres
      · rw [if_neg hres, Session.resolved_role]
        exact role_decode_resolved body

theorem Budget.of_asks {r : Run} {epoch k : Nat} (h : r.Budget epoch k) {n : Nat} {t : Ticket}
    {origin : LookupOrigin} (hm : r.Makes k n (.lookup t origin)) : r.Budget epoch (k + 1) := by
  have hone : r.Asks epoch k ↔ r.epoch (k + 1) = epoch :=
    ⟨fun ha => ha.1, fun he => ⟨he, n, t.user, _, hm, rfl⟩⟩
  have hmono : r.epoch k ≤ r.epoch (k + 1) := (r.follows k).epoch_le
  have hfails : Nat.count (r.Fails epoch) k ≤ Nat.count (r.Fails epoch) (k + 1) :=
    Nat.count_monotone _ (Nat.le_succ k)
  constructor
  · intro he
    rw [Nat.count_succ, if_neg (fun ha => by have := hone.mp ha; omega), h.ahead (by omega)]
  · intro he
    rw [Nat.count_succ, if_pos (hone.mpr he), if_pos (served_of_asks hm)]
    rcases asked_or_entered hm with hb | ⟨form, i, grant, hin⟩
    · obtain ⟨hfree, heq⟩ := not_served_of_beginLookup hb
      have hcount := h.current (heq.symm.trans he)
      rw [if_neg hfree] at hcount
      omega
    · have hnext := hin.epoch_eq
      have hcount := h.ahead (by omega)
      omega
  · intro he
    rw [Nat.count_succ, if_neg (fun ha => by have := hone.mp ha; omega)]
    have hcount := h.le
    omega

theorem Budget.of_not_asks {r : Run} {epoch k : Nat} (h : r.Budget epoch k)
    (hn : ∀ n t origin, ¬ r.Makes k n (.lookup t origin)) : r.Budget epoch (k + 1) := by
  have hnone : ¬ r.Asks epoch k := by
    intro ha
    obtain ⟨n, t, origin, hm⟩ := ha.makes
    exact hn n t origin hm
  have hmono : r.epoch k ≤ r.epoch (k + 1) := (r.follows k).epoch_le
  have hfails : Nat.count (r.Fails epoch) k ≤ Nat.count (r.Fails epoch) (k + 1) :=
    Nat.count_monotone _ (Nat.le_succ k)
  have hasks : Nat.count (r.Asks epoch) (k + 1) = Nat.count (r.Asks epoch) k := by
    rw [Nat.count_succ, if_neg hnone, Nat.add_zero]
  constructor
  · intro he
    rw [hasks]
    exact h.ahead (by omega)
  · intro he
    rw [hasks]
    rcases Nat.lt_or_eq_of_le (he ▸ hmono) with hlt | heq
    · rw [h.ahead hlt]
      exact Nat.zero_le _
    · have hcount := h.current heq
      by_cases hs : r.Served k
      · rw [if_pos hs] at hcount
        rcases fails_or_served hn (he.trans heq.symm) hs with hs' | hf
        · rw [if_pos hs']
          omega
        · rw [Nat.count_succ, if_pos (heq ▸ hf)]
          omega
      · rw [if_neg hs] at hcount
        omega
  · intro he
    rw [hasks]
    have hcount := h.le
    omega

theorem budget (r : Run) (epoch k : Nat) : r.Budget epoch k := by
  induction k with
  | zero => constructor <;> simp
  | succ k ih =>
    by_cases hm : ∃ n t origin, r.Makes k n (.lookup t origin)
    · obtain ⟨n, t, origin, hm⟩ := hm
      exact ih.of_asks hm
    · exact ih.of_not_asks fun n t origin h => hm ⟨n, t, origin, h⟩

theorem count_asks_le (r : Run) (epoch k : Nat) :
    Nat.count (r.Asks epoch) k ≤ 1 + Nat.count (r.Fails epoch) k := by
  rw [Nat.add_comm]
  exact (r.budget epoch k).le

theorem role_resolved_of_answered {r : Run} {n i k m : Nat} {user body : String}
    (h : r.Answered n (.checkRole user) i k (.ok body)) (hk : k < m)
    (hone : r.OneSession (i + 1) m) : (r.role m).isResolved = true := by
  rcases r.role_explained hone.last with ⟨_, hnone⟩ | ⟨_, first, _, hr⟩
  · exact absurd ⟨hk, n, i, user, h, hone⟩ (hnone k body)
  · rw [hr]
    exact role_decode_resolved first

theorem role_unresolved_of_asks {r : Run} {k n : Nat} {t : Ticket} {origin : LookupOrigin}
    (h : r.Makes k n (.lookup t origin)) : (r.role (k + 1)).isResolved = false := by
  rcases asked_or_entered h with hb | ⟨form, i, grant, hin⟩
  · obtain ⟨hw, _, _, _, hs⟩ := Session.beginLookup_eq_some_iff.mp hb
    simp only [SessionState.wantsRole, Bool.and_eq_true, Bool.not_eq_true'] at hw
    unfold role state
    rw [hs]
    exact hw.2
  · unfold role state
    rw [hin.session]
    rfl

theorem grant_of_sign_in {r : Run} {i n : Nat} {form : SignInForm} {pd : Pending}
    (he : r.event i = .start (.signIn form)) (hm : r.Makes i n pd) : pd = .grant form := by
  obtain ⟨t, ht, hw⟩ := hm
  rcases World.turn_cases ht with ⟨op, he', _, rfl⟩ | ⟨_, _, he', _⟩
  · obtain rfl := Event.start.inj (he.symm.trans he')
    rw [Portal.begin_signIn] at hw
    cases hc : form.check with
    | error e =>
      rw [hc] at hw
      cases hw
    | ok =>
      rw [hc] at hw
      dsimp only at hw
      split at hw
      · cases hw
      · exact (Next.waiting.inj hw).symm
  · rw [he] at he'
    cases he'

theorem asks_once {r : Run} {n i j : Nat} {t t' : Ticket} {origin origin' : LookupOrigin}
    (h : r.Makes i n (.lookup t origin)) (h' : r.Makes j n (.lookup t' origin')) : i = j := by
  have apart : ∀ {a b : Nat} {u u' : Ticket} {o o' : LookupOrigin},
      r.Makes a n (.lookup u o) → r.Makes b n (.lookup u' o') → ¬ a < b := by
    intro a b u u' o o' ha hb hab
    obtain ⟨form, hg⟩ := grant_of_makes_again ha hb hab
    obtain ⟨c, hw⟩ := exists_waits hg
    obtain ⟨_, hstart, _⟩ := opens_of_makes_grant hw.makes
    have hlt := started_of_makes ha
    have hca : c ≤ a := by
      rcases Nat.lt_or_ge a c with hac | hca
      · have hle : (r.world (a + 1)).started ≤ (r.world c).started := r.started_mono hac
        omega
      · exact hca
    have hgrant := hw.unanswered (a + 1) (Nat.lt_succ_of_le hca) hab
    cases hgrant.symm.trans ha.pending
  have hij := apart h h'
  have hji := apart h' h
  omega

/-- A sign-in that succeeds ends with the answer to a lookup of its own. -/
theorem asked_of_signed_in {r : Run} {i k : Nat} {form : SignInForm} {value : Value}
    (he : r.event i = .start (.signIn form)) (h : r.Ends k (r.world i).started (.ok value)) :
    ∃ m t origin, m < k ∧ r.Makes m (r.world i).started (.lookup t origin) := by
  obtain ⟨u, hu, hf⟩ := id h
  rcases World.turn_cases hu with ⟨op, he', hn, rfl⟩ | ⟨answer, pd, he', hp, rfl⟩
  · obtain rfl := start_unique he he' hn
    obtain rfl := Event.start.inj (he.symm.trans he')
    rw [Portal.begin_signIn] at hf
    cases hc : form.check with
    | error e =>
      rw [hc] at hf
      cases hf
    | ok =>
      rw [hc] at hf
      dsimp only at hf
      split at hf <;> cases hf
  · obtain ⟨j, hw⟩ := exists_waits hp
    rcases opens_or_lookup hw.makes with ⟨op, hs, hn, _⟩ | ⟨t, s, rfl, _⟩
    · obtain rfl := start_unique he hs hn
      obtain rfl := grant_of_sign_in he hw.makes
      cases ha : answer (.signIn form) with
      | error e =>
        rw [ha] at hf
        cases hf
      | ok grant =>
        have hans : r.Answered (r.world i).started (.signIn form) i k (.ok grant) :=
          ⟨_, answer, hw, rfl, he', ha⟩
        by_cases hno : r.Live k ∨ grant.token = ""
        · obtain ⟨e, u', hu', hf'⟩ := ends_of_refused_grant hans hno
          obtain rfl := (Prod.mk.inj (Option.some.inj (hu.symm.trans hu'))).2
          cases hf.symm.trans hf'
        · obtain ⟨hl, ht⟩ := not_or.mp hno
          obtain ⟨pd, hm, _⟩ := (enters_of_grant hans ht hl).calls_lookup
          exact absurd h (hm.not_ends _)
    · exact ⟨j, t, .signIn, hw.before, hw.makes⟩

theorem calls_of_refresh {r : Run} {k : Nat} (he : r.event k = .start .refreshRole)
    (hl : r.Live k) (hs : ¬ r.Served k) :
    ∃ user, (r.credential k).userIdentifier = some user ∧
      r.Calls k (r.world k).started (.checkRole user) := by
  obtain ⟨hdown, hrole⟩ := not_or.mp hs
  obtain ⟨user, hu⟩ := (r.sound k).session.user_of_signedIn hl
  have hwants : (r.session k).state.wantsRole = true := by
    unfold role state at hrole
    unfold Live state at hl
    simp [SessionState.wantsRole, hl, hrole]
  have hb : (r.world k).portal.session.beginLookup =
      some (⟨r.epoch k, user⟩, { r.session k with lookupPending := true }) :=
    Session.beginLookup_eq_some_iff.mpr ⟨hwants, Bool.eq_false_iff.mpr hdown, hu, rfl, rfl⟩
  refine ⟨user, hu, .lookup ⟨r.epoch k, user⟩ .refresh, ⟨_, takes_start he, ?_⟩, rfl⟩
  change ((r.world k).portal.beginLookup [] .refresh).next = _
  rw [Portal.beginLookup_of_some hb]
  rfl

/-- Of the lookups of the live session at most one is in flight, and the flag tells whether one is. A
session asks at most once more often than it failed, and no more once it was answered. Every sign-in
that succeeds has asked once, and a refresh asks whenever the session lacks its role and waits for
no answer of its own. -/
theorem role_lookups (r : Run) :
    (∀ k n n' i i' user user', r.Unanswered n (.checkRole user) i k → r.OneSession (i + 1) k →
      r.Unanswered n' (.checkRole user') i' k → r.OneSession (i' + 1) k → n = n' ∧ i = i') ∧
    (∀ k, (r.session k).lookupPending = true ↔
      ∃ n user i, r.Unanswered n (.checkRole user) i k ∧ r.OneSession (i + 1) k) ∧
    (∀ epoch k, Nat.count (r.Asks epoch) k ≤ 1 + Nat.count (r.Fails epoch) k) ∧
    (∀ n user i k body, r.Answered n (.checkRole user) i k (.ok body) →
      ∀ m n' user', k ≤ m → r.OneSession (i + 1) (m + 1) → ¬ r.Calls m n' (.checkRole user')) ∧
    (∀ i form k value, r.event i = .start (.signIn form) →
      r.Ends k (r.world i).started (.ok value) →
      ∃! m, m < k ∧ ∃ user, r.Calls m (r.world i).started (.checkRole user)) ∧
    (∀ k, r.event k = .start .refreshRole → r.Live k → (r.role k).isResolved = false →
      (∀ n user i, r.Unanswered n (.checkRole user) i k → ¬ r.OneSession (i + 1) k) →
      ∃ user, (r.credential k).userIdentifier = some user ∧
        r.Calls k (r.world k).started (.checkRole user)) := by
  have tells : ∀ k, (r.session k).lookupPending = true ↔
      ∃ n user i, r.Unanswered n (.checkRole user) i k ∧ r.OneSession (i + 1) k := by
    intro k
    rw [(r.flag_tells k).tells]
    exact exists_congr fun n => awaitsRole_iff
  refine ⟨?single, tells, r.count_asks_le, ?known, ?signedIn, ?refreshed⟩
  case single =>
    intro k n n' i i' user user' h hone h' hone'
    obtain rfl := (r.flag_tells k).unique n n' (awaitsRole_iff.mpr ⟨user, i, h, hone⟩)
      (awaitsRole_iff.mpr ⟨user', i', h', hone'⟩)
    obtain ⟨pd, hw, _⟩ := h
    obtain ⟨pd', hw', _⟩ := h'
    obtain rfl := Option.some.inj (hw.pending.symm.trans hw'.pending)
    exact ⟨rfl, hw.made_once hw'⟩
  case known =>
    rintro n user i k body h m n' user' hm hone ⟨pd, hmake, hc⟩
    obtain ⟨t, origin, rfl, _⟩ := Pending.lookup_of_call hc
    have hres := role_resolved_of_answered h (Nat.lt_succ_of_le hm) hone
    rw [role_unresolved_of_asks hmake] at hres
    cases hres
  case signedIn =>
    intro i form k value he h
    obtain ⟨m, t, origin, hm, hmake⟩ := asked_of_signed_in he h
    refine ⟨m, ⟨hm, t.user, _, hmake, rfl⟩, ?_⟩
    rintro m' ⟨_, user, pd, hmake', hc⟩
    obtain ⟨t', origin', rfl, _⟩ := Pending.lookup_of_call hc
    exact asks_once hmake' hmake
  case refreshed =>
    intro k he hl hrole hnone
    refine calls_of_refresh he hl ?_
    rintro (hup | hres)
    · obtain ⟨n, user, i, h, hone⟩ := (tells k).mp hup
      exact hnone n user i h hone
    · rw [hrole] at hres
      cases hres

/-- A session that has been refused its role asks again, while a lookup of the session before it is
still in flight. -/
def retried : Run where
  items := (Items.empty.insert Items.tokenKey "token").insert Items.userKey "user"
  remoteSignOut := false
  event
    | 0 => .start .refreshRole
    | 1 => .start .signOut
    | 2 => .start (.signIn ⟨"user", "password"⟩)
    | 3 => .reply 2 fun
      | .signIn _ => .ok ⟨"second"⟩
      | _ => .error .notSignedIn
    | 4 => .reply 2 fun
      | .checkRole _ => .error (.network "transport" "lost")
      | _ => .error .notSignedIn
    | _ => .start .refreshRole

theorem retried_asks_again : ∃ user, retried.Calls 5 (retried.world 5).started (.checkRole user) := by
  obtain ⟨_, tells, _, _, _, refreshed⟩ := role_lookups retried
  have hl : retried.Live 5 := by
    unfold Live
    decide +kernel
  have hrole : (retried.role 5).isResolved = false := by decide +kernel
  have hdown : (retried.session 5).lookupPending = false := by decide +kernel
  obtain ⟨user, _, hc⟩ := refreshed 5 rfl hl hrole fun n user i h hone => by
    have hup := (tells 5).mpr ⟨n, user, i, h, hone⟩
    rw [hdown] at hup
    cases hup
  exact ⟨user, hc⟩

end InsectPortal.Run
