import InsectPortal.Proofs.RacingSignIns

/-!
# The pending lookup of a session

A session keeps one flag for its role lookup. The flag is up exactly while a lookup of that session is
in flight, and there is never a second one. Lookups of earlier sessions may still be in flight; their
tickets are of older epochs, so their answers leave the flag alone.
-/
namespace InsectPortal.Run

/-- The call that operation `n` made at event `i` has no answer at moment `k`. -/
def Unanswered (r : Run) (n : Nat) (c : Call) (i k : Nat) : Prop :=
  ∃ pd, r.Waits n i k pd ∧ pd.call = c

/-- Operation `n` waits for the role of the session that is live at moment `k`. -/
def AwaitsRole (r : Run) (k n : Nat) : Prop :=
  ∃ t origin, (r.world k).pending? n = some (.lookup t origin) ∧ (r.session k).isCurrent t = true

theorem started_le_next (r : Run) (k : Nat) : (r.world k).started ≤ (r.world (k + 1)).started := by
  change _ ≤ ((r.world k).next (r.event k)).started
  cases r.event k with
  | start op =>
    change _ ≤ ((r.world k).start op).started
    unfold World.start
    rw [World.take_started]
    exact Nat.le_succ _
  | reply n answer =>
    change _ ≤ ((r.world k).reply n answer).started
    unfold World.reply
    cases (r.world k).pending? n with
    | none => exact Nat.le_refl _
    | some pd => simp [World.take_started]

theorem started_mono (r : Run) {i j : Nat} (h : i ≤ j) :
    (r.world i).started ≤ (r.world j).started := by
  induction h with
  | refl => exact Nat.le_refl _
  | step _ ih => exact Nat.le_trans ih (r.started_le_next _)

theorem start_unique {r : Run} {i j : Nat} {op op' : Operation} (hi : r.event i = .start op)
    (hj : r.event j = .start op') (h : (r.world i).started = (r.world j).started) : i = j := by
  have later : ∀ {a b : Nat} {o : Operation}, r.event a = .start o → a < b →
      (r.world a).started < (r.world b).started := by
    intro a b o ha hab
    have hnext : (r.world (a + 1)).started = (r.world a).started + 1 := by
      rw [world_start ha]
      exact World.take_started _ _ _
    have hle : (r.world (a + 1)).started ≤ (r.world b).started := r.started_mono hab
    omega
  rcases Nat.lt_trichotomy i j with hlt | heq | hgt
  · exact absurd h (Nat.ne_of_lt (later hi hlt))
  · exact heq
  · exact absurd h.symm (Nat.ne_of_lt (later hj hgt))

theorem Makes.pending {r : Run} {i n : Nat} {pd : Pending} (h : r.Makes i n pd) :
    (r.world (i + 1)).pending? n = some pd := by
  obtain ⟨t, ht, hw⟩ := h
  rw [takes_pending? ht, if_pos rfl]
  simp [Turn.pending?, hw]

theorem Makes.not_ends {r : Run} {i n : Nat} {pd : Pending} (h : r.Makes i n pd)
    (outcome : Outcome) : ¬ r.Ends i n outcome := by
  rintro ⟨t', ht', hf⟩
  obtain ⟨t, ht, hw⟩ := h
  obtain rfl := (Prod.mk.inj (Option.some.inj (ht.symm.trans ht'))).2
  rw [hw] at hf
  cases hf

theorem started_of_makes {r : Run} {i n : Nat} {pd : Pending} (h : r.Makes i n pd) :
    n < (r.world (i + 1)).started := World.started_of_pending (r.numbered (i + 1)) h.pending

/-- A call that was made before and is made again is made in the answer to a sign-in. -/
theorem grant_of_makes_again {r : Run} {i j n : Nat} {pd pd' : Pending} (h : r.Makes i n pd)
    (h' : r.Makes j n pd') (hij : i < j) : ∃ form, (r.world j).pending? n = some (.grant form) := by
  obtain ⟨t, ht, hw⟩ := h'
  rcases World.turn_cases ht with ⟨op, _, hn, _⟩ | ⟨answer, qd, _, hq, rfl⟩
  · have hlt := started_of_makes h
    have hle : (r.world (i + 1)).started ≤ (r.world j).started := r.started_mono hij
    omega
  · obtain ⟨form, _, _, rfl, _⟩ := Portal.lookup_of_resume_waiting hw
    exact ⟨form, hq⟩

theorem Waits.made_once {r : Run} {n i j k : Nat} {pd : Pending} (h : r.Waits n i k pd)
    (h' : r.Waits n j k pd) : i = j := by
  have apart : ∀ {a b : Nat}, r.Waits n a k pd → r.Waits n b k pd → ¬ a < b := by
    intro a b ha hb hab
    obtain ⟨form, hg⟩ := grant_of_makes_again ha.makes hb.makes hab
    have hpd : pd = .grant form :=
      Option.some.inj ((ha.unanswered b hab (Nat.le_of_lt hb.before)).symm.trans hg)
    obtain ⟨_, hstart, _⟩ := opens_of_makes_grant (hpd ▸ hb.makes)
    have hlt := started_of_makes ha.makes
    have hle : (r.world (a + 1)).started ≤ (r.world b).started := r.started_mono hab
    omega
  have hij := apart h h'
  have hji := apart h' h
  omega

/-- A lookup is made for a session that lacks its role and waits for none, or right after a grant. -/
theorem asked_or_entered {r : Run} {k n : Nat} {t : Ticket} {origin : LookupOrigin}
    (h : r.Makes k n (.lookup t origin)) :
    (r.session k).beginLookup = some (t, r.session (k + 1)) ∨
      ∃ form i grant, r.Enters n form i k grant := by
  obtain ⟨u, hu, hw⟩ := id h
  rcases World.turn_cases hu with ⟨op, he, hn, rfl⟩ | ⟨answer, pd, he, hp, rfl⟩
  · have hs : r.session (k + 1) = ((r.world k).portal.begin op).portal.session :=
      congrArg Portal.session (takes_portal hu)
    rw [hs]
    exact Or.inl ((r.sound k).opens_of_waiting hw)
  · obtain ⟨form, _, _, rfl, _⟩ := Portal.lookup_of_resume_waiting hw
    obtain ⟨i, hi⟩ := exists_waits hp
    cases ha : answer (.signIn form) with
    | error e =>
      have hans : r.Answered n (.signIn form) i k (.error e) := ⟨_, answer, hi, rfl, he, ha⟩
      exact absurd (ends_of_failed_sign_in hans) (h.not_ends _)
    | ok grant =>
      have hans : r.Answered n (.signIn form) i k (.ok grant) := ⟨_, answer, hi, rfl, he, ha⟩
      by_cases hn : r.Live k ∨ grant.token = ""
      · obtain ⟨e, hend⟩ := ends_of_refused_grant hans hn
        exact absurd hend (h.not_ends _)
      · obtain ⟨hl, ht⟩ := not_or.mp hn
        exact Or.inr ⟨form, i, grant, enters_of_grant hans ht hl⟩

theorem lookupPending_of_answered {r : Run} {n i k : Nat} {user : String}
    {reply : (Call.checkRole user).Reply} (h : r.Answered n (.checkRole user) i k reply)
    (hone : r.OneSession (i + 1) k) : (r.session (k + 1)).lookupPending = false := by
  obtain ⟨t, origin, hw, hs⟩ := h.of_lookup
  have hcur := (isCurrent_iff_oneSession hw).mpr hone
  cases reply with
  | ok body =>
    have hr := session_of_resolved_lookup h hone
    rw [hr]
    by_cases hres : (r.role k).isResolved = true
    · rw [if_pos hres]
    · rw [if_neg hres, Session.resolved_lookupPending]
  | error e =>
    by_cases ha : (r.session k).isCurrent t = true ∧ e.isAuthorization = true
    · have hd : r.session (k + 1) = (r.session k).drop := hs.trans (if_pos ha)
      rw [hd, Session.drop_eq]
    · have hf : r.session (k + 1) = (r.session k).next (.failLookup t) := hs.trans (if_neg ha)
      rw [hf]
      simp [Session.next, Session.failLookup, hcur]

/-- What an event can mean for the lookup of the session. -/
inductive LookupStep (r : Run) (k : Nat) : Prop where
  | asks {n t origin} : r.Makes k n (.lookup t origin) → LookupStep r k
  | answers {n user i} {reply : (Call.checkRole user).Reply} :
      r.Answered n (.checkRole user) i k reply → r.OneSession (i + 1) k → LookupStep r k
  | leaves : r.Leaves k → LookupStep r k
  | same : r.session (k + 1) = r.session k → LookupStep r k

theorem lookupStep_of_begin {r : Run} {k : Nat} {op : Operation} (he : r.event k = .start op)
    (hop : op = .start ∨ op = .refreshRole) : r.LookupStep k := by
  have hs := session_start he
  have ht := takes_start he
  have hnext : (r.world k).portal.sessionAfter op = (r.session k).next .beginLookup := by
    rcases hop with rfl | rfl <;> rfl
  rw [hnext] at hs
  cases hb : (r.session k).beginLookup with
  | none => exact .same (hs.trans (by simp [Session.next, hb]))
  | some p =>
    have hwait : ∃ origin, ((r.world k).portal.begin op).next = .waiting (.lookup p.1 origin) := by
      rcases hop with rfl | rfl
      · refine ⟨.start, ?_⟩
        change ((r.world k).portal.settle [] .start).next = _
        have hb' : (r.world k).portal.observe.2.session.beginLookup = some (p.1, p.2) := hb
        rw [Portal.settle_eq, Portal.beginLookup_of_some hb']
        rfl
      · refine ⟨.refresh, ?_⟩
        change ((r.world k).portal.beginLookup [] .refresh).next = _
        have hb' : (r.world k).portal.session.beginLookup = some (p.1, p.2) := hb
        rw [Portal.beginLookup_of_some hb']
        rfl
    obtain ⟨origin, hw⟩ := hwait
    exact .asks ⟨_, ht, hw⟩

theorem lookup_step (r : Run) (k : Nat) : r.LookupStep k := by
  rcases r.session_step k with ⟨op, he, hs⟩ | ⟨n, i, pd, answer, he, hw, hs⟩ | hs
  · cases op with
    | start => exact lookupStep_of_begin he (Or.inl rfl)
    | refreshRole => exact lookupStep_of_begin he (Or.inr rfl)
    | signIn | signUp | task => exact .same hs
    | signOut =>
      by_cases hl : r.Live k
      · exact .leaves (leaves_of_signOut hl he)
      · exact .same (hs.trans (if_neg hl))
  · cases pd with
    | account | farewell => exact .same hs
    | lookup t origin =>
      have hans : r.Answered n (.checkRole t.user) i k (answer (.checkRole t.user)) :=
        ⟨_, answer, hw, rfl, he, rfl⟩
      by_cases hone : r.OneSession (i + 1) k
      · exact .answers hans hone
      · exact .same (session_of_stale_lookup hans hone)
    | grant form =>
      cases ha : answer (.signIn form) with
      | error e =>
        rw [ha] at hs
        exact .same hs
      | ok grant =>
        have hans : r.Answered n (.signIn form) i k (.ok grant) := ⟨_, answer, hw, rfl, he, ha⟩
        by_cases hn : r.Live k ∨ grant.token = ""
        · exact .same (session_of_refused_grant hans hn)
        · obtain ⟨hl, ht⟩ := not_or.mp hn
          obtain ⟨pd, hm, hc⟩ := (enters_of_grant hans ht hl).calls_lookup
          obtain ⟨t, origin, rfl, _⟩ := Pending.lookup_of_call hc
          exact .asks hm
    | gated epoch user task =>
      cases ha : answer (task.call user) with
      | ok value =>
        rw [ha] at hs
        exact .same hs
      | error e =>
        rw [ha] at hs
        by_cases hr : (r.world k).portal.Rejects epoch e
        · obtain ⟨hx, hone⟩ := (rejects_iff_oneSession hw e).mp hr
          exact .leaves (leaves_of_rejected ⟨n, task.call user, i, e, ⟨_, answer, hw, rfl, he, ha⟩,
            task.call_isOfSession user, hx, hone⟩)
        · exact .same (hs.trans (if_neg hr))
  · exact .same hs

/-- The flag is up exactly while somebody waits for the role, and then one operation does. -/
structure FlagTells (r : Run) (k : Nat) : Prop where
  tells : (r.session k).lookupPending = true ↔ ∃ n, r.AwaitsRole k n
  unique : ∀ n m, r.AwaitsRole k n → r.AwaitsRole k m → n = m

theorem awaitsRole_iff {r : Run} {k n : Nat} :
    r.AwaitsRole k n ↔ ∃ user i, r.Unanswered n (.checkRole user) i k ∧ r.OneSession (i + 1) k := by
  constructor
  · rintro ⟨t, origin, hp, hcur⟩
    obtain ⟨i, hw⟩ := exists_waits hp
    exact ⟨t.user, i, ⟨_, hw, rfl⟩, (isCurrent_iff_oneSession hw).mp hcur⟩
  · rintro ⟨user, i, ⟨pd, hw, hc⟩, hone⟩
    obtain ⟨t, origin, rfl, _⟩ := Pending.lookup_of_call hc
    exact ⟨t, origin, hw.pending, (isCurrent_iff_oneSession hw).mpr hone⟩

/-- Who waits after an event has waited before it, or made the lookup there. -/
theorem AwaitsRole.before {r : Run} {k n : Nat} (h : r.AwaitsRole (k + 1) n) :
    (∃ t origin, r.Makes k n (.lookup t origin)) ∨ (r.AwaitsRole k n ∧ r.Live k) := by
  obtain ⟨t, origin, hp, hcur⟩ := h
  rcases makes_or_kept hp with hm | hk
  · exact Or.inl ⟨t, origin, hm⟩
  · obtain ⟨i, hw⟩ := exists_waits hk
    have hone := (isCurrent_iff_oneSession (hw.tail hp)).mp hcur
    have hone' : r.OneSession (i + 1) k := hone.within (Nat.le_refl _) hw.before (Nat.le_succ k)
    exact Or.inr ⟨⟨t, origin, hk, (isCurrent_iff_oneSession hw).mpr hone'⟩, hone'.last⟩

theorem awaitsRole_of_asks {r : Run} {k n : Nat} {t : Ticket} {origin : LookupOrigin}
    (h : r.Makes k n (.lookup t origin)) :
    r.AwaitsRole (k + 1) n ∧ (r.session (k + 1)).lookupPending = true := by
  refine ⟨⟨t, origin, h.pending, current_of_makes_lookup h⟩, ?_⟩
  rcases asked_or_entered h with hb | ⟨form, i, grant, hin⟩
  · exact (Session.current_of_beginLookup hb).2
  · rw [hin.session]
    rfl

theorem pending_kept {r : Run} {k n : Nat} {pd : Pending} (h : (r.world k).pending? n = some pd)
    (hn : ∀ answer, r.event k ≠ .reply n answer) : (r.world (k + 1)).pending? n = some pd := by
  cases ht : (r.world k).turn? (r.event k) with
  | none =>
    have hw : r.world (k + 1) = r.world k := World.next_of_no_turn ht
    rw [hw]
    exact h
  | some p =>
    rw [takes_pending? ht]
    by_cases hp : n = p.1
    · rcases World.turn_cases ht with ⟨op, _, hs, _⟩ | ⟨answer, _, he, _⟩
      · have hlt := World.started_of_pending (r.numbered k) h
        omega
      · exact absurd (hp ▸ he) (hn answer)
    · rw [if_neg hp]
      exact h

theorem pending_of_answered {r : Run} {n i k : Nat} {user : String}
    {reply : (Call.checkRole user).Reply} (h : r.Answered n (.checkRole user) i k reply) :
    (r.world (k + 1)).pending? n = none := by
  obtain ⟨pd, answer, hw, hc, he, _⟩ := h
  obtain ⟨t, origin, rfl, _⟩ := Pending.lookup_of_call hc
  rw [takes_pending? (hw.takes he), if_pos rfl]
  unfold Turn.pending?
  cases hx : ((r.world k).portal.resume (.lookup t origin) (answer _)).next with
  | finished outcome => rfl
  | waiting pd =>
    obtain ⟨form, _, _, hpd, _⟩ := Portal.lookup_of_resume_waiting hx
    cases hpd

theorem Answered.awaitsRole {r : Run} {n i k : Nat} {user : String}
    {reply : (Call.checkRole user).Reply} (h : r.Answered n (.checkRole user) i k reply)
    (hone : r.OneSession (i + 1) k) : r.AwaitsRole k n := by
  obtain ⟨pd, _, hw, hc, _⟩ := h
  exact awaitsRole_iff.mpr ⟨user, i, ⟨pd, hw, hc⟩, hone⟩

theorem FlagTells.of_asks {r : Run} {k n : Nat} (h : r.FlagTells k) {t : Ticket}
    {origin : LookupOrigin} (hm : r.Makes k n (.lookup t origin)) : r.FlagTells (k + 1) := by
  obtain ⟨hw, hf⟩ := awaitsRole_of_asks hm
  -- another one would have waited before, in a session that was free to ask
  have only : ∀ m, r.AwaitsRole (k + 1) m → m = n := by
    intro m ha
    rcases ha.before with ⟨_, _, hm'⟩ | ⟨hb, hl⟩
    · obtain ⟨u, hu, _⟩ := hm
      obtain ⟨u', hu', _⟩ := hm'
      exact (Prod.mk.inj (Option.some.inj (hu'.symm.trans hu))).1
    · rcases asked_or_entered hm with hask | ⟨_, _, _, hin⟩
      · obtain ⟨_, hdown, _⟩ := Session.beginLookup_eq_some_iff.mp hask
        have hup := h.tells.mpr ⟨m, hb⟩
        rw [hdown] at hup
        cases hup
      · exact absurd hl hin.signedOut
  refine ⟨⟨fun _ => ⟨n, hw⟩, fun _ => hf⟩, fun a b ha hb => ?_⟩
  rw [only a ha, only b hb]

theorem FlagTells.of_not_asks {r : Run} {k : Nat} (h : r.FlagTells k)
    (hn : ∀ n t origin, ¬ r.Makes k n (.lookup t origin)) : r.FlagTells (k + 1) := by
  have old : ∀ m, r.AwaitsRole (k + 1) m → r.AwaitsRole k m := by
    intro m ha
    rcases ha.before with ⟨t, origin, hm⟩ | ⟨hb, _⟩
    · exact absurd hm (hn m t origin)
    · exact hb
  refine ⟨?_, fun a b ha hb => h.unique a b (old a ha) (old b hb)⟩
  cases r.lookup_step k with
  | asks hm => exact absurd hm (hn _ _ _)
  | @answers n user i reply ha hone =>
    rw [lookupPending_of_answered ha hone]
    constructor
    · intro hc
      cases hc
    · rintro ⟨m, hm⟩
      obtain rfl := h.unique m n (old m hm) (ha.awaitsRole hone)
      obtain ⟨t, origin, hp, _⟩ := hm
      rw [pending_of_answered ha] at hp
      cases hp
  | leaves hl =>
    have hdown : (r.session (k + 1)).lookupPending = false := by
      rw [hl.session, Session.drop_eq]
    rw [hdown]
    constructor
    · intro hc
      cases hc
    · rintro ⟨m, t, _, _, hcur⟩
      exact absurd (Session.isCurrent_iff.mp hcur).1 hl.not_live
  | same hs =>
    rw [hs, h.tells]
    constructor
    · rintro ⟨m, hm⟩
      obtain ⟨t, origin, hp, hcur⟩ := id hm
      have hfree : ∀ answer, r.event k ≠ .reply m answer := by
        intro answer he
        obtain ⟨i, hw⟩ := exists_waits hp
        have ha : r.Answered m (.checkRole t.user) i k (answer _) := ⟨_, answer, hw, rfl, he, rfl⟩
        have hdown := lookupPending_of_answered ha ((isCurrent_iff_oneSession hw).mp hcur)
        rw [hs, h.tells.mpr ⟨m, hm⟩] at hdown
        cases hdown
      exact ⟨m, t, origin, pending_kept hp hfree, hs ▸ hcur⟩
    · rintro ⟨m, hm⟩
      exact ⟨m, old m hm⟩

theorem flag_tells (r : Run) (k : Nat) : r.FlagTells k := by
  induction k with
  | zero =>
    have nobody : ∀ n, ¬ r.AwaitsRole 0 n := by
      rintro n ⟨t, origin, hp, _⟩
      cases hp
    constructor
    · constructor
      · intro hf
        cases hf
      · rintro ⟨n, hn⟩
        exact absurd hn (nobody n)
    · intro n m hn
      exact absurd hn (nobody n)
  | succ k ih =>
    by_cases hm : ∃ n t origin, r.Makes k n (.lookup t origin)
    · obtain ⟨n, t, origin, hm⟩ := hm
      exact ih.of_asks hm
    · exact ih.of_not_asks fun n t origin h => hm ⟨n, t, origin, h⟩

end InsectPortal.Run
