import InsectPortal.Proofs.LookupFlag
import InsectPortal.Proofs.TokenField

/-!
# Tokens in requests

A request of a session carries the token of that session and names its user. Requests that nobody is
signed in for carry no token, and the token of a session that has ended is carried once more at
most: by the notice of the sign-out that ended it.
-/
namespace InsectPortal

namespace Portal

theorem beginLookup_remoteSignOut (p : Portal) (notes : List Notification) (origin : LookupOrigin) :
    (p.beginLookup notes origin).portal.remoteSignOut = p.remoteSignOut := by
  cases h : p.session.beginLookup with
  | none => rw [beginLookup_of_none h]; rfl
  | some r => rw [beginLookup_of_some h]; rfl

theorem report_remoteSignOut (p : Portal) (epoch : Nat) (e : Failure) :
    (p.report epoch e).1.remoteSignOut = p.remoteSignOut := by
  by_cases h : p.Rejects epoch e
  · rw [report_of_rejects h]
    rfl
  · rw [report_of_not_rejects h]

theorem admission_remoteSignOut (p : Portal) (x : Section) :
    (p.admission x).2.remoteSignOut = p.remoteSignOut := by
  unfold admission
  split
  · dsimp only
    split <;> rfl
  · rfl

theorem begin_remoteSignOut (p : Portal) (op : Operation) :
    (p.begin op).portal.remoteSignOut = p.remoteSignOut := by
  cases op with
  | start =>
    change (p.settle [] .start).portal.remoteSignOut = _
    rw [settle_eq, beginLookup_remoteSignOut]
    rfl
  | refreshRole => exact beginLookup_remoteSignOut p [] .refresh
  | signIn form =>
    rw [begin_signIn]
    split
    · rfl
    · split <;> rfl
  | signUp form =>
    change (p.beginSignUp form).portal.remoteSignOut = _
    unfold beginSignUp
    split <;> rfl
  | signOut =>
    change p.beginSignOut.portal.remoteSignOut = _
    unfold beginSignOut
    split
    · dsimp only
      split <;> rfl
    · rfl
  | task task =>
    change (p.beginTask task).portal.remoteSignOut = _
    have ha := p.admission_remoteSignOut task.section
    unfold beginTask
    split
    · next h => rwa [h] at ha
    · next h =>
      rw [h] at ha
      split
      · exact (report_remoteSignOut _ _ _).trans ha
      · exact ha

theorem resume_remoteSignOut (p : Portal) (pd : Pending) (reply : pd.call.Reply) :
    (p.resume pd reply).portal.remoteSignOut = p.remoteSignOut := by
  cases pd with
  | grant form =>
    cases reply with
    | error e => rfl
    | ok grant =>
      rw [resume_grant_ok]
      split
      · rfl
      · rw [beginLookup_remoteSignOut]
        rfl
  | account form => cases reply <;> rfl
  | farewell state user token => rfl
  | lookup t origin =>
    cases reply with
    | ok body =>
      change (p.resumeLookup t origin (.ok body)).portal.remoteSignOut = _
      unfold resumeLookup
      dsimp only
      split <;> rfl
    | error e =>
      rcases hf : p.session.failLookup t with ⟨current, s⟩
      rw [resume_lookup_error origin e hf]
      cases current with
      | false => rfl
      | true => exact report_remoteSignOut _ _ _
  | gated epoch user task =>
    cases reply with
    | ok answer => rfl
    | error e => exact report_remoteSignOut _ _ _

end Portal

namespace Run

theorem remoteSignOut_eq (r : Run) (k : Nat) :
    (r.world k).portal.remoteSignOut = r.remoteSignOut := by
  induction k with
  | zero => rfl
  | succ k ih =>
    cases ht : (r.world k).turn? (r.event k) with
    | none =>
      have hw : r.world (k + 1) = r.world k := World.next_of_no_turn ht
      rw [hw]
      exact ih
    | some p =>
      rw [takes_portal ht]
      refine Eq.trans ?_ ih
      rcases World.turn_cases ht with ⟨op, _, _, hb⟩ | ⟨answer, pd, _, _, hb⟩
      · rw [hb]
        exact Portal.begin_remoteSignOut _ op
      · rw [hb]
        exact Portal.resume_remoteSignOut _ pd _

/-- At event `i` operation `n` makes a call, and the client makes a request of it. -/
structure Sends (r : Run) (cl : Client) (i n : Nat) (c : Call) (q : Request) : Prop where
  calls : r.Calls i n c
  made : Request.ofCall cl.base cl.authorizer (r.session (i + 1)).keyring.items c = .ok q

/-- The request has this token in the token field. -/
def Carries (cl : Client) (q : Request) (token : String) : Prop :=
  ∃ h ∈ Header.values q.headers cl.authorizer.header, h.value = token

/-- A request with the token of the session of moment `j`, made when that session is over. -/
structure Lingers (r : Run) (cl : Client) (j : Nat) (token : String) (i n : Nat) (c : Call)
    (q : Request) : Prop where
  after : j ≤ i
  ended : ¬ r.OneSession j (i + 1)
  sends : r.Sends cl i n c q
  carries : Carries cl q token

/-- No two sessions are granted the same token. -/
def Distinct (r : Run) : Prop :=
  ∀ j k, r.Live j → r.Live k → (r.credential j).token = (r.credential k).token →
    r.epoch j = r.epoch k

variable {r : Run} {i n : Nat} {c : Call}

theorem credential_of_live {k : Nat} (h : r.Live k) :
    ∃ token user, r.credential k = ⟨some token, some user⟩ :=
  Credential.isComplete_iff.mp ((r.sound k).session.stored ▸ h)

/-- A call of a session is made while the session is live, on behalf of its user. -/
theorem session_of_call (h : r.Calls i n c) (hc : c.IsOfSession) :
    ∃ token user, r.Live (i + 1) ∧ r.credential (i + 1) = ⟨some token, some user⟩ ∧
      c.actor? = some user := by
  obtain ⟨pd, hm, rfl⟩ := h
  have hlive : r.Live (i + 1) ∧ (r.credential (i + 1)).userIdentifier = pd.call.actor? := by
    cases pd with
    | grant | account | farewell => cases hc
    | lookup t origin =>
      obtain ⟨hl, _, hu⟩ := Session.isCurrent_iff.mp (current_of_makes_lookup hm)
      exact ⟨hl, hu⟩
    | gated epoch user task =>
      obtain ⟨_, ha, _, hu, hs⟩ := opens_of_makes_gated hm
      have hu' : (r.credential (i + 1)).userIdentifier = some user :=
        (congrArg (·.credential.userIdentifier) hs).trans hu
      refine ⟨?_, hu'.trans (task.actor?_call user).symm⟩
      unfold Live state
      rw [hs]
      exact ha.1
  obtain ⟨hl, hu⟩ := hlive
  obtain ⟨token, user, hcred⟩ := credential_of_live hl
  refine ⟨token, user, hl, hcred, ?_⟩
  rw [← hu, hcred]

theorem farewell_of_call {user token : String} (h : r.Calls i n (.signOut user token)) :
    r.event i = .start .signOut ∧ n = (r.world i).started ∧ r.Live i ∧ r.remoteSignOut = true ∧
      r.credential i = ⟨some token, some user⟩ := by
  obtain ⟨pd, hm, hcall⟩ := h
  obtain ⟨state, rfl⟩ : ∃ state, pd = .farewell state user token := by
    cases pd with
    | farewell state user' token' =>
      cases hcall
      exact ⟨state, rfl⟩
    | grant | account | lookup => cases hcall
    | gated epoch user' task => cases task <;> cases hcall
  rcases opens_or_lookup hm with ⟨op, he, hn, rfl, hl, hr, hc, _⟩ | ⟨t, s, heq, _⟩
  · exact ⟨he, hn, hl, (r.remoteSignOut_eq i).symm.trans hr, hc⟩
  · cases heq

variable {cl : Client} {q : Request}

theorem eq_of_carries {token token' : String} (h : Carries cl q token')
    (hv : Header.values q.headers cl.authorizer.header = [⟨cl.authorizer.header, token, true⟩]) :
    token' = token := by
  obtain ⟨f, hf, rfl⟩ := h
  rw [hv, List.mem_singleton] at hf
  rw [hf]

theorem OneSession.of_token (hd : r.Distinct) {j k : Nat} (hjk : j ≤ k) (hj : r.Live j)
    (hk : r.Live k) (ht : (r.credential j).token = (r.credential k).token) : r.OneSession j k :=
  (oneSession_iff_epoch hjk hj).mpr (hd j k hj hk ht).symm

/-- Once its session is over, a token is carried by the notice of the sign-out that ended it. -/
theorem Lingers.farewell {j : Nat} {token user : String} (h : r.Lingers cl j token i n c q)
    (hr : cl.Reserved) (hd : r.Distinct) (hj : r.Live j)
    (hcred : r.credential j = ⟨some token, some user⟩) :
    c = .signOut user token ∧ r.event i = .start .signOut ∧ n = (r.world i).started ∧
      r.remoteSignOut = true ∧ r.OneSession j i := by
  obtain ⟨hji, hended, hs, hq⟩ := h
  by_cases hof : c.IsOfSession
  · obtain ⟨token', user', hl, hcred', _⟩ := session_of_call hs.calls hof
    have hv := Request.values_stored hs.made hof (congrArg Credential.token hcred')
    obtain rfl := eq_of_carries hq hv
    have ht : (r.credential j).token = (r.credential (i + 1)).token := by rw [hcred, hcred']
    exact absurd (OneSession.of_token hd (Nat.le_succ_of_le hji) hj hl ht) hended
  · cases c with
    | signIn | signUp =>
      obtain ⟨f, hf, _⟩ := hq
      rw [Request.values_none hr hs.made rfl] at hf
      cases hf
    | signOut user' token' =>
      obtain ⟨he, hn, hl, hremote, hcred'⟩ := farewell_of_call hs.calls
      obtain rfl := eq_of_carries hq (Request.values_signOut hr.noUser hs.made)
      have hone : r.OneSession j i := OneSession.of_token hd hji hj hl (by rw [hcred, hcred'])
      have hsame := hcred.symm.trans (hone.credential_eq.symm.trans hcred')
      obtain rfl : user = user' := Option.some.inj (congrArg Credential.userIdentifier hsame)
      exact ⟨rfl, he, hn, hremote, hone⟩
    | _ => exact absurd trivial hof

/-- A request is made of every call whose token can be sent. That of a session carries the token of
the session and nothing else in the token field, and names the user stored with it. A sign-in and a
sign-up carry no token. After the end of a session its token is carried by nothing but the notice of
its own sign-out, which names its user, and by that at most once. -/
theorem tokens_on_the_wire (r : Run) (cl : Client) :
    (∀ i n c, r.Calls i n c → ((∃ q, r.Sends cl i n c q) ↔
      ∀ token, c.token? (r.session (i + 1)).keyring.items = some token →
        Header.isValue token = true)) ∧
    (∀ i n c q, r.Sends cl i n c q → c.IsOfSession → ∃ token user, r.Live (i + 1) ∧
      r.credential (i + 1) = ⟨some token, some user⟩ ∧
      (c.section?.isSome = true → r.session i = r.session (i + 1)) ∧
      Header.values q.headers cl.authorizer.header = [⟨cl.authorizer.header, token, true⟩] ∧
      ∃ place, c.actorPlace? = some place ∧
        ((place = .segment → Url.IsSegment user) → q.actorAt? place = some user)) ∧
    (cl.Reserved → ∀ i n c q, r.Sends cl i n c q →
      (∃ form, c = .signIn form) ∨ (∃ form, c = .signUp form) →
      Header.values q.headers cl.authorizer.header = []) ∧
    (cl.NoUserField → ∀ items user token q,
      Request.ofCall cl.base cl.authorizer items (.signOut user token) = .ok q →
      Header.values q.headers cl.authorizer.header = [⟨cl.authorizer.header, token, true⟩] ∧
        (Url.IsSegment user → q.actorAt? .segment = some user)) ∧
    (cl.Reserved → r.Distinct → ∀ j token user, r.Live j →
      r.credential j = ⟨some token, some user⟩ →
      (∀ i n c q, r.Lingers cl j token i n c q →
        c = .signOut user token ∧ r.event i = .start .signOut ∧ r.remoteSignOut = true ∧
          r.OneSession j i) ∧
      (∀ i n c q i' n' c' q', r.Lingers cl j token i n c q → r.Lingers cl j token i' n' c' q' →
        i = i' ∧ n = n' ∧ q = q')) := by
  refine ⟨?made, ?ofSession, ?anonymous, ?notice, ?ended⟩
  case made =>
    intro i n c hc
    rw [← Request.exists_ofCall]
    constructor
    · rintro ⟨q, hs⟩
      exact ⟨q, hs.made⟩
    · rintro ⟨q, hq⟩
      exact ⟨q, hc, hq⟩
  case ofSession =>
    intro i n c q hs hc
    obtain ⟨token, user, hl, hcred, hu⟩ := session_of_call hs.calls hc
    refine ⟨token, user, hl, hcred, ?_, ?_, ?_⟩
    · intro hx
      obtain ⟨pd, hm, rfl⟩ := hs.calls
      obtain ⟨x, hx⟩ := Option.isSome_iff_exists.mp hx
      obtain ⟨epoch, user, task, rfl, _⟩ := Pending.gated_of_section hx
      exact (opens_of_makes_gated hm).2.2.2.2.symm
    · exact Request.values_stored hs.made hc (congrArg Credential.token hcred)
    · obtain ⟨place, hp⟩ := Call.exists_actorPlace hu
      exact ⟨place, hp, Request.actor_named hs.made hu hp⟩
  case anonymous =>
    intro hr i n c q hs hc
    apply Request.values_none hr hs.made
    rcases hc with ⟨form, rfl⟩ | ⟨form, rfl⟩ <;> rfl
  case notice =>
    intro hn items user token q hq
    constructor
    · exact Request.values_signOut hn hq
    · intro hu
      exact Request.actor_named hq rfl rfl fun _ => hu
  case ended =>
    intro hr hd j token user hj hcred
    constructor
    · intro i n c q h
      obtain ⟨hc, he, _, hremote, hone⟩ := h.farewell hr hd hj hcred
      exact ⟨hc, he, hremote, hone⟩
    · intro i n c q i' n' c' q' h h'
      obtain ⟨rfl, _, rfl, _, hone⟩ := h.farewell hr hd hj hcred
      obtain ⟨rfl, _, rfl, _, hone'⟩ := h'.farewell hr hd hj hcred
      have hle : i ≤ i' := by
        by_contra hlt
        exact h'.ended (hone.within (Nat.le_refl j) (Nat.le_succ_of_le h'.after) (by omega))
      have hge : i' ≤ i := by
        by_contra hlt
        exact h.ended (hone'.within (Nat.le_refl j) (Nat.le_succ_of_le h.after) (by omega))
      obtain rfl : i = i' := Nat.le_antisymm hle hge
      exact ⟨rfl, rfl, Except.ok.inj (h.sends.made.symm.trans h'.sends.made)⟩

def localClient : Client :=
  ⟨⟨.http, "", "", .domain "localhost", none, [""], none⟩, ⟨Authorizer.defaultHeader⟩⟩

theorem localClient_reserved : localClient.Reserved := by
  constructor
  · intro h hh
    have hnone : (Request.splitUser localClient.base).1 = none := by decide +kernel
    rw [hnone] at hh
    cases hh
  · decide
  · decide

def knocking : Run where
  items := .empty
  remoteSignOut := false
  event _ := .start (.signIn ⟨"user", "password"⟩)

def dotted : Run where
  items := (Items.empty.insert Items.tokenKey "token").insert Items.userKey ".."
  remoteSignOut := false
  event _ := .start .refreshRole

/-- A token field that the client uses itself is not empty in a sign-in, and a name that is a step in
the tree is not written at the end of the path. -/
theorem field_and_name_lost :
    (∃ q, knocking.Sends ⟨localClient.base, ⟨"accept"⟩⟩ 0 0 (.signIn ⟨"user", "password"⟩) q ∧
      Header.values q.headers "accept" = [⟨"accept", "*/*", false⟩]) ∧
    (∃ q, knocking.Sends ⟨{ localClient.base with username := "u" }, ⟨"authorization"⟩⟩ 0 0
        (.signIn ⟨"user", "password"⟩) q ∧
      Header.values q.headers "authorization" = [⟨"authorization", "Basic dTo=", true⟩]) ∧
    ∃ q, dotted.Sends localClient 0 0 (.checkRole "..") q ∧
      q.actorAt? .segment = some "check_role" := by
  refine ⟨⟨_, ⟨⟨_, ⟨_, rfl, rfl⟩, rfl⟩, rfl⟩, ?accept⟩, ⟨_, ⟨⟨_, ⟨_, rfl, rfl⟩, rfl⟩, rfl⟩, ?user⟩,
    ⟨_, ⟨⟨_, ⟨_, rfl, rfl⟩, rfl⟩, rfl⟩, ?name⟩⟩
  case accept => decide +kernel
  case user => decide +kernel
  case name => decide +kernel

def departing : Run where
  items := (Items.empty.insert Items.tokenKey "token").insert Items.userKey "user"
  remoteSignOut := true
  event
    | 0 => .start .refreshRole
    | _ => .start .signOut

theorem departing_gone (k : Nat) : ¬ departing.Live (k + 2) := by
  induction k with
  | zero =>
    unfold Live
    decide +kernel
  | succ k ih =>
    have hs : departing.session (k + 3) = departing.session (k + 2) :=
      (session_start (r := departing) (k := k + 2) rfl).trans (if_neg ih)
    unfold Live state
    rw [hs]
    exact ih

theorem departing_distinct : departing.Distinct := by
  have hepoch : ∀ k, departing.Live k → departing.epoch k = 0 := by
    intro k hk
    match k with
    | 0 => rfl
    | 1 => rfl
    | k + 2 => exact absurd hk (departing_gone k)
  intro j k hj hk _
  rw [hepoch j hj, hepoch k hk]

/-- Its lookup and its notice carry the token, and nothing after them does. -/
theorem departing_requests :
    (∃ q, departing.Sends localClient 0 0 (.checkRole "user") q ∧
      Header.values q.headers "auth-token" = [⟨"auth-token", "token", true⟩] ∧
      q.actorAt? .segment = some "user") ∧
    (∃ q, knocking.Sends localClient 0 0 (.signIn ⟨"user", "password"⟩) q ∧
      Header.values q.headers "auth-token" = []) ∧
    ∃ q, departing.Lingers localClient 0 "token" 1 1 (.signOut "user" "token") q ∧
      q.actorAt? .segment = some "user" ∧
      ∀ i n c q', departing.Lingers localClient 0 "token" i n c q' → i = 1 ∧ n = 1 ∧ q' = q := by
  obtain ⟨made, ofSession, _, notice, ended⟩ := tokens_on_the_wire departing localClient
  obtain ⟨_, _, anonymous, _⟩ := tokens_on_the_wire knocking localClient
  have huser : Url.IsSegment "user" := ⟨rfl, by simp [Url.isSkipped]⟩
  refine ⟨?lookup, ?signIn, ?farewell⟩
  case lookup =>
    have hs : ∃ q, departing.Sends localClient 0 0 (.checkRole "user") q :=
      ⟨_, ⟨_, ⟨_, rfl, rfl⟩, rfl⟩, rfl⟩
    obtain ⟨q, hs⟩ := hs
    obtain ⟨token, user, _, hcred, _, hv, place, hp, hnamed⟩ := ofSession _ _ _ _ hs trivial
    have hstored : departing.credential (0 + 1) = ⟨some "token", some "user"⟩ := rfl
    cases hcred.symm.trans hstored
    cases hp
    exact ⟨q, hs, hv, hnamed fun _ => huser⟩
  case signIn =>
    have hs : ∃ q, knocking.Sends localClient 0 0 (.signIn ⟨"user", "password"⟩) q :=
      ⟨_, ⟨_, ⟨_, rfl, rfl⟩, rfl⟩, rfl⟩
    obtain ⟨q, hs⟩ := hs
    exact ⟨q, hs, anonymous localClient_reserved _ _ _ _ hs (Or.inl ⟨_, rfl⟩)⟩
  case farewell =>
    have hc : departing.Calls 1 1 (.signOut "user" "token") := ⟨_, ⟨_, rfl, rfl⟩, rfl⟩
    have hvalue : ∀ token, (Call.signOut "user" "token").token?
        (departing.session (1 + 1)).keyring.items = some token → Header.isValue token = true := by
      intro token ht
      cases ht
      rfl
    obtain ⟨q, hs⟩ := (made 1 1 _ hc).mpr hvalue
    obtain ⟨hv, hnamed⟩ := notice localClient_reserved.noUser _ _ _ _ hs.made
    have hcarries : Carries localClient q "token" := by
      refine ⟨⟨localClient.authorizer.header, "token", true⟩, ?_, rfl⟩
      rw [hv]
      exact List.mem_singleton_self _
    have hended : ¬ departing.OneSession 0 (1 + 1) := fun h => departing_gone 0 h.last
    have hlingers : departing.Lingers localClient 0 "token" 1 1 (.signOut "user" "token") q :=
      ⟨Nat.zero_le 1, hended, hs, hcarries⟩
    obtain ⟨_, once⟩ := ended localClient_reserved departing_distinct 0 "token" "user" rfl rfl
    refine ⟨q, hlingers, hnamed huser, ?_⟩
    intro i n c q' h
    exact once i n c q' 1 1 _ q h hlingers

end Run

end InsectPortal
