import InsectPortal.Proofs.Turn

/-!
# What a turn makes of the session

A turn changes the session by the events of the session machine and by nothing else. From this follow
the invariant of every turn, and what is known of a call that a turn has made.
-/
namespace InsectPortal.Portal

def sessionAfter (p : Portal) : Operation → Session
  | .start | .refreshRole => p.session.next .beginLookup
  | .signOut => if p.state.signedIn then p.session.next .signOut else p.session
  | .signIn _ | .signUp _ | .task _ => p.session

def sessionAfterReply (p : Portal) : (pd : Pending) → pd.call.Reply → Session
  | .grant form, reply =>
    match reply with
    | .ok grant =>
      match p.session.signIn grant.token form.useremail with
      | .ok s => s.next .beginLookup
      | .error _ => p.session
    | .error _ => p.session
  | .lookup t _, reply =>
    match reply with
    | .ok body => p.session.next (.completeLookup t (.decode body))
    | .error e =>
      if p.session.isCurrent t = true ∧ e.isAuthorization = true then p.session.next .reject
      else p.session.next (.failLookup t)
  | .gated epoch _ _, reply =>
    match reply with
    | .ok _ => p.session
    | .error e => if p.Rejects epoch e then p.session.next .reject else p.session
  | .account _, _ | .farewell .., _ => p.session

theorem sessionAfterReply_grant (p : Portal) (form : SignInForm) (grant : SignInGrant) :
    p.sessionAfterReply (.grant form) (.ok grant) =
      match p.session.signIn grant.token form.useremail with
      | .ok s => s.next .beginLookup
      | .error _ => p.session := rfl

theorem sessionAfterReply_of_signedOut {p : Portal} (hs : p.state.signedIn = false)
    {form : SignInForm} {grant : SignInGrant} (ht : grant.token ≠ "") (hu : form.useremail ≠ "") :
    p.sessionAfterReply (.grant form) (.ok grant) =
      p.session.granted grant.token form.useremail := by
  have hin := Session.signIn_ok_iff.mpr ⟨hs, ht, hu, rfl⟩
  rw [sessionAfterReply_grant, hin]
  simp [Session.next, Session.beginLookup_of_signIn hin]

theorem sessionAfterReply_of_refused {p : Portal} {form : SignInForm} {grant : SignInGrant}
    (h : p.state.signedIn = true ∨ grant.token = "") :
    p.sessionAfterReply (.grant form) (.ok grant) = p.session := by
  obtain ⟨e, hin⟩ := Session.signIn_refused h form.useremail
  rw [sessionAfterReply_grant, hin]

theorem Sound.observe {p : Portal} (h : p.Sound) : p.observe.2.Sound :=
  ⟨h.session, h.navigation.observe p.state⟩

theorem after_beginLookup {p : Portal} (hn : p.navigation.Faithful) (notes : List Notification)
    (origin : LookupOrigin) :
    (p.beginLookup notes origin).portal.session = p.session.next .beginLookup ∧
      (p.beginLookup notes origin).portal.navigation.Faithful := by
  refine ⟨beginLookup_session p notes origin, ?_⟩
  cases hb : p.session.beginLookup with
  | none => simpa [beginLookup_of_none hb, Turn.finish] using hn
  | some r => simpa [beginLookup_of_some hb, Turn.wait] using hn

theorem Sound.after_begin {p : Portal} (h : p.Sound) (op : Operation) :
    (p.begin op).portal.session = p.sessionAfter op ∧
      (p.begin op).portal.navigation.Faithful := by
  cases op with
  | start =>
    change (p.settle [] .start).portal.session = _ ∧ (p.settle [] .start).portal.navigation.Faithful
    rw [settle_eq]
    exact after_beginLookup h.observe.navigation [] .start
  | refreshRole => exact after_beginLookup h.navigation [] .refresh
  | signIn form =>
    rw [begin_signIn]
    cases form.check with
    | error e => exact ⟨rfl, h.navigation⟩
    | ok => cases p.state.signedIn <;> exact ⟨rfl, h.navigation⟩
  | signUp form =>
    change (p.beginSignUp form).portal.session = _ ∧ (p.beginSignUp form).portal.navigation.Faithful
    unfold beginSignUp
    cases form.check with
    | error e => exact ⟨rfl, h.navigation⟩
    | ok => exact ⟨rfl, h.navigation⟩
  | signOut =>
    cases hs : p.state.signedIn with
    | false =>
      rw [begin_signOut_of_signedOut hs]
      exact ⟨by simp [sessionAfter, hs, Turn.refuse, Turn.finish], h.navigation⟩
    | true =>
      obtain ⟨token, user, _, heq⟩ := begin_signOut_of_signedIn h hs
      have hd : p.sessionAfter .signOut = p.session.drop := by
        simp [sessionAfter, hs, Session.next]
      rw [heq, hd]
      cases p.remoteSignOut <;> exact ⟨rfl, h.navigation.observe _⟩
  | task task =>
    by_cases ha : p.Admits task.section
    · obtain ⟨user, _, heq⟩ := begin_task_of_admits h ha
      rw [heq]
      cases task.check with
      | error e => exact ⟨rfl, h.navigation.observe _⟩
      | ok => exact ⟨rfl, h.navigation.observe _⟩
    · obtain ⟨e, p', _, hp, hn, heq⟩ := begin_task_of_not_admits h ha
      rw [heq]
      exact ⟨hp, hn⟩

theorem Sound.after_resume {p : Portal} (h : p.Sound) (pd : Pending) (reply : pd.call.Reply) :
    (p.resume pd reply).portal.session = p.sessionAfterReply pd reply ∧
      (p.resume pd reply).portal.navigation.Faithful := by
  cases pd with
  | grant form =>
    cases reply with
    | error e => exact ⟨rfl, h.navigation⟩
    | ok grant =>
      rw [resume_grant_ok, sessionAfterReply_grant]
      cases p.session.signIn grant.token form.useremail with
      | error e => exact ⟨rfl, h.navigation⟩
      | ok s =>
        let q : Portal := { p with session := s }
        have hn : q.observe.2.navigation.Faithful := h.navigation.observe q.state
        exact after_beginLookup hn [.signedIn] .signIn
  | account form => cases reply <;> exact ⟨rfl, h.navigation⟩
  | farewell state user token => exact ⟨rfl, h.navigation⟩
  | lookup t origin =>
    cases reply with
    | ok body =>
      obtain ⟨p', outcome, hs, hn, heq⟩ := resume_lookup_ok p t origin body
      rw [heq]
      exact ⟨hs, hn h.navigation⟩
    | error e =>
      by_cases hr : p.session.isCurrent t = true ∧ e.isAuthorization = true
      · obtain ⟨p', hs, hn, heq⟩ := resume_lookup_rejected hr.1 origin hr.2
        rw [heq]
        exact ⟨hs.trans (if_pos hr).symm, hn h.navigation⟩
      · obtain ⟨p', notes, hs, hn, heq⟩ := resume_lookup_failed origin hr
        rw [heq]
        exact ⟨hs.trans (if_neg hr).symm, hn h.navigation⟩
  | gated epoch user task =>
    cases reply with
    | ok answer => exact ⟨rfl, h.navigation⟩
    | error e =>
      change (p.resumeTask epoch user task (.error e)).portal.session =
        (if p.Rejects epoch e then _ else _) ∧
          (p.resumeTask epoch user task (.error e)).portal.navigation.Faithful
      by_cases hr : p.Rejects epoch e
      · rw [resume_gated_rejected hr, if_pos hr]
        exact ⟨rfl, h.navigation.observe _⟩
      · rw [resume_gated_failed hr, if_neg hr]
        exact ⟨rfl, h.navigation⟩

/-- What a turn makes of a portal that was sound: it is sound, and its epoch counted rightly. -/
structure Evolves (p q : Portal) : Prop where
  sound : q.Sound
  follows : p.session.Follows q.session

theorem move_sessionAfter (p : Portal) (op : Operation) :
    Session.Move p.session (p.sessionAfter op) := by
  cases op with
  | start => exact Session.move_next p.session .beginLookup
  | refreshRole => exact Session.move_next p.session .beginLookup
  | signIn | signUp | task => exact .stay
  | signOut =>
    unfold sessionAfter
    cases p.state.signedIn with
    | true => exact Session.move_next p.session .signOut
    | false => exact .stay

/-- A granted sign-in is two moves, of which only the first crosses into being signed in. -/
theorem follows_of_grant {p : Portal} (h : p.Sound) {token user : String} {s : Session}
    (hin : p.session.signIn token user = .ok s) :
    (s.next .beginLookup).Consistent ∧ p.session.Follows (s.next .beginLookup) := by
  obtain ⟨hs, ht, hu, heq⟩ := Session.signIn_ok_iff.mp hin
  have hm : Session.Move p.session s := heq ▸ .enter _ _ hs ht hu
  have hc : s.Consistent := h.session.move hm
  have hl : Session.Move s (s.next .beginLookup) := Session.move_next s _
  have hk : (s.next .beginLookup).state.signedIn = s.state.signedIn :=
    congrArg SessionState.signedIn (Session.keeps_beginLookup s).state
  exact ⟨hc.move hl, (h.session.follows_move hm).trans h.session (hc.follows_move hl) (Or.inr hk)⟩

theorem follows_sessionAfterReply {p : Portal} (h : p.Sound) (pd : Pending)
    (reply : pd.call.Reply) :
    (p.sessionAfterReply pd reply).Consistent ∧
      p.session.Follows (p.sessionAfterReply pd reply) := by
  have hmove : ∀ s, Session.Move p.session s → s.Consistent ∧ p.session.Follows s :=
    fun s hm => ⟨h.session.move hm, h.session.follows_move hm⟩
  cases pd with
  | grant form =>
    cases reply with
    | error e => exact hmove _ .stay
    | ok grant =>
      rw [sessionAfterReply_grant]
      cases hin : p.session.signIn grant.token form.useremail with
      | error e => exact hmove _ .stay
      | ok s => exact follows_of_grant h hin
  | account form => exact hmove _ .stay
  | farewell state user token => exact hmove _ .stay
  | lookup t origin =>
    cases reply with
    | ok body => exact hmove _ (Session.move_next p.session (.completeLookup t (.decode body)))
    | error e =>
      unfold sessionAfterReply
      dsimp only
      split
      · exact hmove _ (Session.move_next p.session .reject)
      · exact hmove _ (Session.move_next p.session (.failLookup t))
  | gated epoch user task =>
    cases reply with
    | ok answer => exact hmove _ .stay
    | error e =>
      unfold sessionAfterReply
      dsimp only
      split
      · exact hmove _ (Session.move_next p.session .reject)
      · exact hmove _ .stay

theorem Sound.evolves_begin {p : Portal} (h : p.Sound) (op : Operation) :
    p.Evolves (p.begin op).portal := by
  obtain ⟨hs, hn⟩ := h.after_begin op
  have hm := hs ▸ p.move_sessionAfter op
  exact ⟨⟨h.session.move hm, hn⟩, h.session.follows_move hm⟩

theorem Sound.evolves_resume {p : Portal} (h : p.Sound) (pd : Pending) (reply : pd.call.Reply) :
    p.Evolves (p.resume pd reply).portal := by
  obtain ⟨hs, hn⟩ := h.after_resume pd reply
  obtain ⟨hc, hf⟩ := hs ▸ follows_sessionAfterReply h pd reply
  exact ⟨⟨hc, hn⟩, hf⟩

/-- What was so when the first turn of an operation made a call, and the session after it. -/
def Opens (p : Portal) (op : Operation) (after : Session) : Pending → Prop
  | .grant form => op = .signIn form ∧ form.check = .ok () ∧ p.state.signedIn = false ∧
      after = p.session
  | .account form => op = .signUp form ∧ form.check = .ok () ∧ after = p.session
  | .lookup t _ => p.session.beginLookup = some (t, after)
  | .farewell _ user token => op = .signOut ∧ p.state.signedIn = true ∧
      p.remoteSignOut = true ∧ p.session.credential = ⟨some token, some user⟩ ∧
      after = p.session.drop
  | .gated epoch user task => op = .task task ∧ p.Admits task.section ∧
      task.check = .ok () ∧ epoch = p.session.epoch ∧
      p.session.keyring.user? = some user ∧ after = p.session

theorem beginLookup_waiting {p : Portal} {notes : List Notification} {origin : LookupOrigin}
    {pd : Pending} (h : (p.beginLookup notes origin).next = .waiting pd) :
    ∃ t, pd = .lookup t origin ∧
      p.session.beginLookup = some (t, (p.beginLookup notes origin).portal.session) := by
  cases hb : p.session.beginLookup with
  | none =>
    rw [beginLookup_of_none hb] at h
    cases h
  | some r =>
    obtain ⟨t, s⟩ := r
    rw [beginLookup_of_some hb] at h ⊢
    cases h
    exact ⟨t, rfl, rfl⟩

theorem Sound.opens_of_waiting {p : Portal} (h : p.Sound) {op : Operation} {pd : Pending}
    (hw : (p.begin op).next = .waiting pd) : p.Opens op (p.begin op).portal.session pd := by
  cases op with
  | start =>
    change (p.settle [] .start).next = _ at hw
    change p.Opens _ (p.settle [] .start).portal.session pd
    rw [settle_eq] at hw ⊢
    obtain ⟨t, rfl, hb⟩ := beginLookup_waiting hw
    exact hb
  | refreshRole =>
    obtain ⟨t, rfl, hb⟩ := beginLookup_waiting hw
    exact hb
  | signIn form =>
    rw [begin_signIn] at hw ⊢
    cases hc : form.check with
    | error e =>
      rw [hc] at hw
      cases hw
    | ok =>
      cases hs : p.state.signedIn with
      | true =>
        rw [hc, hs] at hw
        cases hw
      | false =>
        rw [hc, hs] at hw
        cases hw
        exact ⟨rfl, hc, hs, rfl⟩
  | signUp form =>
    change (p.beginSignUp form).next = _ at hw
    change p.Opens _ (p.beginSignUp form).portal.session pd
    unfold beginSignUp at hw ⊢
    cases hc : form.check with
    | error e =>
      rw [hc] at hw
      cases hw
    | ok =>
      rw [hc] at hw
      cases hw
      exact ⟨rfl, hc, rfl⟩
  | signOut =>
    cases hs : p.state.signedIn with
    | false =>
      rw [begin_signOut_of_signedOut hs] at hw
      cases hw
    | true =>
      obtain ⟨token, user, hc, heq⟩ := begin_signOut_of_signedIn h hs
      rw [heq] at hw ⊢
      cases hr : p.remoteSignOut with
      | false =>
        rw [hr] at hw
        cases hw
      | true =>
        rw [hr] at hw
        cases hw
        exact ⟨rfl, hs, hr, hc, rfl⟩
  | task task =>
    by_cases ha : p.Admits task.section
    · obtain ⟨user, hu, heq⟩ := begin_task_of_admits h ha
      rw [heq] at hw ⊢
      cases hc : task.check with
      | error e =>
        rw [hc] at hw
        cases hw
      | ok =>
        rw [hc] at hw
        cases hw
        exact ⟨rfl, ha, hc, rfl, hu, rfl⟩
    · obtain ⟨e, p', _, _, _, heq⟩ := begin_task_of_not_admits h ha
      rw [heq] at hw
      cases hw

theorem lookup_of_resume_waiting {p : Portal} {pd next : Pending} {reply : pd.call.Reply}
    (hw : (p.resume pd reply).next = .waiting next) :
    ∃ form t, ∃ s : Session, pd = .grant form ∧ next = .lookup t .signIn ∧
      s.beginLookup = some (t, (p.resume pd reply).portal.session) := by
  cases pd with
  | grant form =>
    cases reply with
    | error e => cases hw
    | ok grant =>
      rw [resume_grant_ok] at hw ⊢
      cases hin : p.session.signIn grant.token form.useremail with
      | error e =>
        rw [hin] at hw
        cases hw
      | ok s =>
        rw [hin] at hw
        obtain ⟨t, rfl, hb⟩ := beginLookup_waiting hw
        exact ⟨form, t, s, rfl, rfl, hb⟩
  | account form => cases reply <;> cases hw
  | farewell state user token => cases hw
  | lookup t origin =>
    cases reply with
    | ok body =>
      obtain ⟨p', outcome, _, _, heq⟩ := resume_lookup_ok p t origin body
      rw [heq] at hw
      cases hw
    | error e =>
      by_cases hr : p.session.isCurrent t = true ∧ e.isAuthorization = true
      · obtain ⟨p', _, _, heq⟩ := resume_lookup_rejected hr.1 origin hr.2
        rw [heq] at hw
        cases hw
      · obtain ⟨p', notes, _, _, heq⟩ := resume_lookup_failed origin hr
        rw [heq] at hw
        cases hw
  | gated epoch user task => cases reply <;> cases hw

end InsectPortal.Portal
