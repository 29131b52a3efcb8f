import InsectPortal.Proofs.BoundaryNotice

/-!
# What the user is told of failures

An operation that fails tells the user so in one notification of level error, and one that succeeds in
none. Two kinds of failure are passed over: a rejected call of a section whose session has ended, and
a role lookup whose session has ended. The lookup within a sign-in, or within the start of the portal,
counts as an operation of its own.
-/
namespace InsectPortal

namespace Notification

def isError (n : Notification) : Bool := n.level == .error

theorem isError_ofFailure (e : Failure) : (ofFailure e).isError = true :=
  beq_iff_eq.mpr (ofFailure_level e)

theorem isError_ofSignInFailure (e : Failure) : (ofSignInFailure e).isError = true := by
  unfold ofSignInFailure
  split
  · rfl
  · exact isError_ofFailure e
  · rfl

theorem isError_ofSignUpFailure (e : Failure) : (ofSignUpFailure e).isError = true := by
  unfold ofSignUpFailure
  split <;> rfl

theorem isError_announcement {task : SectionTask} {n : Notification}
    (h : task.announcement? = some n) : n.isError = false := by
  cases task <;> cases h <;> rfl

end Notification

namespace Turn

def errors (t : Turn) : List Notification := t.notes.filter (·.isError)

def failure? (t : Turn) : Option Failure :=
  match t.next with
  | .finished (.error e) => some e
  | _ => none

/-- The failure the turn ends with is told, and nothing else is told of failures. -/
def Reports (t : Turn) (notice : Failure → Notification) : Prop :=
  t.errors = t.failure?.toList.map notice

variable {p : Portal} {t : Turn} {notice : Failure → Notification}

theorem errors_eq_nil (h : ∀ n ∈ t.notes, n.isError = false) : t.errors = [] := by
  apply List.filter_eq_nil_iff.mpr
  intro n hn
  simp [h n hn]

theorem reports_of_silent (h : t.errors = []) (hf : t.failure? = none) : t.Reports notice := by
  rw [Reports, h, hf]
  rfl

theorem reports_finish (e : Failure) (h : (notice e).isError = true) :
    (finish p [notice e] (.error e)).Reports notice := by
  change [notice e].filter (·.isError) = [notice e]
  rw [List.filter_cons_of_pos h, List.filter_nil]

theorem reports_refuse (p : Portal) (e : Failure) : (refuse p e).Reports .ofFailure :=
  reports_finish e (Notification.isError_ofFailure e)

theorem reports_wait (p : Portal) (pd : Pending) : (wait p [] pd).Reports notice :=
  reports_of_silent rfl rfl

end Turn

namespace Portal

variable {p : Portal} {notice : Failure → Notification}

theorem failure?_beginLookup (p : Portal) (notes : List Notification) (origin : LookupOrigin) :
    (p.beginLookup notes origin).failure? = none := by
  cases h : p.session.beginLookup with
  | none =>
    rw [beginLookup_of_none h]
    cases origin <;> rfl
  | some r =>
    rw [beginLookup_of_some h]
    rfl

theorem reports_beginLookup {notes : List Notification} (hn : ∀ n ∈ notes, n.isError = false)
    (origin : LookupOrigin) : (p.beginLookup notes origin).Reports notice := by
  refine Turn.reports_of_silent (Turn.errors_eq_nil ?_) (failure?_beginLookup p notes origin)
  rw [beginLookup_notes]
  exact hn

theorem begin_reports (h : p.Sound) (op : Operation) : (p.begin op).Reports .ofFailure := by
  cases op with
  | start =>
    change (p.settle [] .start).Reports _
    rw [settle_eq]
    exact reports_beginLookup (by simp) .start
  | refreshRole => exact reports_beginLookup (by simp) .refresh
  | signIn form =>
    rw [begin_signIn]
    cases form.check with
    | error e => exact Turn.reports_refuse p e
    | ok =>
      cases p.state.signedIn with
      | true => exact Turn.reports_refuse p _
      | false => exact Turn.reports_wait p _
  | signUp form =>
    change (p.beginSignUp form).Reports _
    unfold beginSignUp
    cases form.check with
    | error e => exact Turn.reports_refuse p e
    | ok => exact Turn.reports_wait p _
  | signOut =>
    cases hs : p.state.signedIn with
    | false =>
      rw [begin_signOut_of_signedOut hs]
      exact Turn.reports_refuse p _
    | true =>
      obtain ⟨token, user, _, heq⟩ := begin_signOut_of_signedIn h hs
      rw [heq]
      cases p.remoteSignOut <;> exact Turn.reports_of_silent rfl rfl
  | task task =>
    by_cases ha : p.Admits task.section
    · obtain ⟨user, _, heq⟩ := begin_task_of_admits h ha
      rw [heq]
      cases task.check with
      | error e => exact Turn.reports_refuse _ e
      | ok => exact Turn.reports_wait _ _
    · obtain ⟨e, p', _, _, _, heq⟩ := begin_task_of_not_admits h ha
      rw [heq]
      exact Turn.reports_refuse p' e

theorem resume_grant_reports (p : Portal) (form : SignInForm)
    (reply : (Pending.grant form).call.Reply) :
    ∃ notice, (p.resume (.grant form) reply).Reports notice := by
  cases reply with
  | error e =>
    exact ⟨_, Turn.reports_finish e (Notification.isError_ofSignInFailure e)⟩
  | ok grant =>
    refine ⟨.ofFailure, ?_⟩
    rw [resume_grant_ok]
    cases p.session.signIn grant.token form.useremail with
    | error e => exact Turn.reports_refuse p e
    | ok s =>
      refine reports_beginLookup ?_ .signIn
      intro n hn
      rw [List.mem_singleton.mp hn]
      rfl

theorem resume_account_reports (p : Portal) (form : SignUpForm)
    (reply : (Pending.account form).call.Reply) :
    (p.resume (.account form) reply).Reports .ofSignUpFailure := by
  cases reply with
  | error e => exact Turn.reports_finish e (Notification.isError_ofSignUpFailure e)
  | ok _ => exact Turn.reports_of_silent rfl rfl

/-- A failure that is reported is told, unless it rejects the token of a session that has ended. -/
theorem report_errors (p : Portal) (epoch : Nat) (e : Failure) (outcome : Outcome) :
    (Turn.finish (p.report epoch e).1 (p.report epoch e).2 outcome).errors =
      if e.isAuthorization = true ∧ ¬ p.Rejects epoch e then [] else [.ofFailure e] := by
  have htold : [Notification.ofFailure e].filter (·.isError) = [.ofFailure e] :=
    List.filter_cons_of_pos (Notification.isError_ofFailure e)
  by_cases hr : p.Rejects epoch e
  · rw [report_of_rejects hr, if_neg fun h => h.2 hr]
    exact htold
  · rw [report_of_not_rejects hr]
    by_cases ha : e.isAuthorization = true
    · rw [if_pos ha, if_pos (And.intro ha hr)]
      rfl
    · rw [if_neg ha, if_neg (mt And.left ha)]
      exact htold

theorem resume_gated_ok (p : Portal) (epoch : Nat) (user : String) (task : SectionTask)
    (answer : (task.call user).Answer) :
    (p.resume (.gated epoch user task) (.ok answer)).errors = [] := by
  apply Turn.errors_eq_nil
  intro n hn
  exact Notification.isError_announcement (Option.mem_toList.mp hn)

theorem resume_lookup_errors (p : Portal) (t : Ticket) (origin : LookupOrigin) (e : Failure) :
    (p.resume (.lookup t origin) (.error e)).errors =
      if p.session.isCurrent t = true then [.ofFailure e] else [] := by
  cases hc : p.session.isCurrent t with
  | false =>
    rw [resume_lookup_of_not_current hc]
    rfl
  | true =>
    obtain ⟨hs, he, _⟩ := Session.isCurrent_iff.mp hc
    rw [resume_lookup_of_current hc, if_pos rfl]
    dsimp only
    rw [report_errors, if_neg]
    rintro ⟨ha, hr⟩
    exact hr ⟨ha, he, hs⟩

theorem resume_lookup_silent (p : Portal) (t : Ticket) (origin : LookupOrigin) (body : String) :
    (p.resume (.lookup t origin) (.ok body)).errors = [] ∧
      (p.resume (.lookup t origin) (.ok body)).failure? = none := by
  obtain ⟨p', outcome, _, _, heq⟩ := resume_lookup_ok p t origin body
  rw [heq]
  exact ⟨rfl, rfl⟩

theorem failure?_of_lookup_error (p : Portal) (t : Ticket) (origin : LookupOrigin) (e : Failure) :
    (p.resume (.lookup t origin) (.error e)).failure? =
      if origin = .refresh then some e else none := by
  rcases hf : p.session.failLookup t with ⟨current, s⟩
  rw [resume_lookup_error origin e hf]
  cases origin <;> rfl

end Portal

/-- The call is a role lookup within another operation. -/
def Pending.isWithin : Pending → Bool
  | .lookup _ origin => origin != .refresh
  | _ => false

namespace World

def notesOf (w : World) (n : Nat) : List Notification :=
  w.history.filterMap fun
    | .noted m note => if m = n then some note else none
    | _ => none

theorem notesOf_next {w : World} {e : Event} {m : Nat} {t : Turn} (h : w.turn? e = some (m, t))
    (n : Nat) : (w.next e).notesOf n = w.notesOf n ++ if m = n then t.notes else [] := by
  rw [notesOf, filterMap_history_next ?_ h]
  · by_cases hm : m = n
    · simp [notesOf, hm]
    · simp [notesOf, hm]
  · intro x hx
    cases x with
    | noted m note => exact absurd rfl (hx m note)
    | _ => rfl

end World

namespace Run

/-- What event `k` tells the user in a turn of operation `n`. -/
def tells (r : Run) (k n : Nat) : List Notification :=
  match (r.world k).turn? (r.event k) with
  | some (m, t) => if m = n then t.notes else []
  | none => []

def looksUp (r : Run) (k n : Nat) : Bool := ((r.world k).pending? n).any (·.isWithin)

/-- What event `k` tells of failures of operation `n` itself. -/
def ownErrors (r : Run) (k n : Nat) : List Notification :=
  if r.looksUp k n then [] else (r.tells k n).filter (·.isError)

/-- What the user has been told of failures of operation `n` itself. -/
def errorsBy (r : Run) (k n : Nat) : List Notification :=
  (List.range k).flatMap fun j => r.ownErrors j n

def Opened (r : Run) (n : Nat) (op : Operation) : Prop :=
  ∃ i, r.event i = .start op ∧ (r.world i).started = n

/-- A failure that is passed over: a rejected call of a section, or a role lookup, whose session has
ended since. -/
inductive Excused (r : Run) (k n : Nat) (e : Failure) : Prop where
  | task {i epoch user task} : r.Waits n i k (.gated epoch user task) → e.isAuthorization = true →
      ¬ r.OneSession (i + 1) k → Excused r k n e
  | refresh {i t} : r.Waits n i k (.lookup t .refresh) → ¬ r.OneSession (i + 1) k → Excused r k n e

variable {r : Run} {k n : Nat} {t : Turn}

theorem tells_of_takes (h : r.Takes k n t) : r.tells k n = t.notes := by
  rw [tells, h]
  exact if_pos rfl

theorem tells_of_not_takes (h : ∀ t, ¬ r.Takes k n t) : r.tells k n = [] := by
  unfold tells
  cases ht : (r.world k).turn? (r.event k) with
  | none => rfl
  | some p =>
    refine if_neg fun hn => h p.2 ?_
    rw [Takes, ht, ← hn]

theorem notesOf_succ (r : Run) (k n : Nat) :
    (r.world (k + 1)).notesOf n = (r.world k).notesOf n ++ r.tells k n := by
  change ((r.world k).next (r.event k)).notesOf n = _
  unfold tells
  cases ht : (r.world k).turn? (r.event k) with
  | none => rw [World.next_of_no_turn ht, List.append_nil]
  | some p => exact World.notesOf_next ht n

theorem notesOf_eq (r : Run) (k n : Nat) :
    (r.world k).notesOf n = (List.range k).flatMap (r.tells · n) := by
  induction k with
  | zero => rfl
  | succ k ih =>
    rw [notesOf_succ, ih, List.range_succ, List.flatMap_append]
    simp

theorem Opened.unique {op op' : Operation} (h : r.Opened n op) (h' : r.Opened n op') : op = op' := by
  obtain ⟨i, hi, hn⟩ := h
  obtain ⟨j, hj, hn'⟩ := h'
  obtain rfl := start_unique hi hj (hn.trans hn'.symm)
  exact Event.start.inj (hi.symm.trans hj)

theorem opened_of_grant {form : SignInForm} (h : (r.world k).pending? n = some (.grant form)) :
    r.Opened n (.signIn form) := by
  obtain ⟨i, hw⟩ := exists_waits h
  obtain ⟨he, hn, _⟩ := opens_of_makes_grant hw.makes
  exact ⟨i, he, hn.symm⟩

theorem opened_of_account {form : SignUpForm} (h : (r.world k).pending? n = some (.account form)) :
    r.Opened n (.signUp form) := by
  obtain ⟨i, hw⟩ := exists_waits h
  rcases opens_or_lookup hw.makes with ⟨op, he, hn, rfl, _⟩ | ⟨t, s, heq, _⟩
  · exact ⟨i, he, hn.symm⟩
  · cases heq

theorem excused_iff_of_gated {epoch : Nat} {user : String} {task : SectionTask} {e : Failure}
    (h : (r.world k).pending? n = some (.gated epoch user task)) :
    r.Excused k n e ↔ e.isAuthorization = true ∧ ¬ (r.world k).portal.Rejects epoch e := by
  obtain ⟨i, hw⟩ := exists_waits h
  constructor
  · rintro (⟨hw', ha, hone⟩ | ⟨hw', _⟩)
    · cases h.symm.trans hw'.pending
      exact ⟨ha, fun hr => hone ((rejects_iff_oneSession hw' e).mp hr).2⟩
    · cases h.symm.trans hw'.pending
  · rintro ⟨ha, hr⟩
    exact .task hw ha fun hone => hr ((rejects_iff_oneSession hw e).mpr ⟨ha, hone⟩)

theorem excused_iff_of_refresh {t : Ticket} {e : Failure}
    (h : (r.world k).pending? n = some (.lookup t .refresh)) :
    r.Excused k n e ↔ ¬ (r.session k).isCurrent t = true := by
  obtain ⟨i, hw⟩ := exists_waits h
  constructor
  · rintro (⟨hw', _⟩ | ⟨hw', hone⟩)
    · cases h.symm.trans hw'.pending
    · cases h.symm.trans hw'.pending
      exact mt (isCurrent_iff_oneSession hw').mp hone
  · intro hc
    exact .refresh hw (mt (isCurrent_iff_oneSession hw).mpr hc)

theorem not_excused_of_pending {e : Failure}
    (hg : ∀ epoch user task, (r.world k).pending? n ≠ some (.gated epoch user task))
    (hl : ∀ t, (r.world k).pending? n ≠ some (.lookup t .refresh)) : ¬ r.Excused k n e := by
  rintro (⟨hw, _⟩ | ⟨hw, _⟩)
  · exact hg _ _ _ hw.pending
  · exact hl _ hw.pending

/-- What a turn of an operation tells of its own failures: the one it ends with, unless that is passed
over. -/
inductive OwnTurn (r : Run) (k n : Nat) (t : Turn) : Prop where
  | told (notice : Failure → Notification) : r.ownErrors k n = t.failure?.toList.map notice →
      (∀ e, t.failure? = some e → ¬ r.Excused k n e) →
      (∀ task, r.Opened n (.task task) → notice = .ofFailure) → OwnTurn r k n t
  | passedOver (e : Failure) : r.ownErrors k n = [] → t.failure? = some e → r.Excused k n e →
      OwnTurn r k n t

theorem ownErrors_of_takes (h : r.Takes k n t) (hl : r.looksUp k n = false) :
    r.ownErrors k n = t.errors := by
  rw [ownErrors, hl, tells_of_takes h]
  rfl

theorem ownErrors_of_pending {pd : Pending} (h : r.Takes k n t)
    (hp : (r.world k).pending? n = some pd) (hwithin : pd.isWithin = false) :
    r.ownErrors k n = t.errors := by
  apply ownErrors_of_takes h
  rw [looksUp, hp]
  exact hwithin

theorem ownTurn_of_silent (h : r.ownErrors k n = []) (hf : t.failure? = none) :
    r.OwnTurn k n t := by
  refine .told .ofFailure ?_ ?_ fun _ _ => rfl
  · rw [h, hf]
    rfl
  · intro e he
    cases hf.symm.trans he

theorem pending_of_started (r : Run) (k : Nat) : (r.world k).pending? (r.world k).started = none :=
  World.pending?_eq_none fun entry he => Nat.ne_of_lt (r.numbered k entry he)

theorem ownTurn_of_start {op : Operation} (h : r.Takes k n ((r.world k).portal.begin op))
    (hn : n = (r.world k).started) : r.OwnTurn k n ((r.world k).portal.begin op) := by
  have hnone : (r.world k).pending? n = none := by
    rw [hn]
    exact r.pending_of_started k
  have hown : r.ownErrors k n = _ := ownErrors_of_takes h (by rw [looksUp, hnone]; rfl)
  refine .told .ofFailure (hown.trans (Portal.begin_reports (r.sound k) op)) ?_ fun _ _ => rfl
  intro e _
  exact not_excused_of_pending (by simp [hnone]) (by simp [hnone])

theorem ownTurn_of_lookup {t : Ticket} {origin : LookupOrigin}
    {reply : (Pending.lookup t origin).call.Reply}
    (h : r.Takes k n ((r.world k).portal.resume (.lookup t origin) reply))
    (hp : (r.world k).pending? n = some (.lookup t origin)) :
    r.OwnTurn k n ((r.world k).portal.resume (.lookup t origin) reply) := by
  by_cases ho : origin = .refresh
  · subst ho
    have hown : r.ownErrors k n = _ := ownErrors_of_pending h hp rfl
    cases reply with
    | ok body =>
      obtain ⟨herrors, hnone⟩ := (r.world k).portal.resume_lookup_silent t .refresh body
      exact ownTurn_of_silent (hown.trans herrors) hnone
    | error e =>
      have hsome : ((r.world k).portal.resume (.lookup t .refresh) (.error e)).failure? = some e :=
        Portal.failure?_of_lookup_error _ t .refresh e
      have hexcused := excused_iff_of_refresh hp (e := e)
      rw [Portal.resume_lookup_errors] at hown
      by_cases hcur : (r.world k).portal.session.isCurrent t = true
      · rw [if_pos hcur] at hown
        have hx : ¬ r.Excused k n e := fun hx => hexcused.mp hx hcur
        refine .told .ofFailure ?_ ?_ fun _ _ => rfl
        · rw [hown, hsome]
          rfl
        · intro e' he
          rwa [← Option.some.inj (hsome.symm.trans he)]
      · rw [if_neg hcur] at hown
        exact .passedOver e hown hsome (hexcused.mpr hcur)
  · -- what a lookup within another operation tells is not the operation's own
    have hwithin : r.looksUp k n = true := by
      rw [looksUp, hp]
      exact bne_iff_ne.mpr ho
    apply ownTurn_of_silent (if_pos hwithin)
    cases reply with
    | ok body => exact ((r.world k).portal.resume_lookup_silent t origin body).2
    | error e => rw [Portal.failure?_of_lookup_error, if_neg ho]

theorem ownTurn_of_gated {epoch : Nat} {user : String} {task : SectionTask}
    {reply : (Pending.gated epoch user task).call.Reply}
    (h : r.Takes k n ((r.world k).portal.resume (.gated epoch user task) reply))
    (hp : (r.world k).pending? n = some (.gated epoch user task)) :
    r.OwnTurn k n ((r.world k).portal.resume (.gated epoch user task) reply) := by
  have hown : r.ownErrors k n = _ := ownErrors_of_pending h hp rfl
  cases reply with
  | ok value =>
    have hsilent := (r.world k).portal.resume_gated_ok epoch user task value
    exact ownTurn_of_silent (hown.trans hsilent) rfl
  | error e =>
    rw [Portal.resume, Portal.resumeTask, Portal.failTask, Portal.report_errors] at hown
    by_cases hx : r.Excused k n e
    · rw [if_pos ((excused_iff_of_gated hp).mp hx)] at hown
      exact .passedOver e hown rfl hx
    · rw [if_neg (mt (excused_iff_of_gated hp).mpr hx)] at hown
      refine .told .ofFailure hown ?_ fun _ _ => rfl
      intro e' he
      rwa [← Option.some.inj he]

theorem ownTurn_of_reply {pd : Pending} {reply : pd.call.Reply}
    (h : r.Takes k n ((r.world k).portal.resume pd reply)) (hp : (r.world k).pending? n = some pd) :
    r.OwnTurn k n ((r.world k).portal.resume pd reply) := by
  cases pd with
  | grant form =>
    have hown : r.ownErrors k n = _ := ownErrors_of_pending h hp rfl
    obtain ⟨notice, hrep⟩ := (r.world k).portal.resume_grant_reports form reply
    refine .told notice (hown.trans hrep) ?_ ?_
    · exact fun e _ => not_excused_of_pending (by simp [hp]) (by simp [hp])
    · intro task htask
      cases (opened_of_grant hp).unique htask
  | account form =>
    have hown : r.ownErrors k n = _ := ownErrors_of_pending h hp rfl
    have hrep := (r.world k).portal.resume_account_reports form reply
    refine .told _ (hown.trans hrep) ?_ ?_
    · exact fun e _ => not_excused_of_pending (by simp [hp]) (by simp [hp])
    · intro task htask
      cases (opened_of_account hp).unique htask
  | farewell state user token =>
    exact ownTurn_of_silent (ownErrors_of_pending h hp rfl) rfl
  | lookup t origin => exact ownTurn_of_lookup h hp
  | gated epoch user task => exact ownTurn_of_gated h hp

theorem ownTurn (h : r.Takes k n t) : r.OwnTurn k n t := by
  rcases World.turn_cases h with ⟨op, _, hn, rfl⟩ | ⟨answer, pd, _, hp, rfl⟩
  · exact ownTurn_of_start h hn
  · exact ownTurn_of_reply h hp

theorem Answered.takes_lookup {user : String} {i : Nat} {reply : (Call.checkRole user).Reply}
    (h : r.Answered n (.checkRole user) i k reply) :
    ∃ t origin, r.Waits n i k (.lookup t origin) ∧
      r.Takes k n ((r.world k).portal.resume (.lookup t origin) reply) := by
  obtain ⟨pd, answer, hw, hc, he, rfl⟩ := h
  obtain ⟨t, origin, rfl, rfl⟩ := Pending.lookup_of_call hc
  exact ⟨t, origin, hw, hw.takes he⟩

/-- Operation `n` has not ended by moment `k`; it may not have started either. -/
def IsOpen (r : Run) (k n : Nat) : Prop :=
  (r.world k).started ≤ n ∨ (r.world k).pending? n ≠ none

theorem isOpen_of_takes (h : r.Takes k n t) : r.IsOpen k n := by
  rcases World.turn_cases h with ⟨op, _, hn, _⟩ | ⟨answer, pd, _, hp, _⟩
  · exact Or.inl (Nat.le_of_eq hn.symm)
  · exact Or.inr (by rw [hp]; exact Option.some_ne_none pd)

theorem started_of_takes (h : r.Takes k n t) : n < (r.world (k + 1)).started := by
  rcases World.turn_cases h with ⟨op, he, hn, _⟩ | ⟨answer, pd, _, hp, _⟩
  · rw [hn, world_start he, World.start, World.take_started]
    exact Nat.lt_succ_self _
  · have hlt := World.started_of_pending (r.numbered k) hp
    have hle := r.started_le_next k
    omega

theorem pending_of_not_takes (h : ∀ t, ¬ r.Takes k n t) :
    (r.world (k + 1)).pending? n = (r.world k).pending? n := by
  cases ht : (r.world k).turn? (r.event k) with
  | none =>
    have hw : r.world (k + 1) = r.world k := World.next_of_no_turn ht
    rw [hw]
  | some p =>
    rw [takes_pending? ht, if_neg]
    intro hn
    rw [hn] at h
    exact h p.2 ht

theorem ownErrors_of_not_takes (h : ∀ t, ¬ r.Takes k n t) : r.ownErrors k n = [] := by
  rw [ownErrors, tells_of_not_takes h]
  split <;> rfl

theorem ownErrors_of_waiting (h : r.Takes k n t) (hf : t.failure? = none) :
    r.ownErrors k n = [] := by
  cases r.ownTurn h with
  | told notice hown =>
    rw [hown, hf]
    rfl
  | passedOver _ hown => exact hown

/-- As long as an operation has not ended, it tells nothing of failures. -/
theorem IsOpen.before (h : r.IsOpen (k + 1) n) : r.IsOpen k n ∧ r.ownErrors k n = [] := by
  by_cases ht : ∃ t, r.Takes k n t
  · obtain ⟨t, ht⟩ := ht
    refine ⟨isOpen_of_takes ht, ownErrors_of_waiting ht ?_⟩
    have hlt := started_of_takes ht
    have hp := h.resolve_left (by omega)
    rw [takes_pending? ht, if_pos rfl] at hp
    unfold Turn.pending? at hp
    unfold Turn.failure?
    cases hnext : t.next with
    | finished outcome =>
      rw [hnext] at hp
      exact absurd rfl hp
    | waiting pd => rfl
  · have hnone := not_exists.mp ht
    refine ⟨?_, ownErrors_of_not_takes hnone⟩
    rcases h with hs | hp
    · exact Or.inl (Nat.le_trans (r.started_le_next k) hs)
    · exact Or.inr (pending_of_not_takes hnone ▸ hp)

theorem errorsBy_succ (r : Run) (k n : Nat) :
    r.errorsBy (k + 1) n = r.errorsBy k n ++ r.ownErrors k n := by
  rw [errorsBy, List.range_succ, List.flatMap_append, ← errorsBy]
  simp

theorem errorsBy_of_isOpen (h : r.IsOpen k n) : r.errorsBy k n = [] := by
  -- backwards: what is open at a moment has been open, or not yet begun, at each moment before
  induction k with
  | zero => rfl
  | succ k ih =>
    obtain ⟨hopen, hown⟩ := h.before
    rw [errorsBy_succ, ih hopen, hown]
    rfl

theorem Ends.not_isOpen {outcome : Outcome} (h : r.Ends k n outcome) : ¬ r.IsOpen (k + 1) n := by
  obtain ⟨t, ht, hnext⟩ := h
  rintro (hs | hp)
  · have hlt := started_of_takes ht
    omega
  · apply hp
    rw [takes_pending? ht, if_pos rfl, Turn.pending?, hnext]

theorem Ends.errorsBy {outcome : Outcome} (h : r.Ends k n outcome) {m : Nat} (hm : k < m) :
    r.errorsBy m n = r.ownErrors k n := by
  have hafter : ∀ j, ¬ r.IsOpen (k + 1 + j) n ∧ r.errorsBy (k + 1 + j) n = r.ownErrors k n := by
    intro j
    induction j with
    | zero =>
      obtain ⟨t, ht, _⟩ := id h
      refine ⟨h.not_isOpen, ?_⟩
      rw [Nat.add_zero, errorsBy_succ, errorsBy_of_isOpen (isOpen_of_takes ht)]
      rfl
    | succ j ih =>
      obtain ⟨hclosed, herrors⟩ := ih
      refine ⟨fun ho => hclosed ho.before.1, ?_⟩
      have hnone := ownErrors_of_not_takes fun t ht => hclosed (isOpen_of_takes ht)
      rw [← Nat.add_assoc, errorsBy_succ, herrors, hnone, List.append_nil]
  have hsplit : m = k + 1 + (m - (k + 1)) := by omega
  rw [hsplit]
  exact (hafter _).2

/-- An operation that fails tells it once, by a notification of level error, unless the failure is
passed over, and one that succeeds tells nothing of the kind. An operation of a section tells of
the very failure it ends with. The lookup within another operation does as much on its own: it tells
of its failure once, unless its session has ended. -/
theorem failures_told_once (r : Run) :
    (∀ k n, (r.world k).notesOf n = (List.range k).flatMap (r.tells · n)) ∧
    (∀ k n v m, r.Ends k n (.ok v) → k < m → r.errorsBy m n = []) ∧
    (∀ k n e m, r.Ends k n (.error e) → k < m →
      (r.Excused k n e → r.errorsBy m n = []) ∧
      (¬ r.Excused k n e → ∃ note, r.errorsBy m n = [note]) ∧
      ∀ task, r.Opened n (.task task) → ¬ r.Excused k n e →
        r.errorsBy m n = [.ofFailure e]) ∧
    (∀ n user i k body, r.Answered n (.checkRole user) i k (.ok body) →
      (r.tells k n).filter (·.isError) = []) ∧
    (∀ n user i k e, r.Answered n (.checkRole user) i k (.error e) →
      (r.OneSession (i + 1) k → (r.tells k n).filter (·.isError) = [.ofFailure e]) ∧
      (¬ r.OneSession (i + 1) k → (r.tells k n).filter (·.isError) = [])) := by
  refine ⟨r.notesOf_eq, ?succeeds, ?fails, ?found, ?lost⟩
  case succeeds =>
    intro k n v m h hm
    obtain ⟨t, ht, hnext⟩ := id h
    rw [h.errorsBy hm]
    refine ownErrors_of_waiting ht ?_
    rw [Turn.failure?, hnext]
  case fails =>
    intro k n e m h hm
    obtain ⟨t, ht, hnext⟩ := id h
    have hf : t.failure? = some e := by rw [Turn.failure?, hnext]
    rw [h.errorsBy hm]
    cases r.ownTurn ht with
    | told notice hown hnot htask =>
      have hx := hnot e hf
      rw [hown, hf]
      refine ⟨fun hx' => absurd hx' hx, fun _ => ⟨notice e, rfl⟩, fun task ho _ => ?_⟩
      rw [htask task ho]
      rfl
    | passedOver e' hown hf' hx =>
      obtain rfl := Option.some.inj (hf'.symm.trans hf)
      exact ⟨fun _ => hown, fun hn => absurd hx hn, fun _ _ hn => absurd hx hn⟩
  case found =>
    intro n user i k body h
    obtain ⟨t, origin, _, ht⟩ := h.takes_lookup
    rw [tells_of_takes ht]
    exact (Portal.resume_lookup_silent _ t origin body).1
  case lost =>
    intro n user i k e h
    obtain ⟨t, origin, hw, ht⟩ := h.takes_lookup
    have htold := (r.world k).portal.resume_lookup_errors t origin e
    have hcur : (r.world k).portal.session.isCurrent t = true ↔ r.OneSession (i + 1) k :=
      isCurrent_iff_oneSession hw
    rw [tells_of_takes ht]
    constructor
    · intro hone
      exact htold.trans (if_pos (hcur.mpr hone))
    · intro hone
      exact htold.trans (if_neg (mt hcur.mp hone))

/-- A user asks for the profile, signs out, and only then is the token rejected. The next sign-out is
refused. -/
def outpaced : Run where
  items := (Items.empty.insert Items.tokenKey "token").insert Items.userKey "user"
  remoteSignOut := false
  event
    | 0 => .start (.task .userInfo)
    | 2 => .reply 0 fun _ => .error (.authorization "token" "expired")
    | _ => .start .signOut

theorem late_rejection_passed_over :
    outpaced.Ends 2 0 (.error (.authorization "token" "expired")) ∧ outpaced.errorsBy 4 0 = [] ∧
      outpaced.Ends 3 2 (.error .notSignedIn) ∧ ∃ note, outpaced.errorsBy 4 2 = [note] := by
  obtain ⟨_, _, fails, _⟩ := failures_told_once outpaced
  have hends : outpaced.Ends 2 0 (.error (.authorization "token" "expired")) := ⟨_, rfl, rfl⟩
  have hrefused : outpaced.Ends 3 2 (.error .notSignedIn) := ⟨_, rfl, rfl⟩
  have hwaits : outpaced.Waits 0 0 2 (.gated 0 "user" .userInfo) := by
    refine ⟨⟨_, rfl, rfl⟩, by omega, fun m hm hm' => ?_⟩
    have hcases : m = 1 ∨ m = 2 := by omega
    rcases hcases with rfl | rfl <;> rfl
  have hexcused : outpaced.Excused 2 0 (.authorization "token" "expired") := by
    refine .task hwaits rfl fun hone => ?_
    have hlive := hone.last
    revert hlive
    unfold Live
    decide +kernel
  have htold : ¬ outpaced.Excused 3 2 .notSignedIn :=
    not_excused_of_pending (fun _ _ _ h => by cases h) fun _ h => by cases h
  exact ⟨hends, (fails 2 0 _ 4 hends (by omega)).1 hexcused, hrefused,
    (fails 3 2 _ 4 hrefused (by omega)).2.1 htold⟩

end Run

end InsectPortal
