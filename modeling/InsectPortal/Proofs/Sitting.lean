import InsectPortal.Console.Basic
import InsectPortal.Proofs.TurnEffect

/-!
# Sittings

A sitting is a console that is fed an endless list of lines, over a service that may reply to each
call whatever it likes. Moments are counted by lines: line `k` leads from moment `k` to moment
`k + 1`. What a line does is told by its command, and what the command does by the calls that its
operation makes, with the replies to them.
-/
namespace InsectPortal

/-- A call that was made, with its reply. -/
structure Inquiry where
  call : Call
  reply : call.Reply

/-- What is replied to a call that a portal makes, after the inquiries before. -/
abbrev Service := List Inquiry → Portal → (c : Call) → c.Reply

def Service.answer (service : Service) (p : Portal) (c : Call) :
    StateM (List Inquiry) c.Reply := do
  let reply := service (← get) p c
  modify (· ++ [⟨c, reply⟩])
  return reply

namespace Turn

def goOn (t : Turn) (pd : Pending) (reply : pd.call.Reply) : Turn :=
  { t.portal.resume pd reply with notes := t.notes ++ (t.portal.resume pd reply).notes }

/-- The operation goes on from one turn to its last one, and these are the calls it makes. -/
inductive Leads : Turn → List Inquiry → Turn → Prop where
  | finished {t outcome} : t.next = .finished outcome → Leads t [] t
  | asked {t t' pd reply rest} : t.next = .waiting pd → Leads (t.goOn pd reply) rest t' →
      Leads t (⟨pd.call, reply⟩ :: rest) t'

def Within : Nat → Turn → Prop
  | 0, t => ∃ outcome, t.next = .finished outcome
  | n + 1, t => ∀ pd reply, t.next = .waiting pd → (t.goOn pd reply).Within n

theorem within_maxCalls (t : Turn) : t.Within Portal.maxCalls := by
  intro pd reply _ next reply' hnext
  obtain ⟨_, _, _, _, rfl, _⟩ := Portal.lookup_of_resume_waiting hnext
  cases hlast : ((t.goOn pd reply).goOn _ reply').next with
  | finished outcome => exact ⟨outcome, hlast⟩
  | waiting pd' =>
    obtain ⟨_, _, _, hgrant, _⟩ := Portal.lookup_of_resume_waiting hlast
    cases hgrant

theorem Leads.of_finished {t t' : Turn} {asked : List Inquiry} (h : t.Leads asked t')
    {outcome : Outcome} (hnext : t.next = .finished outcome) : asked = [] ∧ t' = t := by
  cases h with
  | finished => exact ⟨rfl, rfl⟩
  | asked hwait =>
    rw [hnext] at hwait
    cases hwait

theorem Leads.of_waiting {t t' : Turn} {asked : List Inquiry} (h : t.Leads asked t')
    {pd : Pending} (hnext : t.next = .waiting pd) :
    ∃ reply rest, asked = ⟨pd.call, reply⟩ :: rest ∧ (t.goOn pd reply).Leads rest t' := by
  cases h with
  | finished hend =>
    rw [hnext] at hend
    cases hend
  | @asked _ _ pd' reply rest hwait hrest =>
    obtain rfl : pd' = pd := Next.waiting.inj (hwait.symm.trans hnext)
    exact ⟨reply, rest, rfl, hrest⟩

end Turn

namespace Portal

theorem drive_of_waiting {t : Turn} {pd : Pending} (h : t.next = .waiting pd) (service : Service)
    (n : Nat) (log : List Inquiry) :
    (drive service.answer (n + 1) t).run log =
      (drive service.answer n (t.goOn pd (service log t.portal pd.call))).run
        (log ++ [⟨pd.call, service log t.portal pd.call⟩]) := by
  rw [drive]
  simp only [h]
  rfl

theorem drive_leads (service : Service) {n : Nat} {t : Turn} (h : t.Within n)
    (log : List Inquiry) :
    ∃ asked t', (drive service.answer n t).run log = (t', log ++ asked) ∧ t.Leads asked t' := by
  have hdone : ∀ {n : Nat} {t : Turn} {outcome : Outcome} (log : List Inquiry),
      t.next = .finished outcome →
      ∃ asked t', (drive service.answer n t).run log = (t', log ++ asked) ∧ t.Leads asked t' := by
    intro n t outcome log hnext
    refine ⟨[], t, ?_, .finished hnext⟩
    rw [List.append_nil]
    cases n with
    | zero => rfl
    | succ n =>
      rw [drive]
      simp only [hnext]
      rfl
  induction n generalizing t log with
  | zero =>
    obtain ⟨outcome, hnext⟩ := h
    exact hdone log hnext
  | succ n ih =>
    cases hnext : t.next with
    | finished outcome => exact hdone log hnext
    | waiting pd =>
      obtain ⟨rest, t', hrun, hleads⟩ := ih (h pd _ hnext) _
      refine ⟨_, t', ?_, .asked hnext hleads⟩
      rw [drive_of_waiting hnext, hrun, List.append_assoc]
      rfl

theorem run_leads (service : Service) (p : Portal) (op : Operation) (log : List Inquiry) :
    ∃ asked t, (p.run service.answer op).run log = (t, log ++ asked) ∧
      (p.begin op).Leads asked t :=
  drive_leads service (Turn.within_maxCalls _) log

theorem Sound.of_leads {t t' : Turn} {asked : List Inquiry} (h : t.portal.Sound)
    (hl : t.Leads asked t') : t'.portal.Sound := by
  induction hl with
  | finished => exact h
  | @asked t _ pd reply _ _ _ ih => exact ih (h.evolves_resume pd reply).sound

theorem Sound.after_operation {p : Portal} (h : p.Sound) {op : Operation} {t : Turn}
    {asked : List Inquiry} (hl : (p.begin op).Leads asked t) : t.portal.Sound :=
  (h.evolves_begin op).sound.of_leads hl

/-- Whoever is signed in before an operation and after it is in the same session still. -/
theorem Sound.epoch_of_live {p : Portal} (h : p.Sound) {op : Operation} {t : Turn}
    {asked : List Inquiry} (hl : (p.begin op).Leads asked t) (hp : p.state.signedIn = true)
    (ht : t.portal.state.signedIn = true) : t.portal.session.epoch = p.session.epoch := by
  have he := h.evolves_begin op
  have hin : (p.begin op).portal.state.signedIn = true →
      (p.begin op).portal.session.epoch = p.session.epoch := fun hb =>
    he.follows.signedIn_iff_epoch.mp (hb.trans hp.symm)
  cases hl with
  | finished => exact hin ht
  | @asked _ _ pd reply rest hwait hrest =>
    have ho := h.opens_of_waiting hwait
    cases hrest with
    | asked hnext =>
      obtain ⟨form, _, _, rfl, _⟩ := lookup_of_resume_waiting hnext
      exact absurd (hp.symm.trans ho.2.2.1) (by simp)
    | finished =>
      cases hb : (p.begin op).portal.state.signedIn with
      | true =>
        have hr := (he.sound.evolves_resume pd reply).follows
        exact (hr.signedIn_iff_epoch.mp (Eq.trans ht hb.symm)).trans (hin hb)
      | false =>
        -- Only a sign-out ends the session before it asks, and the reply to it signs nobody in.
        have hsame : (p.begin op).portal.session.state ≠ p.session.state := by
          intro hs
          exact absurd (hp.symm.trans ((congrArg (·.signedIn) hs).symm.trans hb)) (by simp)
        cases pd with
        | grant => exact absurd (congrArg Session.state ho.2.2.2) hsame
        | account => exact absurd (congrArg Session.state ho.2.2) hsame
        | gated => exact absurd (congrArg Session.state ho.2.2.2.2.2) hsame
        | lookup =>
          obtain ⟨_, _, _, _, hs⟩ := Session.beginLookup_eq_some_iff.mp ho
          exact absurd (congrArg Session.state hs) hsame
        | farewell => exact absurd (ht.symm.trans hb) (by simp)

end Portal

def Call.IsOfFeedback : Call → Prop
  | .listFeedback _ | .reviewFeedback .. => True
  | _ => False

namespace Portal

theorem Sound.task_of_feedback {p : Portal} (h : p.Sound) {op : Operation} {t : Turn}
    {asked : List Inquiry} (hl : (p.begin op).Leads asked t) {q : Inquiry} (hq : q ∈ asked)
    (hf : q.call.IsOfFeedback) : ∃ task user, op = .task task ∧ q.call = task.call user := by
  cases hl with
  | finished => cases hq
  | @asked _ _ pd reply rest hwait hrest =>
    rcases List.mem_cons.mp hq with rfl | hq
    · have ho := h.opens_of_waiting hwait
      cases pd with
      | gated epoch user task => exact ⟨task, user, ho.1, rfl⟩
      | grant | account | lookup | farewell => exact hf.elim
    · cases hrest with
      | finished => cases hq
      | @asked _ _ next reply' rest' hnext hrest =>
        obtain ⟨_, ticket, _, _, rfl, _⟩ := lookup_of_resume_waiting hnext
        have hend : ∃ outcome, (((p.begin op).goOn pd reply).goOn _ reply').next =
            .finished outcome := Turn.within_maxCalls (p.begin op) pd reply hwait _ reply' hnext
        obtain ⟨outcome, hend⟩ := hend
        obtain ⟨rfl, _⟩ := hrest.of_finished hend
        rw [List.mem_singleton.mp hq] at hf
        exact hf.elim

/-- An operation of a section asks nothing where it is refused. Where it is admitted, it makes its
one call, and the reply decides how it ends. -/
theorem Sound.leads_task {p : Portal} (h : p.Sound) {task : SectionTask} {t : Turn}
    {asked : List Inquiry} (hl : (p.begin (.task task)).Leads asked t) :
    (¬ (p.Admits task.section ∧ task.check = .ok ()) ∧ asked = [] ∧
      ∃ e, t.next = .finished (.error e)) ∨
    (p.Admits task.section ∧ task.check = .ok () ∧
      ∃ user reply, asked = [⟨task.call user, reply⟩] ∧
        t.next = .finished (reply.map (task.call user).value) ∧
        (∀ answer, reply = .ok answer → t.notes = task.announcement?.toList)) := by
  by_cases ha : p.Admits task.section
  · obtain ⟨user, _, heq⟩ := begin_task_of_admits h ha
    rw [heq] at hl
    cases hc : task.check with
    | error e =>
      rw [hc] at hl
      obtain ⟨rfl, rfl⟩ := hl.of_finished rfl
      exact Or.inl ⟨by simp, rfl, e, rfl⟩
    | ok =>
      rw [hc] at hl
      obtain ⟨reply, rest, rfl, hrest⟩ := hl.of_waiting rfl
      refine Or.inr ⟨ha, rfl, user, reply, ?_⟩
      cases reply with
      | error e =>
        obtain ⟨rfl, rfl⟩ := hrest.of_finished rfl
        exact ⟨rfl, rfl, by simp⟩
      | ok answer =>
        obtain ⟨rfl, rfl⟩ := hrest.of_finished rfl
        exact ⟨rfl, rfl, fun _ _ => rfl⟩
  · obtain ⟨e, p', _, _, _, heq⟩ := begin_task_of_not_admits h ha
    rw [heq] at hl
    obtain ⟨rfl, rfl⟩ := hl.of_finished rfl
    exact Or.inl ⟨fun hn => ha hn.1, rfl, e, rfl⟩

end Portal

namespace Console

/-- The command that a line has the console carry out. A sign-out is carried out on the line that
confirms it. -/
def command? (c : Console) : Line → Option Command
  | .unreadable => none
  | .text s =>
    match c.stage with
    | .command =>
      match Command.ofLine? s with
      | some .signOut => if c.portal.state.signedIn then none else some .signOut
      | cmd => cmd
    | .confirm => if isYes s then some .signOut else none
    | .closed _ => none

theorem showSections_sound {c : Console} (h : c.portal.Sound) : c.showSections.1.portal.Sound :=
  ⟨h.session, h.navigation.after_visible c.portal.state⟩

section

variable {m : Type → Type} [Monad m] (answer : Portal → (call : Call) → m call.Reply)

theorem onLine_of_none {c : Console} {line : Line} (h : c.command? line = none) :
    ∃ c' shown, c.onLine answer line = pure (c', shown) ∧ c'.portal = c.portal ∧
      c'.listing = c.listing := by
  obtain ⟨portal, listing, stage⟩ := c
  cases line with
  | unreadable => cases stage <;> exact ⟨_, _, rfl, rfl, rfl⟩
  | text s =>
    cases stage with
    | closed => exact ⟨_, _, rfl, rfl, rfl⟩
    | confirm =>
      have hno : isYes s = false := by simpa [command?] using h
      exact ⟨⟨portal, listing, .command⟩, [], by simp [onLine, onConfirmation, hno], rfl, rfl⟩
    | command =>
      simp only [command?] at h
      cases hcmd : Command.ofLine? s with
      | none => exact ⟨_, _, by rw [onLine, onCommand, hcmd], rfl, rfl⟩
      | some cmd =>
        cases cmd with
        | signOut =>
          have hs : portal.state.signedIn = true := by simpa [hcmd] using h
          exact ⟨⟨portal, listing, .confirm⟩, [], by simp [onLine, onCommand, hcmd, hs], rfl, rfl⟩
        | _ => simp [hcmd] at h

theorem onLine_of_some {c : Console} {line : Line} {cmd : Command}
    (h : c.command? line = some cmd) :
    c.onLine answer line = { c with stage := .command }.execute answer cmd := by
  obtain ⟨portal, listing, stage⟩ := c
  cases line with
  | unreadable => cases h
  | text s =>
    cases stage with
    | closed => cases h
    | confirm =>
      simp only [command?, Option.ite_none_right_eq_some, Option.some.injEq] at h
      obtain ⟨hyes, rfl⟩ := h
      simp [onLine, onConfirmation, hyes]
    | command =>
      simp only [command?] at h
      cases hcmd : Command.ofLine? s with
      | none => simp [hcmd] at h
      | some cmd' =>
        cases cmd' with
        | signOut =>
          have hs : portal.state.signedIn = false ∧ Command.signOut = cmd := by
            simpa [hcmd] using h
          obtain ⟨hs, rfl⟩ := hs
          simp [onLine, onCommand, hcmd, hs]
        | _ =>
          simp only [hcmd, Option.some.injEq] at h
          subst h
          simp [onLine, onCommand, hcmd]

theorem execute_of_none {c : Console} {cmd : Command} (h : cmd.operation? c.listing = none) :
    ∃ c' shown, c.execute answer cmd = pure (c', shown) ∧ c'.listing = c.listing ∧
      c'.portal.session = c.portal.session ∧ (c.portal.Sound → c'.portal.Sound) := by
  refine ⟨_, _, by simp only [execute, h]; rfl, ?_⟩
  cases cmd with
  | sections => exact ⟨rfl, rfl, showSections_sound⟩
  | _ => exact ⟨rfl, rfl, id⟩

end

/-- What a line does, with what it asks: nothing that the service hears of, or the operation of its
command. -/
inductive Does (c : Console) (line : Line) (c' : Console) (shown : List Printed) :
    List Inquiry → Prop where
  | idle : (∀ cmd, c.command? line = some cmd → cmd.operation? c.listing = none) →
      c'.listing = c.listing → c'.portal.session = c.portal.session →
      (c.portal.Sound → c'.portal.Sound) → Does c line c' shown []
  | operation {cmd op asked t told} : c.command? line = some cmd →
      cmd.operation? c.listing = some op → (c.portal.begin op).Leads asked t →
      conclude ⟨t.portal, c.listing, .command⟩ cmd (t.outcome?.getD (.ok .none)) = (c', told) →
      shown = c.warnings cmd ++ t.notes.map .ofNote ++ told ++ prompt c'.stage →
      Does c line c' shown asked

theorem feed_does (service : Service) (c : Console) (line : Line) (log : List Inquiry) :
    ∃ c' shown asked, (c.feed service.answer line).run log = ((c', shown), log ++ asked) ∧
      c.Does line c' shown asked := by
  have hfeed : ∀ {c' : Console} {shown : List Printed} {log' : List Inquiry},
      (c.onLine service.answer line).run log = ((c', shown), log') →
      (c.feed service.answer line).run log = ((c', shown ++ prompt c'.stage), log') := by
    intro c' shown log' h
    rw [feed, StateT.run_bind, h]
    rfl
  cases hcmd : c.command? line with
  | none =>
    obtain ⟨c', shown, heq, hportal, hlisting⟩ := onLine_of_none service.answer hcmd
    refine ⟨c', _, [], hfeed (by rw [heq, List.append_nil]; rfl), .idle ?_ hlisting ?_ ?_⟩
    · simp [hcmd]
    · rw [hportal]
    · rw [hportal]
      exact id
  | some cmd =>
    have heq := onLine_of_some service.answer hcmd
    cases hop : cmd.operation? c.listing with
    | none =>
      obtain ⟨c', shown, hexec, hlisting, hsession, hsound⟩ :=
        execute_of_none service.answer (c := { c with stage := .command }) hop
      refine ⟨c', _, [], hfeed (by rw [heq, hexec, List.append_nil]; rfl),
        .idle ?_ hlisting hsession hsound⟩
      intro cmd' h
      obtain rfl := Option.some.inj (hcmd.symm.trans h)
      exact hop
    | some op =>
      obtain ⟨asked, t, hrun, hleads⟩ := c.portal.run_leads service op log
      let after := conclude ⟨t.portal, c.listing, .command⟩ cmd (t.outcome?.getD (.ok .none))
      refine ⟨after.1, _, asked,
        @hfeed after.1 (c.warnings cmd ++ t.notes.map .ofNote ++ after.2) _ ?_,
        .operation hcmd hop hleads rfl rfl⟩
      rw [heq, execute]
      simp only [hop, StateT.run_bind, hrun]
      rfl

theorem conclude_portal (c : Console) (cmd : Command) (outcome : Outcome) :
    (conclude c cmd outcome).1.portal.session = c.portal.session ∧
      (c.portal.Sound → (conclude c cmd outcome).1.portal.Sound) := by
  unfold conclude
  split <;> first | exact ⟨rfl, id⟩ | exact ⟨rfl, showSections_sound⟩

theorem conclude_listing {cmd : Command} (h : cmd ≠ .feedback) (c : Console) (outcome : Outcome) :
    (conclude c cmd outcome).1.listing = c.listing := by
  unfold conclude
  split <;> first | rfl | exact absurd rfl h

theorem Does.after {c c' : Console} {line : Line} {shown : List Printed} {asked : List Inquiry}
    (h : c.Does line c' shown asked) (hs : c.portal.Sound) :
    c'.portal.Sound ∧
      (c.portal.state.signedIn = true → c'.portal.state.signedIn = true →
        c'.portal.session.epoch = c.portal.session.epoch) := by
  cases h with
  | idle _ _ hsession hsound =>
    rw [hsession]
    exact ⟨hsound hs, fun _ _ => rfl⟩
  | @operation cmd op asked t _ _ _ hleads hafter =>
    obtain ⟨hsession, hsound⟩ :=
      conclude_portal ⟨t.portal, c.listing, .command⟩ cmd (t.outcome?.getD (.ok .none))
    rw [hafter] at hsession hsound
    refine ⟨hsound (hs.after_operation hleads), fun hin hin' => ?_⟩
    have hlast : t.portal.state.signedIn = true :=
      (congrArg (·.state.signedIn) hsession).symm.trans hin'
    rw [hsession]
    exact hs.epoch_of_live hleads hin hlast

end Console

/-- What is in storage at the start, whether the service is told of a sign-out, the service, and the
lines. -/
structure Sitting where
  items : Items
  remoteSignOut : Bool
  service : Service
  line : Nat → Line

namespace Sitting

/-- The console at a moment, what was printed on the way to it, and all that was asked so far. -/
def moment (s : Sitting) : Nat → (Console × List Printed) × List Inquiry
  | 0 => (Console.start s.service.answer (.ofItems s.items s.remoteSignOut)).run []
  | k + 1 => ((s.moment k).1.1.feed s.service.answer (s.line k)).run (s.moment k).2

def console (s : Sitting) (k : Nat) : Console := (s.moment k).1.1

/-- What line `k` has printed. -/
def shown (s : Sitting) (k : Nat) : List Printed := (s.moment (k + 1)).1.2

def record (s : Sitting) (k : Nat) : List Inquiry := (s.moment k).2

/-- The inquiries of line `k`. -/
def asked (s : Sitting) (k : Nat) : List Inquiry := (s.record (k + 1)).drop (s.record k).length

def session (s : Sitting) (k : Nat) : Session := (s.console k).portal.session

def Live (s : Sitting) (k : Nat) : Prop := (s.session k).state.signedIn = true

/-- Somebody is signed in from moment `i` to moment `j`, without interruption. -/
structure OneSession (s : Sitting) (i j : Nat) : Prop where
  le : i ≤ j
  live : ∀ m, i ≤ m → m ≤ j → s.Live m

theorem start_asks (s : Sitting) :
    ∃ t, (((Portal.ofItems s.items s.remoteSignOut).begin .start).Leads (s.record 0) t ∧
      s.console 0 = (Console.showSections ⟨t.portal, [], .command⟩).1) := by
  obtain ⟨asked, t, hrun, hleads⟩ :=
    (Portal.ofItems s.items s.remoteSignOut).run_leads s.service .start []
  have hstart : s.console 0 = (Console.showSections ⟨t.portal, [], .command⟩).1 ∧
      s.record 0 = asked := by
    unfold console record moment Console.start
    rw [StateT.run_bind, hrun]
    exact ⟨rfl, rfl⟩
  rw [hstart.2]
  exact ⟨t, hleads, hstart.1⟩

theorem does_and_record (s : Sitting) (k : Nat) :
    (s.console k).Does (s.line k) (s.console (k + 1)) (s.shown k) (s.asked k) ∧
      s.record (k + 1) = s.record k ++ s.asked k := by
  obtain ⟨c', shown, asked, hrun, hdoes⟩ :=
    (s.console k).feed_does s.service (s.line k) (s.record k)
  have hmoment : s.moment (k + 1) = ((c', shown), s.record k ++ asked) := hrun
  have hconsole : s.console (k + 1) = c' := congrArg (·.1.1) hmoment
  have hshown : s.shown k = shown := congrArg (·.1.2) hmoment
  have hrecord : s.record (k + 1) = s.record k ++ asked := congrArg (·.2) hmoment
  have hasked : s.asked k = asked := by
    rw [Sitting.asked, hrecord, List.drop_left]
  rw [hconsole, hshown, hasked, hrecord]
  exact ⟨hdoes, rfl⟩

theorem does (s : Sitting) (k : Nat) :
    (s.console k).Does (s.line k) (s.console (k + 1)) (s.shown k) (s.asked k) :=
  (s.does_and_record k).1

theorem record_succ (s : Sitting) (k : Nat) : s.record (k + 1) = s.record k ++ s.asked k :=
  (s.does_and_record k).2

theorem sound (s : Sitting) (k : Nat) : (s.console k).portal.Sound := by
  induction k with
  | zero =>
    obtain ⟨t, hleads, hstart⟩ := s.start_asks
    rw [hstart]
    exact Console.showSections_sound ((Portal.sound_ofItems _ _).after_operation hleads)
  | succ k ih => exact ((s.does k).after ih).1

/-- The console's own loop over the lines comes to the same moments, and its end asks nothing. -/
theorem run_feedAll (s : Sitting) (k n : Nat) :
    ((s.console k).feedAll s.service.answer ((List.range' k n).map s.line)).run (s.record k) =
      (((s.console (k + n)).finish.1,
        (List.range' k n).flatMap s.shown ++ (s.console (k + n)).finish.2), s.record (k + n)) := by
  induction n generalizing k with
  | zero => rfl
  | succ n ih =>
    have hfeed : ((s.console k).feed s.service.answer (s.line k)).run (s.record k) =
        ((s.console (k + 1), s.shown k), s.record (k + 1)) := rfl
    have hrest := ih (k + 1)
    rw [Nat.add_right_comm] at hrest
    rw [List.range'_succ, List.map_cons, Console.feedAll, StateT.run_bind, hfeed]
    change ((s.console (k + 1)).feedAll s.service.answer ((List.range' (k + 1) n).map s.line) >>=
      fun p => pure (p.1, s.shown k ++ p.2) : StateM (List Inquiry) _).run (s.record (k + 1)) = _
    rw [StateT.run_bind, hrest, List.flatMap_cons, List.append_assoc]
    rfl

theorem OneSession.within {s : Sitting} {i j k l : Nat} (h : s.OneSession i l) (hi : i ≤ j)
    (hj : j ≤ k) (hk : k ≤ l) : s.OneSession j k :=
  ⟨hj, fun m hm hm' => h.live m (by omega) (by omega)⟩

/-- Whoever stays signed in stays in one session: no line ends it and begins another. -/
theorem OneSession.epoch_eq {s : Sitting} {i j : Nat} (h : s.OneSession i j) :
    (s.session j).epoch = (s.session i).epoch := by
  obtain ⟨hij, hl⟩ := h
  induction hij with
  | refl => rfl
  | @step k hik ih =>
    have hk := hl k hik (Nat.le_succ k)
    have hk' := hl (k + 1) (Nat.le_succ_of_le hik) le_rfl
    have he := ((s.does k).after (s.sound k)).2 hk hk'
    exact he.trans (ih fun m hi hm => hl m hi (Nat.le_succ_of_le hm))

end Sitting

end InsectPortal
