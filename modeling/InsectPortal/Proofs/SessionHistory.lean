import InsectPortal.Proofs.SessionInvariant

/-!
# Histories of a session

A session after any list of events, from any items found in storage. Completions carry arbitrary
tickets, so they may come late, in any order and any number of times.
-/
namespace InsectPortal.Session

def after (s : Session) (events : List SessionEvent) : Session := events.foldl next s

/-- How often the events lead into or out of being signed in. -/
def transitions (s : Session) : List SessionEvent → Nat
  | [] => 0
  | e :: rest =>
    (if (s.next e).state.signedIn = s.state.signedIn then 0 else 1) + transitions (s.next e) rest

theorem after_append (s : Session) (before later : List SessionEvent) :
    s.after (before ++ later) = (s.after before).after later :=
  List.foldl_append

theorem Consistent.after {s : Session} (h : s.Consistent) (events : List SessionEvent) :
    (s.after events).Consistent := by
  induction events generalizing s with
  | nil => exact h
  | cons e rest ih => exact ih (h.move (move_next s e))

theorem Consistent.epoch_after {s : Session} (h : s.Consistent) (events : List SessionEvent) :
    (s.after events).epoch = s.epoch + s.transitions events := by
  induction events generalizing s with
  | nil => rfl
  | cons e rest ih =>
    have hm := move_next s e
    have he := (h.follows_move hm).epoch
    have hr := ih (h.move hm)
    change ((s.next e).after rest).epoch = _
    rw [hr, he, transitions]
    split <;> omega

/-- A ticket dies with its epoch. -/
theorem not_current_after {s u : Session} (h : s.Consistent) {t : Ticket}
    (ht : s.beginLookup = some (t, u)) {later : List SessionEvent} (hx : 0 < u.transitions later) :
    (u.after later).isCurrent t = false := by
  obtain ⟨hw, _, _, he, hu⟩ := beginLookup_eq_some_iff.mp ht
  have hc : u.Consistent := hu ▸ h.move (.ask hw)
  have hepoch := hc.epoch_after later
  have hue : u.epoch = s.epoch := by rw [hu]
  cases hi : (u.after later).isCurrent t with
  | false => rfl
  | true =>
    have hcur := (isCurrent_iff.mp hi).2.1
    omega

/-- The session and the store it keeps agree in every state it can come to. Somebody is signed in
exactly while a complete credential is stored, the epoch counts the transitions, a role that is known
stays for the session, and a ticket of an earlier session does nothing at all. -/
theorem session_store_agreement (items : Items) (events : List SessionEvent) :
    let s := (ofItems items).after events
    (s.credential.isComplete = true ∨ s.credential.isEmpty = true) ∧
    (s.state.signedIn = true ↔ s.credential.isComplete = true) ∧
    (s.state.signedIn = false → s.state.role = .unknown ∧ s.lookupPending = false) ∧
    (s.lookupPending = true → s.state.signedIn = true ∧ s.state.role.isResolved = false) ∧
    (∀ e, s.state.role.isResolved = true → (s.next e).state.role ≠ s.state.role →
      s.state.signedIn = true ∧ (s.next e).state.signedIn = false) ∧
    s.epoch = (ofItems items).transitions events ∧
    (∀ before later t u role, events = before ++ .beginLookup :: later →
      ((ofItems items).after before).beginLookup = some (t, u) → 0 < u.transitions later →
      s.completeLookup t role = (false, s) ∧ s.failLookup t = (false, s)) := by
  intro s
  have hinit := consistent_ofItems items
  have hs : s.Consistent := hinit.after events
  have hwants : s.lookupPending = true →
      s.state.signedIn = true ∧ s.state.role.isResolved = false := by
    intro hp
    simpa [SessionState.wantsRole] using hs.wanted hp
  refine ⟨hs.whole, by rw [hs.stored], fun ho => ⟨hs.roleless ho, ?_⟩, hwants, ?_, ?_, ?_⟩
  · cases hp : s.lookupPending with
    | false => rfl
    | true => exact absurd ((hwants hp).1.symm.trans ho) (by simp)
  · intro e hr hne
    refine ⟨hs.signedIn_of_resolved hr, ?_⟩
    cases hl : (s.next e).state.signedIn with
    | false => rfl
    | true => exact absurd ((hs.follows_move (move_next s e)).role hr hl) hne
  · have h := hinit.epoch_after events
    rw [h]
    exact Nat.zero_add _
  · intro before later t u role heq ht hx
    have hb := hinit.after before
    have hnext : ((ofItems items).after before).next .beginLookup = u := by
      simp [next, ht]
    have hlast : s = u.after later := by
      change (ofItems items).after events = _
      rw [heq, after_append]
      exact congrArg (·.after later) hnext
    have hdead : s.isCurrent t = false := hlast ▸ not_current_after hb ht hx
    exact ⟨completeLookup_of_not_current hdead role, failLookup_of_not_current hdead⟩

/-- The same user has signed in again, and still the old ticket is of no use. -/
theorem old_ticket_of_same_user :
    let items := (Items.empty.insert Items.tokenKey "token").insert Items.userKey "user"
    let s := (ofItems items).after [.beginLookup, .signOut, .signIn "token" "user"]
    s.completeLookup ⟨0, "user"⟩ .superRoot = (false, s) := by
  intro items s
  have hagree := session_store_agreement items [.beginLookup, .signOut, .signIn "token" "user"]
  obtain ⟨_, _, _, _, _, _, hdead⟩ := hagree
  exact (hdead [] [.signOut, .signIn "token" "user"] _ _ .superRoot rfl rfl (by decide)).1

end InsectPortal.Session
