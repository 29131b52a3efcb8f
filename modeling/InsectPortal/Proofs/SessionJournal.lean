import Mathlib.Data.List.Induction
import InsectPortal.Proofs.SessionHistory

/-!
# The journal of a session

A session records every write it makes to its items. Whoever finds the items as they were after any
number of these writes restores a credential from them that was whole at some time, or none.
-/
namespace InsectPortal

/-- The writes lead from these items to those of the keyring, and what they leave on the way has a
property. -/
structure Keyring.Recorded (items : Items) (P : Items → Prop) (k : Keyring) : Prop where
  items_eq : k.items = items.applyAll k.journal
  always : ∀ writes, writes <+: k.journal → P (items.applyAll writes)

namespace Keyring.Recorded

variable {items : Items} {P Q : Items → Prop} {k : Keyring}

theorem mono (h : Recorded items P k) (hPQ : ∀ found, P found → Q found) : Recorded items Q k :=
  ⟨h.items_eq, fun writes hw => hPQ _ (h.always writes hw)⟩

theorem write (h : Recorded items P k) {w : Write} (hP : P (k.items.apply w)) :
    Recorded items P (k.write w) := by
  have hitems : items.applyAll (k.journal ++ [w]) = k.items.apply w := by
    rw [Items.applyAll, List.foldl_append, h.items_eq]
    rfl
  constructor
  · exact hitems.symm
  · intro writes hw
    rcases List.prefix_concat_iff.mp hw with rfl | hw
    · rw [hitems]
      exact hP
    · exact h.always writes hw

end Keyring.Recorded

namespace Session

/-- One of the events signs this user in with this token. -/
def Accepts (s : Session) (events : List SessionEvent) (token user : String) : Prop :=
  ∃ before later s', events = before ++ .signIn token user :: later ∧
    (s.after before).signIn token user = .ok s'

theorem Accepts.append {s : Session} {events : List SessionEvent} {token user : String}
    (h : s.Accepts events token user) (more : List SessionEvent) :
    s.Accepts (events ++ more) token user := by
  obtain ⟨before, later, s', rfl, hin⟩ := h
  exact ⟨before, later ++ more, s', by simp, hin⟩

/-- What a credential may come from: it is the whole pair held at the start, or that of one sign-in,
or empty. -/
def Traced (held : Credential) (s : Session) (events : List SessionEvent) (c : Credential) : Prop :=
  c = ⟨none, none⟩ ∨ (c = held ∧ held.isComplete = true) ∨
    ∃ token user, s.Accepts events token user ∧ c = ⟨some token, some user⟩

theorem Traced.append {held : Credential} {s : Session} {events : List SessionEvent}
    {c : Credential} (h : Traced held s events c) (more : List SessionEvent) :
    Traced held s (events ++ more) c := by
  rcases h with h | h | ⟨token, user, ha, h⟩
  · exact Or.inl h
  · exact Or.inr (Or.inl h)
  · exact Or.inr (Or.inr ⟨token, user, ha.append more, h⟩)

theorem restored_credential (items : Items) : (ofItems items).credential =
    if items.credential.isComplete then items.credential else ⟨none, none⟩ :=
  Keyring.credential_ofItems items

/-- The whole credential of some items comes back when they are restored, half of one never. -/
theorem restored_cases (items : Items) : (ofItems items).credential = ⟨none, none⟩ ∨
    ((ofItems items).credential = items.credential ∧ items.credential.isComplete = true) := by
  rw [restored_credential]
  by_cases hc : items.credential.isComplete = true
  · rw [if_pos hc]
    exact Or.inr ⟨rfl, hc⟩
  · rw [if_neg hc]
    exact Or.inl rfl

theorem keyring_next (s : Session) (e : SessionEvent) :
    (s.next e).keyring = s.keyring ∨ (s.next e).keyring = s.keyring.clear ∨
      ∃ token user s', e = .signIn token user ∧ s.signIn token user = .ok s' ∧
        (s.next e).keyring = s.keyring.establish token user := by
  cases e with
  | signIn token user =>
    cases h : s.signIn token user with
    | error f => simp [next, h, Except.toOption]
    | ok s' =>
      obtain ⟨_, _, _, rfl⟩ := signIn_ok_iff.mp h
      refine Or.inr (Or.inr ⟨token, user, _, rfl, h, ?_⟩)
      simp [next, h, Except.toOption]
  | signUp => exact Or.inl rfl
  | signOut => exact Or.inr (Or.inl rfl)
  | reject => exact Or.inr (Or.inl rfl)
  | beginLookup => exact Or.inl (keeps_beginLookup s).keyring
  | completeLookup t role =>
    refine Or.inl ?_
    change (s.completeLookup t role).2.keyring = _
    unfold completeLookup
    split
    · split <;> rfl
    · rfl
  | failLookup t => exact Or.inl (keeps_failLookup s t).keyring

/-- Between the two writes of a sign-in a user is stored without a token, which is no credential. -/
theorem restored_user_alone {items : Items} (h : items.credential = ⟨none, none⟩) (user : String) :
    (ofItems (items.apply (.set Items.userKey user))).credential = ⟨none, none⟩ := by
  have hkey : Items.tokenKey ≠ Items.userKey := by decide
  have htoken : (items.apply (.set Items.userKey user)).credential.token = none := by
    have hnone : items.filled? Items.tokenKey = none := congrArg Credential.token h
    simp [Items.credential, Items.apply, Items.filled?_insert, hkey, hnone]
  rw [restored_credential, Credential.isComplete, htoken]
  rfl

theorem recorded_establish {items : Items} {P : Items → Prop} {k : Keyring} {token user : String}
    (h : k.Recorded items P) (halone : P (k.items.apply (.set Items.userKey user)))
    (hwhole : P (k.establish token user).items) :
    (k.establish token user).Recorded items P := (h.write halone).write hwhole

theorem recorded_after (items : Items) (events : List SessionEvent) :
    ((ofItems items).after events).keyring.Recorded items fun found =>
      Traced items.credential (ofItems items) events (ofItems found).credential := by
  have hcleared : ∀ events, Traced items.credential (ofItems items) events
      (ofItems (.empty)).credential := fun _ => Or.inl rfl
  induction events using List.reverseRecOn with
  | nil =>
    have hfirst : Keyring.Recorded items (fun found =>
        Traced items.credential (ofItems items) [] (ofItems found).credential) ⟨items, []⟩ := by
      refine ⟨rfl, fun writes hw => ?_⟩
      obtain rfl := List.prefix_nil.mp hw
      rcases restored_cases items with h | h
      · exact Or.inl h
      · exact Or.inr (Or.inl h)
    change (Keyring.ofItems items).Recorded _ _
    unfold Keyring.ofItems
    dsimp only
    split
    · exact hfirst
    · exact hfirst.write (hcleared [])
  | append_singleton events e ih =>
    have hold := ih.mono fun found (h : Traced _ _ events _) => h.append [e]
    have hnext : (ofItems items).after (events ++ [e]) = ((ofItems items).after events).next e :=
      after_append _ events [e]
    rw [hnext]
    rcases keyring_next ((ofItems items).after events) e with h | h | ⟨token, user, s', rfl, hin, h⟩
    · rw [h]
      exact hold
    · rw [h]
      exact hold.write (hcleared _)
    · rw [h]
      obtain ⟨hout, ht, hu, _⟩ := signIn_ok_iff.mp hin
      have hnone := ((consistent_ofItems items).after events).empty_of_signedOut hout
      apply recorded_establish hold
      · exact Or.inl (restored_user_alone hnone user)
      · have hc := Keyring.credential_establish ((ofItems items).after events).keyring ht hu
        have hwhole : (((ofItems items).after events).keyring.establish token user).items.credential
            = ⟨some token, some user⟩ := hc
        refine Or.inr (Or.inr ⟨token, user, ⟨events, [], s', rfl, hin⟩, ?_⟩)
        rw [restored_credential, hwhole]
        rfl

end Session

end InsectPortal
