import InsectPortal.Proofs.WorldStep

/-!
# Runs

A run is what becomes of a portal under an endless list of events: operations that start at any time,
replies that come at any time. A reply nobody waits for changes nothing. Moments are counted by
events: event `k` leads from world `k` to world `k + 1`.
-/
namespace InsectPortal

/-- What is in storage at the start, whether the service is told of a sign-out, and the events. -/
structure Run where
  items : Items
  remoteSignOut : Bool
  event : Nat → Event

namespace Run

def world (r : Run) : Nat → World
  | 0 => .initial (.ofItems r.items r.remoteSignOut)
  | k + 1 => (r.world k).next (r.event k)

def session (r : Run) (k : Nat) : Session := (r.world k).portal.session

def state (r : Run) (k : Nat) : SessionState := (r.session k).state

def role (r : Run) (k : Nat) : Role := (r.state k).role

def epoch (r : Run) (k : Nat) : Nat := (r.session k).epoch

def credential (r : Run) (k : Nat) : Credential := (r.session k).credential

def sections (r : Run) (k : Nat) : List Section := (r.world k).portal.sections.1

def Live (r : Run) (k : Nat) : Prop := (r.state k).signedIn = true

/-- Somebody is signed in from moment `i` to moment `j`, without interruption. -/
structure OneSession (r : Run) (i j : Nat) : Prop where
  le : i ≤ j
  live : ∀ m, i ≤ m → m ≤ j → r.Live m

/-- Event `k` gives a turn to operation `n`. -/
def Takes (r : Run) (k n : Nat) (t : Turn) : Prop := (r.world k).turn? (r.event k) = some (n, t)

/-- Event `k` ends operation `n`. -/
def Ends (r : Run) (k n : Nat) (outcome : Outcome) : Prop :=
  ∃ t, r.Takes k n t ∧ t.next = .finished outcome

/-- At event `i` operation `n` makes a call and waits. -/
def Makes (r : Run) (i n : Nat) (pd : Pending) : Prop :=
  ∃ t, r.Takes i n t ∧ t.next = .waiting pd

/-- What operation `n` made at event `i` is still not answered at moment `k`. -/
structure Waits (r : Run) (n i k : Nat) (pd : Pending) : Prop where
  makes : r.Makes i n pd
  before : i < k
  unanswered : ∀ m, i < m → m ≤ k → (r.world m).pending? n = some pd

def Calls (r : Run) (i n : Nat) (c : Call) : Prop := ∃ pd, r.Makes i n pd ∧ pd.call = c

/-- The call that operation `n` made at event `i` is answered by event `k`. -/
def Answered (r : Run) (n : Nat) (c : Call) (i k : Nat) (reply : c.Reply) : Prop :=
  ∃ pd answer, r.Waits n i k pd ∧ pd.call = c ∧ r.event k = .reply n answer ∧ answer c = reply

theorem world_start {r : Run} {k : Nat} {op : Operation} (he : r.event k = .start op) :
    r.world (k + 1) = (r.world k).start op := by
  change (r.world k).next (r.event k) = _
  rw [he]
  rfl

theorem world_congr {r q : Run} (hi : r.items = q.items)
    (ho : r.remoteSignOut = q.remoteSignOut) {k : Nat} (he : ∀ m, m < k → r.event m = q.event m) :
    r.world k = q.world k := by
  induction k with
  | zero =>
    unfold world
    rw [hi, ho]
  | succ k ih =>
    unfold world
    rw [ih fun m hm => he m (Nat.lt_succ_of_lt hm), he k (Nat.lt_succ_self k)]

theorem reachable (r : Run) (k : Nat) :
    Reachable (.ofItems r.items r.remoteSignOut) (r.world k) := by
  induction k with
  | zero => exact .initial
  | succ k ih =>
    change Reachable _ ((r.world k).next (r.event k))
    cases h : (r.world k).turn? (r.event k) with
    | none =>
      rw [World.next_of_no_turn h]
      exact ih
    | some p =>
      refine .step _ ih ?_
      cases he : r.event k with
      | start op => trivial
      | reply n answer =>
        rw [he] at h
        obtain ⟨pd, hp, _⟩ := Option.map_eq_some_iff.mp h
        exact Option.isSome_iff_exists.mpr ⟨pd, hp⟩

/-- Runs leave out nothing that can happen. -/
theorem exists_run_of_reachable {items : Items} {remoteSignOut : Bool} {w : World}
    (h : Reachable (.ofItems items remoteSignOut) w) :
    ∃ (r : Run) (k : Nat), r.items = items ∧ r.remoteSignOut = remoteSignOut ∧ r.world k = w := by
  induction h with
  | initial => exact ⟨⟨items, remoteSignOut, fun _ => .start .start⟩, 0, rfl, rfl, rfl⟩
  | step e _ _ ih =>
    obtain ⟨r, k, hi, ho, rfl⟩ := ih
    let q : Run := { r with event := fun m => if m = k then e else r.event m }
    have hw : q.world k = r.world k := by
      refine world_congr (r := q) (q := r) rfl rfl fun m hm => ?_
      simp [q, Nat.ne_of_lt hm]
    refine ⟨q, k + 1, hi, ho, ?_⟩
    change (q.world k).next (if k = k then e else _) = _
    rw [hw, if_pos rfl]

theorem sound_and_numbered (r : Run) (k : Nat) :
    (r.world k).portal.Sound ∧ (r.world k).Numbered := by
  induction k with
  | zero =>
    refine ⟨Portal.sound_ofItems _ _, ?_⟩
    intro entry he
    cases he
  | succ k ih =>
    obtain ⟨hs, hn⟩ := ih
    refine ⟨?_, hn.next (r.event k)⟩
    change ((r.world k).next (r.event k)).portal.Sound
    cases h : (r.world k).turn? (r.event k) with
    | none =>
      rw [World.next_of_no_turn h]
      exact hs
    | some p =>
      rw [World.next_portal hn h]
      exact (hs.evolves_turn h).sound

theorem sound (r : Run) (k : Nat) : (r.world k).portal.Sound := (r.sound_and_numbered k).1

theorem numbered (r : Run) (k : Nat) : (r.world k).Numbered := (r.sound_and_numbered k).2

theorem sections_eq (r : Run) (k : Nat) : r.sections k = (r.state k).sections :=
  (r.sound k).sections

theorem takes_portal {r : Run} {k n : Nat} {t : Turn} (h : r.Takes k n t) :
    (r.world (k + 1)).portal = t.portal := World.next_portal (r.numbered k) h

theorem takes_pending? {r : Run} {k n : Nat} {t : Turn} (h : r.Takes k n t) (m : Nat) :
    (r.world (k + 1)).pending? m = if m = n then t.pending? else (r.world k).pending? m :=
  World.next_pending? (r.numbered k) h m

theorem follows (r : Run) (k : Nat) : (r.session k).Follows (r.session (k + 1)) := by
  cases h : (r.world k).turn? (r.event k) with
  | none =>
    have hw : r.world (k + 1) = r.world k := World.next_of_no_turn h
    unfold session
    rw [hw]
    exact .refl _
  | some p =>
    have hw : (r.world (k + 1)).portal = p.2.portal := takes_portal h
    unfold session
    rw [hw]
    exact ((r.sound k).evolves_turn h).follows

theorem epoch_mono (r : Run) {i j : Nat} (h : i ≤ j) : r.epoch i ≤ r.epoch j := by
  induction h with
  | refl => exact Nat.le_refl _
  | step _ ih => exact Nat.le_trans ih (r.follows _).epoch_le

theorem live_iff_of_state_eq {r : Run} {i j : Nat} (h : r.state i = r.state j) :
    r.Live i ↔ r.Live j := by
  rw [Live, Live, h]

theorem OneSession.first {r : Run} {i j : Nat} (h : r.OneSession i j) : r.Live i :=
  h.live i (Nat.le_refl i) h.le

theorem OneSession.last {r : Run} {i j : Nat} (h : r.OneSession i j) : r.Live j :=
  h.live j h.le (Nat.le_refl j)

theorem OneSession.refl {r : Run} {k : Nat} (h : r.Live k) : r.OneSession k k := by
  refine ⟨Nat.le_refl k, fun m hk hm => ?_⟩
  obtain rfl : m = k := by omega
  exact h

theorem OneSession.tail {r : Run} {i k : Nat} (h : r.OneSession i k) (hk : r.Live (k + 1)) :
    r.OneSession i (k + 1) := by
  refine ⟨Nat.le_succ_of_le h.le, fun m hi hm => ?_⟩
  by_cases hlast : m = k + 1
  · rw [hlast]
    exact hk
  · exact h.live m hi (by omega)

theorem OneSession.within {r : Run} {i j k l : Nat} (h : r.OneSession i l) (hi : i ≤ j)
    (hj : j ≤ k) (hk : k ≤ l) : r.OneSession j k := by
  refine ⟨hj, fun m hm hm' => ?_⟩
  exact h.live m (by omega) (by omega)

theorem live_of_epoch_eq {r : Run} {i j : Nat} (hij : i ≤ j) (hi : r.Live i)
    (he : r.epoch j = r.epoch i) : r.OneSession i j ∧ r.credential j = r.credential i := by
  induction hij with
  | refl => exact ⟨.refl hi, rfl⟩
  | @step k hik ih =>
    have hle := r.epoch_mono hik
    have hstep : r.epoch k ≤ r.epoch (k + 1) := (r.follows k).epoch_le
    have hk : r.epoch k = r.epoch i := Nat.le_antisymm (Nat.le_trans hstep (Nat.le_of_eq he)) hle
    obtain ⟨hs, hc⟩ := ih hk
    have hin := (r.follows k).signedIn_iff_epoch.mpr (he.trans hk.symm)
    have hlive : r.Live (k + 1) := hin.trans hs.last
    exact ⟨hs.tail hlive, ((r.follows k).credential hin).trans hc⟩

theorem OneSession.epoch_eq {r : Run} {i j : Nat} (h : r.OneSession i j) :
    r.epoch j = r.epoch i := by
  obtain ⟨hij, hl⟩ := h
  induction hij with
  | refl => rfl
  | @step k hik ih =>
    have hk := hl k hik (Nat.le_succ k)
    have hk' := hl (k + 1) (Nat.le_succ_of_le hik) (Nat.le_refl _)
    have he := (r.follows k).signedIn_iff_epoch.mp (hk'.trans hk.symm)
    exact he.trans (ih fun m hi hm => hl m hi (Nat.le_succ_of_le hm))

theorem OneSession.credential_eq {r : Run} {i j : Nat} (h : r.OneSession i j) :
    r.credential j = r.credential i :=
  (live_of_epoch_eq h.le h.first h.epoch_eq).2

/-- The epoch tells sessions apart. -/
theorem oneSession_iff_epoch {r : Run} {i j : Nat} (hij : i ≤ j) (hi : r.Live i) :
    r.OneSession i j ↔ r.epoch j = r.epoch i :=
  ⟨OneSession.epoch_eq, fun he => (live_of_epoch_eq hij hi he).1⟩

end Run

end InsectPortal
