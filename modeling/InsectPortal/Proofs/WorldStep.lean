import InsectPortal.Proofs.TurnEffect
import InsectPortal.World

/-!
# Steps of a world

An event gives a turn to one operation. What is in flight after it differs from before only in what
that operation waits for.
-/
namespace InsectPortal

def Turn.pending? (t : Turn) : Option Pending :=
  match t.next with
  | .finished _ => none
  | .waiting pd => some pd

def Turn.happenings (t : Turn) (n : Nat) : List Happening :=
  t.notes.map (.noted n) ++
    match t.next with
    | .finished outcome => [.ended n outcome]
    | .waiting pd => [.called n pd.call]

namespace World

def turn? (w : World) : Event → Option (Nat × Turn)
  | .start op => some (w.started, w.portal.begin op)
  | .reply n answer => (w.pending? n).map fun pd => (n, w.portal.resume pd (answer pd.call))

/-- Whoever waits has been started. -/
def Numbered (w : World) : Prop := ∀ entry ∈ w.inFlight, entry.1 < w.started

theorem take_portal (w : World) (n : Nat) (t : Turn) : (w.take n t).portal = t.portal := by
  unfold take
  cases t.next <;> rfl

theorem take_started (w : World) (n : Nat) (t : Turn) : (w.take n t).started = w.started := by
  unfold take
  cases t.next <;> rfl

theorem take_inFlight (w : World) (n : Nat) (t : Turn) :
    (w.take n t).inFlight = w.inFlight ++ t.pending?.toList.map (n, ·) := by
  unfold take Turn.pending?
  cases t.next <;> simp

theorem take_history (w : World) (n : Nat) (t : Turn) :
    (w.take n t).history = w.history ++ t.happenings n := by
  unfold take Turn.happenings
  cases t.next <;> simp

theorem pending?_eq_none {w : World} {n : Nat} (h : ∀ entry ∈ w.inFlight, entry.1 ≠ n) :
    w.pending? n = none := by
  unfold pending?
  rw [List.find?_eq_none.mpr (fun entry he => by simpa using h entry he)]
  rfl

theorem take_pending? {w : World} {n : Nat} (h : ∀ entry ∈ w.inFlight, entry.1 ≠ n) (t : Turn)
    (m : Nat) : (w.take n t).pending? m = if m = n then t.pending? else w.pending? m := by
  have hw : w.pending? n = none := pending?_eq_none h
  unfold pending? at hw ⊢
  rw [take_inFlight, List.find?_append]
  by_cases hm : m = n
  · subst hm
    rw [Option.map_eq_none_iff.mp hw]
    cases t.pending? <;> simp
  · have hn : (t.pending?.toList.map (n, ·)).find? (·.1 = m) = none := by
      cases t.pending? <;> simp [Ne.symm hm]
    rw [hn, Option.or_none, if_neg hm]

theorem next_of_no_turn {w : World} {e : Event} (h : w.turn? e = none) : w.next e = w := by
  cases e with
  | start op => cases h
  | reply n answer =>
    have hp : w.pending? n = none := Option.map_eq_none_iff.mp h
    simp [next, reply, hp]

theorem pending?_without (w : World) {n m : Nat} (h : m ≠ n) :
    ((w.inFlight.filter (·.1 ≠ n)).find? (·.1 = m)).map (·.2) = w.pending? m := by
  unfold pending?
  rw [List.find?_filter]
  congr 2
  funext entry
  by_cases he : entry.1 = m
  · simp [he, h]
  · simp [he]

theorem started_of_pending {w : World} (hw : w.Numbered) {n : Nat} {pd : Pending}
    (h : w.pending? n = some pd) : n < w.started := by
  obtain ⟨entry, hf, _⟩ := Option.map_eq_some_iff.mp h
  have hn : entry.1 = n := by simpa using List.find?_some hf
  exact hn ▸ hw entry (List.mem_of_find?_eq_some hf)

/-- A turn is taken in a world where its operation waits for nothing and all else is as before. -/
theorem next_of_turn {w : World} (hw : w.Numbered) {e : Event} {n : Nat} {t : Turn}
    (h : w.turn? e = some (n, t)) :
    ∃ v : World, w.next e = v.take n t ∧ (∀ entry ∈ v.inFlight, entry.1 ≠ n) ∧
      (∀ m, m ≠ n → v.pending? m = w.pending? m) ∧ v.Numbered ∧ n < v.started := by
  cases e with
  | start op =>
    obtain ⟨rfl, rfl⟩ := Prod.mk.inj (Option.some.inj h)
    refine ⟨_, rfl, ?_, fun m _ => rfl, ?_, Nat.lt_succ_self _⟩
    · intro entry he
      exact Nat.ne_of_lt (hw entry he)
    · intro entry he
      exact Nat.lt_succ_of_lt (hw entry he)
  | reply k answer =>
    obtain ⟨pd, hp, hpair⟩ := Option.map_eq_some_iff.mp h
    obtain ⟨rfl, rfl⟩ := Prod.mk.inj hpair
    refine ⟨{ w with
        inFlight := w.inFlight.filter (·.1 ≠ k)
        history := w.history ++ [Happening.answered k pd.call] }, ?_, ?_, ?_, ?_, ?_⟩
    · simp [next, reply, hp]
    · intro entry he
      simpa using (List.mem_filter.mp he).2
    · intro m hm
      exact pending?_without w hm
    · intro entry he
      exact hw entry (List.mem_filter.mp he).1
    · exact started_of_pending hw hp

theorem next_portal {w : World} (hw : w.Numbered) {e : Event} {n : Nat} {t : Turn}
    (h : w.turn? e = some (n, t)) : (w.next e).portal = t.portal := by
  obtain ⟨v, hv, _⟩ := next_of_turn hw h
  rw [hv, take_portal]

theorem next_pending? {w : World} (hw : w.Numbered) {e : Event} {n : Nat} {t : Turn}
    (h : w.turn? e = some (n, t)) (m : Nat) :
    (w.next e).pending? m = if m = n then t.pending? else w.pending? m := by
  obtain ⟨v, hv, hn, hm, _⟩ := next_of_turn hw h
  rw [hv, take_pending? hn]
  by_cases he : m = n
  · simp [he]
  · simp [he, hm m he]

theorem Numbered.next {w : World} (hw : w.Numbered) (e : Event) : (w.next e).Numbered := by
  cases h : w.turn? e with
  | none =>
    rw [next_of_no_turn h]
    exact hw
  | some r =>
    obtain ⟨v, hv, _, _, hnum, hlt⟩ := next_of_turn hw h
    rw [hv]
    intro entry he
    rw [take_inFlight] at he
    rw [take_started]
    rcases List.mem_append.mp he with he | he
    · exact hnum entry he
    · obtain ⟨pd, _, rfl⟩ := List.mem_map.mp he
      exact hlt

theorem turn_cases {w : World} {e : Event} {n : Nat} {t : Turn} (h : w.turn? e = some (n, t)) :
    (∃ op, e = .start op ∧ n = w.started ∧ t = w.portal.begin op) ∨
    ∃ answer pd, e = .reply n answer ∧ w.pending? n = some pd ∧
      t = w.portal.resume pd (answer pd.call) := by
  cases e with
  | start op =>
    obtain ⟨rfl, rfl⟩ := Prod.mk.inj (Option.some.inj h)
    exact Or.inl ⟨op, rfl, rfl, rfl⟩
  | reply k answer =>
    obtain ⟨pd, hp, hpair⟩ := Option.map_eq_some_iff.mp h
    obtain ⟨rfl, rfl⟩ := Prod.mk.inj hpair
    exact Or.inr ⟨answer, pd, rfl, hp, rfl⟩

theorem next_history {w : World} {e : Event} {n : Nat} {t : Turn} (h : w.turn? e = some (n, t)) :
    ∃ cause, (∀ m note, cause ≠ .noted m note) ∧
      (w.next e).history = w.history ++ cause :: t.happenings n := by
  cases e with
  | start op =>
    obtain ⟨rfl, rfl⟩ := Prod.mk.inj (Option.some.inj h)
    refine ⟨.started w.started op, by simp, (take_history _ _ _).trans ?_⟩
    rw [List.append_assoc, List.singleton_append]
  | reply k answer =>
    obtain ⟨pd, hp, hpair⟩ := Option.map_eq_some_iff.mp h
    obtain ⟨rfl, rfl⟩ := Prod.mk.inj hpair
    refine ⟨.answered k pd.call, by simp, ?_⟩
    rw [next, reply, hp]
    refine (take_history _ _ _).trans ?_
    rw [List.append_assoc, List.singleton_append]

theorem filterMap_history_next {α : Type} {g : Happening → Option α} {w : World} {e : Event}
    {n : Nat} {t : Turn} (hg : ∀ x, (∀ m note, x ≠ .noted m note) → g x = none)
    (h : w.turn? e = some (n, t)) : (w.next e).history.filterMap g =
      w.history.filterMap g ++ t.notes.filterMap fun note => g (.noted n note) := by
  obtain ⟨cause, hcause, hhistory⟩ := next_history h
  have hend : (match t.next with
      | .finished outcome => [Happening.ended n outcome]
      | .waiting pd => [.called n pd.call]).filterMap g = [] := by
    cases t.next <;> exact List.filterMap_eq_nil_iff.mpr (by simp [hg])
  rw [hhistory, List.filterMap_append, List.filterMap_cons_none (hg cause hcause), Turn.happenings,
    List.filterMap_append, hend, List.append_nil, List.filterMap_map]
  rfl

end World

theorem Portal.Sound.evolves_turn {w : World} (h : w.portal.Sound) {e : Event} {n : Nat}
    {t : Turn} (ht : w.turn? e = some (n, t)) : w.portal.Evolves t.portal := by
  rcases World.turn_cases ht with ⟨op, _, _, rfl⟩ | ⟨answer, pd, _, _, rfl⟩
  · exact h.evolves_begin op
  · exact h.evolves_resume pd (answer pd.call)

end InsectPortal
