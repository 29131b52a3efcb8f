import Mathlib.Data.List.Induction
import InsectPortal.Section

/-!
# What navigation shows

Navigation only remembers. As long as what it remembers is the menu of the state it looked at, a
look shows the menu of the state it looks at. After any looks it remembers the last of them, and so
it tells of a change exactly where that one would have shown another menu.
-/
namespace InsectPortal

/-- A menu is known by what is on it. -/
theorem SessionState.sections_eq_iff {s t : SessionState} :
    s.sections = t.sections ↔ ∀ x, x ∈ s.sections ↔ x ∈ t.sections := by
  have hfilter : ∀ u : SessionState,
      u.sections = Section.all.filter fun x => u.signedIn && x.isOpenTo u.role := by
    intro u
    unfold sections
    cases u.signedIn <;> simp
  constructor
  · intro h x
    rw [h]
  · intro h
    rw [hfilter s, hfilter t]
    apply List.filter_congr
    intro x _
    have hx := h x
    rw [mem_sections, mem_sections, ← Bool.and_eq_true, ← Bool.and_eq_true] at hx
    exact Bool.eq_iff_iff.mpr hx

namespace Navigation

/-- The sections remembered are those of the state remembered. -/
def Faithful (n : Navigation) : Prop :=
  ∀ s sections, n.last = some (s, sections) → sections = s.sections

theorem faithful_initial : initial.Faithful := by
  intro s sections h
  cases h

theorem Faithful.last_observe {n : Navigation} (h : n.Faithful) (s : SessionState) :
    (n.observe s).2.last = some (s, s.sections) := by
  unfold observe
  cases hl : n.last with
  | none => rfl
  | some p =>
    obtain ⟨seen, sections⟩ := p
    by_cases hs : seen = s
    · subst hs
      simp [hl, h seen sections hl]
    · simp [hs]

theorem Faithful.observe {n : Navigation} (h : n.Faithful) (s : SessionState) :
    (n.observe s).2.Faithful := by
  intro seen sections hl
  rw [h.last_observe] at hl
  cases hl
  rfl

theorem Faithful.visible {n : Navigation} (h : n.Faithful) (s : SessionState) :
    (n.visible s).1 = s.sections := by
  simp [Navigation.visible, h.last_observe]

theorem Faithful.after_visible {n : Navigation} (h : n.Faithful) (s : SessionState) :
    (n.visible s).2.Faithful := h.observe s

@[simp] theorem roleLookupWanted_observe (n : Navigation) (s : SessionState) :
    (n.observe s).1.roleLookupWanted = s.wantsRole := by
  unfold Navigation.observe
  cases n.last with
  | none => rfl
  | some p =>
    by_cases hs : p.1 = s <;> simp [hs]

/-- A look at a session state: for what has changed, or for the sections to show. -/
inductive Look where
  | observe (s : SessionState)
  | visible (s : SessionState)
  deriving DecidableEq, Repr

def Look.state : Look → SessionState
  | observe s | visible s => s

def look (n : Navigation) : Look → Navigation
  | .observe s => (n.observe s).2
  | .visible s => (n.visible s).2

def after (looks : List Look) : Navigation := looks.foldl look initial

theorem look_eq (n : Navigation) (l : Look) : n.look l = (n.observe l.state).2 := by
  cases l <;> rfl

theorem after_concat (looks : List Look) (l : Look) :
    after (looks ++ [l]) = ((after looks).observe l.state).2 := by
  rw [after, List.foldl_append, List.foldl_cons, List.foldl_nil, look_eq]
  rfl

theorem faithful_after (looks : List Look) : (after looks).Faithful := by
  induction looks using List.reverseRecOn with
  | nil => exact faithful_initial
  | append_singleton looks l ih =>
    rw [after_concat]
    exact ih.observe l.state

theorem last_after (looks : List Look) :
    (after looks).last = looks.getLast?.map fun l => (l.state, l.state.sections) := by
  induction looks using List.reverseRecOn with
  | nil => rfl
  | append_singleton looks l _ =>
    rw [after_concat, (faithful_after looks).last_observe, List.getLast?_concat]
    rfl

theorem sectionsChanged_observe_iff {n : Navigation} {s : SessionState} :
    (n.observe s).1.sectionsChanged = true ↔
      ∀ seen sections, n.last = some (seen, sections) → seen ≠ s ∧ sections ≠ s.sections := by
  unfold Navigation.observe
  cases hl : n.last with
  | none => simp
  | some p =>
    obtain ⟨seen, sections⟩ := p
    by_cases hs : seen = s <;> simp [hs]

theorem observe_of_last {n : Navigation} {s : SessionState} {sections : List Section}
    (h : n.last = some (s, sections)) : n.observe s = (⟨false, s.wantsRole⟩, n) := by
  unfold Navigation.observe
  rw [h]
  exact if_pos rfl

/-- After any looks, a look at a session state shows its menu. It tells of a change where it is the
first look, or where some section is on just one of this menu and the one of the look before; it
wants the role of whoever is signed in without a known one; and once more it would change nothing. -/
theorem agrees_with_sections (looks : List Look) (s : SessionState) :
    ((after looks).visible s).1 = s.sections ∧
    (((after looks).observe s).1.sectionsChanged = true ↔
      looks = [] ∨
        ∃ before l, looks = before ++ [l] ∧ ∃ x, ¬ (x ∈ l.state.sections ↔ x ∈ s.sections)) ∧
    (((after looks).observe s).1.roleLookupWanted = true ↔
      s.signedIn = true ∧ s.role.isResolved = false) ∧
    (∀ l : Look, l.state = s →
      let n := after (looks ++ [l])
      n.observe s = (⟨false, s.wantsRole⟩, n) ∧ n.visible s = (s.sections, n)) := by
  refine ⟨(faithful_after looks).visible s, ?changed, ?wanted, ?again⟩
  case changed =>
    have hmenu : ∀ l : Look, (∃ x, ¬ (x ∈ l.state.sections ↔ x ∈ s.sections)) ↔
        l.state.sections ≠ s.sections := by
      intro l
      rw [ne_eq, SessionState.sections_eq_iff, not_forall]
    rw [sectionsChanged_observe_iff, last_after]
    cases hlast : looks.getLast? with
    | none => simp [List.getLast?_eq_none_iff.mp hlast]
    | some l =>
      obtain ⟨before, rfl⟩ := List.getLast?_eq_some_iff.mp hlast
      constructor
      · intro h
        exact Or.inr ⟨before, l, rfl, (hmenu l).mpr (h _ _ rfl).2⟩
      · rintro (h | ⟨before', l', heq, hx⟩) seen sections hseen
        · simp at h
        · obtain ⟨rfl, rfl⟩ := Prod.mk.inj (Option.some.inj hseen)
          obtain ⟨_, rfl⟩ := List.append_singleton_inj.mp heq
          have hne := (hmenu l).mp hx
          exact ⟨fun hs => hne (congrArg SessionState.sections hs), hne⟩
  case wanted =>
    rw [roleLookupWanted_observe, SessionState.wantsRole, Bool.and_eq_true, Bool.not_eq_true']
  case again =>
    rintro l rfl
    have hlast : (after (looks ++ [l])).last = some (l.state, l.state.sections) := by
      rw [last_after, List.getLast?_concat]
      rfl
    have hobserve := observe_of_last hlast
    exact ⟨hobserve, by rw [Navigation.visible, hobserve, hlast]; rfl⟩

example :
    ((after [.visible ⟨true, .unknown⟩]).observe ⟨true, .commonUser⟩).1.sectionsChanged = false := by
  decide

end Navigation

end InsectPortal
