import Mathlib.Data.List.TakeWhile
import InsectPortal.Storage.Path

/-!
# The name in a path

A path with a file name is the text of leading segments, the name, and trailing segments that name
nothing. The temporary file has the same leading segments and another name.
-/
namespace InsectPortal.Path

def dots : List Char := ['.', '.']

variable {path : String} {fs ts : List (List Char)} {n : List Char}

theorem slash_not_mem {cs s : List Char} (h : s ∈ cs.splitOn '/') : '/' ∉ s := by
  induction cs generalizing s with
  | nil =>
    rw [List.splitOn_nil, List.mem_singleton] at h
    rw [h]
    exact List.not_mem_nil
  | cons c cs ih =>
    rw [List.splitOn_cons_eq_if_modifyHead] at h
    split at h
    · rcases List.mem_cons.mp h with rfl | h
      · exact List.not_mem_nil
      · exact ih h
    · next hc =>
      cases hsplit : cs.splitOn '/' with
      | nil => exact absurd hsplit (List.splitOn_ne_nil _ _)
      | cons head tail =>
        rw [hsplit, List.modifyHead_cons] at h
        rcases List.mem_cons.mp h with rfl | h
        · intro hmem
          rcases List.mem_cons.mp hmem with rfl | hmem
          · exact hc (by decide)
          · exact ih (hsplit ▸ List.mem_cons_self) hmem
        · exact ih (hsplit ▸ List.mem_cons_of_mem _ h)

def lead (fs : List (List Char)) : List Char := fs.flatMap (· ++ ['/'])

def trail (ts : List (List Char)) : List Char := ts.flatMap ('/' :: ·)

theorem intercalate_eq (fs : List (List Char)) (n : List Char) (ts : List (List Char)) :
    ['/'].intercalate (fs ++ n :: ts) = lead fs ++ (n ++ trail ts) := by
  induction fs with
  | nil =>
    induction ts generalizing n with
    | nil => simp [lead, trail]
    | cons t ts ih =>
      have ht := ih t
      simp only [lead, List.flatMap_nil, List.nil_append] at ht ⊢
      rw [List.intercalate_cons_cons, ht]
      simp [trail]
  | cons f fs ih =>
    rw [List.cons_append, List.intercalate_cons_of_ne_nil (by simp), ih]
    simp [lead]

theorem join_lead (fs : List (List Char)) :
    join (fs ++ if fs.isEmpty then [] else [[]]) = String.ofList (lead fs) := by
  cases fs with
  | nil => rfl
  | cons f fs =>
    have h := intercalate_eq (f :: fs) [] []
    simp only [trail, List.flatMap_nil, List.append_nil] at h
    rw [← h]
    rfl

theorem take_trail (h : ∀ s ∈ ts, isVoid s = true) (k : Nat) :
    ∃ ts', (∀ s ∈ ts', isVoid s = true) ∧ (trail ts).take k = trail ts' := by
  induction ts generalizing k with
  | nil => exact ⟨[], by simp, by simp [trail]⟩
  | cons t ts ih =>
    obtain ⟨ht, hts⟩ := List.forall_mem_cons.mp h
    have hcons : trail (t :: ts) = '/' :: (t ++ trail ts) := rfl
    rw [hcons]
    have hvoid : t = [] ∨ t = ['.'] := by simpa [isVoid] using ht
    cases k with
    | zero => exact ⟨[], by simp, rfl⟩
    | succ k =>
      rcases hvoid with rfl | rfl
      · obtain ⟨ts', hts', heq⟩ := ih hts k
        refine ⟨[] :: ts', List.forall_mem_cons.mpr ⟨rfl, hts'⟩, ?_⟩
        rw [List.take_succ_cons, List.nil_append, heq]
        rfl
      · cases k with
        | zero => exact ⟨[[]], by simp [isVoid], rfl⟩
        | succ k =>
          obtain ⟨ts', hts', heq⟩ := ih hts k
          refine ⟨['.'] :: ts', List.forall_mem_cons.mpr ⟨rfl, hts'⟩, ?_⟩
          rw [List.take_succ_cons, List.singleton_append, List.take_succ_cons, heq]
          rfl

/-- The path consists of leading segments, a segment that names something, and trailing segments
that do not. -/
structure Named (path : String) (fs : List (List Char)) (n : List Char) (ts : List (List Char)) :
    Prop where
  segments : segments path = fs ++ n :: ts
  name : isVoid n = false
  void : ∀ s ∈ ts, isVoid s = true

theorem named_cases (path : String) :
    (∀ s ∈ segments path, isVoid s = true) ∨ ∃ fs n ts, Named path fs n ts := by
  have hsplit : (segments path).reverse.takeWhile isVoid ++
      (segments path).reverse.dropWhile isVoid = (segments path).reverse :=
    List.takeWhile_append_dropWhile
  have hvoid : ∀ s ∈ (segments path).reverse.takeWhile isVoid, isVoid s = true :=
    fun s hs => List.mem_takeWhile_imp hs
  generalize (segments path).reverse.takeWhile isVoid = after at hsplit hvoid
  cases hrest : (segments path).reverse.dropWhile isVoid with
  | nil =>
    rw [hrest, List.append_nil] at hsplit
    refine Or.inl fun s hs => hvoid s ?_
    rw [hsplit]
    exact List.mem_reverse.mpr hs
  | cons n front =>
    refine Or.inr ⟨front.reverse, n, after.reverse, ?_⟩
    rw [hrest] at hsplit
    constructor
    · have hback := congrArg List.reverse hsplit
      rw [List.reverse_reverse] at hback
      rw [← hback]
      simp
    · have hne : (segments path).reverse.dropWhile isVoid ≠ [] := by
        rw [hrest]
        exact List.cons_ne_nil _ _
      have hn := List.head_dropWhile_not isVoid hne
      simpa [hrest] using hn
    · intro s hs
      exact hvoid s (List.mem_reverse.mp hs)

theorem named_eq_nil (h : ∀ s ∈ segments path, isVoid s = true) : named path = [] := by
  rw [named, List.reverse_eq_nil_iff, List.dropWhile_eq_nil_iff]
  intro s hs
  exact h s (List.mem_reverse.mp hs)

namespace Named

theorem named_eq (h : Named path fs n ts) : named path = fs ++ [n] := by
  have hvoid : ∀ s ∈ ts.reverse, isVoid s = true := fun s hs => h.void s (List.mem_reverse.mp hs)
  have hkept : (n :: fs.reverse).dropWhile isVoid = n :: fs.reverse :=
    List.dropWhile_cons_of_neg (by rw [h.name]; exact Bool.false_ne_true)
  rw [named, h.segments, List.reverse_append, List.reverse_cons, List.append_assoc,
    List.singleton_append, List.dropWhile_append_of_pos hvoid, hkept]
  simp

theorem text (h : Named path fs n ts) : path.toList = lead fs ++ (n ++ trail ts) := by
  rw [← intercalate_eq, ← h.segments]
  exact (List.intercalate_splitOn '/').symm

theorem no_slash (h : Named path fs n ts) {s : List Char} (hs : s ∈ fs ++ n :: ts) : '/' ∉ s := by
  rw [← h.segments] at hs
  exact slash_not_mem hs

theorem rename (h : Named path fs n ts) {n' : List Char} {ts' : List (List Char)}
    (hslash : '/' ∉ n') (hname : isVoid n' = false) (hvoid : ∀ s ∈ ts', isVoid s = true) :
    Named (String.ofList (lead fs ++ (n' ++ trail ts'))) fs n' ts' := by
  refine ⟨?_, hname, hvoid⟩
  rw [Path.segments, String.toList_ofList, ← intercalate_eq]
  apply List.splitOn_intercalate
  · intro s hs
    rcases List.mem_append.mp hs with hs | hs
    · exact h.no_slash (List.mem_append_left _ hs)
    · rcases List.mem_cons.mp hs with rfl | hs
      · exact hslash
      · have hv := hvoid s hs
        intro hmem
        have hcase : s = [] ∨ s = ['.'] := by simpa [isVoid] using hv
        rcases hcase with rfl | rfl
        · exact absurd hmem List.not_mem_nil
        · exact absurd hmem (by decide)
  · simp

theorem splitName?_eq (h : Named path fs n ts) : splitName? path =
    if n = dots then none else some (String.ofList (lead fs), n) := by
  unfold splitName?
  rw [h.named_eq, List.reverse_append, List.reverse_singleton, List.singleton_append]
  dsimp only
  by_cases hn : n = dots
  · rw [if_pos hn, hn]
    rfl
  · have hne : (n == ['.', '.']) = false := beq_false_of_ne hn
    rw [if_neg hn, hne, if_neg Bool.false_ne_true]
    simp only [List.isEmpty_reverse, List.reverse_reverse]
    rw [join_lead]

theorem parent_eq (h : Named path fs n ts) : parent path = join fs := by
  rw [parent, h.named_eq]
  simp

end Named

theorem named_of_splitName? {parts : String × List Char} (h : splitName? path = some parts) :
    ∃ fs n ts, Named path fs n ts ∧ n ≠ dots := by
  rcases named_cases path with hvoid | ⟨fs, n, ts, hnamed⟩
  · rw [splitName?, named_eq_nil hvoid] at h
    cases h
  · refine ⟨fs, n, ts, hnamed, ?_⟩
    intro hn
    rw [hnamed.splitName?_eq, if_pos hn] at h
    cases h

theorem splitExtension_of_point {stem extension : List Char} (hstem : stem ≠ [])
    (hpoint : '.' ∉ extension) :
    splitExtension (stem ++ '.' :: extension) = (stem, some extension) := by
  have hrev : (stem ++ '.' :: extension).reverse = extension.reverse ++ '.' :: stem.reverse := by
    simp
  have hafter : (extension.reverse ++ '.' :: stem.reverse).takeWhile (· ≠ '.') =
      extension.reverse := by
    rw [List.takeWhile_append_of_pos]
    · simp
    · intro c hc
      have hne : c ≠ '.' := fun he => hpoint (he ▸ List.mem_reverse.mp hc)
      simpa using hne
  unfold splitExtension
  dsimp only
  rw [hrev, hafter]
  have hdrop : (extension.reverse ++ '.' :: stem.reverse).drop (extension.reverse.length + 1) =
      stem.reverse := by
    rw [← List.drop_drop, List.drop_left]
    rfl
  rw [hdrop]
  cases hs : stem.reverse with
  | nil => exact absurd (List.reverse_eq_nil_iff.mp hs) hstem
  | cons c cs =>
    dsimp only
    rw [← hs, List.reverse_reverse, List.reverse_reverse]

theorem splitExtension_cases (name : List Char) :
    splitExtension name = (name, none) ∨ ∃ stem extension, name = stem ++ '.' :: extension ∧
      stem ≠ [] ∧ '.' ∉ extension := by
  have hsplit : name.reverse.takeWhile (· ≠ '.') ++ name.reverse.dropWhile (· ≠ '.') =
      name.reverse := List.takeWhile_append_dropWhile
  generalize hafter : name.reverse.takeWhile (· ≠ '.') = after at hsplit
  cases hrest : name.reverse.dropWhile (· ≠ '.') with
  | nil =>
    refine Or.inl ?_
    rw [hrest, List.append_nil] at hsplit
    unfold splitExtension
    dsimp only
    rw [hafter, ← hsplit, List.drop_eq_nil_of_le (Nat.le_succ _)]
  | cons c front =>
    have hc : c = '.' := by
      have hne : name.reverse.dropWhile (· ≠ '.') ≠ [] := by
        rw [hrest]
        exact List.cons_ne_nil _ _
      have hn := List.head_dropWhile_not (fun c : Char => decide (c ≠ '.')) hne
      simp only [hrest, List.head_cons] at hn
      simpa using hn
    rw [hrest, hc] at hsplit
    by_cases hfront : front = []
    · refine Or.inl ?_
      unfold splitExtension
      dsimp only
      rw [hafter, ← hsplit, hfront, List.drop_eq_nil_of_le (by simp)]
    · refine Or.inr ⟨front.reverse, after.reverse, ?_, by simpa using hfront, ?_⟩
      · rw [← List.reverse_reverse name, ← hsplit]
        simp
      · intro hmem
        rw [← hafter] at hmem
        have hne := List.mem_takeWhile_imp (List.mem_reverse.mp hmem)
        exact absurd hne (by decide)

def temporaryEnd : List Char := ['.', 'j', 's', 'o', 'n', '.', 't', 'm', 'p']

def shorten (path : String) (name : List Char) : String :=
  match (splitExtension name).2 with
  | none => path
  | some extension => String.ofList (path.toList.take (path.length - extension.length))

theorem temporary_eq {front : String} {name : List Char} (h : splitName? path = some (front, name)) :
    temporary path = (splitName? (shorten path name)).elim (shorten path name) fun p =>
      p.1 ++ String.ofList (splitExtension p.2).1 ++ ".json.tmp" := by
  unfold temporary
  rw [h]
  unfold shorten
  dsimp only
  cases (splitExtension name).2 with
  | none =>
    dsimp only
    cases splitName? path <;> rfl
  | some extension =>
    dsimp only
    cases splitName? (String.ofList (path.toList.take (path.length - extension.length))) <;> rfl

theorem temporary_of_nameless {front : String} {name : List Char}
    (hname : splitName? path = some (front, name)) (h : splitName? (shorten path name) = none) :
    temporary path = shorten path name := by
  rw [temporary_eq hname, h]
  rfl

theorem temporary_of_stem {front : String} {name name' stem : List Char}
    {extension : Option (List Char)} (hname : splitName? path = some (front, name))
    (hname' : splitName? (shorten path name) = some (front, name'))
    (hstem : splitExtension name' = (stem, extension)) :
    temporary path = String.ofList (front.toList ++ (stem ++ temporaryEnd)) := by
  rw [temporary_eq hname, hname', Option.elim_some, hstem]
  apply String.toList_inj.mp
  simp [temporaryEnd]

theorem void_stem (stem : List Char) : isVoid (stem ++ temporaryEnd) = false := by
  cases stem with
  | nil => rfl
  | cons c stem => simp [isVoid, temporaryEnd]

theorem stem_ne_dots (stem : List Char) : stem ++ temporaryEnd ≠ dots := by
  intro heq
  have hlen := congrArg List.length heq
  simp [temporaryEnd, dots] at hlen

theorem Named.stem (h : Named path fs n ts) {stem : List Char} (hslash : '/' ∉ stem) :
    Named (String.ofList (lead fs ++ (stem ++ temporaryEnd))) fs (stem ++ temporaryEnd) [] := by
  have hfree : '/' ∉ stem ++ temporaryEnd := by
    simpa [temporaryEnd] using hslash
  have hother := h.rename hfree (void_stem stem) (List.forall_mem_nil _)
  rwa [trail, List.flatMap_nil, List.append_nil] at hother

/-- As many characters go as the extension has, and they may be those of trailing segments. -/
theorem shorten_extension {stem extension : List Char}
    (h : Named path fs (stem ++ '.' :: extension) ts) (hstem : stem ≠ []) (hpoint : '.' ∉ extension) :
    ∃ ts', (∀ s ∈ ts', isVoid s = true) ∧ shorten path (stem ++ '.' :: extension) =
      String.ofList (lead fs ++ ((stem ++ '.' :: extension.take (trail ts).length) ++ trail ts')) := by
  obtain ⟨ts', hts', htrail⟩ := take_trail h.void ((trail ts).length - extension.length)
  refine ⟨ts', hts', ?_⟩
  unfold shorten
  rw [splitExtension_of_point hstem hpoint]
  dsimp only
  have hlen : path.length - extension.length =
      (lead fs ++ (stem ++ ['.'])).length + (trail ts).length := by
    rw [← String.length_toList, h.text]
    simp only [List.length_append, List.length_cons, List.length_nil]
    omega
  have htext : path.toList = (lead fs ++ (stem ++ ['.'])) ++ (extension ++ trail ts) := by
    rw [h.text]
    simp
  rw [hlen, htext, List.take_length_add_append, List.take_append, htrail]
  simp

theorem temporary_without_extension (h : Named path fs n ts) (hn : n ≠ dots)
    (hext : splitExtension n = (n, none)) :
    Named (temporary path) fs (n ++ temporaryEnd) [] := by
  have hsplit : splitName? path = some (String.ofList (lead fs), n) := by
    rw [h.splitName?_eq, if_neg hn]
  have hwhole : shorten path n = path := by
    unfold shorten
    rw [hext]
  rw [temporary_of_stem hsplit (by rw [hwhole]; exact hsplit) hext, String.toList_ofList]
  exact h.stem (h.no_slash (by simp))

theorem temporary_with_extension {stem extension : List Char}
    (h : Named path fs (stem ++ '.' :: extension) ts) (hn : stem ++ '.' :: extension ≠ dots)
    (hstem : stem ≠ []) (hpoint : '.' ∉ extension) :
    splitName? (temporary path) = none ∨ Named (temporary path) fs (stem ++ temporaryEnd) [] := by
  have hsplit : splitName? path = some (String.ofList (lead fs), stem ++ '.' :: extension) := by
    rw [h.splitName?_eq, if_neg hn]
  have hslash : '/' ∉ stem ++ '.' :: extension := h.no_slash (by simp)
  obtain ⟨ts', hts', hshort⟩ := shorten_extension h hstem hpoint
  generalize hlast : extension.take (trail ts).length = last at hshort
  have hmem : ∀ c ∈ last, c ∈ extension := fun c hc => List.mem_of_mem_take (hlast ▸ hc)
  have hlastSlash : '/' ∉ stem ++ '.' :: last := by
    intro hm
    apply hslash
    rcases List.mem_append.mp hm with hm | hm
    · exact List.mem_append_left _ hm
    · rcases List.mem_cons.mp hm with hm | hm
      · exact absurd hm (by decide)
      · exact List.mem_append_right _ (List.mem_cons_of_mem _ (hmem _ hm))
  have hvoid : isVoid (stem ++ '.' :: last) = false := by
    cases stem with
    | nil => exact absurd rfl hstem
    | cons c stem => simp [isVoid]
  have hnamed := h.rename hlastSlash hvoid hts'
  rw [← hshort] at hnamed
  by_cases hup : stem ++ '.' :: last = dots
  · left
    have hnone : splitName? (shorten path (stem ++ '.' :: extension)) = none := by
      rw [hnamed.splitName?_eq, if_pos hup]
    rw [temporary_of_nameless hsplit hnone, hnone]
  · right
    have hname' : splitName? (shorten path (stem ++ '.' :: extension)) =
        some (String.ofList (lead fs), stem ++ '.' :: last) := by
      rw [hnamed.splitName?_eq, if_neg hup]
    have hext := splitExtension_of_point hstem fun hm => hpoint (hmem _ hm)
    rw [temporary_of_stem hsplit hname' hext, String.toList_ofList]
    exact h.stem fun hm => hslash (List.mem_append_left _ hm)

/-- The temporary file stands beside the file and has another name, unless the path of the temporary
file ends in no name at all. -/
theorem temporary_cases (h : Named path fs n ts) (hn : n ≠ dots) :
    splitName? (temporary path) = none ∨
      ∃ n', Named (temporary path) fs n' [] ∧ n' ≠ n ∧ n' ≠ dots := by
  rcases splitExtension_cases n with hext | ⟨stem, extension, rfl, hstem, hpoint⟩
  · right
    refine ⟨_, temporary_without_extension h hn hext, ?_, stem_ne_dots n⟩
    intro heq
    have hlen := congrArg List.length heq
    simp [temporaryEnd] at hlen
  · rcases temporary_with_extension h hn hstem hpoint with hnone | hnamed
    · exact Or.inl hnone
    · right
      refine ⟨_, hnamed, ?_, stem_ne_dots stem⟩
      intro heq
      apply hpoint
      rw [← (List.cons.inj (List.append_cancel_left heq)).2]
      decide

end InsectPortal.Path
