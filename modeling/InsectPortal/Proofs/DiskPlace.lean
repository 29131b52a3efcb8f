import InsectPortal.Proofs.PathName
import InsectPortal.Storage.Disk

/-!
# The place of a file

A path names a place, whatever stands on the disk; only whether it leads there depends on the
directories along the way. What each step changes is said for one place: the temporary file is
written beside the file, so nothing that is done to it touches the place of the file.
-/
namespace InsectPortal.Disk

open InsectPortal.Path (Named named_cases dots)

/-- The place some segments further, whatever stands along the way. -/
def walk (p : Place) : List (List Char) → Option Place
  | [] => some p
  | s :: rest => (enter? p s).bind (walk · rest)

def placeOf? (path : String) : Option Place := (origin? path).bind fun o => walk o.1 o.2

def start : List (List Char) → Place × List (List Char)
  | [] :: rest => (["/"], rest)
  | segs => ([], segs)

variable {d : Disk} {path : String} {p q : Place} {fs ts : List (List Char)} {n : List Char}

theorem isDirectory_iff : d.isDirectory p = true ↔ d.node? p = some .directory := by
  unfold isDirectory
  split <;> simp_all

theorem node?_of_anchor (h : isAnchor p = true) (d : Disk) : d.node? p = some .directory := by
  rw [node?, if_pos h]

theorem not_anchor (h : d.isDirectory p = false) : isAnchor p = false := by
  cases ha : isAnchor p with
  | false => rfl
  | true =>
    have hdir := isDirectory_iff.mpr (node?_of_anchor ha d)
    exact absurd (hdir.symm.trans h) (by decide)

theorem isAnchor_start (fs : List (List Char)) : isAnchor (start fs).1 = true := by
  unfold start
  split <;> rfl

theorem mem_of_mem_start {s : List Char} (h : s ∈ (start fs).2) : s ∈ fs := by
  unfold start at h
  split at h
  · exact List.mem_cons_of_mem _ h
  · exact h

theorem origin?_eq_some {o : Place × List (List Char)} (h : origin? path = some o) :
    o = start (Path.segments path) := by
  unfold origin? at h
  split at h
  · cases h
  · generalize Path.segments path = segs at h ⊢
    rcases segs with _ | ⟨_ | ⟨c, s⟩, rest⟩ <;> exact (Option.some.inj h).symm

theorem walk_append (p : Place) (a b : List (List Char)) :
    walk p (a ++ b) = (walk p a).bind (walk · b) := by
  induction a generalizing p with
  | nil => rfl
  | cons s a ih =>
    rw [List.cons_append, walk, walk]
    cases enter? p s with
    | none => rfl
    | some q => exact ih q

theorem follow?_append (d : Disk) (p : Place) (a b : List (List Char)) :
    d.follow? p (a ++ b) = (d.follow? p a).bind (d.follow? · b) := by
  induction a generalizing p with
  | nil => rfl
  | cons s a ih =>
    rw [List.cons_append, follow?, follow?]
    split
    · cases enter? p s with
      | none => rfl
      | some q => exact ih q
    · rfl

theorem walk_of_follow? {segs : List (List Char)} (h : d.follow? p segs = some q) :
    walk p segs = some q := by
  induction segs generalizing p with
  | nil => exact h
  | cons s rest ih =>
    rw [follow?] at h
    split at h
    · obtain ⟨r, hr, hrest⟩ := Option.bind_eq_some_iff.mp h
      rw [walk, hr]
      exact ih hrest
    · cases h

theorem enter?_void (h : Path.isVoid n = true) (p : Place) : enter? p n = some p := by
  rw [enter?, if_pos h]

theorem walk_void (h : ∀ s ∈ ts, Path.isVoid s = true) (p : Place) : walk p ts = some p := by
  induction ts with
  | nil => rfl
  | cons t ts ih =>
    obtain ⟨ht, hts⟩ := List.forall_mem_cons.mp h
    rw [walk, enter?_void ht]
    exact ih hts

theorem enter?_name (hv : Path.isVoid n = false) (hn : n ≠ dots) (h : enter? p n = some q) :
    q = p ++ [String.ofList n] := by
  have hne : (n == ['.', '.']) = false := beq_false_of_ne hn
  rw [enter?, hv, if_neg Bool.false_ne_true, hne, if_neg Bool.false_ne_true] at h
  dsimp only at h
  split at h
  · exact (Option.some.inj h).symm
  · cases h

theorem isPrefix_of_enter? {s : List Char} (hs : s ≠ dots) (h : enter? p s = some q) : p <+: q := by
  cases hv : Path.isVoid s with
  | true =>
    rw [enter?_void hv] at h
    obtain rfl := Option.some.inj h
    exact List.prefix_refl _
  | false =>
    rw [enter?_name hv hs h]
    exact List.prefix_append _ _

/-- Only `..` leads back. -/
theorem isPrefix_of_walk {segs : List (List Char)} (hs : dots ∉ segs) (h : walk p segs = some q) :
    p <+: q := by
  induction segs generalizing p with
  | nil =>
    obtain rfl := Option.some.inj h
    exact List.prefix_refl _
  | cons s rest ih =>
    rw [walk] at h
    obtain ⟨r, hr, hrest⟩ := Option.bind_eq_some_iff.mp h
    have hne : s ≠ dots := fun he => hs (he ▸ List.mem_cons_self)
    exact (isPrefix_of_enter? hne hr).trans
      (ih (fun hm => hs (List.mem_cons_of_mem _ hm)) hrest)

theorem placeOf?_of_resolve? (h : d.resolve? path = some p) : placeOf? path = some p := by
  obtain ⟨o, ho, hf⟩ := Option.bind_eq_some_iff.mp h
  rw [placeOf?, ho]
  exact walk_of_follow? hf

/-- What is found at the end of a path is what stands at the place it names. -/
theorem look?_eq (h : d.resolve? path = some p) : d.look? path = d.node? p := by
  rw [look?, h]
  rfl

/-- Without `..` a path leads wherever all that it passes is a directory. -/
theorem follow?_of_walk {segs : List (List Char)} (hs : dots ∉ segs) (h : walk p segs = some q)
    (hdirs : ∀ r, r <+: q → d.isDirectory r = true) : d.follow? p segs = some q := by
  induction segs generalizing p with
  | nil => exact h
  | cons s rest ih =>
    have hp := hdirs p (isPrefix_of_walk hs h)
    rw [walk] at h
    obtain ⟨r, hr, hrest⟩ := Option.bind_eq_some_iff.mp h
    rw [follow?, if_pos hp, hr]
    exact ih (fun hm => hs (List.mem_cons_of_mem _ hm)) hrest

theorem start_named (h : Named path fs n ts) :
    start (Path.segments path) = ((start fs).1, (start fs).2 ++ n :: ts) := by
  rw [h.segments]
  cases fs with
  | nil =>
    cases n with
    | nil => exact absurd h.name (by decide)
    | cons c n => rfl
  | cons f fs =>
    cases f with
    | nil => rfl
    | cons c f => rfl

theorem placeOf?_named (h : Named path fs n ts) (hn : n ≠ dots) (hp : placeOf? path = some p) :
    ∃ base, walk (start fs).1 (start fs).2 = some base ∧ p = base ++ [String.ofList n] := by
  obtain ⟨o, ho, hw⟩ := Option.bind_eq_some_iff.mp hp
  rw [origin?_eq_some ho, start_named h] at hw
  dsimp only at hw
  rw [walk_append] at hw
  obtain ⟨base, hbase, hrest⟩ := Option.bind_eq_some_iff.mp hw
  rw [walk] at hrest
  obtain ⟨q, hq, hts⟩ := Option.bind_eq_some_iff.mp hrest
  rw [walk_void h.void] at hts
  obtain rfl := Option.some.inj hts
  exact ⟨base, hbase, enter?_name h.name hn hq⟩

theorem writable?_eq_some : d.writable? path = some p ↔
    d.resolve? path = some p ∧ d.isDirectory p = false := by
  rw [writable?, Option.filter_eq_some_iff, Bool.not_eq_true']

def Rooted (d : Disk) (p : Place) : Prop := ∀ q, q <+: p → q ≠ p → d.isDirectory q = true

theorem rooted_snoc {name : String} (h : d.Rooted p) (hp : d.isDirectory p = true) :
    d.Rooted (p ++ [name]) := by
  intro q hq hne
  rcases List.prefix_concat_iff.mp hq with rfl | hq
  · exact absurd rfl hne
  · by_cases he : q = p
    · rw [he]
      exact hp
    · exact h q hq he

theorem directory_above (h : d.Rooted p) : d.isDirectory (above p) = true := by
  unfold above
  by_cases hroot : (p == ["/"]) = true
  · rw [if_pos hroot]
    exact isDirectory_iff.mpr (node?_of_anchor (by rw [isAnchor, hroot, Bool.true_or]) d)
  · rw [if_neg hroot]
    by_cases hup : p.all (· == "..") = true
    · rw [if_pos hup]
      refine isDirectory_iff.mpr (node?_of_anchor ?_ d)
      rw [isAnchor, List.all_append, hup]
      exact Bool.or_true _
    · rw [if_neg hup]
      refine h _ (List.dropLast_prefix p) fun he => hup ?_
      have hnil : p = [] := by
        by_contra hne
        have hlen := congrArg List.length he
        have hpos := List.length_pos_iff.mpr hne
        rw [List.length_dropLast] at hlen
        omega
      rw [hnil]
      rfl

theorem rooted_above (h : d.Rooted p) (hp : d.isDirectory p = true) : d.Rooted (above p) := by
  unfold above
  by_cases hroot : (p == ["/"]) = true
  · rw [if_pos hroot]
    exact h
  · rw [if_neg hroot]
    by_cases hup : p.all (· == "..") = true
    · rw [if_pos hup]
      exact rooted_snoc h hp
    · rw [if_neg hup]
      intro q hq hne
      refine h q (hq.trans (List.dropLast_prefix p)) fun he => hne ?_
      rw [he] at hq
      exact he.trans (hq.eq_of_length_le (by rw [List.length_dropLast]; omega))

theorem rooted_enter? {s : List Char} (h : d.Rooted p) (hp : d.isDirectory p = true)
    (he : enter? p s = some q) : d.Rooted q := by
  cases hv : Path.isVoid s with
  | true =>
    rw [enter?_void hv] at he
    rw [← Option.some.inj he]
    exact h
  | false =>
    by_cases hs : s = dots
    · rw [hs] at he
      rw [← Option.some.inj he]
      exact rooted_above h hp
    · rw [enter?_name hv hs he]
      exact rooted_snoc h hp

theorem rooted_follow? {segs : List (List Char)} (h : d.Rooted p)
    (hf : d.follow? p segs = some q) : d.Rooted q := by
  induction segs generalizing p with
  | nil =>
    rw [← Option.some.inj hf]
    exact h
  | cons s rest ih =>
    rw [follow?] at hf
    split at hf
    · next hp =>
      obtain ⟨r, hr, hrest⟩ := Option.bind_eq_some_iff.mp hf
      exact ih (rooted_enter? h hp hr) hrest
    · cases hf

theorem rooted_start (d : Disk) (fs : List (List Char)) : d.Rooted (start fs).1 := by
  have hroot : (start fs).1 = [] ∨ (start fs).1 = [] ++ ["/"] := by
    unfold start
    split
    · exact Or.inr rfl
    · exact Or.inl rfl
  intro q hq hne
  rcases hroot with hs | hs
  · rw [hs] at hq hne
    exact absurd (List.prefix_nil.mp hq) hne
  · rw [hs] at hq hne
    rcases List.prefix_concat_iff.mp hq with rfl | hq
    · exact absurd rfl hne
    · rw [List.prefix_nil.mp hq]
      exact isDirectory_iff.mpr (node?_of_anchor rfl d)

theorem directory_of_void {segs : List (List Char)} (hv : ∀ s ∈ segs, Path.isVoid s = true)
    (h : d.follow? (start segs).1 (start segs).2 = some q) : d.isDirectory q = true := by
  have hq := walk_of_follow? h
  rw [walk_void fun s hs => hv s (mem_of_mem_start hs)] at hq
  rw [← Option.some.inj hq]
  exact isDirectory_iff.mpr (node?_of_anchor (isAnchor_start segs) d)

theorem directory_of_dots {segs : List (List Char)} (hp : d.Rooted p)
    (hv : ∀ s ∈ ts, Path.isVoid s = true) (h : d.follow? p (segs ++ dots :: ts) = some q) :
    d.isDirectory q = true := by
  rw [follow?_append] at h
  obtain ⟨r, hr, hrest⟩ := Option.bind_eq_some_iff.mp h
  have hq := walk_of_follow? hrest
  rw [walk] at hq
  obtain ⟨u, hu, hts⟩ := Option.bind_eq_some_iff.mp hq
  rw [walk_void hv] at hts
  obtain rfl := Option.some.inj hts
  obtain rfl : above r = u := Option.some.inj hu
  exact directory_above (rooted_follow? hp hr)

theorem writable?_of_nameless (h : Path.splitName? path = none) (d : Disk) :
    d.writable? path = none := by
  cases hw : d.writable? path with
  | none => rfl
  | some q =>
    obtain ⟨hr, hfree⟩ := writable?_eq_some.mp hw
    obtain ⟨o, ho, hf⟩ := Option.bind_eq_some_iff.mp hr
    rw [origin?_eq_some ho] at hf
    have hdir : d.isDirectory q = true := by
      rcases named_cases path with hvoid | ⟨fs, n, ts, hnamed⟩
      · exact directory_of_void hvoid hf
      · have hn : n = dots := by
          by_contra hne
          rw [hnamed.splitName?_eq, if_neg hne] at h
          cases h
        rw [start_named hnamed, hn] at hf
        exact directory_of_dots (rooted_start d fs) hnamed.void hf
    exact absurd (hdir.symm.trans hfree) (by decide)

def Beside (p q : Place) : Prop := ∃ base a b, p = base ++ [a] ∧ q = base ++ [b] ∧ a ≠ b

theorem Beside.not_isPrefix (h : Beside p q) : ¬ q <+: p := by
  obtain ⟨base, a, b, rfl, rfl, hne⟩ := h
  intro hpre
  have heq := hpre.eq_of_length (by simp)
  exact hne (List.singleton_inj.mp (List.append_cancel_left heq)).symm

theorem Beside.ne (h : Beside p q) : p ≠ q := fun he => h.not_isPrefix (he ▸ List.prefix_refl _)

/-- Where the temporary file can be written at all, it stands beside the file. -/
theorem beside_of_writable? (h : d.writable? (Path.temporary path) = some q)
    (hp : placeOf? path = some p) : Beside p q := by
  have hq := placeOf?_of_resolve? (writable?_eq_some.mp h).1
  cases hname : Path.splitName? path with
  | none =>
    have htemp : Path.temporary path = path := by
      unfold Path.temporary
      rw [hname]
    rw [htemp, writable?_of_nameless hname] at h
    cases h
  | some parts =>
    obtain ⟨fs, n, ts, hnamed, hn⟩ := Path.named_of_splitName? hname
    rcases Path.temporary_cases hnamed hn with hnone | ⟨n', hother, hne, hn'⟩
    · rw [writable?_of_nameless hnone] at h
      cases h
    · obtain ⟨base, hbase, rfl⟩ := placeOf?_named hnamed hn hp
      obtain ⟨base', hbase', rfl⟩ := placeOf?_named hother hn' hq
      obtain rfl := Option.some.inj (hbase.symm.trans hbase')
      exact ⟨base, _, _, rfl, rfl, fun he => hne (String.ofList_inj.mp he).symm⟩

theorem find?_filter_of_keep (keep : Place → Bool) (h : keep p = true) (nodes : List (Place × Node)) :
    (nodes.filter fun e => keep e.1).find? (·.1 = p) = nodes.find? (·.1 = p) := by
  induction nodes with
  | nil => rfl
  | cons e nodes ih =>
    by_cases he : e.1 = p
    · simp [he, h]
    · by_cases hk : keep e.1 = true
      · simpa [hk, he] using ih
      · simpa [hk, he] using ih

theorem node?_put (d : Disk) (q : Place) (node : Node) (p : Place) : (d.put q node).node? p =
    if isAnchor p then some .directory else if p = q then some node else d.node? p := by
  unfold node?
  split
  · rfl
  · by_cases h : p = q
    · simp [put, h]
    · have hkeep := find?_filter_of_keep (fun r => decide (r ≠ q)) (decide_eq_true h) d.nodes
      rw [if_neg h, put, List.find?_cons_of_neg (by simpa using Ne.symm h), hkeep]

theorem node?_put_of_ne (h : p ≠ q) (d : Disk) (node : Node) : (d.put q node).node? p = d.node? p := by
  rw [node?_put, if_neg h]
  unfold node?
  split <;> rfl

theorem node?_dropTree (h : ¬ q <+: p) (d : Disk) : (d.dropTree q).node? p = d.node? p := by
  unfold node?
  split
  · rfl
  · have hq : (!q.isPrefixOf p) = true := by
      rw [Bool.not_eq_true', ← Bool.not_eq_true, List.isPrefixOf_iff_prefix]
      exact h
    rw [dropTree, find?_filter_of_keep (fun r => !q.isPrefixOf r) hq]

/-- Making directories changes a place at most where nothing stood, and only along the way. -/
theorem node?_makeAlong (d : Disk) (r : Place) (segs : List (List Char)) (p : Place) :
    (d.makeAlong r segs).2.node? p = d.node? p ∨
      (d.node? p = none ∧ (d.makeAlong r segs).2.node? p = some .directory ∧
        ∃ k, walk r (segs.take k) = some p) := by
  induction segs generalizing d r with
  | nil => exact Or.inl rfl
  | cons s rest ih =>
    rw [makeAlong]
    cases hs : enter? r s with
    | none => exact Or.inl rfl
    | some q =>
      have hwalk : ∀ k, walk q (rest.take k) = some p →
          walk r ((s :: rest).take (k + 1)) = some p := by
        intro k hk
        rw [List.take_succ_cons, walk, hs]
        exact hk
      dsimp only
      cases hq : d.node? q with
      | some node =>
        cases node with
        | file content => exact Or.inl rfl
        | directory =>
          rcases ih d q with h | ⟨hnone, hdir, k, hk⟩
          · exact Or.inl h
          · exact Or.inr ⟨hnone, hdir, k + 1, hwalk k hk⟩
      | none =>
        dsimp only
        by_cases hpq : p = q
        · refine Or.inr ⟨hpq ▸ hq, ?_, 1, hwalk 0 (hpq ▸ rfl)⟩
          have hput : (d.put q .directory).node? p = some .directory := by
            rw [node?_put, if_pos hpq]
            split <;> rfl
          rcases ih (d.put q .directory) q with h | ⟨_, hdir, _⟩
          · rw [h, hput]
          · exact hdir
        · have hput := node?_put_of_ne hpq d .directory
          rcases ih (d.put q .directory) q with h | ⟨hnone, hdir, k, hk⟩
          · exact Or.inl (h.trans hput)
          · exact Or.inr ⟨hput ▸ hnone, hdir, k + 1, hwalk k hk⟩

def makeSome (d : Disk) (path : String) (count : Nat) : Disk :=
  match origin? path with
  | none => d
  | some (p, segs) => (d.makeAlong p (segs.take count)).2

theorem makeDirectories_eq (d : Disk) (path : String) :
    ∃ count, (d.makeDirectories path).2 = d.makeSome path count := by
  unfold makeDirectories makeSome
  cases origin? path with
  | none => exact ⟨0, rfl⟩
  | some o =>
    refine ⟨o.2.length, ?_⟩
    dsimp only
    rw [List.take_length]

theorem segments_join (h : fs ≠ []) (hs : ∀ s ∈ fs, '/' ∉ s) : Path.segments (Path.join fs) = fs := by
  rw [Path.segments, Path.join, String.toList_ofList]
  exact List.splitOn_intercalate '/' hs h

theorem isPrefix_of_walk_take {segs : List (List Char)} {k : Nat} (hs : dots ∉ segs)
    (h : walk p segs = some q) {r : Place} (hk : walk p (segs.take k) = some r) : r <+: q := by
  have hsplit := walk_append p (segs.take k) (segs.drop k)
  rw [List.take_append_drop, h, hk] at hsplit
  apply isPrefix_of_walk _ hsplit.symm
  intro hm
  exact hs (List.mem_of_mem_drop hm)

/-- A path that never leads back does not name one of the directories above its file. -/
theorem not_walk_parent (h : Named path fs n ts) (hdots : dots ∉ Path.segments path)
    (hp : placeOf? path = some p) (k : Nat) :
    walk (start fs).1 ((start fs).2.take k) ≠ some p := by
  intro hk
  rw [h.segments] at hdots
  have hn : n ≠ dots := fun he => hdots (by rw [he]; simp)
  have hsegs : dots ∉ (start fs).2 :=
    fun hm => hdots (List.mem_append_left _ (mem_of_mem_start hm))
  obtain ⟨base, hbase, rfl⟩ := placeOf?_named h hn hp
  have hlen := (isPrefix_of_walk_take hsegs hbase hk).length_le
  rw [List.length_append, List.length_singleton] at hlen
  omega

theorem origin?_parent (h : Named path fs n ts) (hparent : Path.parent path ≠ "")
    {o : Place × List (List Char)} (ho : origin? (Path.parent path) = some o) : o = start fs := by
  rw [h.parent_eq] at hparent ho
  have hne : fs ≠ [] := by
    intro he
    rw [he] at hparent
    exact hparent rfl
  rw [origin?_eq_some ho, segments_join hne]
  intro s hs
  exact h.no_slash (List.mem_append_left _ hs)

/-- The directories above a file include the place of the file only where its path leads back. -/
theorem node?_makeSome_parent (d : Disk) (count : Nat) (hp : placeOf? path = some p)
    (hparent : Path.parent path ≠ "") :
    (d.makeSome (Path.parent path) count).node? p = d.node? p ∨
      (d.node? p = none ∧ (d.makeSome (Path.parent path) count).node? p = some .directory ∧
        dots ∈ Path.segments path) := by
  unfold makeSome
  cases ho : origin? (Path.parent path) with
  | none => exact Or.inl rfl
  | some o =>
    dsimp only
    rcases node?_makeAlong d o.1 (o.2.take count) p with h | ⟨hnone, hdir, k, hk⟩
    · exact Or.inl h
    · refine Or.inr ⟨hnone, hdir, ?_⟩
      rcases named_cases path with hvoid | ⟨fs, n, ts, hnamed⟩
      · rw [Path.parent, Path.named_eq_nil hvoid] at hparent
        exact absurd rfl hparent
      · by_contra hdots
        rw [origin?_parent hnamed hparent ho, List.take_take] at hk
        exact not_walk_parent hnamed hdots hp _ hk

theorem node?_write {content : ByteArray} {tmp : String} (hp : placeOf? path = some p)
    (htmp : tmp = Path.temporary path) : (d.write tmp content).2.node? p = d.node? p := by
  rw [htmp]
  unfold write
  split
  · next q hq => exact node?_put_of_ne (beside_of_writable? hq hp).ne d _
  · rfl

theorem node?_remove {tmp : String} (hp : placeOf? path = some p)
    (htmp : tmp = Path.temporary path) : (d.remove tmp).2.node? p = d.node? p := by
  rw [htmp]
  unfold remove
  split
  · next q hq =>
    split
    · next content hnode =>
      have hfree : d.isDirectory q = false := by
        rw [isDirectory, hnode]
      exact node?_dropTree (beside_of_writable? (writable?_eq_some.mpr ⟨hq, hfree⟩) hp).not_isPrefix d
    · rfl
  · rfl

theorem node?_of_write {content : ByteArray} {tmp : String} {d' : Disk}
    (h : d.write tmp content = (true, d')) :
    ∃ q, placeOf? tmp = some q ∧ d'.node? q = some (.file content) := by
  unfold write at h
  split at h
  · next q hq =>
    obtain ⟨hr, hfree⟩ := writable?_eq_some.mp hq
    refine ⟨q, placeOf?_of_resolve? hr, ?_⟩
    rw [← (Prod.mk.inj h).2, node?_put, if_pos rfl]
    rw [not_anchor hfree]
    rfl
  · cases h

/-- A rename puts what stands at the source in place, or changes nothing. -/
theorem node?_rename {source : String} {content : ByteArray} (hp : placeOf? path = some p)
    (hq : placeOf? source = some q) (hnode : d.node? q = some (.file content)) :
    (d.rename source path = (false, d)) ∨
      ((d.rename source path).1 = true ∧ (d.rename source path).2.node? p = some (.file content)) := by
  unfold rename
  split
  · next r r' hr hr' =>
    obtain ⟨hres, hfree⟩ := writable?_eq_some.mp hr'
    obtain rfl := Option.some.inj (hq.symm.trans (placeOf?_of_resolve? hr))
    obtain rfl := Option.some.inj (hp.symm.trans (placeOf?_of_resolve? hres))
    rw [hnode]
    refine Or.inr ⟨rfl, ?_⟩
    rw [node?_put, not_anchor hfree, if_pos rfl]
    rfl
  · exact Or.inl rfl

end InsectPortal.Disk
