import InsectPortal.Proofs.Reload

/-!
# File trees

On a grounded disk all that stands above a file or directory is a directory. Every step keeps a disk
grounded, whether it is finished or not, and so is every tree that is laid out from a list of files.
With it goes what each step changes at each place: nothing stands below a file, so taking a file away
takes nothing else away.
-/
namespace InsectPortal.Disk

variable {d d' : Disk} {path : String} {p q r : Place} {content : ByteArray}

theorem isAnchor_above (hp : isAnchor p = true) (h : q <+: p) : isAnchor q = true := by
  rw [isAnchor, Bool.or_eq_true, beq_iff_eq] at hp ⊢
  rcases hp with rfl | hup
  · rw [← List.nil_append ["/"], List.prefix_concat_iff] at h
    rcases h with hq | hq
    · exact Or.inl hq
    · rw [List.prefix_nil.mp hq]
      exact Or.inr rfl
  · refine Or.inr (List.all_eq_true.mpr fun s hs => ?_)
    exact List.all_eq_true.mp hup s (h.subset hs)

theorem isDirectory_of_anchor (hp : isAnchor p = true) (d : Disk) : d.isDirectory p = true :=
  isDirectory_iff.mpr (node?_of_anchor hp d)

theorem isDirectory_of_file (h : d.node? p = some (.file content)) : d.isDirectory p = false := by
  rw [isDirectory, h]

theorem isDirectory_congr (h : d'.node? p = d.node? p) : d'.isDirectory p = d.isDirectory p := by
  rw [isDirectory, isDirectory, h]

theorem node?_put_self (hq : d.isDirectory q = false) (n : Node) : (d.put q n).node? q = some n := by
  rw [node?_put, not_anchor hq, if_pos rfl]
  rfl

theorem isDirectory_put (h : d.isDirectory r = true) (hq : d.isDirectory q = false) (n : Node) :
    (d.put q n).isDirectory r = true := by
  have hrq : r ≠ q := by
    rintro rfl
    exact Bool.false_ne_true (hq.symm.trans h)
  rw [isDirectory_congr (node?_put_of_ne hrq d n), h]

theorem isDirectory_put_directory (d : Disk) (q : Place) : (d.put q .directory).isDirectory q = true := by
  rw [isDirectory_iff, node?_put, if_pos rfl]
  split <;> rfl

theorem grounded_empty : Grounded empty := by
  intro p q hp hq _
  have ha : isAnchor p = true := by
    by_contra hn
    rw [node?, if_neg hn] at hp
    exact hp rfl
  exact isDirectory_of_anchor (isAnchor_above ha hq) empty

theorem Grounded.node?_below (h : d.Grounded) (hq : d.node? q = some (.file content))
    (hpre : q <+: p) (hne : p ≠ q) : d.node? p = none := by
  by_contra hp
  have hdir := h p q hp hpre hne.symm
  exact Bool.false_ne_true ((isDirectory_of_file hq).symm.trans hdir)

theorem Grounded.put (h : d.Grounded) (hq : d.Rooted q) (hfree : d.isDirectory q = false) (n : Node) :
    (d.put q n).Grounded := by
  intro p r hp hpre hne
  by_cases hpq : p = q
  · rw [hpq] at hpre hne
    exact isDirectory_put (hq r hpre hne) hfree n
  · rw [node?_put_of_ne hpq] at hp
    exact isDirectory_put (h p r hp hpre hne) hfree n

theorem Grounded.node?_dropTree (h : d.Grounded) (hq : d.node? q = some (.file content)) (p : Place) :
    (d.dropTree q).node? p = if p = q then none else d.node? p := by
  have hdrop : q <+: p → (d.dropTree q).node? p = none := by
    intro hpre
    have ha : isAnchor p = false := by
      by_contra ha
      have hdir := isDirectory_of_anchor (isAnchor_above (Bool.not_eq_false _ ▸ ha) hpre) d
      exact Bool.false_ne_true ((isDirectory_of_file hq).symm.trans hdir)
    rw [node?, ha, if_neg Bool.false_ne_true, Option.map_eq_none_iff, List.find?_eq_none]
    intro e he
    have hkeep := (List.mem_filter.mp he).2
    intro hep
    rw [of_decide_eq_true hep, List.isPrefixOf_iff_prefix.mpr hpre] at hkeep
    cases hkeep
  by_cases hpq : p = q
  · rw [if_pos hpq]
    exact hdrop (hpq ▸ List.prefix_refl _)
  · rw [if_neg hpq]
    by_cases hpre : q <+: p
    · rw [hdrop hpre, h.node?_below hq hpre hpq]
    · exact Disk.node?_dropTree hpre d

theorem Grounded.isDirectory_dropTree (h : d.Grounded) (hq : d.node? q = some (.file content))
    (hr : d.isDirectory r = true) : (d.dropTree q).isDirectory r = true := by
  have hrq : r ≠ q := by
    rintro rfl
    exact Bool.false_ne_true ((isDirectory_of_file hq).symm.trans hr)
  have hnode := h.node?_dropTree hq r
  rw [if_neg hrq] at hnode
  rw [isDirectory_congr hnode, hr]

theorem Grounded.dropTree (h : d.Grounded) (hq : d.node? q = some (.file content)) :
    (d.dropTree q).Grounded := by
  intro p r hp hpre hne
  rw [h.node?_dropTree hq] at hp
  have hpq : p ≠ q := by
    intro heq
    rw [if_pos heq] at hp
    exact hp rfl
  rw [if_neg hpq] at hp
  exact h.isDirectory_dropTree hq (h p r hp hpre hne)

theorem rooted_resolve? (h : d.resolve? path = some p) : d.Rooted p := by
  obtain ⟨o, ho, hf⟩ := Option.bind_eq_some_iff.mp h
  rw [origin?_eq_some ho] at hf
  exact rooted_follow? (rooted_start d _) hf

theorem Rooted.put (h : d.Rooted p) (hq : d.isDirectory q = false) (n : Node) :
    (d.put q n).Rooted p := fun r hr hne => isDirectory_put (h r hr hne) hq n

theorem Grounded.makeAlong (h : d.Grounded) (hp : d.Rooted p) (hdir : d.isDirectory p = true)
    (segs : List (List Char)) : (d.makeAlong p segs).2.Grounded := by
  induction segs generalizing d p with
  | nil => exact h
  | cons s rest ih =>
    rw [Disk.makeAlong]
    cases hs : enter? p s with
    | none => exact h
    | some q =>
      have hq := rooted_enter? hp hdir hs
      dsimp only
      cases hn : d.node? q with
      | some node =>
        cases node with
        | file content => exact h
        | directory => exact ih h hq (isDirectory_iff.mpr hn)
      | none =>
        have hfree : d.isDirectory q = false := by rw [isDirectory, hn]
        exact ih (h.put hq hfree .directory) (hq.put hfree .directory)
          (isDirectory_put_directory d q)

theorem Grounded.makeSome (h : d.Grounded) (path : String) (count : Nat) :
    (d.makeSome path count).Grounded := by
  unfold Disk.makeSome
  cases ho : origin? path with
  | none => exact h
  | some o =>
    rw [origin?_eq_some ho]
    exact h.makeAlong (rooted_start d _) (isDirectory_of_anchor (isAnchor_start _) d) _

theorem write_cases (d : Disk) (path : String) (content : ByteArray) :
    d.write path content = (false, d) ∨ ∃ q, d.writable? path = some q ∧
      d.write path content = (true, d.put q (.file content)) := by
  unfold write
  split
  · exact Or.inr ⟨_, ‹_›, rfl⟩
  · exact Or.inl rfl

theorem rename_cases (d : Disk) (source target : String) :
    d.rename source target = (false, d) ∨ ∃ p content q, d.resolve? source = some p ∧
      d.node? p = some (.file content) ∧ d.writable? target = some q ∧
      d.rename source target = (true, (d.dropTree p).put q (.file content)) := by
  unfold rename
  split
  · split
    · exact Or.inr ⟨_, _, _, ‹_›, ‹_›, ‹_›, rfl⟩
    · exact Or.inl rfl
  · exact Or.inl rfl

theorem remove_cases (d : Disk) (path : String) :
    d.remove path = (false, d) ∨ ∃ p content, d.resolve? path = some p ∧
      d.node? p = some (.file content) ∧ d.remove path = (true, d.dropTree p) := by
  unfold remove
  split
  · split
    · exact Or.inr ⟨_, _, ‹_›, ‹_›, rfl⟩
    · exact Or.inl rfl
  · exact Or.inl rfl

theorem Grounded.write (h : d.Grounded) (path : String) (content : ByteArray) :
    (d.write path content).2.Grounded := by
  rcases write_cases d path content with hw | ⟨q, hq, hw⟩
  · rw [hw]
    exact h
  · rw [hw]
    obtain ⟨hres, hfree⟩ := writable?_eq_some.mp hq
    exact h.put (rooted_resolve? hres) hfree _

theorem Grounded.rename (h : d.Grounded) (source target : String) :
    (d.rename source target).2.Grounded := by
  rcases rename_cases d source target with hr | ⟨p, content, q, hp, hfile, hq, hr⟩
  · rw [hr]
    exact h
  · rw [hr]
    obtain ⟨hres, hfree⟩ := writable?_eq_some.mp hq
    refine (h.dropTree hfile).put ?_ ?_ _
    · intro r hpre hne
      exact h.isDirectory_dropTree hfile (rooted_resolve? hres r hpre hne)
    · rw [isDirectory, h.node?_dropTree hfile]
      by_cases hqp : q = p
      · rw [if_pos hqp]
      · rw [if_neg hqp]
        exact hfree

theorem Grounded.remove (h : d.Grounded) (path : String) : (d.remove path).2.Grounded := by
  rcases remove_cases d path with hr | ⟨p, content, _, hfile, hr⟩
  · rw [hr]
    exact h
  · rw [hr]
    exact h.dropTree hfile

theorem Grounded.makeDirectories (h : d.Grounded) (path : String) :
    (d.makeDirectories path).2.Grounded := by
  obtain ⟨count, hcount⟩ := d.makeDirectories_eq path
  rw [hcount]
  exact h.makeSome path count

theorem Grounded.perform (h : d.Grounded) (s : DiskStep) : (d.perform s).2.Grounded := by
  cases s with
  | makeDirectories path => exact h.makeDirectories path
  | write path content => exact h.write path content
  | rename source target => exact h.rename source target
  | remove path => exact h.remove path

theorem Grounded.abandon (h : d.Grounded) (remains : Remains) (s : DiskStep) :
    (d.abandon remains s).Grounded := by
  cases s with
  | makeDirectories path => exact h.makeSome path _
  | write path content =>
    rw [Disk.abandon]
    split
    · exact h
    · exact h.write path _
  | rename | remove => exact h

theorem grounded_ofFiles (files : List (String × Option ByteArray)) : (ofFiles files).Grounded := by
  have hplace : ∀ (d : Disk) (path : String) (content : Option ByteArray), d.Grounded →
      (d.place path content).Grounded := by
    intro d path content h
    cases content with
    | none => exact h.makeDirectories path
    | some content => exact (h.makeDirectories _).write path content
  have hfold : ∀ d : Disk, d.Grounded →
      (files.foldl (fun d f => d.place f.1 f.2) d).Grounded := by
    induction files with
    | nil => exact fun d h => h
    | cons f rest ih => exact fun d h => ih _ (hplace d f.1 f.2 h)
  exact hfold empty grounded_empty

end InsectPortal.Disk
