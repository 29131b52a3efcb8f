import Mathlib
import InsectPortal.Proofs.DiskPlace
import InsectPortal.Proofs.SessionJournal
import InsectPortal.Proofs.StoredItems

/-!
# A session file after a crash

Any step of a write may fail, and the program may end during any of them. `Ensures` says of a
program what it leaves on disk in either case; from it follows that the session file always holds
what it held at the start, or the items as they were after some of the writes.
-/
namespace InsectPortal

open InsectPortal.Path (dots)

/-- What an unfinished step leaves: the first few directories of a path, and as much of a file as was
written, if it was begun. -/
structure Remains where
  directories : Nat
  written : Option ByteArray

/-- A step goes as far as the disk allows, or it fails, or the program ends during it. -/
inductive Fate where
  | goes
  | fails (r : Remains)
  | ends (r : Remains)

/-- The disk after an unfinished step. A rename that does not finish has not begun. -/
def Disk.abandon (d : Disk) (r : Remains) : DiskStep → Disk
  | .makeDirectories path => d.makeSome path r.directories
  | .write path _ =>
    match r.written with
    | none => d
    | some content => (d.write path content).2
  | .rename .. | .remove _ => d

/-- Every path leads through directories to what stands at its end. -/
def Disk.Grounded (d : Disk) : Prop :=
  ∀ p q, d.node? p ≠ none → q <+: p → q ≠ p → d.isDirectory q = true

/-- A program on a disk, told the fates of its steps in turn. It may end before it is done. -/
abbrev Perilous := ExceptT Unit (StateM (Disk × (Nat → Fate)))

def attempt (s : DiskStep) : Perilous Bool := fun (d, fates) =>
  match fates 0 with
  | .goes => (.ok (d.perform s).1, (d.perform s).2, fun i => fates (i + 1))
  | .fails r => (.ok false, d.abandon r s, fun i => fates (i + 1))
  | .ends r => (.error (), d.abandon r s, fun i => fates (i + 1))

/-- From a disk where `P` holds the program comes to a result with `Q`, or ends early with `C`. -/
def Ensures {α : Type} (C P : Disk → Prop) (x : Perilous α) (Q : α → Disk → Prop) : Prop :=
  ∀ d fates, P d →
    match x (d, fates) with
    | (.ok a, after) => Q a after.1
    | (.error _, after) => C after.1

namespace Ensures

variable {α β : Type} {C P : Disk → Prop} {Q : α → Disk → Prop} {R : β → Disk → Prop}

theorem pure {a : α} (h : ∀ d, P d → Q a d) : Ensures C P (pure a) Q := fun d _ hd => h d hd

theorem bind {x : Perilous α} {f : α → Perilous β} (hx : Ensures C P x Q)
    (hf : ∀ a, Ensures C (Q a) (f a) R) : Ensures C P (x >>= f) R := by
  intro d fates hd
  have h := hx d fates hd
  change match ExceptT.bind x f (d, fates) with
    | (.ok a, after) => R a after.1
    | (.error _, after) => C after.1
  unfold ExceptT.bind ExceptT.mk
  change match (ExceptT.bindCont f (x (d, fates)).1 : StateM _ _) (x (d, fates)).2 with
    | (.ok a, after) => R a after.1
    | (.error _, after) => C after.1
  rcases hxd : x (d, fates) with ⟨_ | a, after⟩
  · rw [hxd] at h
    exact h
  · rw [hxd] at h
    exact hf a after.1 after.2 h

theorem attempt {s : DiskStep} {Q : Bool → Disk → Prop}
    (hgoes : ∀ d, P d → Q (d.perform s).1 (d.perform s).2)
    (hfails : ∀ d r, P d → Q false (d.abandon r s)) (hends : ∀ d r, P d → C (d.abandon r s)) :
    Ensures C P (attempt s) Q := by
  intro d fates hd
  unfold InsectPortal.attempt
  dsimp only
  cases fates 0 with
  | goes => exact hgoes d hd
  | fails r => exact hfails d r hd
  | ends r => exact hends d r hd

end Ensures

namespace SessionFile

/-- What may stand at the place of a session file: what stood there at the start, items that have
been written, or a directory made on the way to the file, if its path leads back through itself. -/
inductive Stands (path : String) (first : Option Node) (P : Items → Prop) : Option Node → Prop where
  | kept : Stands path first P first
  | written (items : Items) : P items → Stands path first P (some (.file items.render.toUTF8))
  | made : first = none → dots ∈ Path.segments path → Stands path first P (some .directory)

variable {path : String} {p : Place} {first : Option Node} {P : Items → Prop}

abbrev Holds (path : String) (p : Place) (first : Option Node) (P : Items → Prop) (d : Disk) : Prop :=
  Stands path first P (d.node? p)

theorem Stands.first_of_none (h : Stands path first P none) : first = none := by
  cases h
  rfl

theorem holds_makeSome {d : Disk} {count : Nat} (hp : Disk.placeOf? path = some p)
    (hparent : Path.parent path ≠ "") (h : Holds path p first P d) :
    Holds path p first P (d.makeSome (Path.parent path) count) := by
  unfold Holds
  rcases Disk.node?_makeSome_parent d count hp hparent with heq | ⟨hnone, hdir, hdots⟩
  · rw [heq]
    exact h
  · rw [hdir]
    rw [Holds, hnone] at h
    exact .made h.first_of_none hdots

theorem ensures_makeDirectories (hp : Disk.placeOf? path = some p)
    (hparent : Path.parent path ≠ "") :
    Ensures (Holds path p first P) (Holds path p first P)
      (attempt (.makeDirectories (Path.parent path))) fun _ => Holds path p first P := by
  apply Ensures.attempt
  · intro d h
    obtain ⟨count, hcount⟩ := d.makeDirectories_eq (Path.parent path)
    rw [Disk.perform, hcount]
    exact holds_makeSome hp hparent h
  · intro d r h
    exact holds_makeSome hp hparent h
  · intro d r h
    exact holds_makeSome hp hparent h

def Ready (path : String) (content : ByteArray) (d : Disk) : Prop :=
  ∃ q, Disk.placeOf? (Path.temporary path) = some q ∧ d.node? q = some (.file content)

theorem holds_write {d : Disk} {content : ByteArray} (hp : Disk.placeOf? path = some p)
    (h : Holds path p first P d) :
    Holds path p first P (d.write (Path.temporary path) content).2 := by
  rw [Holds, Disk.node?_write hp rfl]
  exact h

theorem ensures_write {content : ByteArray} (hp : Disk.placeOf? path = some p) :
    Ensures (Holds path p first P) (Holds path p first P)
      (attempt (.write (Path.temporary path) content))
      fun done d => Holds path p first P d ∧ (done = true → Ready path content d) := by
  have habandoned : ∀ d r, Holds path p first P d →
      Holds path p first P (d.abandon r (.write (Path.temporary path) content)) := by
    intro d r h
    unfold Disk.abandon
    dsimp only
    split
    · exact h
    · exact holds_write hp h
  apply Ensures.attempt
  · intro d h
    refine ⟨holds_write hp h, fun hdone => ?_⟩
    exact Disk.node?_of_write (Prod.ext hdone rfl)
  · intro d r h
    exact ⟨habandoned d r h, fun hdone => absurd hdone Bool.false_ne_true⟩
  · exact habandoned

theorem ensures_rename {items : Items} (hp : Disk.placeOf? path = some p) (hP : P items) :
    Ensures (Holds path p first P)
      (fun d => Holds path p first P d ∧ Ready path items.render.toUTF8 d)
      (attempt (.rename (Path.temporary path) path)) fun _ => Holds path p first P := by
  apply Ensures.attempt
  · rintro d ⟨h, q, hq, hnode⟩
    rw [Disk.perform]
    rcases Disk.node?_rename hp hq hnode with heq | ⟨_, hnew⟩
    · rw [heq]
      exact h
    · rw [Holds, hnew]
      exact .written items hP
  · intro d r h
    exact h.1
  · intro d r h
    exact h.1

theorem ensures_remove (hp : Disk.placeOf? path = some p) :
    Ensures (Holds path p first P) (Holds path p first P)
      (attempt (.remove (Path.temporary path))) fun _ => Holds path p first P := by
  apply Ensures.attempt
  · intro d h
    rw [Disk.perform, Holds, Disk.node?_remove hp rfl]
    exact h
  · intro d r h
    exact h
  · intro d r h
    exact h

def replace {m : Type → Type} [Monad m] (perform : DiskStep → m Bool) (f : SessionFile) : m Unit := do
  if ← perform (.write (Path.temporary f.path) f.items.render.toUTF8) then
    if !(← perform (.rename (Path.temporary f.path) f.path)) then
      let _ ← perform (.remove (Path.temporary f.path))

theorem persist_eq {m : Type → Type} [Monad m] (perform : DiskStep → m Bool) (f : SessionFile) :
    f.persist perform =
      if Path.parent f.path ≠ "" then do
        let _ ← perform (.makeDirectories (Path.parent f.path))
        f.replace perform
      else f.replace perform := rfl

theorem ensures_replace {f : SessionFile} (hp : Disk.placeOf? f.path = some p) (hP : P f.items) :
    Ensures (Holds f.path p first P) (Holds f.path p first P) (f.replace attempt)
      fun _ => Holds f.path p first P := by
  refine (ensures_write hp).bind fun done => ?_
  cases done with
  | false => exact .pure fun d h => h.1
  | true =>
    have hrename : Ensures (Holds f.path p first P)
        (fun d => Holds f.path p first P d ∧ (true = true → Ready f.path f.items.render.toUTF8 d))
        (attempt (.rename (Path.temporary f.path) f.path)) fun _ => Holds f.path p first P :=
      fun d fates h => ensures_rename hp hP d fates ⟨h.1, h.2 rfl⟩
    refine hrename.bind fun renamed => ?_
    cases renamed with
    | true => exact .pure fun d h => h
    | false => exact (ensures_remove hp).bind fun _ => .pure fun d h => h

/-- Bringing items to disk leaves the old file or the items. -/
theorem ensures_persist {f : SessionFile} (hp : Disk.placeOf? f.path = some p) (hP : P f.items) :
    Ensures (Holds f.path p first P) (Holds f.path p first P) (f.persist attempt)
      fun _ => Holds f.path p first P := by
  rw [persist_eq]
  by_cases hparent : Path.parent f.path ≠ ""
  · rw [if_pos hparent]
    exact (ensures_makeDirectories hp hparent).bind fun _ => ensures_replace hp hP
  · rw [if_neg hparent]
    exact ensures_replace hp hP

theorem ensures_writeAll {f : SessionFile} (hp : Disk.placeOf? f.path = some p)
    {writes : List Write} (hP : ∀ before, before <+: writes → P (f.items.applyAll before)) :
    Ensures (Holds f.path p first P) (Holds f.path p first P) (f.writeAll attempt writes)
      fun _ => Holds f.path p first P := by
  induction writes generalizing f with
  | nil => exact .pure fun d h => h
  | cons w rest ih =>
    have hrest : ∀ before, before <+: rest → P ((f.items.apply w).applyAll before) := by
      intro before hb
      exact hP (w :: before) (List.cons_prefix_cons.mpr ⟨rfl, hb⟩)
    have hnext := hrest [] List.nil_prefix
    have hwrite : Ensures (Holds f.path p first P) (Holds f.path p first P) (f.write attempt w)
        fun g d => g = { f with items := f.items.apply w } ∧ Holds f.path p first P d := by
      unfold write
      dsimp only
      by_cases heff : f.isEffective w = true
      · rw [if_pos heff]
        exact (ensures_persist (f := { f with items := f.items.apply w }) hp hnext).bind
          fun _ => .pure fun d h => ⟨rfl, h⟩
      · rw [if_neg heff]
        exact .pure fun d h => ⟨rfl, h⟩
    refine hwrite.bind fun g => ?_
    intro d fates h
    obtain ⟨rfl, h⟩ := h
    exact ih (f := { f with items := f.items.apply w }) hp hrest d fates h

def diskLeft (f : SessionFile) (d : Disk) (writes : List Write) (fates : Nat → Fate) : Disk :=
  (f.writeAll attempt writes (d, fates)).2.1

theorem stands_diskLeft {f : SessionFile} (hp : Disk.placeOf? f.path = some p)
    {writes : List Write} (hP : ∀ before, before <+: writes → P (f.items.applyAll before))
    (d : Disk) (fates : Nat → Fate) :
    Stands f.path (d.node? p) P ((f.diskLeft d writes fates).node? p) := by
  have hstart : Holds f.path p (d.node? p) P d := .kept
  have h := ensures_writeAll hp hP d fates hstart
  unfold diskLeft
  generalize f.writeAll attempt writes (d, fates) = out at h
  rcases out with ⟨_ | g, after⟩
  · exact h
  · exact h

/-- The items in the file at the place that a path names. -/
def standing (d : Disk) (path : String) : Items :=
  match (Disk.placeOf? path).bind d.node? with
  | some (.file content) => itemsOf content
  | _ => .empty

theorem openAt_path {d : Disk} {f : SessionFile} (h : openAt d path = .ok f) : f.path = path := by
  unfold openAt at h
  split at h
  · rw [← Except.ok.inj h]
  · cases h
  · rw [← Except.ok.inj h]

theorem openAt_error {d : Disk} {e : OpenError} (h : openAt d path = .error e) :
    d.look? path = some .directory := by
  unfold openAt at h
  split at h
  · cases h
  · assumption
  · cases h

theorem not_directory_of_openAt {d : Disk} {f : SessionFile} (h : openAt d path = .ok f) :
    d.look? path ≠ some .directory := by
  intro hdir
  unfold openAt at h
  rw [hdir] at h
  cases h

theorem openAt_items {d : Disk} {f : SessionFile} (h : openAt d path = .ok f) :
    f.items = .empty ∨ ∃ p content, Disk.placeOf? path = some p ∧
      d.node? p = some (.file content) ∧ f.items = itemsOf content := by
  unfold openAt at h
  split at h
  · next content hlook =>
    obtain ⟨p, hp, hnode⟩ := Option.bind_eq_some_iff.mp hlook
    refine Or.inr ⟨p, content, Disk.placeOf?_of_resolve? hp, hnode, ?_⟩
    rw [← Except.ok.inj h]
  · cases h
  · refine Or.inl ?_
    rw [← Except.ok.inj h]

theorem openAt_standing {d : Disk} {f : SessionFile} (h : openAt d path = .ok f) :
    f.items = .empty ∨ f.items = standing d path := by
  rcases openAt_items h with he | ⟨p, content, hp, hnode, hi⟩
  · exact Or.inl he
  · refine Or.inr ?_
    rw [standing, hp, Option.bind_some, hnode]
    exact hi

/-- On a grounded disk a path without `..` leads to any directory at the place it names. -/
theorem look?_of_directory {d : Disk} (hd : d.Grounded) (hdots : dots ∉ Path.segments path)
    (hp : Disk.placeOf? path = some p) (hnode : d.node? p = some .directory) :
    d.look? path = some .directory := by
  obtain ⟨o, ho, hw⟩ := Option.bind_eq_some_iff.mp hp
  have hsegs : dots ∉ o.2 := by
    rw [Disk.origin?_eq_some ho]
    exact fun hm => hdots (Disk.mem_of_mem_start hm)
  have hdirs : ∀ r, r <+: p → d.isDirectory r = true := by
    intro r hr
    by_cases he : r = p
    · rw [he]
      exact Disk.isDirectory_iff.mpr hnode
    · exact hd p r (by rw [hnode]; exact Option.some_ne_none _) hr he
  have hresolve : d.resolve? path = some p := by
    rw [Disk.resolve?, ho]
    exact Disk.follow?_of_walk hsegs hw hdirs
  rw [Disk.look?_eq hresolve, hnode]

/-- A file that was there stays a file, and so does one whose path never leads back. -/
theorem Stands.not_directory {d₀ : Disk} {f : SessionFile} (hopen : openAt d₀ path = .ok f)
    (hp : Disk.placeOf? path = some p)
    (hsafe : (∃ content, d₀.look? path = some (.file content)) ∨
      (d₀.Grounded ∧ dots ∉ Path.segments path)) :
    ¬ Stands path (d₀.node? p) P (some .directory) := by
  intro h
  generalize hat : some Node.directory = found at h
  rcases hsafe with ⟨content, hlook⟩ | ⟨hground, hdots⟩
  · obtain ⟨p', hres, hfile⟩ := Option.bind_eq_some_iff.mp hlook
    obtain rfl := Option.some.inj (hp.symm.trans (Disk.placeOf?_of_resolve? hres))
    cases h with
    | kept => cases hat.trans hfile
    | written => cases hat
    | made hnone => cases hnone.symm.trans hfile
  · cases h with
    | kept => exact not_directory_of_openAt hopen (look?_of_directory hground hdots hp hat.symm)
    | written => cases hat
    | made _ hm => exact hdots hm

end SessionFile

namespace Session

open SessionFile (openAt standing)

theorem Traced.of_items {held : Credential} {items : Items} {events : List SessionEvent}
    {c : Credential} (h : Traced items.credential (ofItems items) events c)
    (hi : items = .empty ∨ items.credential = held) : Traced held (ofItems items) events c := by
  rcases h with h | ⟨h, hc⟩ | h
  · exact Or.inl h
  · rcases hi with rfl | rfl
    · exact absurd hc (by decide)
    · exact Or.inr (Or.inl ⟨h, hc⟩)
  · exact Or.inr (Or.inr h)

theorem traced_of_stands {d₀ : Disk} {path : String} {f : SessionFile} {p : Place}
    {events : List SessionEvent} {content : ByteArray} (hopen : openAt d₀ path = .ok f)
    (hp : Disk.placeOf? path = some p)
    (h : SessionFile.Stands path (d₀.node? p) (fun found =>
      Traced f.items.credential (ofItems f.items) events (ofItems found).credential)
      (some (.file content))) :
    Traced (standing d₀ path).credential (ofItems f.items) events
      (ofItems (SessionFile.itemsOf content)).credential := by
  generalize hat : some (Node.file content) = found at h
  cases h with
  | kept =>
    have hstanding : standing d₀ path = SessionFile.itemsOf content := by
      rw [standing, hp, Option.bind_some, ← hat]
    rw [hstanding]
    rcases restored_cases (SessionFile.itemsOf content) with h | h
    · exact Or.inl h
    · exact Or.inr (Or.inl h)
  | written items hitems =>
    obtain rfl := Node.file.inj (Option.some.inj hat)
    rw [SessionFile.itemsOf_render]
    apply hitems.of_items
    exact (SessionFile.openAt_standing hopen).imp id (congrArg _)
  | made => cases hat

/-- The events of a session are brought to its file, any step of which may fail, until all is done or
the program ends. Whoever opens the file again finds no credential, or the whole one of the file that
stood there at the start, or that of one sign-in. A file that was there can always be opened again,
and so can one whose path never leads back. -/
theorem restored_after_crash (d₀ : Disk) (path : String) (f : SessionFile)
    (hopen : openAt d₀ path = .ok f) (events : List SessionEvent) (fates : Nat → Fate) :
    let s := ofItems f.items
    let d := f.diskLeft d₀ (s.after events).keyring.journal fates
    (∀ g, openAt d path = .ok g →
      Traced (standing d₀ path).credential s events (ofItems g.items).credential) ∧
    ((∃ content, d₀.look? path = some (.file content)) ∨
      (d₀.Grounded ∧ dots ∉ Path.segments path) → ∃ g, openAt d path = .ok g) := by
  intro s d
  have hpath : f.path = path := SessionFile.openAt_path hopen
  have hstands : ∀ p, Disk.placeOf? path = some p → SessionFile.Stands path (d₀.node? p)
      (fun found => Traced f.items.credential s events (ofItems found).credential)
      (d.node? p) := by
    intro p hp
    rw [← hpath] at hp ⊢
    exact SessionFile.stands_diskLeft hp (recorded_after f.items events).always d₀ fates
  constructor
  · intro g hg
    rcases SessionFile.openAt_items hg with he | ⟨p, content, hp, hnode, hi⟩
    · rw [he]
      exact Or.inl rfl
    · rw [hi]
      exact traced_of_stands hopen hp (hnode ▸ hstands p hp)
  · intro hsafe
    cases hd : openAt d path with
    | ok g => exact ⟨g, rfl⟩
    | error e =>
      obtain ⟨p, hres, hnode⟩ := Option.bind_eq_some_iff.mp (SessionFile.openAt_error hd)
      have hp := Disk.placeOf?_of_resolve? hres
      exact absurd (hnode ▸ hstands p hp) (SessionFile.Stands.not_directory hopen hp hsafe)

/-- The program ends between the two writes of a sign-in, with a piece of the temporary file left. -/
theorem ended_within_sign_in :
    let old := (Items.empty.insert Items.tokenKey "old").insert Items.userKey "user"
    let d₀ := Disk.empty.put ["s.json"] (.file old.render.toUTF8)
    let f : SessionFile := ⟨"s.json", SessionFile.itemsOf old.render.toUTF8⟩
    let events := [SessionEvent.signOut, .signIn "new" "other"]
    let fates := fun i => if i = 4 then Fate.ends ⟨0, some "\x7b".toUTF8⟩ else .goes
    let d := f.diskLeft d₀ ((ofItems f.items).after events).keyring.journal fates
    openAt d₀ "s.json" = .ok f ∧ ∃ g, openAt d "s.json" = .ok g ∧
      Traced (standing d₀ "s.json").credential (ofItems f.items) events (ofItems g.items).credential := by
  intro old d₀ f events fates d
  have hlook : d₀.look? "s.json" = some (.file old.render.toUTF8) := by
    have hplace : d₀.resolve? "s.json" = some ["s.json"] := by cbv
    rw [Disk.look?_eq hplace, Disk.node?_put]
    rfl
  have hopen : openAt d₀ "s.json" = .ok f := by
    unfold SessionFile.openAt
    rw [hlook]
  obtain ⟨traced, opens⟩ := restored_after_crash d₀ "s.json" f hopen events fates
  obtain ⟨g, hg⟩ := opens (Or.inl ⟨_, hlook⟩)
  exact ⟨hopen, g, hg, traced g hg⟩

/-- A path that leads through a missing directory back to its own place: the directory is made on the
way, and the file can no longer be opened. -/
theorem directory_made_in_place :
    ∃ f, openAt Disk.empty "a/../a" = .ok f ∧
      openAt (f.diskLeft Disk.empty ((ofItems f.items).after [.signOut]).keyring.journal
        fun _ => .goes) "a/../a" = .error (.isDirectory "a/../a") := by
  refine ⟨⟨"a/../a", .empty⟩, by cbv, ?_⟩
  cbv

end Session

end InsectPortal
