import InsectPortal.Proofs.FileTree
import InsectPortal.Proofs.MemoryView

/-!
# What a write touches

A write changes its session file, the temporary file and the missing directories above them, and
nothing else. The session file has the old items or the new ones, and where the temporary file was
written it is gone again. Any step may fail besides, and leave a part of its work.
-/
namespace InsectPortal

/-- The disk after some steps, and for each of them whether it was done. -/
structure Watch where
  disk : Disk
  log : List (DiskStep × Bool)

/-- A step goes as far as the disk allows, or there is trouble with it, by its number, and it fails. -/
def watched (trouble : Nat → Option Remains) (s : DiskStep) : StateM Watch Bool := fun x =>
  let out := match trouble x.log.length with
    | none => x.disk.perform s
    | some r => (false, x.disk.abandon r s)
  (out.1, ⟨out.2, x.log ++ [(s, out.1)]⟩)

abbrev Smooth (trouble : Nat → Option Remains) : Prop := ∀ i, trouble i = none

namespace Disk

variable {d d' d₁ : Disk} {trouble : Nat → Option Remains} {p q x : Place} {path tmp : String}
  {content : ByteArray} {done : Bool}

/-- A step may come to this: what the disk makes of it, or else a failure. -/
inductive Does (smooth : Prop) (d : Disk) (s : DiskStep) : Bool → Disk → Prop where
  | goes : Does smooth d s (d.perform s).1 (d.perform s).2
  | fails (r : Remains) : ¬ smooth → Does smooth d s false (d.abandon r s)

variable {smooth : Prop}

theorem does_watched {s : DiskStep} {x x' : Watch} (h : watched trouble s x = (done, x')) :
    Does (Smooth trouble) x.disk s done x'.disk ∧ x'.log = x.log ++ [(s, done)] := by
  unfold watched at h
  dsimp only at h
  cases ht : trouble x.log.length with
  | none =>
    rw [ht] at h
    obtain ⟨rfl, rfl⟩ := Prod.mk.inj h
    exact ⟨.goes, rfl⟩
  | some r =>
    rw [ht] at h
    obtain ⟨rfl, rfl⟩ := Prod.mk.inj h
    refine ⟨.fails r fun hsmooth => ?_, rfl⟩
    cases ht.symm.trans (hsmooth _)

theorem Does.grounded {s : DiskStep} (h : Does smooth d s done d') (hd : d.Grounded) :
    d'.Grounded := by
  cases h with
  | goes => exact hd.perform s
  | fails r => exact hd.abandon r s

/-- The place is one that the path passes. -/
def Passes (path : String) (p : Place) : Prop :=
  ∃ o, origin? path = some o ∧ ∃ k, walk o.1 (o.2.take k) = some p

/-- The place is as it was, or a directory on the way of the path has been made there. -/
def KeptAt (path : String) (d d' : Disk) (p : Place) : Prop :=
  d'.node? p = d.node? p ∨ d.node? p = none ∧ d'.node? p = some .directory ∧ Passes path p

theorem KeptAt.of_eq (h : KeptAt path d d₁ x) (heq : d'.node? x = d₁.node? x) :
    KeptAt path d d' x := by
  unfold KeptAt at h ⊢
  rwa [heq]

theorem KeptAt.directory (h : KeptAt path d d' x) (hx : d.node? x = some .directory) :
    d'.node? x = some .directory := by
  rcases h with heq | ⟨_, hdir, _⟩
  · rw [heq, hx]
  · exact hdir

theorem keptAt_makeSome (d : Disk) (path : String) (count : Nat) (p : Place) :
    KeptAt path d (d.makeSome path count) p := by
  unfold makeSome
  cases ho : origin? path with
  | none => exact Or.inl rfl
  | some o =>
    rcases node?_makeAlong d o.1 (o.2.take count) p with h | ⟨hnone, hdir, k, hk⟩
    · exact Or.inl h
    · rw [List.take_take] at hk
      exact Or.inr ⟨hnone, hdir, o, ho, _, hk⟩

theorem Does.keptAt (h : Does smooth d (.makeDirectories path) done d') (p : Place) :
    KeptAt path d d' p := by
  cases h with
  | goes =>
    obtain ⟨count, hcount⟩ := d.makeDirectories_eq path
    rw [perform, hcount]
    exact keptAt_makeSome d path count p
  | fails r => exact keptAt_makeSome d path _ p

theorem Does.unwritten (h : Does smooth d (.write tmp content) false d') :
    d' = d ∨ ¬ smooth ∧ ∃ q begun, d.writable? tmp = some q ∧ d' = d.put q (.file begun) := by
  generalize hdone : false = done at h
  cases h with
  | goes =>
    rw [perform] at hdone ⊢
    rcases write_cases d tmp content with hw | ⟨q, hq, hw⟩
    · exact Or.inl (by rw [hw])
    · rw [hw] at hdone
      cases hdone
  | fails r hsmooth =>
    rw [abandon]
    split
    · exact Or.inl rfl
    · rename_i begun _
      rcases write_cases d tmp begun with hw | ⟨q, hq, hw⟩
      · exact Or.inl (by rw [hw])
      · exact Or.inr ⟨hsmooth, q, begun, hq, by rw [hw]⟩

theorem Does.written (h : Does smooth d (.write tmp content) true d') :
    ∃ q, d.writable? tmp = some q ∧ d' = d.put q (.file content) := by
  generalize hdone : true = done at h
  cases h with
  | goes =>
    rw [perform] at hdone ⊢
    rcases write_cases d tmp content with hw | ⟨q, hq, hw⟩
    · rw [hw] at hdone
      cases hdone
    · exact ⟨q, hq, by rw [hw]⟩
  | fails => cases hdone

theorem Does.unrenamed (h : Does smooth d (.rename tmp path) false d') : d' = d := by
  generalize hdone : false = done at h
  cases h with
  | goes =>
    rw [perform] at hdone ⊢
    rcases rename_cases d tmp path with hr | ⟨p, content, q, _, _, _, hr⟩
    · rw [hr]
    · rw [hr] at hdone
      cases hdone
  | fails => rfl

theorem Does.renamed (h : Does smooth d (.rename tmp path) true d') :
    ∃ q content p, d.resolve? tmp = some q ∧ d.node? q = some (.file content) ∧
      d.writable? path = some p ∧ d' = (d.dropTree q).put p (.file content) := by
  generalize hdone : true = done at h
  cases h with
  | goes =>
    rw [perform] at hdone ⊢
    rcases rename_cases d tmp path with hr | ⟨q, content, p, hq, hfile, hp, hr⟩
    · rw [hr] at hdone
      cases hdone
    · exact ⟨q, content, p, hq, hfile, hp, by rw [hr]⟩
  | fails => cases hdone

theorem Does.removed (h : Does smooth d (.remove tmp) done d') (hq : d.resolve? tmp = some q)
    (hfile : d.node? q = some (.file content)) :
    done = true ∧ d' = d.dropTree q ∨ done = false ∧ ¬ smooth ∧ d' = d := by
  cases h with
  | goes =>
    have hr : d.remove tmp = (true, d.dropTree q) := by
      rw [remove, hq]
      dsimp only
      rw [hfile]
    rw [perform, hr]
    exact Or.inl ⟨rfl, rfl⟩
  | fails r hsmooth => exact Or.inr ⟨rfl, hsmooth, rfl⟩

end Disk

namespace SessionFile

open Disk (Does KeptAt placeOf? node?_put_self node?_put_of_ne writable?_eq_some)

def writeStep (f : SessionFile) : DiskStep := .write (Path.temporary f.path) f.items.render.toUTF8

def renameStep (f : SessionFile) : DiskStep := .rename (Path.temporary f.path) f.path

def removeStep (f : SessionFile) : DiskStep := .remove (Path.temporary f.path)

/-- What is found at each place after the items have been brought to disk, and the steps to it. -/
inductive Replaced (smooth : Prop) (f : SessionFile) (d d' : Disk) :
    List (DiskStep × Bool) → Prop where
  | unwritten : d' = d → Replaced smooth f d d' [(f.writeStep, false)]
  | begun {q begun} : ¬ smooth → d.writable? (Path.temporary f.path) = some q →
      (∀ x, d'.node? x = if x = q then some (.file begun) else d.node? x) →
      Replaced smooth f d d' [(f.writeStep, false)]
  | renamed {p q} : d.writable? (Path.temporary f.path) = some q → placeOf? f.path = some p →
      d.isDirectory p = false → (∀ x, d'.node? x =
        if x = p then some (.file f.items.render.toUTF8) else if x = q then none else d.node? x) →
      Replaced smooth f d d' [(f.writeStep, true), (f.renameStep, true)]
  | removed {q} : d.writable? (Path.temporary f.path) = some q →
      (∀ x, d'.node? x = if x = q then none else d.node? x) →
      Replaced smooth f d d' [(f.writeStep, true), (f.renameStep, false), (f.removeStep, true)]
  | stayed {q} : ¬ smooth → d.writable? (Path.temporary f.path) = some q →
      (∀ x, d'.node? x = if x = q then some (.file f.items.render.toUTF8) else d.node? x) →
      Replaced smooth f d d' [(f.writeStep, true), (f.renameStep, false), (f.removeStep, false)]

variable {smooth : Prop} {f : SessionFile} {d d' d₁ : Disk} {q : Place}
  {trouble : Nat → Option Remains}

theorem node?_put_file (hq : d.isDirectory q = false) (content : ByteArray) (x : Place) :
    (d.put q (.file content)).node? x = if x = q then some (.file content) else d.node? x := by
  by_cases hx : x = q
  · rw [if_pos hx, hx, node?_put_self hq]
  · rw [if_neg hx, node?_put_of_ne hx]

theorem resolve?_put {tmp : String} (hq : d.writable? tmp = some q) (content : ByteArray) :
    (d.put q (.file content)).resolve? tmp = some q := by
  obtain ⟨hres, hfree⟩ := writable?_eq_some.mp hq
  exact Disk.resolve?_of_kept (fun r _ hr => Disk.isDirectory_put hr hfree _) hres

theorem replaced_unwritten (h : Does smooth d f.writeStep false d') :
    Replaced smooth f d d' [(f.writeStep, false)] := by
  rcases h.unwritten with rfl | ⟨hsmooth, q, begun, hq, rfl⟩
  · exact .unwritten rfl
  · exact .begun hsmooth hq (node?_put_file (writable?_eq_some.mp hq).2 begun)

theorem replaced_renamed (hd : d.Grounded) (hw : Does smooth d f.writeStep true d₁)
    (hr : Does smooth d₁ f.renameStep true d') :
    Replaced smooth f d d' [(f.writeStep, true), (f.renameStep, true)] := by
  have hd₁ := hw.grounded hd
  obtain ⟨q, hq, rfl⟩ := hw.written
  obtain ⟨q', content, p, hq', hfile, hp, rfl⟩ := hr.renamed
  obtain rfl := Option.some.inj ((resolve?_put hq _).symm.trans hq')
  have hqfree := (writable?_eq_some.mp hq).2
  obtain ⟨hres, hfree⟩ := writable?_eq_some.mp hp
  have hplace := Disk.placeOf?_of_resolve? hres
  have hpq : p ≠ q := (Disk.beside_of_writable? hq hplace).ne
  have hcontent : content = f.items.render.toUTF8 := by
    rw [node?_put_self hqfree] at hfile
    exact (Node.file.inj (Option.some.inj hfile)).symm
  have hdrop := hd₁.node?_dropTree hfile
  have hpfree : (((d.put q (.file f.items.render.toUTF8)).dropTree q).isDirectory p) = false := by
    have hsame := hdrop p
    rw [if_neg hpq] at hsame
    exact (Disk.isDirectory_congr hsame).trans hfree
  refine .renamed hq hplace ?_ fun x => ?_
  · rw [← hfree, Disk.isDirectory_congr (node?_put_of_ne hpq d _)]
  · rw [node?_put_file hpfree, hdrop, hcontent, node?_put_file hqfree]
    split
    · rfl
    · split <;> rfl

theorem replaced_unrenamed {done : Bool} (hd : d.Grounded) (hw : Does smooth d f.writeStep true d₁)
    (hr : Does smooth d₁ f.removeStep done d') :
    Replaced smooth f d d' [(f.writeStep, true), (f.renameStep, false), (f.removeStep, done)] := by
  have hd₁ := hw.grounded hd
  obtain ⟨q, hq, rfl⟩ := hw.written
  have hqfree := (writable?_eq_some.mp hq).2
  have hfile := node?_put_self hqfree (.file f.items.render.toUTF8)
  rcases hr.removed (resolve?_put hq _) hfile with ⟨rfl, rfl⟩ | ⟨rfl, hsmooth, rfl⟩
  · refine .removed hq fun x => ?_
    rw [hd₁.node?_dropTree hfile, node?_put_file hqfree]
    split <;> rfl
  · exact .stayed hsmooth hq (node?_put_file hqfree _)

theorem bind_run {σ α β : Type} (a : StateM σ α) (k : α → StateM σ β) (x : σ) :
    (a >>= k) x = k (a x).1 (a x).2 := rfl

theorem replace_snd {σ : Type} (perform : DiskStep → StateM σ Bool) (f : SessionFile) (x : σ) :
    (f.replace perform x).2 =
      let written := perform f.writeStep x
      let renamed := perform f.renameStep written.2
      if written.1 = false then written.2
      else if renamed.1 = true then renamed.2
      else (perform f.removeStep renamed.2).2 := by
  rw [replace, bind_run, ← writeStep]
  rcases perform f.writeStep x with ⟨_ | _, x₁⟩
  · rfl
  · rw [if_pos rfl, bind_run, ← renameStep]
    dsimp only
    rcases perform f.renameStep x₁ with ⟨_ | _, x₂⟩ <;> rfl

theorem replaced_replace (trouble : Nat → Option Remains) (f : SessionFile) {x x' : Watch}
    (hd : x.disk.Grounded) (h : (f.replace (watched trouble) x).2 = x') :
    ∃ steps, x'.log = x.log ++ steps ∧ Replaced (Smooth trouble) f x.disk x'.disk steps ∧
      x'.disk.Grounded := by
  rw [replace_snd] at h
  dsimp only at h
  rcases hw : watched trouble f.writeStep x with ⟨_ | _, x₁⟩
  · rw [hw] at h
    obtain rfl : x₁ = x' := h
    obtain ⟨hdoes, hlog⟩ := Disk.does_watched hw
    exact ⟨_, hlog, replaced_unwritten hdoes, hdoes.grounded hd⟩
  rw [hw] at h
  dsimp only at h
  rw [if_neg (by decide)] at h
  obtain ⟨hwrite, hlog⟩ := Disk.does_watched hw
  rcases hr : watched trouble f.renameStep x₁ with ⟨_ | _, x₂⟩
  · rw [hr] at h
    dsimp only at h
    rw [if_neg (by decide)] at h
    obtain ⟨hrename, hlog₂⟩ := Disk.does_watched hr
    rcases hm : watched trouble f.removeStep x₂ with ⟨removed, x₃⟩
    rw [hm] at h
    obtain rfl : x₃ = x' := h
    obtain ⟨hremove, hlog₃⟩ := Disk.does_watched hm
    rw [hrename.unrenamed] at hremove
    rw [hlog₂, hlog, List.append_assoc, List.append_assoc] at hlog₃
    exact ⟨_, hlog₃, replaced_unrenamed hd hwrite hremove, hremove.grounded (hwrite.grounded hd)⟩
  · rw [hr, if_pos rfl] at h
    obtain rfl : x₂ = x' := h
    obtain ⟨hrename, hlog₂⟩ := Disk.does_watched hr
    rw [hlog, List.append_assoc] at hlog₂
    exact ⟨_, hlog₂, replaced_renamed hd hwrite hrename, hrename.grounded (hwrite.grounded hd)⟩

/-- A write of these items has touched nothing but its own. -/
structure TouchesOwn (smooth : Prop) (f : SessionFile) (d d' : Disk)
    (log : List (DiskStep × Bool)) : Prop where
  /-- The file is as it was, or it holds the items. -/
  session : ∀ p, placeOf? f.path = some p → KeptAt (Path.parent f.path) d d' p ∨
    d'.node? p = some (.file f.items.render.toUTF8)
  /-- Where the temporary file was written, nothing is left of it, unless its removal failed. -/
  temporary : (f.writeStep, true) ∈ log → smooth ∨ (f.removeStep, false) ∉ log →
    ∀ q, placeOf? (Path.temporary f.path) = some q → d'.node? q = none
  others : ∀ x, placeOf? f.path ≠ some x → placeOf? (Path.temporary f.path) ≠ some x →
    KeptAt (Path.parent f.path) d d' x
  directories : ∀ x, d.node? x = some .directory → d'.node? x = some .directory
  unwritten : (f.writeStep, false) ∈ log → smooth → ∀ x, KeptAt (Path.parent f.path) d d' x
  /-- Where the rename failed, only an earlier temporary file is gone. -/
  unrenamed : (f.renameStep, false) ∈ log → smooth ∨ (f.removeStep, false) ∉ log →
    ∀ x, KeptAt (Path.parent f.path) d d' x ∨
      placeOf? (Path.temporary f.path) = some x ∧ d'.node? x = none
  /-- Nothing is renamed over a directory. -/
  blocked : ∀ p, placeOf? f.path = some p → d.node? p = some .directory →
    (f.renameStep, true) ∉ log ∧ (smooth → ∀ x, KeptAt (Path.parent f.path) d d' x ∨
      placeOf? (Path.temporary f.path) = some x ∧ d'.node? x = none)

namespace Replaced

variable {steps : List (DiskStep × Bool)}

theorem session (h : Replaced smooth f d d' steps) {p : Place} (hp : placeOf? f.path = some p) :
    d'.node? p = d.node? p ∨ d'.node? p = some (.file f.items.render.toUTF8) := by
  have hne : ∀ q, d.writable? (Path.temporary f.path) = some q → p ≠ q :=
    fun q hq => (Disk.beside_of_writable? hq hp).ne
  cases h with
  | unwritten heq => exact Or.inl (by rw [heq])
  | begun _ hq hnode | removed hq hnode | stayed _ hq hnode =>
    exact Or.inl (by rw [hnode, if_neg (hne _ hq)])
  | renamed hq hp' _ hnode =>
    obtain rfl := Option.some.inj (hp.symm.trans hp')
    exact Or.inr (by rw [hnode, if_pos rfl])

theorem others (h : Replaced smooth f d d' steps) {x : Place} (hx : placeOf? f.path ≠ some x)
    (hx' : placeOf? (Path.temporary f.path) ≠ some x) : d'.node? x = d.node? x := by
  have hne : ∀ q, d.writable? (Path.temporary f.path) = some q → x ≠ q := by
    rintro q hq rfl
    exact hx' (Disk.placeOf?_of_resolve? (writable?_eq_some.mp hq).1)
  cases h with
  | unwritten heq => rw [heq]
  | begun _ hq hnode | removed hq hnode | stayed _ hq hnode => rw [hnode, if_neg (hne _ hq)]
  | renamed hq hp _ hnode =>
    have hxp : x ≠ _ := fun heq => hx (heq ▸ hp)
    rw [hnode, if_neg hxp, if_neg (hne _ hq)]

theorem directory (h : Replaced smooth f d d' steps) {x : Place} (hx : d.node? x = some .directory) :
    d'.node? x = some .directory := by
  have hne : ∀ q, d.isDirectory q = false → x ≠ q := by
    rintro q hq rfl
    exact Bool.false_ne_true (hq.symm.trans (Disk.isDirectory_iff.mpr hx))
  cases h with
  | unwritten heq => rw [heq, hx]
  | begun _ hq hnode | removed hq hnode | stayed _ hq hnode =>
    rw [hnode, if_neg (hne _ (writable?_eq_some.mp hq).2), hx]
  | renamed hq _ hp hnode =>
    rw [hnode, if_neg (hne _ hp), if_neg (hne _ (writable?_eq_some.mp hq).2), hx]

theorem temporary (h : Replaced smooth f d d' steps) (hw : (f.writeStep, true) ∈ steps)
    (hclean : smooth ∨ (f.removeStep, false) ∉ steps) {q : Place}
    (hq : placeOf? (Path.temporary f.path) = some q) : d'.node? q = none := by
  have hsame : ∀ q', d.writable? (Path.temporary f.path) = some q' → q' = q := fun q' hq' =>
    Option.some.inj ((Disk.placeOf?_of_resolve? (writable?_eq_some.mp hq').1).symm.trans hq)
  cases h with
  | unwritten | begun => simp at hw
  | renamed hq' hp _ hnode =>
    obtain rfl := hsame _ hq'
    rw [hnode, if_neg (Disk.beside_of_writable? hq' hp).ne.symm, if_pos rfl]
  | removed hq' hnode => rw [hnode, if_pos (hsame _ hq').symm]
  | stayed hsmooth => exact absurd hclean (by simp [hsmooth])

theorem node?_of_unwritten (h : Replaced smooth f d d' steps) (hw : (f.writeStep, false) ∈ steps)
    (hs : smooth) (x : Place) : d'.node? x = d.node? x := by
  cases h with
  | unwritten heq => rw [heq]
  | begun hsmooth => exact absurd hs hsmooth
  | renamed | removed | stayed => simp [writeStep, renameStep, removeStep] at hw

theorem gone_of_node? (hq : d.writable? (Path.temporary f.path) = some q)
    (hnode : ∀ x, d'.node? x = if x = q then none else d.node? x) (x : Place) :
    d'.node? x = d.node? x ∨ placeOf? (Path.temporary f.path) = some x ∧ d'.node? x = none := by
  by_cases hx : x = q
  · refine Or.inr ⟨?_, ?_⟩
    · rw [hx]
      exact Disk.placeOf?_of_resolve? (writable?_eq_some.mp hq).1
    · rw [hnode, if_pos hx]
  · exact Or.inl (by rw [hnode, if_neg hx])

theorem unrenamed (h : Replaced smooth f d d' steps) (hr : (f.renameStep, false) ∈ steps)
    (hclean : smooth ∨ (f.removeStep, false) ∉ steps) (x : Place) : d'.node? x = d.node? x ∨
      placeOf? (Path.temporary f.path) = some x ∧ d'.node? x = none := by
  cases h with
  | unwritten | begun => simp [renameStep, writeStep] at hr
  | renamed => simp [renameStep, writeStep] at hr
  | removed hq hnode => exact gone_of_node? hq hnode x
  | stayed hsmooth => exact absurd hclean (by simp [hsmooth])

theorem blocked (h : Replaced smooth f d d' steps) {p : Place} (hp : placeOf? f.path = some p)
    (hdir : d.node? p = some .directory) : (f.renameStep, true) ∉ steps ∧
      (smooth → ∀ x, d'.node? x = d.node? x ∨
        placeOf? (Path.temporary f.path) = some x ∧ d'.node? x = none) := by
  cases h with
  | unwritten heq =>
    refine ⟨by simp [renameStep, writeStep], fun _ x => Or.inl ?_⟩
    rw [heq]
  | begun hsmooth | stayed hsmooth =>
    exact ⟨by simp [renameStep, writeStep, removeStep], fun hs => absurd hs hsmooth⟩
  | removed hq hnode =>
    exact ⟨by simp [renameStep, writeStep, removeStep], fun _ => gone_of_node? hq hnode⟩
  | renamed _ hp' hfree =>
    obtain rfl := Option.some.inj (hp.symm.trans hp')
    exact absurd (hfree.symm.trans (Disk.isDirectory_iff.mpr hdir)) Bool.false_ne_true

theorem touchesOwn (h : Replaced smooth f d₁ d' steps)
    (hkept : ∀ x, KeptAt (Path.parent f.path) d d₁ x) {log : List (DiskStep × Bool)}
    (hlog : ∀ s done, (∀ path, s ≠ .makeDirectories path) → ((s, done) ∈ log ↔ (s, done) ∈ steps)) :
    TouchesOwn smooth f d d' log := by
  have hwrite : ∀ done, (f.writeStep, done) ∈ log ↔ (f.writeStep, done) ∈ steps :=
    fun done => hlog _ done fun _ heq => by cases heq
  have hrename : ∀ done, (f.renameStep, done) ∈ log ↔ (f.renameStep, done) ∈ steps :=
    fun done => hlog _ done fun _ heq => by cases heq
  have hremove : ∀ done, (f.removeStep, done) ∈ log ↔ (f.removeStep, done) ∈ steps :=
    fun done => hlog _ done fun _ heq => by cases heq
  constructor
  case session =>
    intro p hp
    exact (h.session hp).imp_left (hkept p).of_eq
  case temporary =>
    intro hw hclean q hq
    rw [hwrite] at hw
    rw [hremove] at hclean
    exact h.temporary hw hclean hq
  case others =>
    intro x hx hx'
    exact (hkept x).of_eq (h.others hx hx')
  case directories =>
    intro x hx
    exact h.directory ((hkept x).directory hx)
  case unwritten =>
    intro hw hs x
    rw [hwrite] at hw
    exact (hkept x).of_eq (h.node?_of_unwritten hw hs x)
  case blocked =>
    intro p hp hdir
    obtain ⟨hnot, hsame⟩ := h.blocked hp ((hkept p).directory hdir)
    rw [hrename]
    exact ⟨hnot, fun hs x => (hsame hs x).imp_left (hkept x).of_eq⟩
  case unrenamed =>
    intro hr hclean x
    rw [hrename] at hr
    rw [hremove] at hclean
    exact (h.unrenamed hr hclean x).imp_left (hkept x).of_eq

end Replaced

theorem persist_touchesOwn (trouble : Nat → Option Remains) (f : SessionFile) {d : Disk}
    {x : Watch} (hd : d.Grounded) (h : (f.persist (watched trouble) ⟨d, []⟩).2 = x) :
    TouchesOwn (Smooth trouble) f d x.disk x.log ∧ x.disk.Grounded := by
  rw [persist_eq] at h
  by_cases hparent : Path.parent f.path ≠ ""
  · rw [if_pos hparent, bind_run] at h
    rcases hm : watched trouble (.makeDirectories (Path.parent f.path)) ⟨d, []⟩ with ⟨done, x₁⟩
    rw [hm] at h
    obtain ⟨hmake, hlog⟩ := Disk.does_watched hm
    obtain ⟨steps, hsteps, hreplaced, hground⟩ := replaced_replace trouble f (hmake.grounded hd) h
    refine ⟨hreplaced.touchesOwn hmake.keptAt ?_, hground⟩
    intro s done hs
    rw [hsteps, hlog]
    simp [hs]
  · rw [if_neg hparent] at h
    obtain ⟨steps, hsteps, hreplaced, hground⟩ := replaced_replace trouble f hd h
    refine ⟨hreplaced.touchesOwn (fun _ => Or.inl rfl) ?_, hground⟩
    intro s done _
    rw [hsteps, List.nil_append]

theorem touchesOwn_refl (smooth : Prop) (f : SessionFile) (d : Disk) :
    TouchesOwn smooth f d d [] := by
  constructor
  case session => exact fun _ _ => Or.inl (Or.inl rfl)
  case temporary => exact fun h => absurd h List.not_mem_nil
  case others => exact fun _ _ _ => Or.inl rfl
  case directories => exact fun _ h => h
  case unwritten => exact fun h => absurd h List.not_mem_nil
  case blocked => exact fun _ _ _ => ⟨List.not_mem_nil, fun _ _ => Or.inl (Or.inl rfl)⟩
  case unrenamed => exact fun h => absurd h List.not_mem_nil

theorem temporary_ne {path : String} (h : Path.splitName? path ≠ none) :
    Path.temporary path ≠ path := by
  obtain ⟨parts, hparts⟩ := Option.ne_none_iff_exists'.mp h
  obtain ⟨fs, n, ts, hnamed, hn⟩ := Path.named_of_splitName? hparts
  intro heq
  rcases Path.temporary_cases hnamed hn with hnone | ⟨n', hother, hne, hn'⟩
  · rw [heq] at hnone
    exact h hnone
  · have hname := hother.splitName?_eq
    rw [heq, hnamed.splitName?_eq, if_neg hn, if_neg hn'] at hname
    exact hne (Prod.mk.inj (Option.some.inj hname)).2.symm

/-- On any tree, a write touches nothing but its own files: the session file is as it was or holds the
items, what was written to the temporary file is gone, and of all else only directories above the
file are new. So it is if each step goes as the tree has it, and also if any of them fails besides,
but for a temporary file whose removal fails. -/
theorem write_touches_own (d : Disk) (hd : d.Grounded) (f : SessionFile) (w : Write)
    (trouble : Nat → Option Remains) :
    let next : SessionFile := { f with items := f.items.apply w }
    let out := f.write (watched trouble) w ⟨d, []⟩
    out.1 = next ∧ TouchesOwn (Smooth trouble) next d out.2.disk out.2.log ∧
      out.2.disk.Grounded ∧ (f.isEffective w = false → out.2 = ⟨d, []⟩) ∧
      (Path.splitName? f.path ≠ none → Path.temporary f.path ≠ f.path) := by
  intro next out
  have hrun : out = _ := write_run (watched trouble) f w ⟨d, []⟩
  have hidle : f.isEffective w = false → out.2 = ⟨d, []⟩ := by
    intro heff
    rw [hrun, heff]
    rfl
  have htouches : TouchesOwn (Smooth trouble) next d out.2.disk out.2.log ∧
      out.2.disk.Grounded := by
    by_cases heff : f.isEffective w = true
    · rw [hrun]
      dsimp only
      rw [if_pos heff]
      exact persist_touchesOwn trouble next hd rfl
    · rw [hidle (Bool.eq_false_iff.mpr heff)]
      exact ⟨touchesOwn_refl _ next d, hd⟩
  exact ⟨write_fst (watched trouble) f w ⟨d, []⟩, htouches.1, htouches.2, hidle, temporary_ne⟩

/-- The session file has become a directory, an earlier temporary file stands beside it, and the path
leads through a directory that is missing. -/
theorem blocked_write_touches_own :
    let d := (Disk.empty.put ["s"] .directory).put ["s.json.tmp"] (.file .empty)
    let f : SessionFile := ⟨"d/../s", .empty⟩
    let next : SessionFile := { f with items := f.items.apply (.set "token" "tok") }
    let out := f.write (watched fun _ => none) (.set "token" "tok") ⟨d, []⟩
    d.Grounded ∧ out.2.disk.node? ["s"] = some .directory ∧ (next.renameStep, true) ∉ out.2.log ∧
      ∀ x, KeptAt (Path.parent next.path) d out.2.disk x ∨
        placeOf? (Path.temporary next.path) = some x ∧ out.2.disk.node? x = none := by
  intro d f next out
  have htop : ∀ (d : Disk) name, d.Rooted [name] := fun d name =>
    Disk.rooted_snoc (Disk.rooted_start d []) (Disk.isDirectory_of_anchor rfl d)
  have hd : d.Grounded :=
    (Disk.grounded_empty.put (htop _ _) rfl _).put (htop _ _) (by decide) _
  have hplace : placeOf? next.path = some ["s"] := by cbv
  have hdir : d.node? ["s"] = some .directory := rfl
  have htouch : TouchesOwn (Smooth fun _ => none) next d out.2.disk out.2.log :=
    (write_touches_own d hd f (.set "token" "tok") fun _ => none).2.1
  obtain ⟨hnot, hsame⟩ := htouch.blocked _ hplace hdir
  exact ⟨hd, htouch.directories _ hdir, hnot, hsame fun _ => rfl⟩

end SessionFile

end InsectPortal
