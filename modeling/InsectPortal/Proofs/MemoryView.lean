import Mathlib.Logic.Function.Basic
import InsectPortal.Proofs.Reload

/-!
# A session file seen from memory

A storage in memory is a value for each key, and a write changes what it names. A session file gives
the same answers, whatever the disk does meanwhile: any step may fail or do something else, and
between two operations anyone may change anything.
-/
namespace InsectPortal

abbrev Memory := String → Option String

namespace Memory

def write (m : Memory) : Write → Memory
  | .set key value => Function.update m key (some value)
  | .remove key => Function.update m key none
  | .clear => fun _ => none

end Memory

/-- What happens to a storage on a disk with states `σ`. -/
inductive Scene (σ : Type) where
  | get (key : String)
  | write (w : Write)
  | others (change : σ → σ)

variable {σ : Type}

/-- The answers of a storage in memory, and what it holds in the end. -/
def Memory.play (m : Memory) : List (Scene σ) → List (Option String) × Memory
  | [] => ([], m)
  | .get key :: rest => (m key :: (m.play rest).1, (m.play rest).2)
  | .write w :: rest => (m.write w).play rest
  | .others _ :: rest => m.play rest

namespace SessionFile

def play (perform : DiskStep → StateM σ Bool) (f : SessionFile) :
    List (Scene σ) → StateM σ (List (Option String) × SessionFile)
  | [] => return ([], f)
  | .get key :: rest => do
    let (answers, last) ← f.play perform rest
    return (f.items.get? key :: answers, last)
  | .write w :: rest => do (← f.write perform w).play perform rest
  | .others change :: rest => do
    modify change
    f.play perform rest

/-- The file holds what is in memory, key by key. -/
def Shows (f : SessionFile) (m : Memory) : Prop := ∀ key, f.items.get? key = m key

variable {perform : DiskStep → StateM σ Bool} {f : SessionFile} {m : Memory} {s : σ}

theorem write_run (perform : DiskStep → StateM σ Bool) (f : SessionFile) (w : Write) (s : σ) :
    f.write perform w s =
      let next : SessionFile := { f with items := f.items.apply w }
      (next, if f.isEffective w = true then (next.persist perform s).2 else s) := by
  rw [write]
  split <;> rfl

theorem write_fst (perform : DiskStep → StateM σ Bool) (f : SessionFile) (w : Write) (s : σ) :
    (f.write perform w s).1 = { f with items := f.items.apply w } := by
  rw [write_run]

theorem Shows.apply (h : f.Shows m) (w : Write) :
    Shows { f with items := f.items.apply w } (m.write w) := by
  intro key
  change (f.items.apply w).get? key = m.write w key
  rw [Items.get?_apply]
  cases w with
  | set k v =>
    change _ = Function.update m k (some v) key
    rw [Function.update_apply, h key]
  | remove k =>
    change _ = Function.update m k none key
    rw [Function.update_apply, h key]
  | clear => rfl

/-- One write leaves the same in the file and in memory. -/
theorem Shows.write (h : f.Shows m) (w : Write) : (f.write perform w s).1.Shows (m.write w) := by
  rw [write_fst]
  exact h.apply w

theorem play_write (perform : DiskStep → StateM σ Bool) (f : SessionFile) (w : Write)
    (rest : List (Scene σ)) (s : σ) : f.play perform (.write w :: rest) s =
      (f.write perform w s).1.play perform rest (f.write perform w s).2 := rfl

theorem Shows.play (h : f.Shows m) (perform : DiskStep → StateM σ Bool) (s : σ)
    (scenes : List (Scene σ)) :
    (f.play perform scenes s).1.1 = (m.play scenes).1 ∧
      (f.play perform scenes s).1.2.Shows (m.play scenes).2 := by
  induction scenes generalizing f m s with
  | nil => exact ⟨rfl, h⟩
  | cons scene rest ih =>
    cases scene with
    | get key =>
      obtain ⟨hanswers, hlast⟩ := ih h s
      refine ⟨?_, hlast⟩
      change f.items.get? key :: (f.play perform rest s).1.1 = m key :: (m.play rest).1
      rw [h key, hanswers]
    | write w =>
      rw [play_write]
      exact ih (h.write w) _
    | others change => exact ih h _

/-- Whatever the file held at first, once open it answers as a storage in memory does that begins with
the same items, and it goes on holding the same. No write fails or is done by half. -/
theorem answers_as_memory (d₀ : Disk) (path : String) (hfree : d₀.look? path ≠ some .directory) :
    ∃ f, openAt d₀ path = .ok f ∧
      ∀ (σ : Type) (perform : DiskStep → StateM σ Bool) (s : σ) (scenes : List (Scene σ)),
        let m : Memory := f.items.get?
        let run := (f.play perform scenes s).1
        run.1 = (m.play scenes).1 ∧ (∀ key, run.2.items.get? key = (m.play scenes).2 key) ∧
        ∀ (g : SessionFile) (w : Write) (s' : σ),
          (g.write perform w s').1 = { g with items := g.items.apply w } := by
  obtain ⟨f, hopen⟩ := exists_openAt hfree
  refine ⟨f, hopen, fun σ perform s scenes => ?_⟩
  have hstart : f.Shows f.items.get? := fun _ => rfl
  obtain ⟨hanswers, hlast⟩ := hstart.play perform s scenes
  exact ⟨hanswers, hlast, fun g w s' => write_fst perform g w s'⟩

/-- A file stands where the directory of the session file is expected, and later a directory where the
session file is. -/
theorem blocked_file_answers_as_memory :
    let d₀ := Disk.empty.put ["b"] (.file .empty)
    let block (d : Disk) := (d.delete "b").place "b/s" none
    let scenes : List (Scene Disk) := [.write (.set "token" "tok"), .get "token", .others block,
      .write (.set "useremail" "ant"), .get "token", .write .clear, .get "useremail"]
    d₀.look? "b/s" ≠ some .directory ∧ ∃ f, openAt d₀ "b/s" = .ok f ∧
      (f.play onDisk scenes d₀).1.1 = [some "tok", some "tok", none] := by
  intro d₀ block scenes
  have hnone : d₀.look? "b/s" = none := by
    have hplace : d₀.resolve? "b/s" = none := by cbv
    rw [Disk.look?, hplace]
    rfl
  have hfree : d₀.look? "b/s" ≠ some .directory := by
    rw [hnone]
    exact (Option.some_ne_none _).symm
  obtain ⟨f, hopen, hrun⟩ := answers_as_memory d₀ "b/s" hfree
  have hempty : openAt d₀ "b/s" = .ok ⟨"b/s", .empty⟩ := by rw [openAt, hnone]
  obtain rfl : f = ⟨"b/s", .empty⟩ := Except.ok.inj (hopen.symm.trans hempty)
  have hanswers := (hrun Disk onDisk d₀ scenes).1
  refine ⟨hfree, _, hopen, hanswers.trans ?_⟩
  decide

end SessionFile

end InsectPortal
