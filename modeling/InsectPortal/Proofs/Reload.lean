import InsectPortal.Proofs.CrashSafety

/-!
# Opening a session file again

While every step on disk succeeds, the session file is never behind: after each write it opens again
with the items in memory. So a new session on it begins with the credential of the old one.
-/
namespace InsectPortal

namespace Disk

variable {d d' : Disk} {p q : Place}

theorem follow?_of_kept (hkept : ∀ r, d.Rooted r → d.isDirectory r = true → d'.isDirectory r = true)
    {segs : List (List Char)} (hp : d.Rooted p) (h : d.follow? p segs = some q) :
    d'.follow? p segs = some q := by
  induction segs generalizing p with
  | nil => exact h
  | cons s rest ih =>
    rw [follow?] at h ⊢
    by_cases hdir : d.isDirectory p = true
    · rw [if_pos hdir] at h
      rw [if_pos (hkept p hp hdir)]
      obtain ⟨r, hr, hrest⟩ := Option.bind_eq_some_iff.mp h
      rw [hr]
      exact ih (rooted_enter? hp hdir hr) hrest
    · rw [if_neg hdir] at h
      cases h

theorem resolve?_of_kept (hkept : ∀ r, d.Rooted r → d.isDirectory r = true → d'.isDirectory r = true)
    {path : String} (h : d.resolve? path = some p) : d'.resolve? path = some p := by
  obtain ⟨o, ho, hf⟩ := Option.bind_eq_some_iff.mp h
  rw [resolve?, ho]
  refine follow?_of_kept hkept ?_ hf
  rw [origin?_eq_some ho]
  exact rooted_start d _

/-- A file stands in no one's way but its own: moving it leaves every directory that can be reached. -/
theorem kept_of_move {content : ByteArray} (hfile : d.isDirectory p = false)
    (hfree : d.isDirectory q = false) {r : Place} (hr : d.Rooted r) (hdir : d.isDirectory r = true) :
    ((d.dropTree p).put q (.file content)).isDirectory r = true := by
  have hrq : r ≠ q := by
    rintro rfl
    exact Bool.false_ne_true (hfree.symm.trans hdir)
  have hpr : ¬ p <+: r := by
    intro hpre
    by_cases he : p = r
    · rw [he] at hfile
      exact Bool.false_ne_true (hfile.symm.trans hdir)
    · exact Bool.false_ne_true (hfile.symm.trans (hr p hpre he))
  rw [isDirectory_iff] at hdir ⊢
  rw [node?_put_of_ne hrq, node?_dropTree hpr]
  exact hdir

theorem look?_of_rename {source target : String} {content : ByteArray}
    (hsource : placeOf? source = some p) (hnode : d.node? p = some (.file content))
    (h : d.rename source target = (true, d')) : d'.look? target = some (.file content) := by
  unfold rename at h
  split at h
  case h_2 => cases h
  case h_1 p' q hp hq =>
    obtain rfl := Option.some.inj (hsource.symm.trans (placeOf?_of_resolve? hp))
    obtain ⟨hres, hfree⟩ := writable?_eq_some.mp hq
    rw [hnode] at h
    obtain ⟨_, rfl⟩ := Prod.mk.inj h
    have hfile : d.isDirectory p = false := by
      rw [isDirectory, hnode]
    rw [look?_eq (resolve?_of_kept (fun r => kept_of_move hfile hfree) hres), node?_put,
      not_anchor hfree, if_pos rfl]
    rfl

end Disk

/-- A step that has to succeed. -/
def surely (s : DiskStep) : StateT Disk Option Bool := fun d =>
  if (d.perform s).1 then some (d.perform s) else none

theorem surely_eq_some {s : DiskStep} {d d' : Disk} {done : Bool}
    (h : surely s d = some (done, d')) : done = true ∧ d.perform s = (true, d') := by
  unfold surely at h
  split at h
  · next hdone =>
    have hout := Option.some.inj h
    have : done = true := by rw [← hdone, hout]
    exact ⟨this, this ▸ hout⟩
  · cases h

/-- Where all its steps succeed, the first program does what the second one does. -/
def Agrees {α : Type} (x : StateT Disk Option α) (y : StateM Disk α) : Prop :=
  ∀ d out, x d = some out → y d = out

section

variable {α β : Type} {x : StateT Disk Option α} {y : StateM Disk α}
  {f : α → StateT Disk Option β} {g : α → StateM Disk β}

theorem bind_eq_some {d : Disk} {out : β × Disk} (h : (x >>= f) d = some out) :
    ∃ a d', x d = some (a, d') ∧ f a d' = some out := by
  obtain ⟨⟨a, d'⟩, hx, hf⟩ := Option.bind_eq_some_iff.mp h
  exact ⟨a, d', hx, hf⟩

theorem agrees_pure (a : α) : Agrees (pure a) (pure a) := fun _ _ h => Option.some.inj h

theorem Agrees.bind (h : Agrees x y) (hf : ∀ a, Agrees (f a) (g a)) :
    Agrees (x >>= f) (y >>= g) := by
  intro d out hout
  obtain ⟨a, d', hx, hfa⟩ := bind_eq_some hout
  have hy : (y >>= g) d = g (y d).1 (y d).2 := rfl
  rw [hy, h d _ hx]
  exact hf a d' out hfa

theorem agrees_surely (s : DiskStep) : Agrees (surely s) (SessionFile.onDisk s) := by
  rintro d ⟨done, d'⟩ h
  obtain ⟨rfl, hperform⟩ := surely_eq_some h
  exact hperform

end

namespace SessionFile

variable {f g : SessionFile} {d d' : Disk} {path : String} {w : Write}

theorem agrees_replace (f : SessionFile) : Agrees (f.replace surely) (f.replace onDisk) := by
  refine (agrees_surely _).bind fun written => ?_
  cases written with
  | false => exact agrees_pure ()
  | true =>
    refine (agrees_surely _).bind fun renamed => ?_
    cases renamed with
    | true => exact agrees_pure ()
    | false => exact (agrees_surely _).bind fun _ => agrees_pure ()

theorem agrees_persist (f : SessionFile) : Agrees (f.persist surely) (f.persist onDisk) := by
  rw [persist_eq, persist_eq]
  by_cases hparent : Path.parent f.path ≠ ""
  · rw [if_pos hparent, if_pos hparent]
    exact (agrees_surely _).bind fun _ => agrees_replace f
  · rw [if_neg hparent, if_neg hparent]
    exact agrees_replace f

theorem agrees_write (f : SessionFile) (w : Write) :
    Agrees (f.write surely w) (f.write onDisk w) := by
  unfold write
  dsimp only
  by_cases heff : f.isEffective w = true
  · rw [if_pos heff, if_pos heff]
    exact (agrees_persist _).bind fun _ => agrees_pure _
  · rw [if_neg heff, if_neg heff]
    exact (agrees_pure _).bind fun _ => agrees_pure _

theorem agrees_writeAll (f : SessionFile) (writes : List Write) :
    Agrees (f.writeAll surely writes) (f.writeAll onDisk writes) := by
  induction writes generalizing f with
  | nil => exact agrees_pure f
  | cons w rest ih => exact (agrees_write f w).bind ih

theorem openAt_of_file {content : ByteArray} (h : d.look? path = some (.file content)) :
    openAt d path = .ok ⟨path, itemsOf content⟩ := by
  unfold openAt
  rw [h]

theorem openAt_of_replace {u : Unit} (h : f.replace surely d = some (u, d')) :
    openAt d' f.path = .ok f := by
  obtain ⟨_, d₁, hw, h⟩ := bind_eq_some h
  obtain ⟨rfl, hwrite⟩ := surely_eq_some hw
  obtain ⟨_, d₂, hr, h⟩ := bind_eq_some h
  obtain ⟨rfl, hrename⟩ := surely_eq_some hr
  cases h
  obtain ⟨q, hq, hnode⟩ := Disk.node?_of_write hwrite
  rw [openAt_of_file (Disk.look?_of_rename hq hnode hrename), itemsOf_render]

/-- What has been brought to disk is what the file opens with. -/
theorem openAt_of_persist {u : Unit} (h : f.persist surely d = some (u, d')) :
    openAt d' f.path = .ok f := by
  rw [persist_eq] at h
  by_cases hparent : Path.parent f.path ≠ ""
  · rw [if_pos hparent] at h
    obtain ⟨_, d₁, _, h⟩ := bind_eq_some h
    exact openAt_of_replace h
  · rw [if_neg hparent] at h
    exact openAt_of_replace h

theorem apply_of_not_effective (h : f.isEffective w = false) : f.items.apply w = f.items := by
  cases w with
  | set | clear => cases h
  | remove key =>
    have habsent : f.items.get? key = none := Option.not_isSome_iff_eq_none.mp (Bool.eq_false_iff.mp h)
    apply Items.ext
    apply List.filter_eq_self.mpr
    intro e he
    have hne := List.find?_eq_none.mp (Option.map_eq_none_iff.mp habsent) e he
    simpa using hne

theorem openAt_of_write (hopen : openAt d f.path = .ok f) (h : f.write surely w d = some (g, d')) :
    g = { f with items := f.items.apply w } ∧ openAt d' f.path = .ok g := by
  unfold write at h
  dsimp only at h
  by_cases heff : f.isEffective w = true
  · rw [if_pos heff] at h
    obtain ⟨_, d₁, hpersist, h⟩ := bind_eq_some h
    cases h
    exact ⟨rfl, openAt_of_persist hpersist⟩
  · rw [if_neg heff] at h
    cases h
    have hitems := apply_of_not_effective (Bool.eq_false_iff.mpr heff)
    refine ⟨rfl, ?_⟩
    rw [hitems]
    exact hopen

theorem openAt_of_writeAll {writes : List Write} (hopen : openAt d f.path = .ok f)
    (h : f.writeAll surely writes d = some (g, d')) :
    g = { f with items := f.items.applyAll writes } ∧ openAt d' f.path = .ok g := by
  induction writes generalizing f d with
  | nil =>
    cases h
    exact ⟨rfl, hopen⟩
  | cons w rest ih =>
    obtain ⟨f', d₁, hwrite, hrest⟩ := bind_eq_some h
    obtain ⟨rfl, hopen'⟩ := openAt_of_write hopen hwrite
    exact ih hopen' hrest

/-- Every step by which these writes are brought to disk succeeds. -/
def Succeeds (f : SessionFile) (d : Disk) (writes : List Write) : Prop :=
  (f.writeAll surely writes d).isSome = true

theorem Succeeds.reopens {writes : List Write} (hopen : openAt d path = .ok f)
    (h : f.Succeeds d writes) :
    ∃ g d', f.writeAll onDisk writes d = (g, d') ∧ g.items = f.items.applyAll writes ∧
      openAt d' path = .ok g := by
  obtain rfl := openAt_path hopen
  obtain ⟨⟨g, d'⟩, hout⟩ := Option.isSome_iff_exists.mp h
  obtain ⟨rfl, hopen'⟩ := openAt_of_writeAll hopen hout
  exact ⟨_, d', agrees_writeAll f writes d _ hout, rfl, hopen'⟩

theorem exists_openAt (h : d.look? path ≠ some .directory) : ∃ f, openAt d path = .ok f := by
  cases ho : openAt d path with
  | ok f => exact ⟨f, rfl⟩
  | error e => exact absurd (openAt_error ho) h

end SessionFile

namespace Session

open SessionFile (openAt onDisk)

theorem Consistent.ofKeyring_items {s : Session} (h : s.Consistent) :
    ofItems s.keyring.items = ⟨⟨s.keyring.items, []⟩, ⟨s.state.signedIn, .unknown⟩, 0, false⟩ := by
  have hkeep : (s.keyring.items.credential.isComplete || s.keyring.items.credential.isEmpty) = true :=
    Bool.or_eq_true_iff.mpr h.whole
  have hkeyring : Keyring.ofItems s.keyring.items = ⟨s.keyring.items, []⟩ := by
    rw [Keyring.ofItems]
    exact if_pos hkeep
  rw [ofItems, hkeyring, ofKeyring, h.stored]
  rfl

/-- While every step succeeds, the file opens with the items in memory, whatever it held at first:
after any writes, and after any events of a session. A new session then begins with the credential
of the old one, and its role is still to be looked up. -/
theorem reload_equals_live (d₀ : Disk) (path : String) (hfree : d₀.look? path ≠ some .directory) :
    ∃ f, openAt d₀ path = .ok f ∧
      (∀ writes, f.Succeeds d₀ writes → ∃ g d, f.writeAll onDisk writes d₀ = (g, d) ∧
        g.items = f.items.applyAll writes ∧ openAt d path = .ok g) ∧
      ∀ events, let s := (ofItems f.items).after events
        f.Succeeds d₀ s.keyring.journal → ∃ g d, f.writeAll onDisk s.keyring.journal d₀ = (g, d) ∧
          g.items = s.keyring.items ∧ openAt d path = .ok g ∧
          (ofItems g.items).credential = s.credential ∧
          (ofItems g.items).state = ⟨s.state.signedIn, .unknown⟩ := by
  obtain ⟨f, hopen⟩ := SessionFile.exists_openAt hfree
  refine ⟨f, hopen, fun writes h => h.reopens hopen, ?_⟩
  intro events s hsteps
  obtain ⟨g, d, hrun, hitems, hopen'⟩ := hsteps.reopens hopen
  have hlive : g.items = s.keyring.items :=
    hitems.trans (recorded_after f.items events).items_eq.symm
  have hnew := ((consistent_ofItems f.items).after events).ofKeyring_items
  refine ⟨g, d, hrun, hlive, hopen', ?_, ?_⟩
  · rw [hlive, hnew]
    rfl
  · rw [hlive, hnew]

/-- A truncated file holds no items. An absent item leaves it as it is, and a sign-in leaves its
credential there, but not the role that was looked up for it. -/
theorem truncated_file_reloads :
    let d₀ := Disk.empty.put ["s.json"] (.file "\x7b\"token".toUTF8)
    let f : SessionFile := ⟨"s.json", .empty⟩
    let s := (ofItems .empty).after
      [.signIn "token" "user", .beginLookup, .completeLookup ⟨1, "user"⟩ .userAdmin]
    openAt d₀ "s.json" = .ok f ∧ s.state = ⟨true, .userAdmin⟩ ∧
      (∃ g d, f.writeAll onDisk [.remove "absent"] d₀ = (g, d) ∧ g.items = .empty ∧
        openAt d "s.json" = .ok g) ∧
      ∃ g d, f.writeAll onDisk s.keyring.journal d₀ = (g, d) ∧ openAt d "s.json" = .ok g ∧
        (ofItems g.items).credential = ⟨some "token", some "user"⟩ ∧
        (ofItems g.items).state = ⟨true, .unknown⟩ := by
  intro d₀ f s
  have hlook : d₀.look? "s.json" = some (.file "\x7b\"token".toUTF8) := by
    have hplace : d₀.resolve? "s.json" = some ["s.json"] := by cbv
    rw [Disk.look?_eq hplace, Disk.node?_put]
    rfl
  have hfree : d₀.look? "s.json" ≠ some .directory := by
    rw [hlook]
    intro h
    cases h
  obtain ⟨f', hopen, raw, live⟩ := reload_equals_live d₀ "s.json" hfree
  have hempty : openAt d₀ "s.json" = .ok f := by
    rw [SessionFile.openAt_of_file hlook]
    cbv
  obtain rfl : f' = f := Except.ok.inj (hopen.symm.trans hempty)
  have hcredential : s.credential = ⟨some "token", some "user"⟩ := by decide +kernel
  have hsigned : s.state = ⟨true, .userAdmin⟩ := by decide +kernel
  obtain ⟨g, d, hrun, _, hg, hc, hs⟩ :=
    live [.signIn "token" "user", .beginLookup, .completeLookup ⟨1, "user"⟩ .userAdmin] (by cbv)
  refine ⟨hempty, hsigned, raw [.remove "absent"] (by cbv), g, d, hrun, hg, ?_, ?_⟩
  · exact hc.trans hcredential
  · rw [hs, SessionState.mk.injEq]
    exact ⟨congrArg SessionState.signedIn hsigned, rfl⟩

end Session

end InsectPortal
