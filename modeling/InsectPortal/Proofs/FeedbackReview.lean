import InsectPortal.Proofs.Count
import InsectPortal.Proofs.Sitting

/-!
# Reviews of feedback

A review works on the feedback that was fetched last, under the numbers it was printed with. Each of
its words that is such a number gives one verdict, in the order typed; the other words give none.
Where no word is one, or the section is closed, the service is not asked at all.
-/
namespace InsectPortal

/-- The text has a row for each entry, behind its number. -/
def Listing.Numbers (text : String) (es : List FeedbackEntry) : Prop :=
  ∃ rows : List String, text = "\n".intercalate rows ∧ rows.length = es.length ∧
    ∀ (i : Nat) e, es[i]? = some e → rows[i]? = some (s!"[{i}] " ++ feedbackLine e)

theorem Listing.numbers_feedback {es : List FeedbackEntry} (h : es ≠ []) :
    Listing.Numbers (feedback es) es := by
  refine ⟨es.zipIdx.map fun (e, i) => s!"[{i}] " ++ feedbackLine e, ?_, by simp, ?_⟩
  · have hfull : es.isEmpty = false := by simpa using h
    rw [feedback, numbered, hfull]
    rfl
  · intro i e he
    simp [he]

namespace Command

/-- The verdicts that these words give on the listed entries, in the order typed. -/
inductive Decides (es : List FeedbackEntry) (acceptable : Bool) :
    List String → List FeedbackDecision → Prop where
  | nil : Decides es acceptable [] []
  | entry {word words n e ds} : Text.IsCount word n → es[n]? = some e →
      Decides es acceptable words ds →
      Decides es acceptable (word :: words) (⟨e.picLink, e.realLabel, acceptable⟩ :: ds)
  | stray {word words ds} : (∀ n, Text.IsCount word n → es.length ≤ n) →
      Decides es acceptable words ds → Decides es acceptable (word :: words) ds

theorem listed?_eq_some_iff {es : List FeedbackEntry} {word : String} {e : FeedbackEntry} :
    listed? es word = some e ↔ ∃ n, Text.IsCount word n ∧ es[n]? = some e := by
  unfold listed?
  cases hc : Text.count word with
  | error err =>
    constructor
    · intro h
      cases h
    · rintro ⟨n, hn, _⟩
      cases hc.symm.trans (Text.count_eq_ok_iff.mpr hn)
  | ok n =>
    have hn := Text.count_eq_ok_iff.mp hc
    constructor
    · exact fun h => ⟨n, hn, h⟩
    · rintro ⟨n', hn', h⟩
      obtain rfl := Except.ok.inj (hc.symm.trans (Text.count_eq_ok_iff.mpr hn'))
      exact h

theorem listed?_eq_none_iff {es : List FeedbackEntry} {word : String} :
    listed? es word = none ↔ ∀ n, Text.IsCount word n → es.length ≤ n := by
  rw [Option.eq_none_iff_forall_ne_some]
  constructor
  · intro h n hn
    by_contra hlt
    exact h _ (listed?_eq_some_iff.mpr
      ⟨n, hn, List.getElem?_eq_getElem (Nat.lt_of_not_le hlt)⟩)
  · intro h e he
    obtain ⟨n, hn, hget⟩ := listed?_eq_some_iff.mp he
    rw [List.getElem?_eq_none (h n hn)] at hget
    cases hget

theorem decides_iff {es : List FeedbackEntry} {acceptable : Bool} {words : List String}
    {ds : List FeedbackDecision} :
    Decides es acceptable words ds ↔ ds = decisions es acceptable words := by
  unfold decisions
  constructor
  · intro h
    induction h with
    | nil => rfl
    | entry hn he _ ih =>
      rw [List.filterMap_cons_some (listed?_eq_some_iff.mpr ⟨_, hn, he⟩), ih]
      rfl
    | stray hstray _ ih => rw [List.filterMap_cons_none (listed?_eq_none_iff.mpr hstray), ih]
  · rintro rfl
    induction words with
    | nil => exact .nil
    | cons word words ih =>
      cases hl : listed? es word with
      | none =>
        rw [List.filterMap_cons_none hl]
        exact .stray (listed?_eq_none_iff.mp hl) ih
      | some e =>
        obtain ⟨n, hn, he⟩ := listed?_eq_some_iff.mp hl
        rw [List.filterMap_cons_some hl]
        exact .entry hn he ih

example :
    decisions [⟨"", "", "p/0.png", "moth", 1, "", false⟩, ⟨"", "", "p/1.png", "bee", 1, "", true⟩]
      false ["1", "x", "+00", "2"] =
    [⟨"p/1.png", "bee", false⟩, ⟨"p/0.png", "moth", false⟩] := by decide +kernel

theorem verdict?_eq_some_iff {s : String} {acceptable : Bool} :
    verdict? s = some acceptable ↔
      Text.lowerAscii s = if acceptable then "accept" else "reject" := by
  unfold verdict?
  cases acceptable with
  | true => simp
  | false =>
    simp only [Bool.false_eq_true, if_false]
    split
    next h => simp [h]
    next => simp

theorem ofWords_eq_review_iff {name : String} {args : List String} {acceptable : Bool}
    {words : List String} :
    ofWords name args = .review acceptable words ↔
      name = "review" ∧
        ∃ verdict, args = verdict :: words ∧ verdict? verdict = some acceptable := by
  constructor
  · intro h
    unfold ofWords at h
    split at h <;> try cases h
    refine ⟨rfl, ?_⟩
    cases args with
    | nil => cases h
    | cons verdict rest =>
      cases hv : verdict? verdict with
      | none => simp [hv] at h
      | some acceptable' =>
        simp only [List.head?_cons, Option.bind_some, hv, List.tail_cons, review.injEq] at h
        obtain ⟨rfl, rfl⟩ := h
        exact ⟨verdict, rfl, hv⟩
  · rintro ⟨rfl, verdict, rfl, h⟩
    simp [ofWords, h]

theorem ofWords_eq_feedback_iff {name : String} {args : List String} :
    ofWords name args = .feedback ↔ name = "feedback" := by
  constructor
  · intro h
    unfold ofWords at h
    split at h <;> try cases h
    · rfl
    · split at h <;> cases h
  · rintro rfl
    rfl

theorem operation?_eq_task {es : List FeedbackEntry} {cmd : Command} {task : SectionTask}
    {user : String} (h : cmd.operation? es = some (.task task))
    (hf : (task.call user).IsOfFeedback) :
    (cmd = .feedback ∧ task = .listFeedback) ∨
    ∃ acceptable words, cmd = .review acceptable words ∧
      task = .reviewFeedback (decisions es acceptable words) := by
  cases cmd with
  | feedback =>
    cases h
    exact Or.inl ⟨rfl, rfl⟩
  | review acceptable words =>
    cases h
    exact Or.inr ⟨acceptable, words, rfl, rfl⟩
  | _ => cases h <;> exact hf.elim

end Command

namespace Console

variable {c c' : Console} {line : Line} {shown : List Printed} {asked : List Inquiry}

theorem Does.of_feedback (h : c.Does line c' shown asked) (hs : c.portal.Sound) {q : Inquiry}
    (hq : q ∈ asked) (hf : q.call.IsOfFeedback) :
    (c.command? line = some .feedback ∧ ∃ user, q.call = .listFeedback user) ∨
    ∃ acceptable words user, c.command? line = some (.review acceptable words) ∧
      q.call = .reviewFeedback user (Command.decisions c.listing acceptable words) := by
  cases h with
  | idle => cases hq
  | operation hcmd hop hleads =>
    obtain ⟨task, user, rfl, hcall⟩ := hs.task_of_feedback hleads hq hf
    rw [hcall] at hf
    rcases Command.operation?_eq_task hop hf with ⟨rfl, rfl⟩ | ⟨acceptable, words, rfl, rfl⟩
    · exact Or.inl ⟨hcmd, user, hcall⟩
    · exact Or.inr ⟨acceptable, words, user, hcmd, hcall⟩

/-- A review asks the service once, where the section is open and there is something to decide. -/
theorem Does.review (h : c.Does line c' shown asked) (hs : c.portal.Sound) {acceptable : Bool}
    {words : List String} (hcmd : c.command? line = some (.review acceptable words)) :
    let ds := Command.decisions c.listing acceptable words
    (¬ (c.portal.Admits .feedbackManage ∧ ds ≠ []) ∧ asked = []) ∨
    (c.portal.Admits .feedbackManage ∧ ds ≠ [] ∧
      ∃ user reply, asked = [⟨.reviewFeedback user ds, reply⟩]) := by
  intro ds
  have hcheck : (SectionTask.reviewFeedback ds).check = .ok () ↔ ds ≠ [] := by
    cases hds : ds <;> simp [SectionTask.check]
  cases h with
  | idle hnone =>
    cases hnone _ hcmd
  | operation hcmd' hop hleads =>
    obtain rfl := Option.some.inj (hcmd.symm.trans hcmd')
    cases hop
    rcases hs.leads_task hleads with ⟨hn, hasked, _⟩ | ⟨ha, hc, user, reply, hasked, _⟩
    · exact Or.inl ⟨fun hopen => hn ⟨hopen.1, hcheck.mpr hopen.2⟩, hasked⟩
    · exact Or.inr ⟨ha, hcheck.mp hc, user, reply, hasked⟩

theorem Does.feedback (h : c.Does line c' shown asked) (hs : c.portal.Sound)
    (hcmd : c.command? line = some .feedback) :
    (¬ c.portal.Admits .feedbackManage ∧ asked = [] ∧ c'.listing = c.listing) ∨
    (c.portal.Admits .feedbackManage ∧ ∃ user,
      (∃ e, asked = [⟨.listFeedback user, .error e⟩] ∧ c'.listing = c.listing) ∨
      (∃ es, asked = [⟨.listFeedback user, .ok es⟩] ∧ c'.listing = es ∧
        shown = [.outLine (Listing.feedback es), .out "> "])) := by
  cases h with
  | idle hnone => cases hnone _ hcmd
  | @operation cmd op asked t told hcmd' hop hleads hafter hshown =>
    obtain rfl := Option.some.inj (hcmd.symm.trans hcmd')
    cases hop
    have houtcome : ∀ {o}, t.next = .finished o → t.outcome?.getD (.ok .none) = o := by
      intro o ho
      simp [Turn.outcome?, ho]
    rcases hs.leads_task hleads with
      ⟨hn, hasked, e, hnext⟩ | ⟨ha, _, user, reply, hasked, hnext, htold⟩
    · refine Or.inl ⟨fun ha => hn ⟨ha, rfl⟩, hasked, ?_⟩
      rw [houtcome hnext] at hafter
      cases hafter
      rfl
    · refine Or.inr ⟨ha, user, ?_⟩
      rw [houtcome hnext] at hafter
      cases reply with
      | error e =>
        cases hafter
        exact Or.inl ⟨e, hasked, rfl⟩
      | ok es =>
        cases hafter
        refine Or.inr ⟨es, hasked, rfl, ?_⟩
        rw [hshown, htold es rfl]
        rfl

/-- Every other line leaves the listing as it is. -/
theorem Does.listing_eq (h : c.Does line c' shown asked) (hcmd : c.command? line ≠ some .feedback) :
    c'.listing = c.listing := by
  cases h with
  | idle _ hlisting => exact hlisting
  | @operation cmd _ _ t _ hcmd' _ _ hafter =>
    have hne : cmd ≠ .feedback := by
      rintro rfl
      exact hcmd hcmd'
    have hkept := conclude_listing hne ⟨t.portal, c.listing, .command⟩
      (t.outcome?.getD (.ok .none))
    rw [hafter] at hkept
    exact hkept

theorem command?_eq_some_iff {cmd : Command} (h : cmd ≠ .signOut) :
    c.command? line = some cmd ↔
      c.stage = .command ∧ ∃ text, line = .text text ∧ Command.ofLine? text = some cmd := by
  cases line with
  | unreadable => simp [command?]
  | text text =>
    cases hstage : c.stage with
    | closed => simp [command?, hstage]
    | confirm =>
      have hne : ¬ Command.signOut = cmd := Ne.symm h
      simp [command?, hstage, hne]
    | command =>
      simp only [command?, hstage, true_and, Line.text.injEq, exists_eq_left']
      cases hcmd : Command.ofLine? text with
      | none => simp
      | some cmd' =>
        cases cmd' with
        | signOut =>
          have hne : ¬ Command.signOut = cmd := Ne.symm h
          simp [hne]
        | _ => rfl

end Console

theorem Command.ofLine?_eq_some_iff {text : String} {cmd : Command} :
    ofLine? text = some cmd ↔ ∃ name args, Text.words text = name :: args ∧
      ofWords (Text.lowerAscii name) args = cmd := by
  unfold ofLine?
  cases Text.words text with
  | nil => simp
  | cons name args => simp

namespace Sitting

def Reviews (s : Sitting) (k : Nat) (acceptable : Bool) (words : List String) : Prop :=
  (s.console k).stage = .command ∧ ∃ text name verdict, s.line k = .text text ∧
    Text.words text = name :: verdict :: words ∧ Text.lowerAscii name = "review" ∧
    Text.lowerAscii verdict = if acceptable then "accept" else "reject"

def Lists (s : Sitting) (k : Nat) : Prop :=
  (s.console k).stage = .command ∧ ∃ text name args, s.line k = .text text ∧
    Text.words text = name :: args ∧ Text.lowerAscii name = "feedback"

/-- Whoever is signed in may open the section of the feedback. -/
def MayReview (s : Sitting) (k : Nat) : Prop := (s.console k).portal.Admits .feedbackManage

/-- Line `k` fetches this feedback. -/
def Fetches (s : Sitting) (k : Nat) (es : List FeedbackEntry) : Prop :=
  ∃ user, (⟨.listFeedback user, .ok es⟩ : Inquiry) ∈ s.asked k

/-- Line `j` is the last one before line `k` that fetches feedback, and fetches this. -/
structure LastFetch (s : Sitting) (j k : Nat) (es : List FeedbackEntry) : Prop where
  before : j < k
  fetches : s.Fetches j es
  last : ∀ m es', j < m → m < k → ¬ s.Fetches m es'

/-- The feedback fetched last before line `k`; none, as long as nothing was fetched. -/
def Reviewable (s : Sitting) (k : Nat) (es : List FeedbackEntry) : Prop :=
  (∃ j, s.LastFetch j k es) ∨ es = [] ∧ ∀ j es', j < k → ¬ s.Fetches j es'

variable {s : Sitting} {k : Nat}

theorem reviews_iff {acceptable : Bool} {words : List String} :
    s.Reviews k acceptable words ↔
      (s.console k).command? (s.line k) = some (.review acceptable words) := by
  rw [Console.command?_eq_some_iff (by simp)]
  refine and_congr_right fun _ => exists_congr fun text => ?_
  rw [Command.ofLine?_eq_some_iff]
  constructor
  · rintro ⟨name, verdict, hline, hwords, hname, hverdict⟩
    refine ⟨hline, name, verdict :: words, hwords, ?_⟩
    exact Command.ofWords_eq_review_iff.mpr
      ⟨hname, verdict, rfl, Command.verdict?_eq_some_iff.mpr hverdict⟩
  · rintro ⟨hline, name, args, hwords, hcmd⟩
    obtain ⟨hname, verdict, rfl, hverdict⟩ := Command.ofWords_eq_review_iff.mp hcmd
    exact ⟨name, verdict, hline, hwords, hname, Command.verdict?_eq_some_iff.mp hverdict⟩

theorem lists_iff : s.Lists k ↔ (s.console k).command? (s.line k) = some .feedback := by
  rw [Console.command?_eq_some_iff (by simp)]
  refine and_congr_right fun _ => exists_congr fun text => ?_
  rw [Command.ofLine?_eq_some_iff]
  constructor
  · rintro ⟨name, args, hline, hwords, hname⟩
    exact ⟨hline, name, args, hwords, Command.ofWords_eq_feedback_iff.mpr hname⟩
  · rintro ⟨hline, name, args, hwords, hcmd⟩
    exact ⟨name, args, hline, hwords, Command.ofWords_eq_feedback_iff.mp hcmd⟩

structure FetchStep (s : Sitting) (k : Nat) (es : List FeedbackEntry) : Prop where
  lists : s.Lists k
  asked : ∃ user, s.asked k = [⟨.listFeedback user, .ok es⟩]
  listing : (s.console (k + 1)).listing = es
  shown : s.shown k = [.outLine (Listing.feedback es), .out "> "]

theorem fetchStep_or_kept (s : Sitting) (k : Nat) :
    (∃ es, s.FetchStep k es) ∨
    ((∀ es, ¬ s.Fetches k es) ∧ (s.console (k + 1)).listing = (s.console k).listing) := by
  by_cases hcmd : (s.console k).command? (s.line k) = some .feedback
  · rcases (s.does k).feedback (s.sound k) hcmd with
      ⟨_, hasked, hkept⟩ | ⟨_, user, ⟨e, hasked, hkept⟩ | ⟨es, hasked, hlisting, hshown⟩⟩
    · refine Or.inr ⟨?_, hkept⟩
      rintro es ⟨user, hm⟩
      rw [hasked] at hm
      cases hm
    · refine Or.inr ⟨?_, hkept⟩
      rintro es ⟨user', hm⟩
      rw [hasked] at hm
      cases List.mem_singleton.mp hm
    · exact Or.inl ⟨es, lists_iff.mpr hcmd, ⟨user, hasked⟩, hlisting, hshown⟩
  · refine Or.inr ⟨?_, (s.does k).listing_eq hcmd⟩
    rintro es ⟨user, hm⟩
    rcases (s.does k).of_feedback (s.sound k) hm trivial with ⟨hfeedback, _⟩ | ⟨_, _, _, _, hcall⟩
    · exact hcmd hfeedback
    · cases hcall

theorem Fetches.step {es : List FeedbackEntry} (h : s.Fetches k es) : s.FetchStep k es := by
  rcases s.fetchStep_or_kept k with ⟨es', hstep⟩ | ⟨hnone, _⟩
  · obtain ⟨user, hm⟩ := h
    obtain ⟨user', hasked⟩ := hstep.asked
    rw [hasked] at hm
    cases List.mem_singleton.mp hm
    exact hstep
  · exact absurd h (hnone es)

theorem listing_of_no_fetch {i : Nat} (hik : i ≤ k)
    (h : ∀ m es, i ≤ m → m < k → ¬ s.Fetches m es) :
    (s.console k).listing = (s.console i).listing := by
  induction hik with
  | refl => rfl
  | @step k hik ih =>
    rcases s.fetchStep_or_kept k with ⟨es, hstep⟩ | ⟨_, hkept⟩
    · obtain ⟨user, hasked⟩ := hstep.asked
      have hm : s.Fetches k es := ⟨user, by rw [hasked]; exact List.mem_singleton_self _⟩
      exact absurd hm (h k es hik (Nat.lt_succ_self k))
    · exact hkept.trans (ih fun m es hi hm => h m es hi (Nat.lt_succ_of_lt hm))

theorem LastFetch.listing {j : Nat} {es : List FeedbackEntry} (h : s.LastFetch j k es) :
    (s.console k).listing = es :=
  (listing_of_no_fetch h.before fun m es' => h.last m es').trans h.fetches.step.listing

theorem listing_start (s : Sitting) : (s.console 0).listing = [] := by
  obtain ⟨t, _, hstart⟩ := s.start_asks
  rw [hstart]
  rfl

theorem reviewable_listing (s : Sitting) (k : Nat) :
    s.Reviewable k (s.console k).listing := by
  induction k with
  | zero => exact Or.inr ⟨s.listing_start, fun j _ hj => absurd hj (Nat.not_lt_zero j)⟩
  | succ k ih =>
    rcases s.fetchStep_or_kept k with ⟨es, hstep⟩ | ⟨hnone, hkept⟩
    · obtain ⟨user, hasked⟩ := hstep.asked
      refine Or.inl ⟨k, Nat.lt_succ_self k, ⟨user, ?_⟩, fun m _ hm hm' => by omega⟩
      rw [hasked, hstep.listing]
      exact List.mem_singleton_self _
    · rw [hkept]
      have hlater : ∀ {m : Nat}, m < k + 1 → m < k ∨ m = k := fun hm => by omega
      rcases ih with ⟨j, hlast⟩ | ⟨hnil, hno⟩
      · refine Or.inl ⟨j, Nat.lt_succ_of_lt hlast.before, hlast.fetches, fun m es hm hm' => ?_⟩
        rcases hlater hm' with hm' | rfl
        · exact hlast.last m es hm hm'
        · exact hnone es
      · refine Or.inr ⟨hnil, fun j es hj => ?_⟩
        rcases hlater hj with hj | rfl
        · exact hno j es hj
        · exact hnone es

theorem reviewable_iff {es : List FeedbackEntry} :
    s.Reviewable k es ↔ es = (s.console k).listing := by
  constructor
  · rintro (⟨j, hlast⟩ | ⟨rfl, hno⟩)
    · exact hlast.listing.symm
    · have hkept := listing_of_no_fetch (Nat.zero_le k) fun m es _ hm => hno m es hm
      rw [hkept, s.listing_start]
  · rintro rfl
    exact s.reviewable_listing k

theorem start_without_feedback (s : Sitting) {q : Inquiry} (hq : q ∈ s.record 0) :
    ¬ q.call.IsOfFeedback := by
  intro hf
  obtain ⟨t, hleads, _⟩ := s.start_asks
  obtain ⟨_, _, hop, _⟩ := (Portal.sound_ofItems _ _).task_of_feedback hleads hq hf
  cases hop

theorem asked_of_record (s : Sitting) {k : Nat} {q : Inquiry} (hq : q ∈ s.record k)
    (hf : q.call.IsOfFeedback) : ∃ j, j < k ∧ q ∈ s.asked j := by
  induction k with
  | zero => exact absurd hf (s.start_without_feedback hq)
  | succ k ih =>
    rw [record_succ] at hq
    rcases List.mem_append.mp hq with hq | hq
    · obtain ⟨j, hj, hm⟩ := ih hq
      exact ⟨j, Nat.lt_succ_of_lt hj, hm⟩
    · exact ⟨k, Nat.lt_succ_self k, hq⟩

/-- Line `k` is a review, and these are its verdicts. -/
structure ReviewStep (s : Sitting) (k : Nat) (ds : List FeedbackDecision) : Prop where
  decided : ds ≠ []
  review : ∃ acceptable words, s.Reviews k acceptable words ∧
    Command.Decides (s.console k).listing acceptable words ds

theorem reviewStep_of_asked {user : String} {ds : List FeedbackDecision}
    {reply : (Call.reviewFeedback user ds).Reply}
    (hq : (⟨.reviewFeedback user ds, reply⟩ : Inquiry) ∈ s.asked k) : s.ReviewStep k ds := by
  rcases (s.does k).of_feedback (s.sound k) hq trivial with
    ⟨_, _, hcall⟩ | ⟨acceptable, words, user', hcmd, hcall⟩
  · cases hcall
  · obtain ⟨-, rfl⟩ := Call.reviewFeedback.inj hcall
    rcases (s.does k).review (s.sound k) hcmd with ⟨_, hasked⟩ | ⟨_, hne, _⟩
    · rw [hasked] at hq
      cases hq
    · exact ⟨hne, acceptable, words, reviews_iff.mpr hcmd, Command.decides_iff.mpr rfl⟩

/-- What is reviewed is what was listed. Every request with verdicts is sent on a line that is a
review, and holds one verdict for each word of it that numbers an entry of the feedback fetched
last, in the order typed and at least one; and every review whose section is open sends what its
words give, in one request, and asks nothing where they give none. The feedback fetched last was
printed under these numbers when it came, and stays until other feedback has come. -/
theorem reviews_what_was_listed (s : Sitting) :
    (∀ k user ds reply, (⟨.reviewFeedback user ds, reply⟩ : Inquiry) ∈ s.record k →
      ∃ j, j < k ∧ (⟨.reviewFeedback user ds, reply⟩ : Inquiry) ∈ s.asked j) ∧
    (∀ k user ds reply, (⟨.reviewFeedback user ds, reply⟩ : Inquiry) ∈ s.asked k →
      ds ≠ [] ∧ ∃ acceptable words es, s.Reviews k acceptable words ∧ s.Reviewable k es ∧
        Command.Decides es acceptable words ds) ∧
    (∀ k acceptable words es ds, s.Reviews k acceptable words → s.Reviewable k es →
      Command.Decides es acceptable words ds →
      (s.MayReview k ∧ ds ≠ [] →
        ∃ user reply, s.asked k = [⟨.reviewFeedback user ds, reply⟩]) ∧
      (¬ (s.MayReview k ∧ ds ≠ []) → s.asked k = [])) ∧
    (∀ k es, s.Fetches k es → s.Lists k ∧ s.Reviewable (k + 1) es ∧
      ∃ text, s.shown k = [.outLine text, .out "> "] ∧ (es ≠ [] → Listing.Numbers text es)) ∧
    (∀ k, (∀ es, ¬ s.Fetches k es) → ∀ es, s.Reviewable (k + 1) es ↔ s.Reviewable k es) ∧
    (∀ k, ∃! es, s.Reviewable k es) := by
  refine ⟨?sent, ?held, ?typed, ?fetched, ?kept, ?one⟩
  case sent =>
    intro k user ds reply hq
    exact s.asked_of_record hq trivial
  case held =>
    intro k user ds reply hq
    have hstep := reviewStep_of_asked hq
    obtain ⟨acceptable, words, hreview, hdecides⟩ := hstep.review
    exact ⟨hstep.decided, acceptable, words, _, hreview, s.reviewable_listing k, hdecides⟩
  case typed =>
    intro k acceptable words es ds hreview hes hds
    obtain rfl := reviewable_iff.mp hes
    obtain rfl := Command.decides_iff.mp hds
    rcases (s.does k).review (s.sound k) (reviews_iff.mp hreview) with
      ⟨hn, hasked⟩ | ⟨ha, hne, hsent⟩
    · exact ⟨fun hopen => absurd hopen hn, fun _ => hasked⟩
    · exact ⟨fun _ => hsent, fun hn => absurd ⟨ha, hne⟩ hn⟩
  case fetched =>
    intro k es h
    have hstep := h.step
    exact ⟨hstep.lists, reviewable_iff.mpr hstep.listing.symm, _, hstep.shown,
      Listing.numbers_feedback⟩
  case kept =>
    intro k hnone es
    rw [reviewable_iff, reviewable_iff,
      listing_of_no_fetch (Nat.le_succ k) fun m es' hm hm' => ?_]
    obtain rfl : m = k := by omega
    exact hnone es'
  case one =>
    intro k
    exact ⟨_, s.reviewable_listing k, fun es h => reviewable_iff.mp h⟩

end Sitting

end InsectPortal
