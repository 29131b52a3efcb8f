import InsectPortal.Proofs.FeedbackReview

/-!
# Listings and sessions

The listing is no part of the session. A session that ends leaves it behind, and a later one works
on it until it has fetched feedback of its own; from then on whatever is reviewed in that session
was fetched in it.
-/
namespace InsectPortal

/-- The verdict is about this picture, under the label it was listed with. -/
def FeedbackDecision.Concerns (d : FeedbackDecision) (e : FeedbackEntry) : Prop :=
  d.picPath = e.picLink ∧ d.realLabel = e.realLabel

theorem Command.Decides.concerns {es : List FeedbackEntry} {acceptable : Bool}
    {words : List String} {ds : List FeedbackDecision} (h : Decides es acceptable words ds)
    {d : FeedbackDecision} (hd : d ∈ ds) : ∃ e ∈ es, d.Concerns e := by
  induction h with
  | nil => cases hd
  | @entry _ _ n e _ _ he _ ih =>
    rcases List.mem_cons.mp hd with rfl | hd
    · exact ⟨e, List.mem_of_getElem? he, rfl, rfl⟩
    · exact ih hd
  | stray _ _ ih => exact ih hd

namespace Sitting

variable {s : Sitting} {k : Nat}

theorem exists_lastFetch {ds : List FeedbackDecision} (h : s.ReviewStep k ds) :
    ∃ j es, s.LastFetch j k es ∧ ∀ d ∈ ds, ∃ e ∈ es, d.Concerns e := by
  obtain ⟨acceptable, words, _, hdecides⟩ := h.review
  rcases s.reviewable_listing k with ⟨j, hlast⟩ | ⟨hnil, _⟩
  · exact ⟨j, _, hlast, fun d hd => hdecides.concerns hd⟩
  · rw [hnil] at hdecides
    obtain ⟨d, hd⟩ := List.exists_mem_of_ne_nil _ h.decided
    obtain ⟨e, he, _⟩ := hdecides.concerns hd
    cases he

/-- Verdicts are about the feedback fetched last, in whatever session; where feedback was fetched in
the session of the request, it is feedback of that session. Nothing is sent before feedback was
fetched at all, and no end of a session keeps what was fetched before from being reviewed. -/
theorem reviews_across_sessions (s : Sitting) :
    (∀ k user ds reply, (⟨.reviewFeedback user ds, reply⟩ : Inquiry) ∈ s.asked k →
      ∃ j es, s.LastFetch j k es ∧ (∀ d ∈ ds, ∃ e ∈ es, d.Concerns e) ∧
        ∀ i es', s.Fetches i es' → i < k → s.OneSession i k →
          s.OneSession j k ∧ (s.session j).epoch = (s.session k).epoch) ∧
    (∀ k, (∀ j es, j < k → ¬ s.Fetches j es) →
      ∀ user ds reply, (⟨.reviewFeedback user ds, reply⟩ : Inquiry) ∉ s.asked k) ∧
    (∀ j k es acceptable words ds, s.LastFetch j k es → s.Reviews k acceptable words →
      Command.Decides es acceptable words ds → ds ≠ [] → s.MayReview k →
      ∃ user reply, s.asked k = [⟨.reviewFeedback user ds, reply⟩]) := by
  refine ⟨?last, ?first, ?outlives⟩
  case last =>
    intro k user ds reply hq
    obtain ⟨j, es, hlast, hconcerns⟩ := exists_lastFetch (reviewStep_of_asked hq)
    refine ⟨j, es, hlast, hconcerns, fun i es' hf hik hone => ?_⟩
    have hij : i ≤ j := by
      by_contra hlt
      exact hlast.last i es' (Nat.lt_of_not_le hlt) hik hf
    have hone' := hone.within hij (Nat.le_of_lt hlast.before) le_rfl
    exact ⟨hone', hone'.epoch_eq.symm⟩
  case first =>
    intro k hnone user ds reply hq
    obtain ⟨j, es, hlast, _⟩ := exists_lastFetch (reviewStep_of_asked hq)
    exact hnone j es hlast.before hlast.fetches
  case outlives =>
    intro j k es acceptable words ds hlast hreview hdecides hne hopen
    rw [← hlast.listing] at hdecides
    obtain rfl := Command.decides_iff.mp hdecides
    rcases (s.does k).review (s.sound k) (reviews_iff.mp hreview) with ⟨hn, _⟩ | ⟨_, _, hsent⟩
    · exact absurd ⟨hopen, hne⟩ hn
    · exact hsent

/-- One administrator lists the feedback and signs out; another one signs in and accepts the first
entry. -/
def handover : Sitting where
  items := .empty
  remoteSignOut := false
  service
    | _, _, .signIn _ => .ok ⟨"token"⟩
    | _, _, .checkRole _ => .ok "User Administrator"
    | _, _, .listFeedback _ => .ok [⟨"", "ant@example.com", "p/0.png", "moth", 2, "", false⟩]
    | _, _, .reviewFeedback .. => .ok ()
    | _, _, c => .error (.network "transport" c.name)
  line
    | 0 => .text "sign-in bee@example.com abcdef12"
    | 1 => .text "feedback"
    | 2 => .text "sign-out"
    | 3 => .text "y"
    | 4 => .text "sign-in ant@example.com abcdef12"
    | 5 => .text "review accept 0"
    | _ => .unreadable

theorem review_of_earlier_listing :
    (∃ user ds reply, (⟨.reviewFeedback user ds, reply⟩ : Inquiry) ∈ handover.asked 5 ∧ ds ≠ []) ∧
    ∀ j es, handover.Fetches j es → ¬ handover.OneSession j 5 := by
  have hcalls : (handover.asked 5).map (·.call) =
      [.reviewFeedback "ant@example.com" [⟨"p/0.png", "moth", true⟩]] := by decide +kernel
  have hgap : ¬ handover.Live 4 := by
    unfold Live
    decide +kernel
  constructor
  · obtain ⟨⟨call, reply⟩, hasked, rfl⟩ := List.map_eq_singleton_iff.mp hcalls
    rw [hasked]
    exact ⟨_, _, reply, List.mem_singleton_self _, List.cons_ne_nil _ _⟩
  · intro j es hf hone
    obtain hj | rfl : j ≤ 4 ∨ j = 5 := by
      have := hone.le
      omega
    · exact hgap (hone.live 4 hj (by decide))
    · obtain ⟨user, hasked⟩ := hf.step.asked
      rw [hasked] at hcalls
      simp at hcalls

end Sitting

end InsectPortal
