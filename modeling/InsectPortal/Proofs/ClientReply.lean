import InsectPortal.Http.Client
import InsectPortal.Proofs.Run

/-!
# What the client replies

The reply to a call is made of how the sending of its request ends, or of nothing where no request
can be made or sent. It rejects the token in one case only: the request was answered, with status
401, and the call is no sign-in. A grant that comes back can be sent as a token from then on.
-/
namespace InsectPortal

/-- The outcome is a failure that rejects the token. -/
def RejectsToken {α : Type} (r : Except Failure α) : Prop :=
  ∃ e, r = .error e ∧ e.isAuthorization = true

section

variable {α β : Type}

@[simp] theorem rejectsToken_ok (a : α) : ¬ RejectsToken (.ok a : Except Failure α) := by
  rintro ⟨e, he, _⟩
  cases he

@[simp] theorem rejectsToken_error {e : Failure} :
    RejectsToken (.error e : Except Failure α) ↔ e.isAuthorization = true := by
  constructor
  · rintro ⟨e', he, ha⟩
    cases he
    exact ha
  · intro ha
    exact ⟨e, rfl, ha⟩

theorem rejectsToken_bind {r : Except Failure α} {f : α → Except Failure β}
    (hf : ∀ a, r = .ok a → ¬ RejectsToken (f a)) : RejectsToken (r >>= f) ↔ RejectsToken r := by
  cases r with
  | error e =>
    change RejectsToken (.error e : Except Failure β) ↔ _
    rw [rejectsToken_error, rejectsToken_error]
  | ok a =>
    change RejectsToken (f a) ↔ _
    simp [hf a rfl]

end

theorem Failure.isAuthorization_ofStatus {status : Nat} {context : String} :
    (ofStatus status context).isAuthorization = true ↔ status = 401 := by
  unfold ofStatus
  split
  · next h => simp [h, isAuthorization, authorization]
  · next h =>
    split <;> simp [h, isAuthorization, validation, network]

namespace Response

variable (r : Response)

theorem rejectsToken_success (name : String) : RejectsToken (r.success name) ↔ r.status = 401 := by
  unfold success
  cases hs : r.isSuccess with
  | true =>
    have hne : r.status ≠ 401 := by
      intro h
      simp [isSuccess, h] at hs
    simp [hne]
  | false => simp [Failure.isAuthorization_ofStatus]

theorem not_rejectsToken_value {α : Type} (read : Json → Option α) :
    ¬ RejectsToken (r.value read) := by
  unfold value
  split
  · split <;> simp [Failure.undecodable, Failure.isAuthorization, Failure.internal]
  · simp [Failure.undecodable, Failure.isAuthorization, Failure.internal]

theorem not_rejectsToken_text : ¬ RejectsToken r.text := by
  unfold text
  split <;> simp [Failure.undecodable, Failure.isAuthorization, Failure.internal]

theorem not_rejectsToken_checkGrant (g : SignInGrant) : ¬ RejectsToken (checkGrant g) := by
  unfold checkGrant
  split
  · simp [Failure.isAuthorization, Failure.internal]
  · split <;> simp [Failure.isAuthorization, Failure.internal]

/-- A response never makes a sign-in fail as if a token had been rejected. -/
theorem not_rejectsToken_grant : ¬ RejectsToken r.grant := by
  unfold grant
  split
  · next h =>
    have hne : r.status ≠ 401 := by
      intro h'
      simp [isServerError, h'] at h
    rw [rejectsToken_error, Failure.isAuthorization_ofStatus]
    exact hne
  · split
    · split
      · exact not_rejectsToken_checkGrant _
      · simp [Failure.isAuthorization, Failure.internal]
    · simp [Failure.isAuthorization, Failure.authentication]

theorem isValue_of_checkGrant {g g' : SignInGrant} (h : checkGrant g = .ok g') :
    Header.isValue g'.token = true := by
  unfold checkGrant at h
  split at h
  · cases h
  · split at h
    · next hv =>
      rw [← Except.ok.inj h]
      exact hv
    · cases h

theorem isValue_of_grant {r : Response} {g : SignInGrant} (h : r.grant = .ok g) :
    Header.isValue g.token = true := by
  unfold grant at h
  split at h
  · cases h
  · split at h
    · split at h
      · exact isValue_of_checkGrant h
      · cases h
    · cases h

/-- The body says nothing about the token: it is rejected by the status alone. -/
theorem rejectsToken_reply (c : Call) :
    RejectsToken (r.reply c) ↔ r.status = 401 ∧ ∀ form, c ≠ .signIn form := by
  cases c with
  | signIn form => simp [reply, r.not_rejectsToken_grant]
  | signUp | signOut | toggleUsers | addAdmin | reviewFeedback | submitFeedback | submitLabel =>
    simp [reply, rejectsToken_success]
  | userInfo | listUsers | listFeedback | labelTasks =>
    simp [reply, rejectsToken_bind, rejectsToken_success, not_rejectsToken_value]
  | checkRole =>
    simp [reply, rejectsToken_bind, rejectsToken_success, not_rejectsToken_text]
  | authenticateSsh =>
    have hplain : ¬ RejectsToken (do return Json.plain (← r.text) : Except Failure String) := by
      intro h
      exact r.not_rejectsToken_text ((rejectsToken_bind fun _ _ => rejectsToken_ok _).mp h)
    simp only [reply]
    rw [rejectsToken_bind fun _ _ => hplain, rejectsToken_success]
    simp

theorem reply_of_not_success {r : Response} (h : r.isSuccess = false) (c : Call) :
    ∃ e, r.reply c = .error e := by
  have hs : ∀ name, r.success name = .error (.ofStatus r.status name) := by
    intro name
    simp [success, h]
  cases c with
  | signIn form =>
    unfold reply grant
    rw [h]
    split
    · exact ⟨_, rfl⟩
    · exact ⟨_, rfl⟩
  | signUp | signOut | toggleUsers | addAdmin | reviewFeedback | submitFeedback | submitLabel =>
    exact ⟨_, hs _⟩
  | userInfo | listUsers | listFeedback | labelTasks | checkRole | authenticateSsh =>
    simp only [reply, hs]
    exact ⟨_, rfl⟩

end Response

theorem error_of_map {α β : Type} {r : Except Failure α} {f : α → β} {e : Failure}
    (h : r.map f = .error e) : r = .error e := by
  cases r with
  | error e' => exact congrArg Except.error (Except.error.inj h)
  | ok a => cases h

theorem Authorizer.kind_of_field {a : Authorizer} {token : String} {e : Failure}
    (h : a.field token = .error e) : e.kind = .validation := by
  unfold field at h
  split at h
  · cases h
  · rw [← Except.error.inj h]
    rfl

theorem Request.kind_of_ofCall {base : Url} {a : Authorizer} {items : Items} {c : Call}
    {e : Failure} (h : ofCall base a items c = .error e) : e.kind = .validation := by
  have hc := error_of_map h
  unfold carry at hc
  split at hc
  · cases hc
  · have hs := error_of_map hc
    unfold Authorizer.stored at hs
    split at hs
    · cases hs
    · exact Authorizer.kind_of_field (error_of_map hs)
  · exact Authorizer.kind_of_field (error_of_map hc)

namespace Client

variable (cl : Client) (items : Items) (c : Call) (x : Exchange)

/-- The reply to a call that is made while these items are stored, if the sending of its request ends
like this. -/
def replyOver : c.Reply := Id.run (cl.call (fun _ => pure x) items c)

/-- A request is made of the call, and it can be sent. -/
def Reaches : Prop :=
  ∃ q, Request.ofCall cl.base cl.authorizer items c = .ok q ∧ q.isSendable = true

/-- The request of the call is sent, and answered with this status. -/
def AnsweredWith (status : Nat) : Prop :=
  cl.Reaches items c ∧ ∃ resp, x = .answered resp ∧ resp.status = status

variable {cl items c x}

theorem replyOver_of_unmade {e : Failure}
    (h : Request.ofCall cl.base cl.authorizer items c = .error e) :
    cl.replyOver items c x = .error e := by
  simp [replyOver, call, h]

theorem replyOver_of_unsendable {q : Request}
    (h : Request.ofCall cl.base cl.authorizer items c = .ok q) (hq : q.isSendable = false) :
    cl.replyOver items c x = .error (unsendable c q) := by
  simp [replyOver, call, h, hq]

theorem replyOver_of_sent {q : Request}
    (h : Request.ofCall cl.base cl.authorizer items c = .ok q) (hq : q.isSendable = true) :
    cl.replyOver items c x = replyTo c q x := by
  simp [replyOver, call, h, hq]

theorem replyOver_of_not_reaches (h : ¬ cl.Reaches items c) :
    ∃ e, cl.replyOver items c x = .error e ∧ e.isAuthorization = false := by
  cases hq : Request.ofCall cl.base cl.authorizer items c with
  | error e =>
    exact ⟨e, replyOver_of_unmade hq, by simp [Failure.isAuthorization, Request.kind_of_ofCall hq]⟩
  | ok q =>
    have hs : q.isSendable = false := Bool.eq_false_iff.mpr fun hs => h ⟨q, hq, hs⟩
    exact ⟨_, replyOver_of_unsendable hq hs, rfl⟩

/-- The reply rejects the token exactly where the response has status 401. -/
theorem rejectsToken_replyOver :
    RejectsToken (cl.replyOver items c x) ↔
      cl.AnsweredWith items c x 401 ∧ ∀ form, c ≠ .signIn form := by
  by_cases hr : cl.Reaches items c
  · obtain ⟨q, hq, hs⟩ := id hr
    rw [replyOver_of_sent hq hs]
    cases x with
    | lost => simp [replyTo, unanswered, AnsweredWith, Failure.isAuthorization, Failure.network]
    | answered resp => simp [replyTo, resp.rejectsToken_reply, AnsweredWith, hr]
  · obtain ⟨e, he, ha⟩ := replyOver_of_not_reaches (x := x) hr
    rw [he, rejectsToken_error, ha]
    simp [AnsweredWith, hr]

theorem replyOver_fails (h : cl.Reaches items c → ∀ resp, x = .answered resp →
    resp.isSuccess = false) : ∃ e, cl.replyOver items c x = .error e := by
  by_cases hr : cl.Reaches items c
  · obtain ⟨q, hq, hs⟩ := id hr
    rw [replyOver_of_sent hq hs]
    cases x with
    | lost => exact ⟨_, rfl⟩
    | answered resp => exact Response.reply_of_not_success (h hr resp rfl) c
  · obtain ⟨e, he, _⟩ := replyOver_of_not_reaches (x := x) hr
    exact ⟨e, he⟩

theorem isValue_of_replyOver {form : SignInForm} {g : SignInGrant}
    (h : cl.replyOver items (.signIn form) x = .ok g) : Header.isValue g.token = true := by
  by_cases hr : cl.Reaches items (.signIn form)
  · obtain ⟨q, hq, hs⟩ := hr
    rw [replyOver_of_sent hq hs] at h
    cases x with
    | lost => cases h
    | answered resp => exact Response.isValue_of_grant h
  · obtain ⟨e, he, _⟩ := replyOver_of_not_reaches (x := x) hr
    rw [he] at h
    cases h

end Client

namespace Run

/-- The call that operation `n` made at event `i` is answered by event `k`, after the sending of its
request ended like this. The token it was sent with is the one that was stored when it was made. -/
def AnsweredOver (r : Run) (cl : Client) (n : Nat) (c : Call) (i k : Nat) (x : Exchange) : Prop :=
  r.Answered n c i k (cl.replyOver (r.session (i + 1)).keyring.items c x)

/-- Every answer is a reply of the client. -/
def OverHttp (r : Run) (cl : Client) : Prop :=
  ∀ n c i k reply, r.Answered n c i k reply →
    ∃ x, reply = cl.replyOver (r.session (i + 1)).keyring.items c x

end Run

end InsectPortal
