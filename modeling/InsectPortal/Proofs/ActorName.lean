import Mathlib.Data.List.TakeWhile
import InsectPortal.Http.Request
import InsectPortal.Proofs.Admission
import InsectPortal.Proofs.Bytes
import InsectPortal.Proofs.JsonValue

/-!
# The user a request acts for

A request names the user it acts for at the end of its path, in the last field of its query or in a
member of its body. The name is read back there as it is on record, whatever text it is; only at the
end of a path it has to be the name of a segment.
-/
namespace InsectPortal

inductive ActorPlace where
  /-- The last segment of the path. -/
  | segment
  /-- The last field of the query. -/
  | field (key : String)
  /-- A member of the body. -/
  | member (key : String)

/-- Where the service looks for the user a call is made for. -/
def Call.actorPlace? : Call → Option ActorPlace
  | .signIn _ | .signUp _ => none
  | .checkRole _ | .userInfo _ | .signOut .. | .authenticateSsh _ => some .segment
  | .listUsers _ => some (.field "useremail")
  | .listFeedback _ | .labelTasks _ => some (.field "email")
  | .toggleUsers .. | .addAdmin .. => some (.member "admin_email")
  | .reviewFeedback .. | .submitFeedback .. | .submitLabel .. => some (.member "useremail")

/-- A text that can be the name of a segment: no step in the tree, and without tabs and line ends. -/
structure Url.IsSegment (s : String) : Prop where
  noStep : isDots s = false
  whole : ∀ c ∈ s.toList, isSkipped c = false

namespace Url

def written (s : String) : String := String.ofList (encode isSegmentChar s.toList)

theorem decode?_written (s : String) : decode? (written s).toList = some s := by
  rw [written, String.toList_ofList, decode?_encode (by decide), String.ofList_toList]

theorem enter_of_isSegment {s : String} (h : IsSegment s) (path : List String) :
    enter path s = putSegment path (written s) := by
  have hwritten : s.toList.filter (!isSkipped ·) = s.toList := by
    rw [List.filter_eq_self]
    intro c hc
    rw [h.whole c hc]
    rfl
  have hstep : ∀ t : String, isDots t = true → s.toList ≠ t.toList := by
    intro t ht hs
    rw [String.toList_inj.mp hs] at h
    exact Bool.false_ne_true (h.noStep.symm.trans ht)
  have hup : s.toList ≠ ['.', '.'] := hstep ".." rfl
  have hhere : s.toList ≠ ['.'] := hstep "." rfl
  unfold enter
  rw [h.noStep, if_neg Bool.false_ne_true, hwritten]
  dsimp only
  rw [if_neg hup, if_neg hhere, written]

theorem getLast?_putSegment (path : List String) (s : String) :
    (putSegment path s).getLast? = some s := by
  unfold putSegment
  split
  · rfl
  · exact List.getLast?_concat

end Url

namespace Request

def lastField (query : List Char) : List Char := (query.reverse.takeWhile (· ≠ '&')).reverse

def fieldValue? (key : String) (field : List Char) : Option String :=
  if Url.decodeForm? (field.takeWhile (· ≠ '=')) = some key then
    Url.decodeForm? ((field.dropWhile (· ≠ '=')).drop 1)
  else none

def memberText? (key : String) : Json → Option String
  | .object members => (members.find? (·.1 = some key)).bind (·.2.str?)
  | _ => none

/-- The user that a request names at a place. -/
def actorAt? (q : Request) : ActorPlace → Option String
  | .segment => q.url.path.getLast?.bind fun s => Url.decode? s.toList
  | .field key => q.url.query.bind fun query => fieldValue? key (lastField query.toList)
  | .member key => (q.body.bind Json.parse?).bind (memberText? key)

theorem ofCall_eq_ok {base : Url} {a : Authorizer} {items : Items} {c : Call} {q : Request}
    (h : ofCall base a items c = .ok q) : ∃ headers,
      carry a items (ofEndpoint base c.endpoint).headers c.tokenUse = .ok headers ∧
      q = { ofEndpoint base c.endpoint with
        headers := Header.addMissing headers ⟨"accept", "*/*", false⟩ } := by
  obtain ⟨headers, hcarry, rfl⟩ := map_eq_ok.mp h
  exact ⟨headers, hcarry, rfl⟩

theorem splitUser_url (u : Url) : (splitUser u).2.path = u.path ∧ (splitUser u).2.query = u.query := by
  unfold splitUser
  split
  · exact ⟨rfl, rfl⟩
  · dsimp only
    split <;> split <;> exact ⟨rfl, rfl⟩

theorem ofEndpoint_url (base : Url) (e : Endpoint) :
    (ofEndpoint base e).url = (splitUser (e.url base)).2 := by
  unfold ofEndpoint
  split
  split <;> simp_all

theorem ofEndpoint_body (base : Url) (e : Endpoint) :
    (ofEndpoint base e).body = e.payload.map Json.compact := by
  unfold ofEndpoint
  dsimp only
  split <;> simp_all

variable {base : Url} {a : Authorizer} {items : Items} {c : Call} {q : Request}

theorem ofCall_path (h : ofCall base a items c = .ok q) :
    q.url.path = (c.endpoint.url base).path := by
  obtain ⟨_, _, rfl⟩ := ofCall_eq_ok h
  change (ofEndpoint base c.endpoint).url.path = _
  rw [ofEndpoint_url]
  exact (splitUser_url _).1

theorem ofCall_query (h : ofCall base a items c = .ok q) :
    q.url.query = (c.endpoint.url base).query := by
  obtain ⟨_, _, rfl⟩ := ofCall_eq_ok h
  change (ofEndpoint base c.endpoint).url.query = _
  rw [ofEndpoint_url]
  exact (splitUser_url _).2

theorem ofCall_body (h : ofCall base a items c = .ok q) :
    q.body = c.endpoint.payload.map Json.compact := by
  obtain ⟨_, _, rfl⟩ := ofCall_eq_ok h
  exact ofEndpoint_body base c.endpoint

theorem actorAt?_segment {user : String} (segments : List String) (hs : Url.IsSegment user)
    (h : q.url.path = (base.below (segments ++ [user])).path) : q.actorAt? .segment = some user := by
  rw [actorAt?, h, Url.below, List.foldl_append, List.foldl_cons, List.foldl_nil,
    Url.enter_of_isSegment hs, Url.getLast?_putSegment, Option.bind_some, Url.decode?_written]

theorem takeWhile_of_not_mem {s : List Char} {d : Char} (h : d ∉ s) (rest : List Char) :
    (s ++ d :: rest).takeWhile (· ≠ d) = s ∧ (s ++ d :: rest).dropWhile (· ≠ d) = d :: rest := by
  have hs : ∀ c ∈ s, decide (c ≠ d) = true := by
    intro c hc
    exact decide_eq_true fun he => h (he ▸ hc)
  constructor
  · rw [List.takeWhile_append_of_pos hs]
    simp
  · rw [List.dropWhile_append_of_pos hs]
    simp

theorem takeWhile_of_not_mem_end {s : List Char} {d : Char} (h : d ∉ s) :
    s.takeWhile (· ≠ d) = s := by
  rw [List.takeWhile_eq_self_iff]
  intro c hc
  exact decide_eq_true fun he => h (he ▸ hc)

theorem lastField_append {field : List Char} (h : '&' ∉ field) (before : List Char) :
    lastField (before ++ '&' :: field) = field := by
  have hr : '&' ∉ field.reverse := fun hm => h (List.mem_reverse.mp hm)
  have hsplit : (before ++ '&' :: field).reverse = field.reverse ++ '&' :: before.reverse := by
    simp
  rw [lastField, hsplit, (takeWhile_of_not_mem hr _).1, List.reverse_reverse]

theorem lastField_self {field : List Char} (h : '&' ∉ field) : lastField field = field := by
  have hr : '&' ∉ field.reverse := fun hm => h (List.mem_reverse.mp hm)
  rw [lastField, takeWhile_of_not_mem_end hr, List.reverse_reverse]

theorem not_mem_formPair (key value : String) : '&' ∉ (Url.formPair key value).toList := by
  have hkey := Url.not_mem_encodeForm (d := '&') (by decide) (by decide) (by decide) key
  have hvalue := Url.not_mem_encodeForm (d := '&') (by decide) (by decide) (by decide) value
  simp [Url.formPair, hkey, hvalue]

theorem fieldValue?_formPair (key value : String) :
    fieldValue? key (Url.formPair key value).toList = some value := by
  have hkey := Url.not_mem_encodeForm (d := '=') (by decide) (by decide) (by decide) key
  have hpair : (Url.formPair key value).toList =
      (Url.encodeForm key).toList ++ '=' :: (Url.encodeForm value).toList := by
    simp [Url.formPair]
  obtain ⟨htake, hdrop⟩ := takeWhile_of_not_mem hkey (Url.encodeForm value).toList
  rw [fieldValue?, hpair, htake, hdrop, if_pos (Url.decodeForm?_encodeForm key)]
  exact Url.decodeForm?_encodeForm value

theorem actorAt?_field {u : Url} {key user : String}
    (h : q.url.query = (u.withField key user).query) : q.actorAt? (.field key) = some user := by
  have hfree := not_mem_formPair key user
  have hlast : ∀ query, (u.withField key user).query = some query →
      lastField query.toList = (Url.formPair key user).toList := by
    intro query hq
    unfold Url.withField at hq
    dsimp only at hq
    split at hq
    · next before _ =>
      split at hq
      · rw [← Option.some.inj hq]
        exact lastField_self hfree
      · rw [← Option.some.inj hq, String.toList_append, String.toList_append]
        have happend := lastField_append hfree before.toList
        simpa using happend
    · rw [← Option.some.inj hq]
      exact lastField_self hfree
  have hsome : ∃ query, (u.withField key user).query = some query := by
    unfold Url.withField
    dsimp only
    split <;> exact ⟨_, rfl⟩
  obtain ⟨query, hq⟩ := hsome
  rw [actorAt?, h, hq, Option.bind_some, hlast query hq]
  exact fieldValue?_formPair key user

theorem actorAt?_member {key user : String} {members : List (String × Json)}
    (hbody : q.body = some (Json.record members).compact) (htexts : ∀ m ∈ members, m.2.HasTexts)
    (huser : memberText? key (.record members) = some user) :
    q.actorAt? (.member key) = some user := by
  have hparse := Json.parse?_compact (Json.hasTexts_record htexts)
  rw [actorAt?, hbody, Option.bind_some, hparse, Option.bind_some, huser]

/-- The request for a call names the user the call is made for. -/
theorem actor_named {user : String} {place : ActorPlace} (h : ofCall base a items c = .ok q)
    (hu : c.actor? = some user) (hp : c.actorPlace? = some place)
    (hs : place = .segment → Url.IsSegment user) : q.actorAt? place = some user := by
  have hpath := ofCall_path h
  have hquery := ofCall_query h
  have hbody := ofCall_body h
  cases c with
  | signIn | signUp => cases hp
  | checkRole u =>
    cases hu
    cases hp
    exact actorAt?_segment ["user", "check_role"] (hs rfl) hpath
  | userInfo u =>
    cases hu
    cases hp
    exact actorAt?_segment ["user", "info"] (hs rfl) hpath
  | signOut u token =>
    cases hu
    cases hp
    exact actorAt?_segment ["sign_out"] (hs rfl) hpath
  | authenticateSsh u =>
    cases hu
    cases hp
    exact actorAt?_segment ["admin", "authenticate_ssh"] (hs rfl) hpath
  | listUsers u | listFeedback u | labelTasks u =>
    cases hu
    cases hp
    exact actorAt?_field hquery
  | toggleUsers u emails =>
    cases hu
    cases hp
    exact actorAt?_member hbody (by simp [Json.embedded]) rfl
  | addAdmin u form =>
    cases hu
    cases hp
    exact actorAt?_member hbody (by simp) rfl
  | reviewFeedback u decisions =>
    cases hu
    cases hp
    exact actorAt?_member hbody (by simp [Json.embedded]) rfl
  | submitFeedback u files =>
    cases hu
    cases hp
    exact actorAt?_member hbody (by simp [Json.embedded]) rfl
  | submitLabel u image label =>
    cases hu
    cases hp
    exact actorAt?_member hbody (by simp) rfl

end Request

end InsectPortal
