import InsectPortal.Http.Client
import InsectPortal.Proofs.ActorName

/-!
# The token field of a request

What stands in the token field: the stored token alone, the given token alone, or nothing. The last
two hold where the client sends nothing else in that field.
-/
namespace InsectPortal

namespace Header

theorem values_append (headers : List Header) (h : Header) :
    values (append headers h) h.name = values headers h.name ++ [h] := by
  simp [values, append]

theorem values_replace (headers : List Header) (h : Header) :
    values (replace headers h) h.name = [h] := by
  simp [values, replace, List.filter_filter]

theorem values_addMissing_of_present {headers : List Header} {name : String}
    (hv : values headers name ≠ []) (h : Header) :
    values (addMissing headers h) name = values headers name := by
  unfold addMissing
  split
  · rfl
  · next habsent =>
    have hne : h.name ≠ name := by
      intro he
      obtain ⟨h', hm⟩ := List.exists_mem_of_ne_nil _ hv
      obtain ⟨hin, hname⟩ := List.mem_filter.mp hm
      apply habsent
      rw [List.any_eq_true]
      exact ⟨h', hin, beq_iff_eq.mpr ((of_decide_eq_true hname).trans he.symm)⟩
    simp [values, hne]

theorem values_addMissing_of_ne {h : Header} {name : String} (hne : h.name ≠ name)
    (headers : List Header) : values (addMissing headers h) name = values headers name := by
  unfold addMissing
  split
  · rfl
  · simp [values, hne]

end Header

namespace Authorizer

variable {a : Authorizer} {token : String} {headers headers' : List Header}

theorem field_eq_ok {h : Header} (hf : a.field token = .ok h) : h = ⟨a.header, token, true⟩ := by
  unfold field at hf
  split at hf
  · exact (Except.ok.inj hf).symm
  · cases hf

theorem exists_field : (∃ h, a.field token = .ok h) ↔ Header.isValue token = true := by
  unfold field
  cases Header.isValue token <;> simp

theorem authorize_eq_ok {items : Items} (ht : items.credential.token = some token)
    (h : a.authorize items headers = .ok headers') :
    headers' = Header.replace headers ⟨a.header, token, true⟩ := by
  obtain ⟨stored, hstored, rfl⟩ := map_eq_ok.mp h
  rw [Authorizer.stored, ht] at hstored
  obtain ⟨f, hf, rfl⟩ := map_eq_ok.mp hstored
  rw [field_eq_ok hf]

theorem authorizeWith_eq_ok (h : a.authorizeWith token headers = .ok headers') :
    headers' = Header.append headers ⟨a.header, token, true⟩ := by
  obtain ⟨f, hf, rfl⟩ := map_eq_ok.mp h
  rw [field_eq_ok hf]

end Authorizer

namespace Call

theorem tokenUse_eq_stored_iff {c : Call} : c.tokenUse = .stored ↔ c.IsOfSession := by
  cases c <;> simp [tokenUse, IsOfSession]

theorem exists_actorPlace {c : Call} {user : String} (h : c.actor? = some user) :
    ∃ place, c.actorPlace? = some place := by
  cases c with
  | signIn | signUp => cases h
  | _ => exact ⟨_, rfl⟩

end Call

/-- The token that a call carries while these items are stored. -/
def Call.token? (c : Call) (items : Items) : Option String :=
  match c.tokenUse with
  | .none => none
  | .stored => items.credential.token
  | .given token => some token

/-- The base address has no user that would be sent in the token field. -/
def Client.NoUserField (cl : Client) : Prop :=
  ∀ h, (Request.splitUser cl.base).1 = some h → h.name ≠ cl.authorizer.header

/-- The client sends nothing of its own in the token field. -/
structure Client.Reserved (cl : Client) : Prop where
  noUser : cl.NoUserField
  noType : Request.contentType ≠ cl.authorizer.header
  noAccept : "accept" ≠ cl.authorizer.header

namespace Request

theorem splitUser_field {u v : Url} (hn : u.username = v.username) (hp : u.password = v.password) :
    (splitUser u).1 = (splitUser v).1 := by
  unfold splitUser
  rw [hn, hp]
  split
  · rfl
  · dsimp only
    split <;> split <;> rfl

theorem splitUser_endpoint (base : Url) (e : Endpoint) :
    (splitUser (e.url base)).1 = (splitUser base).1 := by
  unfold Endpoint.url
  split <;> exact splitUser_field rfl rfl

theorem ofEndpoint_headers (base : Url) (e : Endpoint) :
    (ofEndpoint base e).headers = match e.payload with
      | some _ => Header.addMissing (splitUser base).1.toList ⟨contentType, "application/json", false⟩
      | none => (splitUser base).1.toList := by
  rw [← splitUser_endpoint base e]
  unfold ofEndpoint
  dsimp only
  cases e.payload <;> rfl

variable {cl : Client} {items : Items} {c : Call} {q : Request} {token : String}

theorem values_user (h : cl.NoUserField) :
    Header.values (splitUser cl.base).1.toList cl.authorizer.header = [] := by
  unfold Header.values
  rw [List.filter_eq_nil_iff]
  intro f hf hname
  exact h f (Option.mem_toList.mp hf) (of_decide_eq_true hname)

theorem exists_map {α β : Type} {x : Except Failure α} {f : α → β} :
    (∃ b, x.map f = .ok b) ↔ ∃ a, x = .ok a := by
  cases x <;> simp [Except.map]

/-- A request is made of every call whose token can be sent. -/
theorem exists_ofCall {base : Url} {a : Authorizer} {items : Items} {c : Call} :
    (∃ q, ofCall base a items c = .ok q) ↔
      ∀ token, c.token? items = some token → Header.isValue token = true := by
  unfold ofCall
  dsimp only
  rw [exists_map]
  unfold Call.token?
  cases c.tokenUse with
  | none => simp [carry]
  | stored =>
    unfold carry Authorizer.authorize
    dsimp only
    rw [exists_map]
    unfold Authorizer.stored
    cases items.credential.token with
    | none => simp
    | some token =>
      dsimp only
      rw [exists_map, Authorizer.exists_field]
      simp
  | given token =>
    unfold carry Authorizer.authorizeWith
    dsimp only
    rw [exists_map, Authorizer.exists_field]
    simp

theorem ofCall_headers (h : ofCall cl.base cl.authorizer items c = .ok q) : ∃ headers,
    carry cl.authorizer items (ofEndpoint cl.base c.endpoint).headers c.tokenUse = .ok headers ∧
    q.headers = Header.addMissing headers ⟨"accept", "*/*", false⟩ := by
  obtain ⟨headers, hcarry, rfl⟩ := ofCall_eq_ok h
  exact ⟨headers, hcarry, rfl⟩

theorem values_stored (h : ofCall cl.base cl.authorizer items c = .ok q) (hc : c.IsOfSession)
    (ht : items.credential.token = some token) :
    Header.values q.headers cl.authorizer.header = [⟨cl.authorizer.header, token, true⟩] := by
  obtain ⟨headers, hcarry, heq⟩ := ofCall_headers h
  rw [Call.tokenUse_eq_stored_iff.mpr hc] at hcarry
  have hv : Header.values headers cl.authorizer.header = [⟨cl.authorizer.header, token, true⟩] := by
    rw [Authorizer.authorize_eq_ok ht hcarry]
    exact Header.values_replace _ _
  rw [heq, Header.values_addMissing_of_present (by simp [hv]), hv]

theorem values_none (hr : cl.Reserved) (h : ofCall cl.base cl.authorizer items c = .ok q)
    (hc : c.tokenUse = .none) : Header.values q.headers cl.authorizer.header = [] := by
  obtain ⟨headers, hcarry, heq⟩ := ofCall_headers h
  rw [hc] at hcarry
  obtain rfl := Except.ok.inj hcarry
  rw [heq, Header.values_addMissing_of_ne hr.noAccept, ofEndpoint_headers]
  split
  · rw [Header.values_addMissing_of_ne hr.noType, values_user hr.noUser]
  · exact values_user hr.noUser

theorem values_signOut {user : String} (hn : cl.NoUserField)
    (h : ofCall cl.base cl.authorizer items (.signOut user token) = .ok q) :
    Header.values q.headers cl.authorizer.header = [⟨cl.authorizer.header, token, true⟩] := by
  obtain ⟨headers, hcarry, heq⟩ := ofCall_headers h
  have hbase : Header.values (ofEndpoint cl.base (Call.signOut user token).endpoint).headers
      cl.authorizer.header = [] := by
    rw [ofEndpoint_headers]
    exact values_user hn
  have hv : Header.values headers cl.authorizer.header = [⟨cl.authorizer.header, token, true⟩] := by
    rw [Authorizer.authorizeWith_eq_ok hcarry]
    exact (Header.values_append _ _).trans (congrArg (· ++ _) hbase)
  rw [heq, Header.values_addMissing_of_present (by simp [hv]), hv]

end Request

end InsectPortal
