import InsectPortal.Proofs.HostName
import InsectPortal.Proofs.PathReading
import InsectPortal.Proofs.RoleName

/-!
# Canonical addresses

The base address is in canonical form: it is made of parts that are read as they are written, so
that its own text stands for it. Of the host this can be said only if it is ASCII; whether another
name is read back is a matter of how long it is once it is written in ASCII.
-/
namespace InsectPortal

open Unicode (isAscii)

namespace Url

/-- May stand anywhere before a query. -/
def isAddressChar (c : Char) : Bool := isGraphic c && !isPathEnd c

theorem isAscii_of_isGraphic {c : Char} (h : isGraphic c = true) : isAscii c = true := by
  rw [isGraphic, Bool.and_eq_true, decide_eq_true_eq, decide_eq_true_eq] at h
  exact decide_eq_true (by omega)

theorem isAddressChar_of_isAuthorityChar {c : Char} (h : isAuthorityChar c = true) :
    isAddressChar c = true := by
  rw [isAuthorityChar, isAuthorityEnd, Bool.not_or, Bool.and_eq_true, Bool.and_eq_true] at h
  rw [isAddressChar, h.1, h.2.2]
  rfl

theorem isAddressChar_of_isPathChar {c : Char} (h : isPathChar c = true) :
    isAddressChar c = true := by
  have hgraphic : isGraphic c = true := (Bool.and_eq_true_iff.mp h).1
  rw [isAddressChar, hgraphic, not_pathEnd_of_pathChar h]
  rfl

theorem isAuthorityChar_of_isUserChar {c : Char} (h : isUserChar c = true) :
    isAuthorityChar c = true := by
  have hpath : isPathChar c = true := (Bool.and_eq_true_iff.mp h).1
  have hgraphic : isGraphic c = true := (Bool.and_eq_true_iff.mp hpath).1
  exact forall_isAscii (p := fun c => isUserChar c = true → isAuthorityChar c = true) (by decide)
    (isAscii_of_isGraphic hgraphic) h

theorem isAuthorityChar_of_isDigit {c : Char} (h : c.isDigit = true) : isAuthorityChar c = true :=
  forall_isAscii (p := fun c => c.isDigit = true → isAuthorityChar c = true) (by decide)
    (isAscii_of_isDigit h) h

/-- The parts of an address are as they are read. -/
structure Spelled (u : Url) : Prop where
  username : ∀ c ∈ u.username.toList, isUserChar c = true
  password : ∀ c ∈ u.password.toList, isUserChar c = true
  host : ∃ s, Host.ofChars s = .ok u.host
  port : ∀ p ∈ u.port, p ≤ maxPort ∧ p ≠ u.scheme.defaultPort
  segments : ∀ s ∈ u.path, IsRead s
  rooted : u.path ≠ []
  query : u.query = none

/-- Besides, the address is that of a directory. -/
structure Canonical (u : Url) : Prop extends Spelled u where
  directory : u.path.getLast? = some ""

def userPart (u : Url) : Option (List Char) :=
  if u.username = "" ∧ u.password = "" then none
  else if u.password = "" then some u.username.toList
  else some (u.username.toList ++ ':' :: u.password.toList)

theorem toList_userText (u : Url) :
    u.userText.toList = match u.userPart with
      | none => []
      | some user => user ++ ['@'] := by
  unfold userText userPart
  split
  · rfl
  · split
    · simp
    · simp

theorem userOf_plain {name : List Char} (h : ':' ∉ name) :
    userOf name = (String.ofList (encode isUserChar name), "") := by
  rw [userOf, Request.takeWhile_of_not_mem_end h, List.drop_eq_nil_of_le (Nat.le_succ _)]
  rfl

theorem userOf_password {name : List Char} (h : ':' ∉ name) (password : List Char) :
    userOf (name ++ ':' :: password) =
      (String.ofList (encode isUserChar name), String.ofList (encode isUserChar password)) := by
  rw [userOf, (Request.takeWhile_of_not_mem h password).1]
  have hdrop : (name ++ ':' :: password).drop (name.length + 1) = password := by
    rw [← List.drop_drop, List.drop_left]
    rfl
  rw [hdrop]

theorem userOf_userPart {u : Url} (h : Spelled u) :
    userOf (u.userPart.getD []) = (u.username, u.password) := by
  have hcolon : ':' ∉ u.username.toList := fun hc => Bool.false_ne_true (h.username ':' hc)
  have hname : String.ofList (encode isUserChar u.username.toList) = u.username := by
    rw [encode_eq_self h.username, String.ofList_toList]
  have hpassword : String.ofList (encode isUserChar u.password.toList) = u.password := by
    rw [encode_eq_self h.password, String.ofList_toList]
  unfold userPart
  split
  · next hnone =>
    rw [hnone.1, hnone.2]
    rfl
  · split
    · next hempty =>
      rw [Option.getD_some, userOf_plain hcolon, hname, hempty]
    · rw [Option.getD_some, userOf_password hcolon, hname, hpassword]

theorem splitUser_none {s : List Char} (h : '@' ∉ s) : splitUser s = (none, s) := by
  have hr : '@' ∉ s.reverse := fun hm => h (List.mem_reverse.mp hm)
  unfold splitUser
  simp only [Request.takeWhile_of_not_mem_end hr, List.drop_length]

theorem splitUser_some {site : List Char} (h : '@' ∉ site) (user : List Char) :
    splitUser (user ++ '@' :: site) = (some user, site) := by
  have hr : '@' ∉ site.reverse := fun hm => h (List.mem_reverse.mp hm)
  have hreverse : (user ++ '@' :: site).reverse = site.reverse ++ '@' :: user.reverse := by simp
  unfold splitUser
  simp only [hreverse, (Request.takeWhile_of_not_mem hr _).1, List.drop_left, List.reverse_reverse]

def portPart (u : Url) : Option (List Char) := u.port.map fun p => p.repr.toList

theorem toList_portText (u : Url) :
    u.portText.toList = match u.portPart with
      | none => []
      | some digits => ':' :: digits := by
  unfold portText portPart
  cases u.port with
  | none => rfl
  | some p => simp

theorem splitPort_portText (u : Url) : splitPort false u.portText.toList = ([], u.portPart) := by
  rw [toList_portText]
  cases u.portPart with
  | none => rfl
  | some digits => exact if_pos ⟨rfl, rfl⟩

theorem isDigit_of_mem_portText {u : Url} {c : Char} (h : c ∈ u.portText.toList) :
    c.isDigit = true ∨ c = ':' := by
  rw [toList_portText, portPart] at h
  cases hport : u.port with
  | none =>
    rw [hport] at h
    cases h
  | some p =>
    rw [hport] at h
    rcases List.mem_cons.mp h with rfl | h
    · exact .inr rfl
    · exact .inl (Text.isDigit_of_mem_repr h)

theorem port?_portPart {u : Url} (h : Spelled u) : port? (u.portPart.getD []) = .ok u.port := by
  unfold portPart
  cases hport : u.port with
  | none => rfl
  | some p =>
    have hdigits : p.repr.toList.all Char.isDigit = true :=
      List.all_eq_true.mpr fun c hc => Text.isDigit_of_mem_repr hc
    have hne : p.repr.toList.isEmpty = false := List.isEmpty_eq_false_iff.mpr (Text.repr_ne_nil p)
    have hmax : p ≤ maxPort := (h.port p hport).1
    rw [Option.map_some, Option.getD_some, port?, hne, hdigits]
    simp only [if_true, Text.decimal?_repr, if_pos hmax]
    rfl

theorem at_not_mem_authorityText {u : Url} (h : Spelled u) : '@' ∉ u.authorityText.toList := by
  obtain ⟨s, hs⟩ := h.host
  rw [authorityText, String.toList_append, List.mem_append]
  rintro (hhost | hport)
  · exact Bool.false_ne_true (Host.isTextChar_of_mem_text hs hhost)
  · rcases isDigit_of_mem_portText hport with hdigit | hcolon
    · cases hdigit
    · cases hcolon

theorem splitUser_authority {u : Url} (h : Spelled u) :
    splitUser (u.userText.toList ++ u.authorityText.toList) =
      (u.userPart, u.authorityText.toList) := by
  have hat := at_not_mem_authorityText h
  rw [toList_userText]
  cases u.userPart with
  | none => exact splitUser_none hat
  | some user =>
    simp only [List.append_assoc, List.singleton_append]
    exact splitUser_some hat user

theorem authority_text {u : Url} (h : Spelled u) :
    authority (u.userText.toList ++ u.authorityText.toList) =
      (Host.ofChars u.host.text.toList).map fun host => ⟨u.username, u.password, host, u.port⟩ := by
  obtain ⟨s, hs⟩ := h.host
  unfold authority
  rw [splitUser_authority h]
  simp only [authorityText, String.toList_append, Host.splitPort_text hs (splitPort_portText u),
    port?_portPart h, userOf_userPart h]
  cases Host.ofChars u.host.text.toList <;> rfl

theorem isAuthorityChar_of_mem_userText {u : Url} (h : Spelled u) {c : Char}
    (hc : c ∈ u.userText.toList) : isAuthorityChar c = true := by
  have hname : ∀ c ∈ u.username.toList, isAuthorityChar c = true :=
    fun c hc => isAuthorityChar_of_isUserChar (h.username c hc)
  have hpassword : ∀ c ∈ u.password.toList, isAuthorityChar c = true :=
    fun c hc => isAuthorityChar_of_isUserChar (h.password c hc)
  have hat : ∀ c ∈ "@".toList, isAuthorityChar c = true :=
    List.all_eq_true.mp (by decide : "@".toList.all isAuthorityChar = true)
  have hcolon : ∀ c ∈ ":".toList, isAuthorityChar c = true :=
    List.all_eq_true.mp (by decide : ":".toList.all isAuthorityChar = true)
  unfold userText at hc
  split at hc
  · cases hc
  · split at hc
    · rw [String.toList_append, List.mem_append] at hc
      exact hc.elim (hname c) (hat c)
    · rw [String.toList_append, String.toList_append, String.toList_append, List.mem_append,
        List.mem_append, List.mem_append] at hc
      exact hc.elim (·.elim (·.elim (hname c) (hcolon c)) (hpassword c)) (hat c)

theorem isAuthorityChar_of_mem {u : Url} (h : Spelled u) {c : Char}
    (hc : c ∈ u.userText.toList ++ u.authorityText.toList) : isAuthorityChar c = true := by
  rcases List.mem_append.mp hc with hc | hc
  · exact isAuthorityChar_of_mem_userText h hc
  · obtain ⟨s, hs⟩ := h.host
    rw [authorityText, String.toList_append, List.mem_append] at hc
    rcases hc with hhost | hport
    · exact (Bool.and_eq_true_iff.mp (Host.isTextChar_of_mem_text hs hhost)).1
    · rcases isDigit_of_mem_portText hport with hdigit | rfl
      · exact isAuthorityChar_of_isDigit hdigit
      · rfl

theorem toList_text {u : Url} (h : Spelled u) :
    u.text.toList = u.scheme.name.toList ++
      ':' :: '/' :: '/' :: (u.userText.toList ++ u.authorityText.toList ++ u.pathText.toList) := by
  have hquery : u.queryText = "" := by rw [queryText, h.query]
  rw [text, hquery]
  simp [String.toList_append, List.append_assoc]

theorem isAddressChar_of_mem_text {u : Url} (h : Spelled u) {c : Char}
    (hc : c ∈ u.text.toList) : isAddressChar c = true := by
  have hscheme : ∀ w : WebScheme, w.name.toList.all isAddressChar = true := by
    intro w
    cases w <;> decide
  rw [toList_text h] at hc
  simp only [List.mem_append, List.mem_cons] at hc
  rcases hc with hc | rfl | rfl | rfl | (hc | hc) | hc
  · exact List.all_eq_true.mp (hscheme u.scheme) c hc
  · rfl
  · rfl
  · rfl
  · exact isAddressChar_of_isAuthorityChar (isAuthorityChar_of_mem h (List.mem_append_left _ hc))
  · exact isAddressChar_of_isAuthorityChar (isAuthorityChar_of_mem h (List.mem_append_right _ hc))
  · exact isAddressChar_of_isPathChar (isPathChar_of_mem_pathText h.rooted h.segments hc)

theorem authority_ne_nil {u : Url} (h : Spelled u) :
    u.userText.toList ++ u.authorityText.toList ≠ [] := by
  obtain ⟨s, hs⟩ := h.host
  intro hnil
  rw [authorityText, String.toList_append, List.append_eq_nil_iff, List.append_eq_nil_iff] at hnil
  exact Host.text_ne_empty hs (String.toList_eq_nil_iff.mp hnil.2.1)

theorem webAuthority_text {u : Url} (h : Spelled u) :
    webAuthority ('/' :: '/' ::
        (u.userText.toList ++ u.authorityText.toList ++ u.pathText.toList)) =
      (Host.ofChars u.host.text.toList).map fun host =>
        (⟨u.username, u.password, host, u.port⟩, u.pathText.toList) := by
  have hauthority : ∀ c ∈ u.userText.toList ++ u.authorityText.toList,
      (!isAuthorityEnd c) = true := by
    intro c hc
    exact (Bool.and_eq_true_iff.mp (isAuthorityChar_of_mem h hc)).2
  have hfirst : ('/' :: '/' :: (u.userText.toList ++ u.authorityText.toList ++
      u.pathText.toList)).dropWhile isSlash =
        u.userText.toList ++ u.authorityText.toList ++ u.pathText.toList := by
    obtain ⟨c, rest, hc⟩ := List.exists_cons_of_ne_nil (authority_ne_nil h)
    have hslash : isSlash c = false := by
      have hend := hauthority c (hc ▸ List.mem_cons_self)
      rw [isAuthorityEnd, Bool.not_or, Bool.and_eq_true, Bool.not_eq_true'] at hend
      exact hend.1
    rw [hc, List.cons_append, List.dropWhile_cons_of_pos (by rfl), List.dropWhile_cons_of_pos (by rfl),
      List.dropWhile_cons_of_neg (by rw [hslash]; exact Bool.false_ne_true)]
  have hpath : u.pathText.toList.takeWhile (!isAuthorityEnd ·) = [] ∧
      u.pathText.toList.dropWhile (!isAuthorityEnd ·) = u.pathText.toList := by
    rw [toList_pathText h.rooted]
    exact ⟨rfl, rfl⟩
  unfold webAuthority
  simp only [hfirst, List.takeWhile_append_of_pos hauthority, hpath.1, List.append_nil,
    List.dropWhile_append_of_pos hauthority, hpath.2, authority_text h]
  cases Host.ofChars u.host.text.toList <;> rfl

theorem splitScheme?_text (w : WebScheme) (rest : List Char) :
    splitScheme? (w.name.toList ++ ':' :: rest) = some (w.name, rest) := by
  have hall : w.name.toList.all isSchemeChar = true := by cases w <;> decide
  have hchars : ∀ c ∈ w.name.toList, isSchemeChar c = true := List.all_eq_true.mp hall
  have hcolon : (':' :: rest).takeWhile isSchemeChar = [] ∧
      (':' :: rest).dropWhile isSchemeChar = ':' :: rest := ⟨rfl, rfl⟩
  unfold splitScheme?
  rw [List.dropWhile_append_of_pos hchars, List.takeWhile_append_of_pos hchars, hcolon.1, hcolon.2,
    List.append_nil]
  cases w <;> simp [WebScheme.name] <;> decide

theorem dropWhile_of_forall {p : Char → Bool} {s : List Char} (h : ∀ c ∈ s, p c = false) :
    s.dropWhile p = s :=
  List.dropWhile_eq_self_iff.mpr fun hs => Bool.eq_false_iff.mp (h s[0] (List.getElem_mem hs))

theorem significant_of_graphic {s : String} (h : ∀ c ∈ s.toList, isGraphic c = true) :
    significant s = s.toList := by
  have hedge : ∀ c ∈ s.toList, decide (c.toNat ≤ 32) = false := by
    intro c hc
    have hgraphic := h c hc
    rw [isGraphic, Bool.and_eq_true, decide_eq_true_eq, decide_eq_true_eq] at hgraphic
    exact decide_eq_false (by omega)
  have hkept : ∀ c ∈ s.toList, (!isSkipped c) = true := by
    intro c hc
    exact forall_isAscii (p := fun c => isGraphic c = true → (!isSkipped c) = true) (by decide)
      (isAscii_of_isGraphic (h c hc)) (h c hc)
  unfold significant
  dsimp only
  rw [dropWhile_of_forall hedge,
    dropWhile_of_forall fun c hc => hedge c (List.mem_reverse.mp hc), List.reverse_reverse,
    List.filter_eq_self.mpr hkept]

theorem isTrimmed_of_graphic {s : String} (h : ∀ c ∈ s.toList, isGraphic c = true) :
    Text.IsTrimmed s := by
  have hblank : ∀ c ∈ s.toList, Text.isBlank c = false := by
    intro c hc
    exact forall_isAscii (p := fun c => isGraphic c = true → Text.isBlank c = false) (by decide)
      (isAscii_of_isGraphic (h c hc)) (h c hc)
  constructor
  · exact fun c hc => hblank c (List.mem_of_head? hc)
  · exact fun c hc => hblank c (List.mem_of_getLast? hc)

theorem namesScheme_text {u : Url} (h : Spelled u) : namesScheme u.text = true := by
  rw [namesScheme, toList_text h]
  cases u.scheme <;> simp [WebScheme.name, namesScheme.go]

theorem read_text {u : Url} (h : Spelled u) :
    read u.text = (Host.ofChars u.host.text.toList).map fun host => .web { u with host := host } := by
  have hgraphic : ∀ c ∈ u.text.toList, isGraphic c = true := fun c hc =>
    (Bool.and_eq_true_iff.mp (isAddressChar_of_mem_text h hc)).1
  have hport : u.port.filter (· ≠ u.scheme.defaultPort) = u.port := by
    cases hport : u.port with
    | none => rfl
    | some p => exact Option.filter_some_pos (decide_eq_true (h.port p hport).2)
  unfold read
  rw [significant_of_graphic hgraphic, toList_text h, splitScheme?_text]
  simp only [WebScheme.ofName?_name, webAuthority_text h]
  cases Host.ofChars u.host.text.toList with
  | error cause => rfl
  | ok host =>
    have hpath : pathOf u.pathText.toList = u.path := pathOf_pathText h.rooted h.segments
    show Except.ok (Reading.web ⟨u.scheme, u.username, u.password, host,
      u.port.filter (· ≠ u.scheme.defaultPort), pathOf u.pathText.toList, none⟩) = _
    rw [hport, hpath, ← h.query]
    rfl

/-- A canonical address is the base address that its own text stands for, once its host is read
back. -/
theorem base_text {u : Url} (h : Canonical u) :
    base u.text = match Host.ofChars u.host.text.toList with
      | .ok host => .ok { u with host := host }
      | .error cause => .error (.unreadable u.text cause) := by
  have hgraphic : ∀ c ∈ u.text.toList, isGraphic c = true := fun c hc =>
    (Bool.and_eq_true_iff.mp (isAddressChar_of_mem_text h.toSpelled hc)).1
  have hscheme : withScheme u.text = u.text := by rw [withScheme, if_pos (namesScheme_text h.toSpelled)]
  unfold base
  rw [Text.trim_of_isTrimmed (isTrimmed_of_graphic hgraphic)]
  simp only [hscheme, read_text h.toSpelled]
  cases Host.ofChars u.host.text.toList with
  | error cause => rfl
  | ok host =>
    simp only [Except.map, asDirectory, if_pos h.directory]

def authorityHost (s : List Char) : List Char := (splitPort false (splitUser s).2).1

theorem port?_le {s : List Char} {port : Option Nat} (h : port? s = .ok port) :
    ∀ p ∈ port, p ≤ maxPort := by
  unfold port? at h
  split at h
  · cases h
    exact fun p hp => by cases hp
  · split at h
    · split at h
      · next hmax =>
        cases h
        intro p hp
        cases hp
        exact hmax
      · cases h
    · cases h

theorem userOf_chars (s : List Char) :
    (∀ c ∈ (userOf s).1.toList, isUserChar c = true) ∧
      ∀ c ∈ (userOf s).2.toList, isUserChar c = true := by
  rw [userOf, String.toList_ofList, String.toList_ofList]
  exact ⟨fun c hc => keepsEscapes_user.of_mem_encode hc,
    fun c hc => keepsEscapes_user.of_mem_encode hc⟩

theorem authority_eq_ok {s : List Char} {a : Authority} (h : authority s = .ok a) :
    Host.ofChars (authorityHost s) = .ok a.host ∧
      (∀ p ∈ a.port, p ≤ maxPort) ∧
      (∀ c ∈ a.username.toList, isUserChar c = true) ∧
      ∀ c ∈ a.password.toList, isUserChar c = true := by
  obtain ⟨host, hhost, h⟩ := bind_eq_ok.mp h
  obtain ⟨port, hport, h⟩ := bind_eq_ok.mp h
  cases h
  exact ⟨hhost, port?_le hport, userOf_chars _⟩

theorem webAuthority_eq_ok {s rest : List Char} {a : Authority}
    (h : webAuthority s = .ok (a, rest)) :
    authority ((s.dropWhile isSlash).takeWhile (!isAuthorityEnd ·)) = .ok a := by
  obtain ⟨a', ha, h⟩ := bind_eq_ok.mp h
  cases h
  exact ha

/-- The host as a text spells it that stands for a base address. -/
def spelledHost (raw : String) : List Char :=
  match splitScheme? (significant (withScheme (Text.trim raw))) with
  | some (_, rest) => authorityHost ((rest.dropWhile isSlash).takeWhile (!isAuthorityEnd ·))
  | none => []

/-- The host is ASCII once its escapes are read. -/
def HasAsciiHost (raw : String) : Prop := ∀ b ∈ decodeBytes (spelledHost raw), b.toNat < 128

theorem isRead_of_mem_asDirectory {u : Url} (h : ∀ s ∈ u.path, IsRead s) :
    ∀ s ∈ u.asDirectory.path, IsRead s := by
  unfold asDirectory
  split
  · exact h
  · intro s hs
    rcases List.mem_append.mp hs with hs | hs
    · exact h s hs
    · rw [List.mem_singleton.mp hs]
      exact isRead_empty

theorem asDirectory_eq (u : Url) : u.asDirectory = { u with path := u.asDirectory.path } := by
  unfold asDirectory
  split <;> rfl

theorem rooted_of_getLast? {path : List String} {s : String} (h : path.getLast? = some s) :
    path ≠ [] := by
  rintro rfl
  cases h

theorem canonical_of_base {raw : String} {u : Url} (h : base raw = .ok u) :
    Canonical u ∧ Host.ofChars (spelledHost raw) = .ok u.host := by
  obtain ⟨hslash, hquery⟩ := base_eq_ok h
  obtain ⟨v, hread, rfl⟩ := base_eq_asDirectory h
  obtain ⟨scheme, rest, a, path, w, hscheme, hweb, rfl⟩ := read_eq_web hread
  obtain ⟨hhost, hport, husername, hpassword⟩ := authority_eq_ok (webAuthority_eq_ok hweb)
  have hsegments := isRead_of_mem_asDirectory (u := ⟨w, a.username, a.password, a.host,
    a.port.filter (· ≠ w.defaultPort), pathOf path, none⟩) (isRead_of_mem_pathOf path)
  have hspelled : Host.ofChars (spelledHost raw) = .ok a.host := by
    unfold spelledHost
    rw [hscheme]
    exact hhost
  rw [asDirectory_eq] at hslash hquery ⊢
  have hrooted := rooted_of_getLast? hslash
  refine ⟨⟨⟨husername, hpassword, ⟨_, hspelled⟩, ?_, hsegments, hrooted, hquery⟩, hslash⟩, hspelled⟩
  intro p hp
  obtain ⟨hp, hother⟩ := Option.filter_eq_some_iff.mp hp
  exact ⟨hport p hp, of_decide_eq_true hother⟩

/-- The path of a directory is the one that the text of the path with a slash after it stands for. -/
theorem path_asDirectory {u : Url} (h : ∀ s ∈ u.path, IsRead s) :
    u.asDirectory.path =
      pathOf (u.pathText ++ if u.path.getLast? = some "" then "" else "/").toList := by
  have hsegments := isRead_of_mem_asDirectory h
  by_cases hlast : u.path.getLast? = some ""
  · rw [asDirectory, if_pos hlast, if_pos hlast, String.append_empty,
      pathOf_pathText (rooted_of_getLast? hlast) h]
  · have hdirectory : u.asDirectory = { u with path := u.path ++ [""] } := if_neg hlast
    have htext : u.asDirectory.pathText = u.pathText ++ "/" := by
      rw [hdirectory, pathText, pathText, List.map_append, String.join_append]
      rfl
    have hrooted : u.asDirectory.path ≠ [] := by
      rw [hdirectory]
      exact List.append_ne_nil_of_right_ne_nil _ (List.cons_ne_nil _ _)
    rw [if_neg hlast, ← htext, pathOf_pathText hrooted hsegments]

end Url

/-- A base address is over HTTP and has a host, its path ends with a slash, and it has neither a query
nor a fragment. Its own text stands for it if and only if the text of its host is read as its host,
which is so if the host is ASCII. -/
theorem base_address_canonical {raw : String} {u : Url} (h : Url.base raw = .ok u) :
    (u.scheme.name = "http" ∨ u.scheme.name = "https") ∧ u.host.text ≠ "" ∧
    (∃ front, u.pathText = front ++ "/") ∧ u.query = none ∧
    (∀ c ∈ u.text.toList, c ≠ '?' ∧ c ≠ '#') ∧
    (Url.base u.text = .ok u ↔ Host.ofChars u.host.text.toList = .ok u.host) ∧
    (Url.HasAsciiHost raw → Url.base u.text = .ok u) := by
  obtain ⟨hcanonical, hspelled⟩ := Url.canonical_of_base h
  have hread : Url.base u.text = .ok u ↔ Host.ofChars u.host.text.toList = .ok u.host := by
    rw [Url.base_text hcanonical]
    cases hhost : Host.ofChars u.host.text.toList with
    | error cause => simp
    | ok host =>
      constructor
      · intro he
        exact congrArg Except.ok (congrArg Url.host (Except.ok.inj he))
      · intro he
        rw [Except.ok.inj he]
  refine ⟨?scheme, Host.text_ne_empty hspelled, ?slash, hcanonical.query, ?delimiters, hread, ?ascii⟩
  case scheme =>
    cases u.scheme with
    | http => exact .inl rfl
    | https => exact .inr rfl
  case slash =>
    obtain ⟨front, hfront⟩ := List.getLast?_eq_some_iff.mp hcanonical.directory
    refine ⟨String.join (front.map ("/" ++ ·)), ?_⟩
    rw [Url.pathText, hfront, List.map_append, String.join_append]
    rfl
  case delimiters =>
    intro c hc
    have hchar := Url.isAddressChar_of_mem_text hcanonical.toSpelled hc
    constructor
    · rintro rfl
      cases hchar
    · rintro rfl
      cases hchar
  case ascii => exact fun hascii => hread.mpr (Host.ofChars_text hspelled hascii)

instance (raw : String) : Decidable (Url.HasAsciiHost raw) :=
  inferInstanceAs (Decidable (∀ b ∈ Url.decodeBytes (Url.spelledHost raw), b.toNat < 128))

/-- An address with a user, steps in its path, backslashes, tabs and a query. -/
theorem untidy_address_canonical :
    ∃ u, Url.base "\tHTTP:\\\\me:@[0::1]:080/a/..\\a%2Fpi/x/%2E%2e?to=://" = .ok u ∧
      u.text = "http://me@[::1]/a%2Fpi/" ∧ Url.base "http://me@[::1]/a%2Fpi/" = .ok u := by
  let u : Url := ⟨.http, "me", "", .ipv6 ⟨[0, 0, 0, 0, 0, 0, 0, 1], rfl⟩, none, ["a%2Fpi", ""], none⟩
  have hbase : Url.base "\tHTTP:\\\\me:@[0::1]:080/a/..\\a%2Fpi/x/%2E%2e?to=://" = .ok u := by
    decide +kernel
  have htext : u.text = "http://me@[::1]/a%2Fpi/" := by decide +kernel
  obtain ⟨_, _, _, _, _, _, hfixed⟩ := base_address_canonical hbase
  refine ⟨u, hbase, htext, ?_⟩
  rw [← htext]
  exact hfixed (by decide +kernel)

end InsectPortal
