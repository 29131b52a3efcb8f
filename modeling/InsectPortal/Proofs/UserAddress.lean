import InsectPortal.Proofs.ActorName
import InsectPortal.Url.Reading

/-!
# The address of a user

Four calls name their user at the end of the path. Whatever the name is, the address stays with the
service and below its base address. The name is read back from the end of the path exactly if it can
be the name of a segment: a step in the tree is taken as a step, and tabs and line ends are lost.
-/
namespace InsectPortal

namespace Url

def IsPlain (s : String) : Prop := s ≠ "" ∧ isDots s = false ∧ s.toList.all isSegmentChar = true

instance (s : String) : Decidable (IsPlain s) := inferInstanceAs (Decidable (_ ∧ _ ∧ _))

theorem not_skipped_of_segmentChar {c : Char} (h : isSegmentChar c = true) :
    isSkipped c = false := by
  rw [Bool.eq_false_iff]
  intro hc
  have hcases : c = '\t' ∨ c = '\n' ∨ c = '\r' := by simpa [isSkipped] using hc
  rcases hcases with rfl | rfl | rfl <;> cases h

theorem IsPlain.written_eq {s : String} (h : IsPlain s) : written s = s := by
  rw [written, encode_eq_self (List.all_eq_true.mp h.2.2), String.ofList_toList]

theorem IsPlain.isSegment {s : String} (h : IsPlain s) : IsSegment s :=
  ⟨h.2.1, fun c hc => not_skipped_of_segmentChar (List.all_eq_true.mp h.2.2 c hc)⟩

theorem IsPlain.decode_eq {s : String} (h : IsPlain s) : decode? s.toList = some s := by
  have hdecode := decode?_written s
  rw [h.written_eq] at hdecode
  exact hdecode

theorem enter_of_isPlain {s : String} (h : IsPlain s) (path : List String) :
    enter path s = putSegment path s := by
  rw [enter_of_isSegment h.isSegment, h.written_eq]

theorem foldl_enter_of_isPlain {names : List String} (h : ∀ s ∈ names, IsPlain s)
    {path : List String} (hp : path ≠ [""]) : names.foldl enter path = path ++ names := by
  induction names generalizing path with
  | nil => exact (List.append_nil path).symm
  | cons s names ih =>
    obtain ⟨hs, hnames⟩ := List.forall_mem_cons.mp h
    have hput : putSegment path s = path ++ [s] := if_neg hp
    have hne : path ++ [s] ≠ [""] := by
      intro he
      have hlast := congrArg List.getLast? he
      rw [List.getLast?_concat] at hlast
      exact hs.1 (Option.some.inj hlast)
    rw [List.foldl_cons, enter_of_isPlain hs, hput, ih hnames hne, List.append_assoc,
      List.singleton_append]

/-- The segments of a base address that every path below it has. -/
def stem (path : List String) : List String := if path.dropLast = [""] then [] else path.dropLast

theorem foldl_enter_openPath {names : List String} (h : ∀ s ∈ names, IsPlain s)
    (hne : names ≠ []) {path : List String} (hp : path.getLast? = some "") :
    names.foldl enter (openPath path) = stem path ++ names := by
  have hroot : names.foldl enter [""] = names := by
    cases names with
    | nil => exact absurd rfl hne
    | cons s names =>
      obtain ⟨hs, hnames⟩ := List.forall_mem_cons.mp h
      have hput : putSegment [""] s = [s] := if_pos rfl
      have hsingle : [s] ≠ [""] := fun he => hs.1 (List.singleton_inj.mp he)
      rw [List.foldl_cons, enter_of_isPlain hs, hput, foldl_enter_of_isPlain hnames hsingle,
        List.singleton_append]
  by_cases hlong : 2 ≤ path.length
  · have hopen : openPath path = path.dropLast := if_pos ⟨hlong, hp⟩
    rw [hopen, stem]
    split
    · next hdrop => rw [hdrop, hroot, List.nil_append]
    · next hdrop => exact foldl_enter_of_isPlain h hdrop
  · have hpath : path = [""] := by
      match path, hp with
      | [s], hp =>
        obtain rfl : s = "" := Option.some.inj hp
        rfl
      | _ :: _ :: _, _ => simp at hlong
    rw [hpath]
    exact hroot

/-- What the text of every path below a base address starts with: that of its own path. Of a path
that is two slashes only one is kept. -/
def stemText (b : Url) : String := if b.path = ["", ""] then "/" else b.pathText

theorem join_slash (s : String) (rest : List String) :
    String.join ((s :: rest).map ("/" ++ ·)) = "/" ++ "/".intercalate (s :: rest) := by
  induction rest generalizing s with
  | nil => simp
  | cons t rest ih =>
    rw [List.map_cons, String.join_cons, ih, String.intercalate_cons_cons]
    simp [String.append_assoc]

theorem join_stem {b : Url} (hp : b.path.getLast? = some "") :
    String.join ((stem b.path).map ("/" ++ ·)) ++ "/" = b.stemText := by
  have hsplit : b.path = b.path.dropLast ++ [""] := by
    obtain ⟨front, hfront⟩ := List.getLast?_eq_some_iff.mp hp
    rw [hfront, List.dropLast_concat]
  unfold stem stemText
  by_cases hdrop : b.path.dropLast = [""]
  · have hpath : b.path = ["", ""] := by
      rw [hsplit, hdrop]
      rfl
    rw [if_pos hdrop, if_pos hpath]
    rfl
  · have hpath : b.path ≠ ["", ""] := by
      intro he
      rw [he] at hdrop
      exact hdrop rfl
    rw [if_neg hdrop, if_neg hpath, pathText]
    conv_rhs => rw [hsplit]
    simp

theorem pathText_of_stem {u b : Url} {names : List String} (hp : b.path.getLast? = some "")
    (hne : names ≠ []) (hu : u.path = stem b.path ++ names) :
    u.pathText = b.stemText ++ "/".intercalate names := by
  obtain ⟨s, rest, rfl⟩ := List.exists_cons_of_ne_nil hne
  rw [pathText, hu, List.map_append, String.join_append, join_slash, ← join_stem hp,
    String.append_assoc]

theorem slash_not_mem_written (s : String) : '/' ∉ (written s).toList := by
  rw [written, String.toList_ofList]
  exact not_mem_encode (by decide) (by decide) (by decide) s.toList

/-- What becomes of a path when a name is added to it. -/
inductive Entered (path : List String) (s : String) : List String → Prop where
  | named : IsSegment s → Entered path s (path ++ [written s])
  | here : isDots s = true → Entered path s path
  | up : ¬ IsSegment s → s ≠ "" → Entered path s (path.dropLast ++ [""])
  | other (t : String) : ¬ IsSegment s → t ≠ s → Entered path s (path ++ [written t])

theorem entered {path : List String} (hp : path ≠ [""]) (s : String) :
    Entered path s (enter path s) := by
  have hput : ∀ t, putSegment path t = path ++ [t] := fun t => if_neg hp
  by_cases hdots : isDots s = true
  · rw [enter, if_pos hdots]
    exact .here hdots
  · by_cases hwhole : ∀ c ∈ s.toList, isSkipped c = false
    · have hs : IsSegment s := ⟨Bool.eq_false_iff.mpr hdots, hwhole⟩
      rw [enter_of_isSegment hs, hput]
      exact .named hs
    · have hlost : ∀ t : String, t.toList = s.toList.filter (!isSkipped ·) → t ≠ s := by
        rintro t ht rfl
        apply hwhole
        intro c hc
        rw [ht] at hc
        simpa using (List.mem_filter.mp hc).2
      have hne : s ≠ "" := by
        rintro rfl
        exact hwhole (by simp)
      have hno : ¬ IsSegment s := fun hs => hwhole hs.whole
      rw [enter, if_neg hdots]
      simp only [hput, if_neg hp]
      split
      · exact .up hno hne
      · split
        · exact .other "" hno hne.symm
        · have hother : Entered path s
              (path ++ [written (String.ofList (s.toList.filter (!isSkipped ·)))]) :=
            .other _ hno (hlost _ String.toList_ofList)
          rw [written, String.toList_ofList] at hother
          exact hother

theorem Entered.path_eq {path path' : List String} {s : String} (h : Entered path s path')
    (hs : IsSegment s) : path' = path ++ [written s] := by
  cases h with
  | named _ => rfl
  | here hdots => exact absurd (hs.noStep.symm.trans hdots) Bool.false_ne_true
  | up hno _ => exact absurd hs hno
  | other _ hno _ => exact absurd hs hno

/-- No name leads out of the path before the endpoint. -/
theorem Entered.starts {front fixed path : List String} {s : String} (hfixed : fixed ≠ [])
    (h : Entered (front ++ fixed) s path) : ∃ names, names ≠ [] ∧ path = front ++ names := by
  cases h with
  | named _ => exact ⟨fixed ++ [written s], by simp, List.append_assoc ..⟩
  | here _ => exact ⟨fixed, hfixed, rfl⟩
  | up _ _ =>
    refine ⟨fixed.dropLast ++ [""], by simp, ?_⟩
    rw [List.dropLast_append_of_ne_nil hfixed, List.append_assoc]
  | other t _ _ => exact ⟨fixed ++ [written t], by simp, List.append_assoc ..⟩

/-- The name at the end of a path. -/
def lastName? (path : List String) : Option String :=
  path.getLast?.bind fun s => decode? s.toList

theorem lastName?_written (path : List String) (s : String) :
    lastName? (path ++ [written s]) = some s := by
  rw [lastName?, List.getLast?_concat, Option.bind_some, decode?_written]

theorem Entered.lastName_iff {front path : List String} {f s : String} (hf : IsPlain f)
    (h : Entered (front ++ [f]) s path) : lastName? path = some s ↔ IsSegment s := by
  have hread : ∀ t : String, lastName? (front ++ [f] ++ [written t]) = some s ↔ t = s := by
    intro t
    rw [lastName?_written, Option.some_inj]
  cases h with
  | named hs => exact iff_of_true ((hread s).mpr rfl) hs
  | here hdots =>
    have hlast : lastName? (front ++ [f]) = some f := by
      rw [lastName?, List.getLast?_concat, Option.bind_some, hf.decode_eq]
    have hne : f ≠ s := by
      rintro rfl
      exact Bool.false_ne_true (hf.2.1.symm.trans hdots)
    have hno : ¬ IsSegment s := fun hs => Bool.false_ne_true (hs.noStep.symm.trans hdots)
    rw [hlast, Option.some_inj]
    exact iff_of_false hne hno
  | up hno hne =>
    have hlast : ∀ above : List String, lastName? (above ++ [""]) = some "" := by
      intro above
      rw [lastName?, List.getLast?_concat]
      rfl
    rw [hlast, Option.some_inj]
    exact iff_of_false hne.symm hno
  | other t hno hne => exact iff_of_false (fun hs => hne ((hread t).mp hs)) hno

end Url

/-- The segments of the endpoint and the user, for a call that names its user at the end of the
path. -/
def Call.pathUser? : Call → Option (List String × String)
  | .checkRole user => some (["user", "check_role"], user)
  | .userInfo user => some (["user", "info"], user)
  | .signOut user _ => some (["sign_out"], user)
  | .authenticateSsh user => some (["admin", "authenticate_ssh"], user)
  | _ => none

theorem Call.pathUser_cases {c : Call} {fixed : List String} {user : String}
    (h : c.pathUser? = some (fixed, user)) :
    c.endpoint.segments = fixed ++ [user] ∧ c.endpoint.field = none ∧ fixed ≠ [] ∧
      ∀ s ∈ fixed, Url.IsPlain s := by
  cases c with
  | checkRole | userInfo | signOut | authenticateSsh =>
    cases h
    exact ⟨rfl, rfl, by decide, by decide⟩
  | _ => cases h

theorem Call.url_of_pathUser {c : Call} {fixed : List String} {user : String}
    (h : c.pathUser? = some (fixed, user)) (base : Url) :
    c.endpoint.url base = base.below (fixed ++ [user]) := by
  obtain ⟨hsegments, hfield, _⟩ := pathUser_cases h
  rw [Endpoint.url, hfield, hsegments]

theorem Call.entered_of_pathUser {c : Call} {fixed : List String} {user : String}
    (h : c.pathUser? = some (fixed, user)) {base : Url} (hp : base.path.getLast? = some "") :
    Url.Entered (Url.stem base.path ++ fixed) user (c.endpoint.url base).path := by
  obtain ⟨_, _, hne, hplain⟩ := pathUser_cases h
  have hpath : (c.endpoint.url base).path = Url.enter (Url.stem base.path ++ fixed) user := by
    rw [url_of_pathUser h, Url.below, List.foldl_append, Url.foldl_enter_openPath hplain hne hp]
    rfl
  have hroot : Url.stem base.path ++ fixed ≠ [""] := by
    intro he
    have hmem : fixed.getLast hne ∈ [""] := by
      rw [← he]
      exact List.mem_append_right _ (List.getLast_mem hne)
    exact (hplain _ (List.getLast_mem hne)).1 (List.mem_singleton.mp hmem)
  rw [hpath]
  exact Url.entered hroot user

namespace Url

theorem read_eq_web {text : String} {u : Url} (h : read text = .ok (.web u)) :
    ∃ scheme rest a path w, splitScheme? (significant text) = some (scheme, rest) ∧
      webAuthority rest = .ok (a, path) ∧
      u = ⟨w, a.username, a.password, a.host, a.port.filter (· ≠ w.defaultPort), pathOf path,
        none⟩ := by
  have hother : ∀ {α : Type} (x : Except UrlError α) (scheme : String),
      (do let _ ← x; return Reading.other scheme) ≠ .ok (.web u) := by
    intro α x scheme he
    obtain ⟨_, _, hother⟩ := bind_eq_ok.mp he
    cases hother
  unfold read at h
  split at h
  · next scheme rest hscheme =>
    split at h
    · next w _ =>
      obtain ⟨a, ha, h⟩ := bind_eq_ok.mp h
      cases h
      exact ⟨scheme, rest, a.1, a.2, w, hscheme, ha, rfl⟩
    · dsimp only at h
      split at h
      · exact absurd h (hother _ _)
      · split at h
        · exact absurd h (hother _ _)
        · exact absurd h (hother _ _)
  · cases h

theorem base_eq_asDirectory {raw : String} {u : Url} (h : base raw = .ok u) :
    ∃ v, read (withScheme (Text.trim raw)) = .ok (.web v) ∧ u = v.asDirectory := by
  unfold base at h
  dsimp only at h
  split at h
  · next v hread => exact ⟨v, hread, (Except.ok.inj h).symm⟩
  · cases h
  · cases h

theorem base_eq_ok {raw : String} {b : Url} (h : base raw = .ok b) :
    b.path.getLast? = some "" ∧ b.query = none := by
  obtain ⟨v, hread, rfl⟩ := base_eq_asDirectory h
  obtain ⟨_, _, _, _, _, _, _, rfl⟩ := read_eq_web hread
  unfold asDirectory
  split
  · next hlast => exact ⟨hlast, rfl⟩
  · exact ⟨List.getLast?_concat, rfl⟩

/-- Two addresses of one service, reached with the same name and password. -/
structure SameSite (u b : Url) : Prop where
  scheme : u.scheme = b.scheme
  username : u.username = b.username
  password : u.password = b.password
  host : u.host = b.host
  port : u.port = b.port

end Url

/-- The address of a call stays with the service and below the base address. If its user can be the
name of a segment, it is the base address, the segments of the endpoint and one more segment, from
which the user is read back; no other user is read back. So it tells endpoints and users apart. -/
theorem user_addresses {raw : String} {base : Url} (hbase : Url.base raw = .ok base) {c : Call}
    {fixed : List String} {user : String} (hc : c.pathUser? = some (fixed, user)) :
    (c.endpoint.url base).SameSite base ∧ (c.endpoint.url base).query = none ∧
    (∃ rest, (c.endpoint.url base).pathText = base.stemText ++ rest) ∧
    (Url.IsSegment user → ∃ last,
      (c.endpoint.url base).pathText = base.stemText ++ "/".intercalate (fixed ++ [last]) ∧
        '/' ∉ last.toList ∧ Url.decode? last.toList = some user) ∧
    (Url.lastName? (c.endpoint.url base).path = some user ↔ Url.IsSegment user) ∧
    (∀ (c' : Call) fixed' user', c'.pathUser? = some (fixed', user') → Url.IsSegment user →
      Url.IsSegment user' → c'.endpoint.url base = c.endpoint.url base →
      fixed' = fixed ∧ user' = user) := by
  obtain ⟨hlast, hquery⟩ := Url.base_eq_ok hbase
  have hurl := Call.url_of_pathUser hc base
  have hentered := Call.entered_of_pathUser hc hlast
  obtain ⟨_, _, hne, hplain⟩ := Call.pathUser_cases hc
  refine ⟨?site, ?query, ?below, ?named, ?read, ?apart⟩
  case site =>
    rw [hurl]
    exact ⟨rfl, rfl, rfl, rfl, rfl⟩
  case query =>
    rw [hurl]
    exact hquery
  case below =>
    obtain ⟨names, hnames, hpath⟩ := hentered.starts hne
    exact ⟨_, Url.pathText_of_stem hlast hnames hpath⟩
  case named =>
    intro hu
    have hpath := hentered.path_eq hu
    rw [List.append_assoc] at hpath
    exact ⟨Url.written user, Url.pathText_of_stem hlast (by simp) hpath,
      Url.slash_not_mem_written user, Url.decode?_written user⟩
  case read =>
    obtain ⟨front, f, hfixed⟩ := List.eq_nil_or_concat fixed |>.resolve_left hne
    rw [hfixed, List.concat_eq_append, ← List.append_assoc] at hentered
    exact hentered.lastName_iff (hplain f (by simp [hfixed]))
  case apart =>
    intro c' fixed' user' hc' hu hu' heq
    have hpath := hentered.path_eq hu
    have hpath' := (Call.entered_of_pathUser hc' hlast).path_eq hu'
    rw [heq, hpath] at hpath'
    have huser : Url.written user = Url.written user' := List.append_singleton_inj.mp hpath' |>.2
    have hfixed := List.append_cancel_left (List.append_singleton_inj.mp hpath').1
    have hread := Url.decode?_written user
    rw [huser, Url.decode?_written] at hread
    exact ⟨hfixed.symm, Option.some.inj hread⟩

def apiAddress : Url :=
  ⟨.http, "", "", .ipv6 ⟨[0, 0, 0, 0, 0, 0, 0, 1], rfl⟩, none, ["api", ""], none⟩

theorem slashed_name_kept :
    ((Call.userInfo "a/b c").endpoint.url apiAddress).pathText = "/api/user/info/a%2Fb%20c" ∧
      Url.lastName? ((Call.userInfo "a/b c").endpoint.url apiAddress).path = some "a/b c" := by
  have hbase : Url.base "http://[::1]/api" = .ok apiAddress := by decide +kernel
  obtain ⟨_, _, _, _, hread, _⟩ := user_addresses hbase (c := .userInfo "a/b c") rfl
  have hsegment : Url.IsSegment "a/b c" := ⟨rfl, by simp [Url.isSkipped]⟩
  exact ⟨by decide +kernel, hread.mpr hsegment⟩

/-- Tabs are lost, and with them what tells two users apart; a step is taken out of the endpoint; and
of a path of two slashes one is left. -/
theorem user_address_lost :
    (Call.checkRole "a\tb").endpoint.url apiAddress = (Call.checkRole "ab").endpoint.url apiAddress ∧
    ((Call.checkRole "..").endpoint.url apiAddress).pathText = "/api/user/check_role" ∧
    ((Call.checkRole "\t..").endpoint.url apiAddress).pathText = "/api/user/" ∧
    ∃ slashes, Url.base "http://[::1]//" = .ok slashes ∧ slashes.pathText = "//" ∧
      ((Call.checkRole "ab").endpoint.url slashes).pathText = "/user/check_role/ab" := by
  refine ⟨by decide +kernel, by decide +kernel, by decide +kernel,
    { apiAddress with path := ["", ""] }, by decide +kernel, by decide +kernel, by decide +kernel⟩

end InsectPortal
