import InsectPortal.Proofs.CanonicalAddress
import InsectPortal.Text.Charset

/-!
# The user in a query

Three calls name their user in the query. A service that reads the query as a form, whatever it does
about bytes that make no sense, finds the one field with the user in it as the user is on record, for
no text of a field begins another field or ends the query.
-/
namespace InsectPortal

namespace Text

theorem utf8Lead_two {v : Nat} (hlow : 128 ≤ v) (hhigh : v < 2048) :
    utf8Lead (v / 64 % 32 + 192) = some (v / 64, 1, 0x80, 0xBF) := by
  have hbits : v / 64 % 32 + 192 - 0xC0 = v / 64 := by omega
  rw [utf8Lead, if_pos (by omega), hbits]

/-- The first of three bytes leaves out for the second one what has two bytes, and the surrogates. -/
theorem utf8Lead_three {v : Nat} (hlow : 2048 ≤ v) (hhigh : v < 65536)
    (hvalid : v < 0xD800 ∨ 0xDFFF < v) :
    ∃ low high, utf8Lead (v / 4096 % 16 + 224) = some (v / 4096, 2, low, high) ∧
      low ≤ v / 64 % 64 + 128 ∧ v / 64 % 64 + 128 ≤ high := by
  have hbits : v / 4096 % 16 + 224 - 0xE0 = v / 4096 := by omega
  rw [utf8Lead, if_neg (by omega)]
  by_cases hfirst : v / 4096 = 0
  · rw [if_pos (by omega), hfirst]
    exact ⟨_, _, rfl, by omega, by omega⟩
  · rw [if_neg (by omega)]
    by_cases hsurrogate : v / 4096 = 13
    · rw [if_pos (by omega), hsurrogate]
      exact ⟨_, _, rfl, by omega, by omega⟩
    · rw [if_neg (by omega), if_pos (by omega), hbits]
      exact ⟨_, _, rfl, by omega, by omega⟩

theorem utf8Lead_four {v : Nat} (hlow : 65536 ≤ v) (hhigh : v < 0x110000) :
    ∃ low high, utf8Lead (v / 262144 % 8 + 240) = some (v / 262144, 3, low, high) ∧
      low ≤ v / 4096 % 64 + 128 ∧ v / 4096 % 64 + 128 ≤ high := by
  have hbits : v / 262144 % 8 + 240 - 0xF0 = v / 262144 := by omega
  rw [utf8Lead, if_neg (by omega), if_neg (by omega), if_neg (by omega), if_neg (by omega)]
  by_cases hfirst : v / 262144 = 0
  · rw [if_pos (by omega), hfirst]
    exact ⟨_, _, rfl, by omega, by omega⟩
  · rw [if_neg (by omega)]
    by_cases hlast : v / 262144 = 4
    · rw [if_neg (by omega), if_pos (by omega), hlast]
      exact ⟨_, _, rfl, by omega, by omega⟩
    · rw [if_pos (by omega), hbits]
      exact ⟨_, _, rfl, by omega, by omega⟩

theorem utf8CharsFrom_start {n bits missing low high : Nat} (hfirst : 128 ≤ n) (hn : n < 256)
    (hlead : utf8Lead n = some (bits, missing, low, high)) (rest : List UInt8) :
    utf8CharsFrom none (.ofNat n :: rest) = utf8CharsFrom (some ⟨bits, missing, low, high⟩) rest := by
  have hstart : startChar n = ([], some ⟨bits, missing, low, high⟩) := by
    rw [startChar, if_neg (by omega), hlead]
  rw [utf8CharsFrom]
  simp only [UInt8.toNat_ofNat_of_lt' hn, hstart, List.nil_append]

theorem utf8CharsFrom_next {n bits missing low high : Nat} (hn : n < 256) (hlow : low ≤ n)
    (hhigh : n ≤ high) (hmissing : missing ≠ 1) (rest : List UInt8) :
    utf8CharsFrom (some ⟨bits, missing, low, high⟩) (.ofNat n :: rest) =
      utf8CharsFrom (some ⟨bits * 64 + (n - 0x80), missing - 1, 0x80, 0xBF⟩) rest := by
  rw [utf8CharsFrom]
  simp only [UInt8.toNat_ofNat_of_lt' hn, if_pos (And.intro hlow hhigh), if_neg hmissing]

theorem utf8CharsFrom_last {n bits low high : Nat} (hn : n < 256) (hlow : low ≤ n)
    (hhigh : n ≤ high) (rest : List UInt8) :
    utf8CharsFrom (some ⟨bits, 1, low, high⟩) (.ofNat n :: rest) =
      Char.ofNat (bits * 64 + (n - 0x80)) :: utf8CharsFrom none rest := by
  rw [utf8CharsFrom]
  simp only [UInt8.toNat_ofNat_of_lt' hn, if_pos (And.intro hlow hhigh), if_true]

theorem utf8CharsFrom_utf8EncodeChar (c : Char) (rest : List UInt8) :
    utf8CharsFrom none (String.utf8EncodeChar c ++ rest) = c :: utf8CharsFrom none rest := by
  have hvalid : c.val.toNat < 0xD800 ∨ 0xDFFF < c.val.toNat ∧ c.val.toNat < 0x110000 := c.valid
  have hread : ∀ n, n = c.val.toNat → Char.ofNat n = c := by
    rintro n rfl
    exact Char.ofNat_toNat c
  unfold String.utf8EncodeChar
  dsimp only
  generalize c.val.toNat = v at hvalid hread
  split
  · have hstart : startChar v = ([c], none) := by
      rw [startChar, if_pos (by omega), hread v rfl]
    rw [List.singleton_append, utf8CharsFrom]
    simp only [UInt8.toNat_ofNat_of_lt' (show v < 256 by omega), hstart, List.singleton_append]
  · split
    · have hlead := utf8Lead_two (v := v) (by omega) (by omega)
      rw [List.cons_append, utf8CharsFrom_start (by omega) (by omega) hlead, List.singleton_append,
        utf8CharsFrom_last (by omega) (by omega) (by omega), hread _ (by omega)]
    · split
      · obtain ⟨low, high, hlead, hlow, hhigh⟩ := utf8Lead_three (v := v) (by omega) (by omega) (by omega)
        rw [List.cons_append, utf8CharsFrom_start (by omega) (by omega) hlead, List.cons_append,
          utf8CharsFrom_next (by omega) hlow hhigh (by omega), List.singleton_append,
          utf8CharsFrom_last (by omega) (by omega) (by omega), hread _ (by omega)]
      · obtain ⟨low, high, hlead, hlow, hhigh⟩ := utf8Lead_four (v := v) (by omega) (by omega)
        rw [List.cons_append, utf8CharsFrom_start (by omega) (by omega) hlead, List.cons_append,
          utf8CharsFrom_next (by omega) hlow hhigh (by omega), List.cons_append,
          utf8CharsFrom_next (by omega) (by omega) (by omega) (by omega), List.singleton_append,
          utf8CharsFrom_last (by omega) (by omega) (by omega), hread _ (by omega)]

theorem utf8Chars_flatMap (s : List Char) :
    utf8Chars (s.flatMap String.utf8EncodeChar) = s := by
  unfold utf8Chars
  induction s with
  | nil => rfl
  | cons c s ih => rw [List.flatMap_cons, utf8CharsFrom_utf8EncodeChar, ih]

end Text

namespace Url

/-- The text that a service reads from a part of a form. Bytes that make no sense are replaced. -/
def formText (s : List Char) : String :=
  String.ofList (Text.utf8Chars (decodeBytes (s.map formChar)))

/-- The fields of a form, in order; there may be empty pieces between them. -/
def formFields (form : List Char) : List (String × String) :=
  ((form.splitOn '&').filter (!·.isEmpty)).map fun field =>
    let name := field.takeWhile (· ≠ '=')
    (formText name, formText (field.drop (name.length + 1)))

/-- The query in the text of an address: from the first question mark on, up to a number sign. -/
def queryPart (s : List Char) : List Char :=
  ((s.takeWhile (· ≠ '#')).dropWhile (· ≠ '?')).drop 1

theorem formText_of_decodeForm? {s : List Char} {t : String} (h : decodeForm? s = some t) :
    formText s = t := by
  rw [formText, ← flatMap_of_decode? h, Text.utf8Chars_flatMap, String.ofList_toList]

theorem toList_formPair (key value : String) :
    (formPair key value).toList = (encodeForm key).toList ++ '=' :: (encodeForm value).toList := by
  simp [formPair]

theorem formFields_formPair (key value : String) :
    formFields (formPair key value).toList = [(key, value)] := by
  have hkey := not_mem_encodeForm (d := '=') (by decide) (by decide) (by decide) key
  have hsplit : (formPair key value).toList.splitOn '&' = [(formPair key value).toList] := by
    apply List.splitOnP_eq_singleton
    intro c hc
    apply beq_false_of_ne
    rintro rfl
    exact Request.not_mem_formPair key value hc
  have hne : (formPair key value).toList.isEmpty = false := by
    rw [toList_formPair]
    exact List.isEmpty_eq_false_iff.mpr (List.append_ne_nil_of_right_ne_nil _ (List.cons_ne_nil _ _))
  have htake : (formPair key value).toList.takeWhile (· ≠ '=') = (encodeForm key).toList := by
    rw [toList_formPair]
    exact (Request.takeWhile_of_not_mem hkey _).1
  have hdrop : (formPair key value).toList.drop ((encodeForm key).toList.length + 1) =
      (encodeForm value).toList := by
    rw [toList_formPair, ← List.drop_drop, List.drop_left]
    rfl
  rw [formFields, hsplit]
  simp only [List.filter_cons, hne, Bool.not_false, if_true, List.filter_nil, List.map_cons,
    List.map_nil, htake, hdrop, formText_of_decodeForm? (decodeForm?_encodeForm _)]

theorem StartsPoint.eq_cons {s rest : List Char} (h : StartsPoint s rest) (hs : '%' ∉ s) :
    s = '.' :: rest := by
  cases h with
  | plain => rfl
  | small => exact absurd List.mem_cons_self hs
  | capital => exact absurd List.mem_cons_self hs

theorem IsPlain.isRead {s : String} (h : IsPlain s) : IsRead s := by
  obtain ⟨_, hdots, hall⟩ := h
  have hchars : ∀ c ∈ s.toList, isSegmentChar c = true := List.all_eq_true.mp hall
  have hpercent : '%' ∉ s.toList := fun hc => Bool.false_ne_true (hchars '%' hc)
  have hstep : ∀ t : String, isDots t = true → s.toList ≠ t.toList := by
    intro t ht hs
    rw [String.toList_inj.mp hs, ht] at hdots
    cases hdots
  have hchar : ∀ c, isSegmentChar c = true → isPathChar c = true ∧ isSlash c = false := by
    intro c hc
    have hpath : isPathChar c = true := (Bool.and_eq_true_iff.mp hc).1
    refine ⟨hpath, Bool.eq_false_iff.mpr fun hslash => ?_⟩
    rw [isSlash, Bool.or_eq_true, beq_iff_eq, beq_iff_eq] at hslash
    rcases hslash with rfl | rfl <;> cases hc
  refine ⟨fun c hc => hchar c (hchars c hc), ?up, ?here⟩
  case up =>
    rw [Bool.eq_false_iff]
    intro hup
    obtain ⟨rest, hfirst, hsecond⟩ := isUp_iff_startsPoint.mp hup
    have hs := hfirst.eq_cons hpercent
    have hrest := (isHere_iff_startsPoint.mp hsecond).eq_cons fun hc =>
      hpercent (hs ▸ List.mem_cons_of_mem '.' hc)
    rw [hrest] at hs
    exact hstep ".." rfl hs
  case here =>
    rw [Bool.eq_false_iff]
    intro hhere
    exact hstep "." rfl ((isHere_iff_startsPoint.mp hhere).eq_cons hpercent)

theorem path_below {base : Url} (h : base.path.getLast? = some "") {segments : List String}
    (hsegments : ∀ s ∈ segments, IsPlain s) (hne : segments ≠ []) :
    (base.below segments).path = stem base.path ++ segments :=
  foldl_enter_openPath hsegments hne h

theorem spelled_below {base : Url} (h : Canonical base) {segments : List String}
    (hsegments : ∀ s ∈ segments, IsPlain s) (hne : segments ≠ []) :
    (base.below segments).Spelled := by
  have hstem : ∀ s ∈ stem base.path, IsRead s := by
    unfold stem
    split
    · exact fun s hs => absurd hs List.not_mem_nil
    · exact fun s hs => h.segments s (List.dropLast_subset base.path hs)
  refine ⟨h.username, h.password, h.host, h.port, ?_, ?_, h.query⟩
  · rw [path_below h.directory hsegments hne]
    intro s hs
    rcases List.mem_append.mp hs with hs | hs
    · exact hstem s hs
    · exact (hsegments s hs).isRead
  · rw [path_below h.directory hsegments hne]
    exact List.append_ne_nil_of_right_ne_nil _ hne

theorem query_withField {u : Url} (h : u.query = none) (key value : String) :
    (u.withField key value).query = some (formPair key value) := by
  unfold withField
  rw [h]

theorem text_withField {u : Url} (h : u.query = none) (key value : String) :
    (u.withField key value).text = u.text ++ "?" ++ formPair key value := by
  have hquery : u.queryText = "" := by rw [queryText, h]
  have hfield : (u.withField key value).queryText = "?" ++ formPair key value := by
    rw [queryText, query_withField h]
  rw [text, text, hquery, hfield, String.append_empty]
  exact String.append_assoc.symm

theorem queryPart_append {s query : List Char} (hs : ∀ c ∈ s, isAddressChar c = true)
    (hquery : '#' ∉ query) : queryPart (s ++ '?' :: query) = query := by
  have hmark : '?' ∉ s := fun hc => Bool.false_ne_true (hs '?' hc)
  have hend : '#' ∉ s ++ '?' :: query := by
    rw [List.mem_append, List.mem_cons]
    rintro (hc | hc | hc)
    · exact Bool.false_ne_true (hs '#' hc)
    · cases hc
    · exact hquery hc
  rw [queryPart, Request.takeWhile_of_not_mem_end hend, (Request.takeWhile_of_not_mem hmark query).2]
  rfl

theorem not_mem_formPair_end (key value : String) : '#' ∉ (formPair key value).toList := by
  have hkey := not_mem_encodeForm (d := '#') (by decide) (by decide) (by decide) key
  have hvalue := not_mem_encodeForm (d := '#') (by decide) (by decide) (by decide) value
  simp [toList_formPair, hkey, hvalue]

end Url

/-- The segments of the endpoint, the key and the user, for a call that names its user in the
query. -/
def Call.queryUser? : Call → Option (List String × String × String)
  | .listUsers admin => some (["admin", "user_manage"], "useremail", admin)
  | .listFeedback admin => some (["admin", "feedback_manage"], "email", admin)
  | .labelTasks user => some (["user", "label_pic"], "email", user)
  | _ => none

theorem Call.queryUser_cases {c : Call} {segments : List String} {key user : String}
    (h : c.queryUser? = some (segments, key, user)) :
    c.endpoint.segments = segments ∧ c.endpoint.field = some (key, user) ∧ segments ≠ [] ∧
      ∀ s ∈ segments, Url.IsPlain s := by
  cases c with
  | listUsers | listFeedback | labelTasks =>
    cases h
    exact ⟨rfl, rfl, by decide, by decide⟩
  | _ => cases h

/-- The address of a call that names its user in the query stays with the service. Its path is that
of the endpoint, as it is without a query, and its query is a form with one field, which has the user
as it is on record. The text of the address has the same query, and no fragment. -/
theorem query_addresses {raw : String} {base : Url} (hbase : Url.base raw = .ok base) {c : Call}
    {segments : List String} {key user : String} (hc : c.queryUser? = some (segments, key, user)) :
    (c.endpoint.url base).SameSite base ∧
    (c.endpoint.url base).path = (base.below segments).path ∧
    (c.endpoint.url base).pathText = base.stemText ++ "/".intercalate segments ∧
    (∃ query, (c.endpoint.url base).query = some query ∧
      Url.formFields query.toList = [(key, user)] ∧
      (c.endpoint.url base).text = (base.below segments).text ++ "?" ++ query) ∧
    Url.formFields (Url.queryPart (c.endpoint.url base).text.toList) = [(key, user)] ∧
    '#' ∉ (c.endpoint.url base).text.toList := by
  obtain ⟨hcanonical, _⟩ := Url.canonical_of_base hbase
  obtain ⟨hsegments, hfield, hne, hplain⟩ := Call.queryUser_cases hc
  have hspelled := Url.spelled_below hcanonical hplain hne
  have hurl : c.endpoint.url base = (base.below segments).withField key user := by
    rw [Endpoint.url, hfield, hsegments]
  have hend := Url.not_mem_formPair_end key user
  have hchars : ∀ ch ∈ (base.below segments).text.toList, Url.isAddressChar ch = true :=
    fun _ hch => Url.isAddressChar_of_mem_text hspelled hch
  have htext : (c.endpoint.url base).text.toList =
      (base.below segments).text.toList ++ '?' :: (Url.formPair key user).toList := by
    rw [hurl, Url.text_withField hspelled.query, String.toList_append, String.toList_append,
      List.append_assoc]
    rfl
  refine ⟨?site, ?path, ?text, ?query, ?read, ?fragment⟩
  case site =>
    rw [hurl]
    exact ⟨rfl, rfl, rfl, rfl, rfl⟩
  case path => rw [hurl]; rfl
  case text =>
    rw [hurl]
    exact Url.pathText_of_stem hcanonical.directory hne
      (Url.path_below hcanonical.directory hplain hne)
  case query =>
    refine ⟨Url.formPair key user, ?_, Url.formFields_formPair key user, ?_⟩
    · rw [hurl, Url.query_withField hspelled.query]
    · rw [hurl, Url.text_withField hspelled.query]
  case read => rw [htext, Url.queryPart_append hchars hend, Url.formFields_formPair]
  case fragment =>
    rw [htext, List.mem_append, List.mem_cons]
    rintro (hch | hch | hch)
    · exact Bool.false_ne_true (hchars '#' hch)
    · cases hch
    · exact hend hch

theorem marked_name_in_query :
    ((Call.labelTasks "a&b=c #é+%").endpoint.url apiAddress).text =
        "http://[::1]/api/user/label_pic?email=a%26b%3Dc+%23%C3%A9%2B%25" ∧
      Url.formFields (Url.queryPart
        ((Call.labelTasks "a&b=c #é+%").endpoint.url apiAddress).text.toList) =
          [("email", "a&b=c #é+%")] := by
  have hbase : Url.base "http://[::1]/api" = .ok apiAddress := by decide +kernel
  obtain ⟨_, _, _, _, hread, _⟩ := query_addresses hbase (c := .labelTasks "a&b=c #é+%") rfl
  exact ⟨by decide +kernel, hread⟩

end InsectPortal
