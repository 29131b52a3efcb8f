import Mathlib.Data.List.Induction
import InsectPortal.Console.Launch

/-!
# What a launch is made of

The base address and the session file are given by flags, by the environment, or not at all. The last
flag counts before the environment. But whatever base address is given, by the environment or by a
flag that does not count, has to be readable, or the console is not started.
-/
namespace InsectPortal

inductive Flag where
  | baseUrl (raw : String)
  | sessionFile (path : String)
  deriving DecidableEq, Repr

namespace Flag

def args : Flag → List String
  | baseUrl raw => ["--base-url", raw]
  | sessionFile path => ["--session-file", path]

def baseUrl? : Flag → Option String
  | baseUrl raw => some raw
  | sessionFile _ => none

def sessionFile? : Flag → Option String
  | baseUrl _ => none
  | sessionFile path => some path

def change (s : Settings) : Flag → Except SettingsError Settings
  | baseUrl raw => s.withBaseUrl raw
  | sessionFile path => .ok (s.withSessionFile path)

end Flag

namespace Launch

def ofChange (r : Except SettingsError Settings) (next : Settings → Launch) : Launch :=
  match r with
  | .ok s => next s
  | .error e => fail e.chain

theorem ofChange_bind (r : Except SettingsError Settings)
    (f : Settings → Except SettingsError Settings) (next : Settings → Launch) :
    ofChange (r >>= f) next = ofChange r fun s => ofChange (f s) next := by
  cases r with
  | error e => rfl
  | ok s => rfl

section

-- what a base address is read as says nothing about flags, and takes long to unfold
attribute [local irreducible] Settings.withBaseUrl Url.base

theorem ofFlags_singleton (program flag : String) (s : Settings) :
    ofFlags program s [flag] =
      if flag = "--base-url" then misuse program "--base-url requires a value"
      else if flag = "--session-file" then misuse program "--session-file requires a value"
      else if flag = "-h" ∨ flag = "--help" then .stop (Console.usage program ++ "\n") 0
      else misuse program s!"Unrecognized argument: {flag}" := by rfl

theorem ofFlags_cons (program flag value : String) (s : Settings) (rest : List String) :
    ofFlags program s (flag :: value :: rest) =
      if flag = "--base-url" then ofChange (s.withBaseUrl value) (ofFlags program · rest)
      else if flag = "--session-file" then ofFlags program (s.withSessionFile value) rest
      else if flag = "-h" ∨ flag = "--help" then .stop (Console.usage program ++ "\n") 0
      else misuse program s!"Unrecognized argument: {flag}" := by rfl

end

theorem ofFlags_flag (program : String) (s : Settings) (f : Flag) (rest : List String) :
    ofFlags program s (f.args ++ rest) = ofChange (f.change s) (ofFlags program · rest) := by
  cases f with
  | baseUrl raw => exact (ofFlags_cons program _ raw s rest).trans (if_pos rfl)
  | sessionFile path =>
    have hother : "--session-file" ≠ "--base-url" := by decide
    exact (ofFlags_cons program _ path s rest).trans ((if_neg hother).trans (if_pos rfl))

theorem ofFlags_other {flag : String} (hbase : flag ≠ "--base-url")
    (hsession : flag ≠ "--session-file") (program : String) (s s' : Settings) (rest : List String) :
    ofFlags program s (flag :: rest) ≠ .start s' := by
  have hend : (if flag = "-h" ∨ flag = "--help" then .stop (Console.usage program ++ "\n") 0
      else misuse program s!"Unrecognized argument: {flag}") ≠ Launch.start s' := by
    split
    · exact Launch.noConfusion
    · exact Launch.noConfusion
  cases rest with
  | nil => rwa [ofFlags_singleton, if_neg hbase, if_neg hsession]
  | cons value rest => rwa [ofFlags_cons, if_neg hbase, if_neg hsession]

theorem ofFlags_flags (program : String) (s : Settings) (flags : List Flag) (rest : List String) :
    ofFlags program s (flags.flatMap Flag.args ++ rest) =
      ofChange (flags.foldlM Flag.change s) (ofFlags program · rest) := by
  induction flags generalizing s with
  | nil => rfl
  | cons f flags ih =>
    rw [List.flatMap_cons, List.append_assoc, ofFlags_flag, List.foldlM_cons, ofChange_bind]
    congr 1
    funext s
    exact ih s

theorem flags_of_start {program : String} {s s' : Settings} {args : List String}
    (h : ofFlags program s args = .start s') :
    ∃ flags : List Flag, args = flags.flatMap Flag.args := by
  induction s, args using ofFlags.induct with
  | case1 s => exact ⟨[], rfl⟩
  | case2 s =>
    rw [ofFlags_singleton, if_pos rfl] at h
    cases h
  | case3 s raw rest s₁ hs ih =>
    have hnext : ofFlags program s₁ rest = .start s' := by
      rw [← h, ofFlags_cons, if_pos rfl, hs]
      rfl
    obtain ⟨flags, hflags⟩ := ih hnext
    exact ⟨.baseUrl raw :: flags, congrArg (["--base-url", raw] ++ ·) hflags⟩
  | case4 s raw rest e he =>
    rw [ofFlags_cons, if_pos rfl, he] at h
    cases h
  | case5 s hother =>
    rw [ofFlags_singleton, if_neg hother, if_pos rfl] at h
    cases h
  | case6 s path rest hother ih =>
    rw [ofFlags_cons, if_neg hother, if_pos rfl] at h
    obtain ⟨flags, hflags⟩ := ih h
    exact ⟨.sessionFile path :: flags, congrArg (["--session-file", path] ++ ·) hflags⟩
  | case7 s flag rest hbase hsession => exact absurd h (ofFlags_other hbase hsession _ _ _ _)
  | case8 s flag rest hbase hsession => exact absurd h (ofFlags_other hbase hsession _ _ _ _)

end Launch

namespace Settings

/-- The texts that a base address is given by; the first one counts. -/
def givenBaseUrls (env : Environment) (flags : List Flag) : List String :=
  (flags.filterMap Flag.baseUrl?).reverse ++
    (["INSECTID_BASE_URL", "BASE_URL"].filterMap env.value? ++ [defaultBaseUrl])

def givenSessionFiles (env : Environment) (flags : List Flag) : List String :=
  (flags.filterMap Flag.sessionFile?).reverse ++ ["INSECTID_SESSION_FILE"].filterMap env.value?

/-- Base address and session file are the ones that count. -/
structure Selects (env : Environment) (flags : List Flag) (s : Settings) : Prop where
  baseUrl : ∃ raw, (givenBaseUrls env flags).head? = some raw ∧ Url.base raw = .ok s.baseUrl
  sessionFile : s.sessionFile = (givenSessionFiles env flags).head?

/-- The settings that no flag is for are the same. -/
structure SameElse (s s' : Settings) : Prop where
  authHeader : s.authHeader = s'.authHeader
  remoteSignOut : s.remoteSignOut = s'.remoteSignOut
  timeout : s.timeout = s'.timeout

theorem SameElse.trans {s s' s'' : Settings} (h : s.SameElse s') (h' : s'.SameElse s'') :
    s.SameElse s'' :=
  ⟨h.authHeader.trans h'.authHeader, h.remoteSignOut.trans h'.remoteSignOut,
    h.timeout.trans h'.timeout⟩

theorem readBaseUrl_eq_ok {raw : String} {u : Url} :
    readBaseUrl raw = .ok u ↔ Url.base raw = .ok u := by
  unfold readBaseUrl
  cases Url.base raw <;> simp

theorem readBaseUrl_eq_error {raw : String} {e : BaseUrlError} (h : Url.base raw = .error e) :
    readBaseUrl raw = .error (.baseUrl e) := by
  unfold readBaseUrl
  rw [h]

theorem withBaseUrl_eq_ok {s s' : Settings} {raw : String} :
    s.withBaseUrl raw = .ok s' ↔ ∃ u, Url.base raw = .ok u ∧ s' = { s with baseUrl := u } := by
  rw [withBaseUrl, map_eq_ok]
  refine exists_congr fun u => ?_
  rw [readBaseUrl_eq_ok, eq_comm (a := s')]

/-- A flag puts what it gives before what was given so far. -/
theorem Selects.change {env : Environment} {flags : List Flag} {f : Flag} {s s' : Settings}
    (h : Selects env flags s) (hf : f.change s = .ok s') : Selects env (flags ++ [f]) s' := by
  cases f with
  | baseUrl raw =>
    obtain ⟨u, hu, rfl⟩ := withBaseUrl_eq_ok.mp hf
    constructor
    · exact ⟨raw, by simp [givenBaseUrls, Flag.baseUrl?], hu⟩
    · rw [h.sessionFile]
      simp [givenSessionFiles, Flag.sessionFile?]
  | sessionFile path =>
    cases hf
    constructor
    · obtain ⟨raw, hraw, hu⟩ := h.baseUrl
      refine ⟨raw, ?_, hu⟩
      rw [← hraw]
      simp [givenBaseUrls, Flag.baseUrl?]
    · simp [givenSessionFiles, Flag.sessionFile?, withSessionFile]

theorem sameElse_of_change {f : Flag} {s s' : Settings} (h : f.change s = .ok s') :
    s'.SameElse s := by
  cases f with
  | baseUrl raw =>
    obtain ⟨u, _, rfl⟩ := withBaseUrl_eq_ok.mp h
    exact ⟨rfl, rfl, rfl⟩
  | sessionFile path =>
    cases h
    exact ⟨rfl, rfl, rfl⟩

theorem Selects.unique {env : Environment} {flags : List Flag} {s s' : Settings}
    (h : Selects env flags s) (h' : Selects env flags s') (he : s.SameElse s') : s = s' := by
  obtain ⟨raw, hraw, hu⟩ := h.baseUrl
  obtain ⟨raw', hraw', hu'⟩ := h'.baseUrl
  obtain rfl : raw = raw' := Option.some.inj (hraw.symm.trans hraw')
  have hbase : s.baseUrl = s'.baseUrl := Except.ok.inj (hu.symm.trans hu')
  have hfile : s.sessionFile = s'.sessionFile := h.sessionFile.trans h'.sessionFile.symm
  obtain ⟨hheader, hremote, htimeout⟩ := he
  cases s
  cases s'
  cases hbase
  cases hfile
  cases hheader
  cases hremote
  cases htimeout
  rfl

/-- A base address that a flag gives is readable. -/
def Readable (flags : List Flag) : Prop :=
  ∀ raw, Flag.baseUrl raw ∈ flags → ∃ u, Url.base raw = .ok u

theorem changed {env : Environment} {flags : List Flag} {s₀ s : Settings}
    (h₀ : Selects env [] s₀) (h : flags.foldlM Flag.change s₀ = .ok s) :
    Readable flags ∧ Selects env flags s ∧ s.SameElse s₀ := by
  induction flags using List.reverseRecOn generalizing s with
  | nil =>
    cases h
    exact ⟨fun raw hraw => absurd hraw List.not_mem_nil, h₀, rfl, rfl, rfl⟩
  | append_singleton flags f ih =>
    rw [List.foldlM_append] at h
    obtain ⟨s₁, hs, hlast⟩ := bind_eq_ok.mp h
    obtain ⟨hreadable, hselects, hsame⟩ := ih hs
    have hf : f.change s₁ = .ok s := by
      rwa [List.foldlM_cons, funext fun _ => List.foldlM_nil, bind_pure] at hlast
    refine ⟨?_, hselects.change hf, (sameElse_of_change hf).trans hsame⟩
    intro raw hraw
    rcases List.mem_append.mp hraw with hraw | hraw
    · exact hreadable raw hraw
    · obtain rfl := List.mem_singleton.mp hraw
      obtain ⟨u, hu, _⟩ := withBaseUrl_eq_ok.mp hf
      exact ⟨u, hu⟩

theorem exists_changed {flags : List Flag} (h : Readable flags) (s₀ : Settings) :
    ∃ s, flags.foldlM Flag.change s₀ = .ok s := by
  induction flags generalizing s₀ with
  | nil => exact ⟨s₀, rfl⟩
  | cons f flags ih =>
    have hrest : Readable flags := fun raw hraw => h raw (List.mem_cons_of_mem f hraw)
    have hf : ∃ s₁, f.change s₀ = .ok s₁ := by
      cases f with
      | baseUrl raw =>
        obtain ⟨u, hu⟩ := h raw List.mem_cons_self
        exact ⟨_, withBaseUrl_eq_ok.mpr ⟨u, hu, rfl⟩⟩
      | sessionFile path => exact ⟨_, rfl⟩
    obtain ⟨s₁, hs₁⟩ := hf
    obtain ⟨s, hs⟩ := ih hrest s₁
    refine ⟨s, ?_⟩
    rw [List.foldlM_cons, hs₁]
    exact hs

theorem foldlM_change_eq_ok {env : Environment} {flags : List Flag} {s₀ s : Settings}
    (h₀ : Selects env [] s₀) :
    flags.foldlM Flag.change s₀ = .ok s ↔
      Readable flags ∧ Selects env flags s ∧ s.SameElse s₀ := by
  constructor
  · exact changed h₀
  · rintro ⟨hreadable, hselects, hsame⟩
    obtain ⟨s', hs'⟩ := exists_changed hreadable s₀
    obtain ⟨_, hselects', hsame'⟩ := changed h₀ hs'
    have heq : s' = s := hselects'.unique hselects
      (hsame'.trans ⟨hsame.authHeader.symm, hsame.remoteSignOut.symm, hsame.timeout.symm⟩)
    rw [hs', heq]

/-- A base address from a flag leaves no trace of the one before. -/
theorem foldlM_change_withBaseUrl {flags : List Flag} {raw : String}
    (h : Flag.baseUrl raw ∈ flags) (s : Settings) (u : Url) :
    flags.foldlM Flag.change { s with baseUrl := u } = flags.foldlM Flag.change s := by
  induction flags generalizing s with
  | nil => exact absurd h List.not_mem_nil
  | cons f flags ih =>
    rw [List.foldlM_cons, List.foldlM_cons]
    cases f with
    | baseUrl raw' => rfl
    | sessionFile path =>
      have htail : Flag.baseUrl raw ∈ flags := by
        rcases List.mem_cons.mp h with hf | hf
        · cases hf
        · exact hf
      exact ih htail (s.withSessionFile path)

theorem selectedBaseUrl_eq (env : Environment) :
    (givenBaseUrls env []).head? = some (selectedBaseUrl env) := by
  unfold givenBaseUrls selectedBaseUrl
  cases h : env.value? "INSECTID_BASE_URL" with
  | some raw => simp [h]
  | none =>
    cases h' : env.value? "BASE_URL" with
    | some raw => simp [h, h']
    | none => simp [h, h']

/-- The settings of an environment, but for the base address that it selects. -/
def ofEnvironmentAt (env : Environment) (u : Url) : Except SettingsError Settings := do
  let remoteSignOut ← readRemoteSignOut (env.value? "INSECTID_REMOTE_SIGN_OUT")
  let timeout ← readTimeout (env.value? "INSECTID_TIMEOUT_MS")
  return {
    baseUrl := u
    authHeader := (env.value? "INSECTID_AUTH_HEADER").getD Authorizer.defaultHeader
    sessionFile := env.value? "INSECTID_SESSION_FILE"
    remoteSignOut
    timeout }

theorem ofEnvironment_eq (env : Environment) :
    ofEnvironment env = readBaseUrl (selectedBaseUrl env) >>= ofEnvironmentAt env := rfl

theorem ofEnvironmentAt_map (env : Environment) (u u' : Url) :
    ofEnvironmentAt env u' = (ofEnvironmentAt env u).map fun s => { s with baseUrl := u' } := by
  unfold ofEnvironmentAt
  cases readRemoteSignOut (env.value? "INSECTID_REMOTE_SIGN_OUT") with
  | error e => rfl
  | ok remoteSignOut =>
    cases readTimeout (env.value? "INSECTID_TIMEOUT_MS") with
    | error e => rfl
    | ok timeout => rfl

theorem selects_ofEnvironment {env : Environment} {s : Settings}
    (h : ofEnvironment env = .ok s) : Selects env [] s := by
  obtain ⟨u, hu, h⟩ := bind_eq_ok.mp h
  obtain ⟨remoteSignOut, _, h⟩ := bind_eq_ok.mp h
  obtain ⟨timeout, _, h⟩ := bind_eq_ok.mp h
  cases h
  refine ⟨⟨_, selectedBaseUrl_eq env, readBaseUrl_eq_ok.mp hu⟩, ?_⟩
  cases hf : env.value? "INSECTID_SESSION_FILE" <;> simp [givenSessionFiles, hf]

end Settings

def Environment.AgreesBesides (env env' : Environment) : Prop :=
  ∀ name, name ≠ "INSECTID_BASE_URL" → name ≠ "BASE_URL" → env name = env' name

theorem Environment.AgreesBesides.value? {env env' : Environment} (h : env.AgreesBesides env')
    (name : String) (h1 : name ≠ "INSECTID_BASE_URL") (h2 : name ≠ "BASE_URL") :
    env.value? name = env'.value? name := by
  rw [Environment.value?, Environment.value?, h name h1 h2]

theorem Settings.ofEnvironmentAt_congr {env env' : Environment} (h : env.AgreesBesides env') :
    ofEnvironmentAt env = ofEnvironmentAt env' := by
  funext u
  unfold ofEnvironmentAt
  rw [h.value? "INSECTID_REMOTE_SIGN_OUT" (by decide) (by decide),
    h.value? "INSECTID_TIMEOUT_MS" (by decide) (by decide),
    h.value? "INSECTID_AUTH_HEADER" (by decide) (by decide),
    h.value? "INSECTID_SESSION_FILE" (by decide) (by decide)]

namespace Launch

open Settings

variable {program : String} {env env' : Environment} {args : List String}

theorem ofArgs_of_ok {s : Settings} (h : ofEnvironment env = .ok s) :
    ofArgs program env args = ofFlags program s args := by
  unfold ofArgs
  simp only [h]

theorem ofArgs_of_error {e : SettingsError} (h : ofEnvironment env = .error e) :
    ofArgs program env args =
      fail ("Failed to read configuration from environment" :: e.chain) := by
  unfold ofArgs
  simp only [h]

theorem ofArgs_congr (h : ofEnvironment env = ofEnvironment env') :
    ofArgs program env args = ofArgs program env' args := by
  unfold ofArgs
  rw [h]

theorem ofEnvironment_congr (h : env.AgreesBesides env')
    (hs : selectedBaseUrl env = selectedBaseUrl env') :
    ofEnvironment env = ofEnvironment env' := by
  rw [ofEnvironment_eq, ofEnvironment_eq, hs, ofEnvironmentAt_congr h]

theorem ofEnvironment_of_readable {u : Url} (h : Url.base (selectedBaseUrl env) = .ok u) :
    ofEnvironment env = ofEnvironmentAt env u := by
  rw [ofEnvironment_eq, readBaseUrl_eq_ok.mpr h]
  rfl

/-- With a base address from a flag, the one that was read before makes no difference. -/
theorem ofFlags_withBaseUrl {flags : List Flag} {raw : String} (h : Flag.baseUrl raw ∈ flags)
    (program : String) (s : Settings) (u : Url) (rest : List String) :
    ofFlags program { s with baseUrl := u } (flags.flatMap Flag.args ++ rest) =
      ofFlags program s (flags.flatMap Flag.args ++ rest) := by
  rw [ofFlags_flags, ofFlags_flags, foldlM_change_withBaseUrl h]

theorem ofArgs_of_flag {flags : List Flag} {rest : List String} {raw : String} {u u' : Url}
    (h : env.AgreesBesides env') (hf : Flag.baseUrl raw ∈ flags)
    (hu : Url.base (selectedBaseUrl env) = .ok u)
    (hu' : Url.base (selectedBaseUrl env') = .ok u') :
    ofArgs program env (flags.flatMap Flag.args ++ rest) =
      ofArgs program env' (flags.flatMap Flag.args ++ rest) := by
  have he : ofEnvironment env' =
      (ofEnvironmentAt env u).map fun s => { s with baseUrl := u' } := by
    rw [ofEnvironment_of_readable hu', ← ofEnvironmentAt_congr h, ofEnvironmentAt_map]
  cases hs : ofEnvironmentAt env u with
  | error e =>
    rw [hs] at he
    rw [ofArgs_of_error ((ofEnvironment_of_readable hu).trans hs), ofArgs_of_error he]
  | ok s =>
    rw [hs] at he
    rw [ofArgs_of_ok ((ofEnvironment_of_readable hu).trans hs), ofArgs_of_ok he]
    exact (ofFlags_withBaseUrl hf program s u' rest).symm

theorem selectedBaseUrl_eq_of_no_flag {flags : List Flag}
    (hf : ∀ raw, Flag.baseUrl raw ∉ flags)
    (h : (givenBaseUrls env flags).head? = (givenBaseUrls env' flags).head?) :
    selectedBaseUrl env = selectedBaseUrl env' := by
  have hnone : flags.filterMap Flag.baseUrl? = [] := by
    rw [List.filterMap_eq_nil_iff]
    intro f hmem
    cases f with
    | baseUrl raw => exact absurd hmem (hf raw)
    | sessionFile path => rfl
  have hsame : ∀ env : Environment, givenBaseUrls env flags = givenBaseUrls env [] := by
    intro env
    rw [givenBaseUrls, hnone]
    rfl
  rw [hsame, hsame, selectedBaseUrl_eq, selectedBaseUrl_eq] at h
  exact Option.some.inj h

end Launch

open Settings (givenBaseUrls selectedBaseUrl)

/-- The console starts exactly if the arguments are flags, the environment has settings, and every
base address on the way is readable; then the base address and the session file are the first that
are given, flags from the last one on before the environment. What the environment does not select
never counts. What flags override does not count either, if it is readable. A base address that the
environment selects and that is not readable ends every launch. -/
theorem Launch.flags_override_environment (program : String) (env : Environment) :
    (∀ args s, ofArgs program env args = .start s ↔
      ∃ flags : List Flag, args = flags.flatMap Flag.args ∧ Settings.Readable flags ∧
        ∃ s₀, Settings.ofEnvironment env = .ok s₀ ∧ s.Selects env flags ∧ s.SameElse s₀) ∧
    (∀ env', env.AgreesBesides env' → selectedBaseUrl env = selectedBaseUrl env' →
      ∀ args, ofArgs program env args = ofArgs program env' args) ∧
    (∀ env' u u', env.AgreesBesides env' → Url.base (selectedBaseUrl env) = .ok u →
      Url.base (selectedBaseUrl env') = .ok u' →
      ∀ (flags : List Flag) rest,
        (givenBaseUrls env flags).head? = (givenBaseUrls env' flags).head? →
        ofArgs program env (flags.flatMap Flag.args ++ rest) =
          ofArgs program env' (flags.flatMap Flag.args ++ rest)) ∧
    (∀ e, Url.base (selectedBaseUrl env) = .error e →
      ∀ args, ofArgs program env args =
        fail ("Failed to read configuration from environment" :: e.chain)) := by
  refine ⟨?start, ?unselected, ?overridden, ?unreadable⟩
  case start =>
    intro args s
    cases he : Settings.ofEnvironment env with
    | error e =>
      rw [ofArgs_of_error he]
      constructor
      · intro h
        cases h
      · rintro ⟨_, _, _, s₀, h, _⟩
        cases h
    | ok s₀ =>
      have h₀ := Settings.selects_ofEnvironment he
      rw [ofArgs_of_ok he]
      constructor
      · intro h
        obtain ⟨flags, rfl⟩ := flags_of_start h
        have hrun := ofFlags_flags program s₀ flags []
        rw [List.append_nil, h] at hrun
        cases hs : flags.foldlM Flag.change s₀ with
        | error e =>
          rw [hs] at hrun
          cases hrun
        | ok s' =>
          rw [hs] at hrun
          obtain rfl : s = s' := Launch.start.inj hrun
          obtain ⟨hreadable, hselects, hsame⟩ := (Settings.foldlM_change_eq_ok h₀).mp hs
          exact ⟨flags, rfl, hreadable, s₀, rfl, hselects, hsame⟩
      · rintro ⟨flags, rfl, hreadable, s₁, hs₁, hselects, hsame⟩
        obtain rfl : s₀ = s₁ := Except.ok.inj hs₁
        have hrun := ofFlags_flags program s₀ flags []
        rw [List.append_nil, (Settings.foldlM_change_eq_ok h₀).mpr ⟨hreadable, hselects, hsame⟩]
          at hrun
        exact hrun
  case unselected =>
    intro env' h hs args
    exact ofArgs_congr (ofEnvironment_congr h hs)
  case overridden =>
    intro env' u u' h hu hu' flags rest hhead
    by_cases hf : ∃ raw, Flag.baseUrl raw ∈ flags
    · obtain ⟨raw, hraw⟩ := hf
      exact ofArgs_of_flag h hraw hu hu'
    · have hs := selectedBaseUrl_eq_of_no_flag (not_exists.mp hf) hhead
      exact ofArgs_congr (ofEnvironment_congr h hs)
  case unreadable =>
    intro e he args
    have hread : Settings.ofEnvironment env = .error (.baseUrl e) := by
      rw [Settings.ofEnvironment_eq, Settings.readBaseUrl_eq_error he]
      rfl
    exact ofArgs_of_error hread

namespace Launch

def addressed (raw : String) : Environment := fun name => if name = "BASE_URL" then some raw else none

theorem addressed_agrees (raw raw' : String) : (addressed raw).AgreesBesides (addressed raw') := by
  intro name _ hname
  simp [addressed, hname]

def numbered (n : UInt16) : Url :=
  ⟨.http, "", "", .ipv6 ⟨[0, 0, 0, 0, 0, 0, 0, n], rfl⟩, none, [""], none⟩

def twoFlags : List Flag :=
  [.baseUrl "http://[::2]", .sessionFile "s.json", .baseUrl "http://[::3]"]

theorem last_flag_counts :
    ofArgs "insectid" (addressed "http://[::1]") (twoFlags.flatMap Flag.args) =
      .start ⟨numbered 3, "auth-token", some "s.json", false, none⟩ ∧
    ofArgs "insectid" (addressed "http://[::1]") (twoFlags.flatMap Flag.args ++ ["--help"]) =
      ofArgs "insectid" (addressed "http://[::4]") (twoFlags.flatMap Flag.args ++ ["--help"]) := by
  obtain ⟨start, _, overridden, _⟩ :=
    flags_override_environment "insectid" (addressed "http://[::1]")
  constructor
  · refine (start _ _).mpr ⟨twoFlags, rfl, ?_, ⟨numbered 1, "auth-token", none, false, none⟩, ?_, ?_⟩
    · intro raw hraw
      have hraws : raw = "http://[::2]" ∨ raw = "http://[::3]" := by
        simpa [twoFlags] using hraw
      rcases hraws with rfl | rfl
      · exact ⟨numbered 2, by decide +kernel⟩
      · exact ⟨numbered 3, by decide +kernel⟩
    · decide +kernel
    · exact ⟨⟨⟨"http://[::3]", by decide +kernel, by decide +kernel⟩, by decide +kernel⟩,
        rfl, rfl, rfl⟩
  · exact overridden _ (numbered 1) (numbered 4) (addressed_agrees _ _) (by decide +kernel)
      (by decide +kernel) twoFlags ["--help"] (by decide +kernel)

/-- Of two environments with different base addresses, both overridden by a flag, one starts the
console and the other one ends it. -/
theorem overridden_address_counts :
    (addressed "a://b").AgreesBesides (addressed "http://[::1]") ∧
    (givenBaseUrls (addressed "a://b") [.baseUrl "http://[::2]"]).head? = some "http://[::2]" ∧
    (givenBaseUrls (addressed "http://[::1]") [.baseUrl "http://[::2]"]).head? =
      some "http://[::2]" ∧
    ofArgs "insectid" (addressed "http://[::1]") ["--base-url", "http://[::2]"] =
      .start ⟨numbered 2, "auth-token", none, false, none⟩ ∧
    ofArgs "insectid" (addressed "a://b") ["--base-url", "http://[::2]"] =
      fail ["Failed to read configuration from environment", "unsupported base URL scheme 'a'"] := by
  have hforeign : Settings.ofEnvironment (addressed "a://b") = .error (.baseUrl (.scheme "a")) := by
    decide +kernel
  refine ⟨addressed_agrees _ _, by decide +kernel, by decide +kernel, by decide +kernel, ?_⟩
  exact ofArgs_of_error hforeign

end Launch

end InsectPortal
